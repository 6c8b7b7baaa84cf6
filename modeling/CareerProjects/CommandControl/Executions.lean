import CareerProjects.CommandControl.Verdicts

/-! Which commands a server executes over a run of calls: each message id at most once, in
the order of the sequence numbers of each target, all of them authenticated and in time. -/

namespace CareerProjects.CommandControl
open Library

/-- The transition rules of the remote unit. -/
def CommandType.next : CommandType → RemoteUnitState → Option RemoteUnitState
  | .startSystem, .offline => some .standby
  | .activateSystem, .standby => some .active
  | .stopSystem, .active => some .standby
  | .enterSafeMode, .standby => some .safeMode
  | .enterSafeMode, .active => some .safeMode
  | .resetSystem, .safeMode => some .standby
  | .shutdownSystem, .standby => some .offline
  | .shutdownSystem, .active => some .offline
  | .shutdownSystem, .safeMode => some .offline
  | _, _ => none

/-- A command without a transition leaves the state. -/
def CommandType.apply (state : RemoteUnitState) (commandType : CommandType) : RemoteUnitState :=
  (commandType.next state).getD state

theorem process_spec (command : CommandMessage) (state : RemoteUnitState) :
    let result := CommandProcessor.process command state
    result.messageId = command.messageId ∧ result.commandType = command.commandType ∧
      result.previousState = state ∧ result.currentState = command.commandType.apply state ∧
      (result.accepted = true ↔ command.commandType.next state ≠ none) := by
  unfold CommandProcessor.process
  cases known : command.commandType <;> cases state <;>
    simp [known, CommandType.next, CommandType.apply, CommandProcessor.processStartSystem,
      CommandProcessor.processActivateSystem, CommandProcessor.processStopSystem,
      CommandProcessor.processEnterSafeMode, CommandProcessor.processResetSystem,
      CommandProcessor.processShutdownSystem, CommandProcessor.processFrom,
      CommandProcessor.accept, CommandProcessor.reject]

theorem isEncodable_unchanged {level : AuditLevel} {eventType status : String}
    {state : RemoteUnitState} {command : CommandMessage} {details : JavaString}
    (typed : JavaString.isEncodable (JavaString.trim (.ofString eventType)) = true)
    (told : JavaString.isEncodable (JavaString.trim (.ofString status)) = true)
    (detailed : JavaString.isEncodable (JavaString.trim details) = true) :
    (unchangedEvent level eventType state command status details).isEncodable =
      JavaString.isEncodable command.messageId := by
  have types : JavaString.isEncodable (JavaString.trim command.commandType.name) = true := by
    cases command.commandType <;> decide
  have states : JavaString.isEncodable (JavaString.trim state.name) = true := by
    cases state <;> decide
  simp [AuditEvent.isEncodable, unchangedEvent, commandEvent, command.messageIdTrimmed, typed, told,
    detailed, types, states]

theorem isEncodable_processed (command : CommandMessage) (state : RemoteUnitState) :
    (commandProcessed (CommandProcessor.process command state)).isEncodable =
      JavaString.isEncodable command.messageId := by
  obtain ⟨id, type, -, -, -⟩ := process_spec command state
  have message := (process_message command state).2
  have types : JavaString.isEncodable (JavaString.trim command.commandType.name) = true := by
    cases command.commandType <;> decide
  have states : ∀ state : RemoteUnitState,
      JavaString.isEncodable (JavaString.trim state.name) = true := by
    intro state
    cases state <;> decide
  have typed : ∀ accepted : Bool, JavaString.isEncodable (JavaString.trim (.ofString
      (if accepted then "COMMAND_ACCEPTED" else "COMMAND_REJECTED"))) = true := by
    decide
  have told : ∀ accepted : Bool, JavaString.isEncodable (JavaString.trim
      (if accepted then .ofString "ACCEPTED" else .ofString "REJECTED")) = true := by
    decide
  simp [AuditEvent.isEncodable, commandProcessed, commandEvent, id, type, command.messageIdTrimmed,
    typed, told, message, types, states]

theorem writable_authenticationPassed (call : Call) (state : RemoteUnitState) (command : CommandMessage) :
    call.writable (authenticationPassed state command) =
      (JavaString.isEncodable command.messageId && call.writes (.ofString "AUTHENTICATION_PASSED")) := by
  have typed : (authenticationPassed state command).eventType = .ofString "AUTHENTICATION_PASSED" := by
    simp only [authenticationPassed, unchangedEvent, commandEvent]
    decide
  rw [Call.writable, typed, authenticationPassed, isEncodable_unchanged (by decide) (by decide) (by decide)]

theorem writable_idempotentRetry (call : Call) (command : CommandMessage) (now : Instant)
    (result : CommandResult) :
    call.writable (idempotentRetry command (.fromResult now result)) =
      (JavaString.isEncodable command.messageId && call.writes (.ofString "IDEMPOTENT_RETRY")) := by
  have types : JavaString.isEncodable (JavaString.trim command.commandType.name) = true := by
    cases command.commandType <;> decide
  have states : ∀ state : RemoteUnitState, JavaString.isEncodable (JavaString.trim state.name) = true := by
    intro state
    cases state <;> decide
  have statuses : ∀ status : AcknowledgementStatus,
      JavaString.isEncodable (JavaString.trim status.name) = true := by
    intro status
    cases status <;> decide
  have typed : JavaString.trim (.ofString "IDEMPOTENT_RETRY") = .ofString "IDEMPOTENT_RETRY" := by
    decide
  have known : JavaString.isEncodable (.ofString "IDEMPOTENT_RETRY") = true := by decide
  have details : JavaString.isEncodable (JavaString.trim (.ofString
      "Cached acknowledgement returned without executing the command again.")) = true := by
    decide +kernel
  simp [Call.writable, AuditEvent.isEncodable, idempotentRetry, commandEvent, command.messageIdTrimmed,
    CommandAcknowledgement.fromResult, types, states, statuses, typed, known, details]

theorem writable_later {call : Call} {command : CommandMessage} {state : RemoteUnitState}
    (writes : ∀ eventType, call.writes eventType = true)
    (authenticated : call.writable (authenticationPassed state command) = true) :
    call.writable (validationPassed state command) = true ∧
      call.writable (commandProcessed (CommandProcessor.process command state)) = true := by
  have encodable : JavaString.isEncodable command.messageId = true := by
    rw [writable_authenticationPassed] at authenticated
    exact (Bool.and_eq_true_iff.mp authenticated).1
  simp only [Call.writable, writes, Bool.and_true, isEncodable_processed, encodable, and_true]
  rw [validationPassed, isEncodable_unchanged (by decide) (by decide) (by decide), encodable]

def CommandServer.serve (configuration : Configuration) (server : CommandServer)
    (calls : List Call) : CommandServer :=
  calls.foldl (fun server call =>
    (runOn (CommandServer.processCommand configuration call) server).2) server

theorem serve_concat (configuration : Configuration) (server : CommandServer) (calls : List Call)
    (call : Call) : server.serve configuration (calls ++ [call]) =
      (runOn (CommandServer.processCommand configuration call)
        (server.serve configuration calls)).2 := by
  rw [CommandServer.serve, List.foldl_concat, CommandServer.serve]

/-- The window of time stamps at a clock reading. -/
def ReplayLimits.Permits (limits : ReplayLimits) (clock timestamp : Instant) : Prop :=
  clock.total - (limits.maximumMessageAge : Nat) ≤ timestamp.total ∧
    timestamp.total ≤ clock.total + (limits.futureClockSkew : Nat)

theorem validate_accepted {limits : ReplayLimits} {server : CommandServer}
    {command : CommandMessage} {clock : Instant} {result : SecurityValidationResult}
    (validated : ReplayProtectionService.validate limits server command clock = .ok result)
    (accepted : result.accepted = true) :
    limits.Permits clock command.timestamp ∧ command.messageId ∉ server.processedMessageIds ∧
      server.highestSequenceByTarget command.targetId < command.sequenceNumber := by
  rw [ReplayProtectionService.validate] at validated
  cases oldest : clock.minus limits.maximumMessageAge with
  | error message => simp [oldest, bind, Except.bind] at validated
  | ok first =>
    cases latest : clock.plus limits.futureClockSkew with
    | error message => simp [oldest, latest, bind, Except.bind] at validated
    | ok last =>
      simp only [oldest, latest, bind, Except.bind] at validated
      have refuses : ∀ code message,
          (Except.ok (ReplayProtectionService.rejected code message) : Except JavaString _) ≠
            .ok result := by
        rintro code message ⟨⟩
        simp [ReplayProtectionService.rejected] at accepted
      by_cases early : command.timestamp.isBefore first = true
      · exact absurd validated (by rw [if_pos early]; exact refuses _ _)
      by_cases late : command.timestamp.isAfter last = true
      · exact absurd validated (by rw [if_neg early, if_pos late]; exact refuses _ _)
      by_cases known : server.processedMessageIds.contains command.messageId = true
      · exact absurd validated (by rw [if_neg early, if_neg late, if_pos known]; exact refuses _ _)
      by_cases old : command.sequenceNumber ≤ server.highestSequenceByTarget command.targetId
      · exact absurd validated
          (by rw [if_neg early, if_neg late, if_neg known, if_pos old]; exact refuses _ _)
      have firstTotal := Instant.minus_total oldest
      have lastTotal := Instant.plus_total latest
      simp only [Instant.isBefore, decide_eq_true_eq, Instant.isAfter] at early late
      refine ⟨⟨by omega, by omega⟩, by simpa using known, by omega⟩

namespace CommandServer

variable {configuration : Configuration} {server : CommandServer} {call : Call}
  {command : CommandMessage}

theorem judge_accepted {clock : Instant} (judged : judge configuration server clock command = .accepted) :
    server.entries command.messageId = none ∧ configuration.limits.Permits clock command.timestamp ∧
      command.messageId ∉ server.processedMessageIds ∧
      server.highestSequenceByTarget command.targetId < command.sequenceNumber := by
  unfold judge at judged
  cases cached : server.entries command.messageId with
  | some entry =>
    simp only [cached] at judged
    split at judged <;> cases judged
  | none =>
    cases validated : ReplayProtectionService.validate configuration.limits server command clock with
    | error message => simp [cached, validated] at judged
    | ok result =>
      simp only [cached, validated] at judged
      split at judged
      · next accepted => exact ⟨rfl, validate_accepted validated accepted⟩
      · cases judged

theorem judge_retry {clock : Instant} {acknowledgement : CommandAcknowledgement}
    (judged : judge configuration server clock command = .retry acknowledgement) :
    server.entries command.messageId = some ⟨command.signature, acknowledgement⟩ := by
  unfold judge at judged
  split at judged
  · next entry cached =>
    split at judged
    · next same =>
      cases judged
      rw [cached, ← same]
    · cases judged
  · split at judged
    · cases judged
    · split at judged <;> cases judged

theorem verdict_authenticated {judgement : Judgement}
    (known : verdict configuration server call = .authenticated command judgement) :
    CommandMessageParser.parse configuration.platform.readTree call.jsonMessage = .ok command ∧
      MessageAuthenticator.verify configuration.platform command = true ∧
      judge configuration server call.clock command = judgement := by
  unfold verdict at known
  split at known
  · cases known
  · next parsed =>
    split at known
    · next verified =>
      cases known
      exact ⟨parsed, verified, rfl⟩
    · cases known

/-- What holds of the executions of every server, whatever could be logged. -/
structure Sound (configuration : Configuration) (server : CommandServer) : Prop where
  ids : (server.executions.map (·.command.messageId)).Nodup
  recorded : ∀ execution ∈ server.executions,
    execution.command.messageId ∈ server.processedMessageIds
  state : server.currentState =
    (server.executions.map (·.command.commandType)).foldl CommandType.apply .offline
  sequences : server.executions.Pairwise fun a b =>
    a.command.targetId = b.command.targetId → a.command.sequenceNumber < b.command.sequenceNumber
  highest : ∀ execution ∈ server.executions, execution.command.sequenceNumber ≤
    server.highestSequenceByTarget execution.command.targetId
  checked : ∀ execution ∈ server.executions,
    MessageAuthenticator.verify configuration.platform execution.command = true ∧
      configuration.limits.Permits execution.clock execution.command.timestamp
  encodable : ∀ execution ∈ server.executions,
    JavaString.isEncodable execution.command.messageId = true

theorem Sound.initial : Sound configuration .initial := by
  constructor <;> simp [CommandServer.initial]

theorem Sound.record (sound : Sound configuration server)
    (later : server.highestSequenceByTarget command.targetId < command.sequenceNumber) :
    Sound configuration (ReplayProtectionService.record command server) where
  ids := sound.ids
  recorded execution member := List.mem_append_left _ (sound.recorded execution member)
  state := sound.state
  sequences := sound.sequences
  highest execution member := by
    have bound := sound.highest execution member
    by_cases same : execution.command.targetId = command.targetId
    · rw [same] at bound
      simp only [ReplayProtectionService.record, same, Function.update_self]
      omega
    · simpa only [ReplayProtectionService.record, Function.update_of_ne same] using bound
  checked := sound.checked
  encodable := sound.encodable

theorem Sound.execute {clock : Instant} (sound : Sound configuration server)
    (later : server.highestSequenceByTarget command.targetId < command.sequenceNumber)
    (fresh : command.messageId ∉ server.processedMessageIds)
    (verified : MessageAuthenticator.verify configuration.platform command = true)
    (timely : configuration.limits.Permits clock command.timestamp)
    (encodable : JavaString.isEncodable command.messageId = true) :
    Sound configuration (execute command clock (ReplayProtectionService.record command server)) := by
  have recorded := sound.record later
  obtain ⟨-, -, -, next, -⟩ := process_spec command server.currentState
  have members : ∀ execution ∈ (CommandServer.execute command clock
      (ReplayProtectionService.record command server)).executions,
      execution ∈ server.executions ∨ execution.command = command ∧ execution.clock = clock := by
    intro execution member
    rcases List.mem_append.mp member with earlier | last
    · exact .inl earlier
    · rw [List.mem_singleton.mp last]
      exact .inr ⟨rfl, rfl⟩
  constructor
  · rw [CommandServer.execute, List.map_append]
    refine List.nodup_append.mpr ⟨sound.ids, by simp, ?_⟩
    intro id member last known same
    obtain ⟨execution, earlier, rfl⟩ := List.mem_map.mp member
    simp only [List.map_cons, List.map_nil, List.mem_singleton] at known
    rw [known] at same
    exact fresh (same ▸ sound.recorded execution earlier)
  · intro execution member
    rcases members execution member with earlier | ⟨same, -⟩
    · exact recorded.recorded execution earlier
    · simp [CommandServer.execute, ReplayProtectionService.record, same]
  · simp only [CommandServer.execute, ReplayProtectionService.record, List.map_append,
      List.foldl_append, List.map_cons, List.map_nil, List.foldl_cons, List.foldl_nil,
      ← sound.state]
    exact next
  · rw [CommandServer.execute]
    refine List.pairwise_append.mpr ⟨sound.sequences, List.pairwise_singleton _ _, ?_⟩
    intro execution earlier last known same
    rw [List.mem_singleton.mp known] at same ⊢
    have bound := sound.highest execution earlier
    rw [same] at bound
    exact lt_of_le_of_lt bound later
  · intro execution member
    rcases members execution member with earlier | ⟨same, -⟩
    · exact recorded.highest execution earlier
    · simp [CommandServer.execute, ReplayProtectionService.record, same]
  · intro execution member
    rcases members execution member with earlier | ⟨same, read⟩
    · exact sound.checked execution earlier
    · rw [same, read]
      exact ⟨verified, timely⟩
  · intro execution member
    rcases members execution member with earlier | ⟨same, -⟩
    · exact sound.encodable execution earlier
    · rw [same]
      exact encodable

theorem store_fields (messageId signature : JavaString) (acknowledgement : CommandAcknowledgement)
    (server : CommandServer) :
    ∃ entries, AcknowledgementCache.store messageId signature acknowledgement server =
      { server with entries := entries } := by
  rw [AcknowledgementCache.store]
  split
  · exact ⟨server.entries, rfl⟩
  · exact ⟨_, rfl⟩

theorem Sound.of_core {reached : CommandServer} (sound : Sound configuration server)
    (same : reached.core = server.core) : Sound configuration reached := by
  simp only [core, mk.injEq] at same
  obtain ⟨states, ids, sequences, -, -, -, executions⟩ := same
  constructor
  · rw [executions]
    exact sound.ids
  · rw [executions, ids]
    exact sound.recorded
  · rw [executions, states]
    exact sound.state
  · rw [executions]
    exact sound.sequences
  · rw [executions, sequences]
    exact sound.highest
  · rw [executions]
    exact sound.checked
  · rw [executions]
    exact sound.encodable

theorem Sound.effect (sound : Sound configuration server) :
    Sound configuration (effect call server (verdict configuration server call)) := by
  unfold CommandServer.effect
  split
  · next known =>
    obtain ⟨-, verified, judged⟩ := verdict_authenticated known
    obtain ⟨-, timely, fresh, later⟩ := judge_accepted judged
    simp only
    split
    · next authenticated =>
      rw [writable_authenticationPassed] at authenticated
      have executed := sound.execute later fresh verified timely (Bool.and_eq_true_iff.mp authenticated).1
      split
      · split
        · obtain ⟨entries, shape⟩ := store_fields _ _ _ _
          rw [shape]
          exact ⟨executed.ids, executed.recorded, executed.state, executed.sequences,
            executed.highest, executed.checked, executed.encodable⟩
        · exact executed
      · exact sound.record later
    · exact sound
  · exact sound

theorem Sound.processCommand (sound : Sound configuration server) :
    Sound configuration (runOn (processCommand configuration call) server).2 :=
  sound.effect.of_core (processCommand_core server)

theorem Sound.serve (sound : Sound configuration server) (calls : List Call) :
    Sound configuration (server.serve configuration calls) := by
  induction calls using List.reverseRecOn with
  | nil => exact sound
  | append_singleton calls call ih =>
    rw [serve_concat]
    exact ih.processCommand

/-- A call whose events can all be written executes a command and caches its result, or leaves
everything but the log as it was. -/
theorem processCommand_dichotomy (server : CommandServer)
    (writes : ∀ eventType, call.writes eventType = true) :
    (∃ command, CommandMessageParser.parse configuration.platform.readTree call.jsonMessage =
        .ok command ∧
      verdict configuration server call = .authenticated command .accepted ∧
      call.writable (authenticationPassed server.currentState command) = true ∧
      (runOn (processCommand configuration call) server).2.core =
        (AcknowledgementCache.store command.messageId command.signature
          (.fromResult call.now (CommandProcessor.process command server.currentState))
          (execute command call.clock (ReplayProtectionService.record command server))).core) ∨
    (runOn (processCommand configuration call) server).2.core = server.core := by
  rw [processCommand_core]
  unfold CommandServer.effect
  split
  · next command known =>
    by_cases authenticated : call.writable (authenticationPassed server.currentState command) = true
    · obtain ⟨passed, processed⟩ := writable_later writes authenticated
      simp only [authenticated, passed, processed, if_true]
      exact .inl ⟨command, (verdict_authenticated known).1, known, authenticated, rfl⟩
    · rw [if_neg authenticated]
      exact .inr rfl
  · exact .inr rfl

theorem processCommand_answer (server : CommandServer)
    (known : verdict configuration server call = .authenticated command .accepted)
    (authenticated : call.writable (authenticationPassed server.currentState command) = true)
    (passed : call.writable (validationPassed server.currentState command) = true)
    (processed : call.writable
      (commandProcessed (CommandProcessor.process command server.currentState)) = true) :
    (runOn (processCommand configuration call) server).1 =
      .ok (.fromResult call.now (CommandProcessor.process command server.currentState)) := by
  rw [processCommand_runOn, known]
  simp only [proceed, settle, audited, authenticated, logged_currentState, passed,
    record_currentState, processed, if_true, handle]

/-- Over any calls, with whatever clock readings, if the log can always be written: no message id
is executed twice; the unit is where the executed commands lead it; sequence numbers grow for each
target; what is executed was authenticated and in time; and each call either executes the command
it was given, or leaves the unit, the replay protection and the cache alone. -/
theorem at_most_once_execution (configuration : Configuration) (calls : List Call)
    (writes : ∀ call ∈ calls, ∀ eventType, call.writes eventType = true) :
    let final := CommandServer.initial.serve configuration calls
    (final.executions.map (·.command.messageId)).Nodup ∧
    final.currentState =
      (final.executions.map (·.command.commandType)).foldl CommandType.apply .offline ∧
    (final.executions.Pairwise fun a b =>
      a.command.targetId = b.command.targetId →
        a.command.sequenceNumber < b.command.sequenceNumber) ∧
    (∀ execution ∈ final.executions,
      MessageAuthenticator.parseHex execution.command.signature = configuration.platform.hmacSha256
          (JavaString.getBytes (MessageAuthenticator.createCanonicalMessage execution.command)) ∧
        configuration.limits.Permits execution.clock execution.command.timestamp) ∧
    ∀ before call after, calls = before ++ call :: after →
      let server := CommandServer.initial.serve configuration before
      let outcome := runOn (processCommand configuration call) server
      (∃ command, CommandMessageParser.parse configuration.platform.readTree call.jsonMessage =
          .ok command ∧
        outcome.2.executions = server.executions ++
          [⟨command, call.clock, CommandProcessor.process command server.currentState⟩] ∧
        outcome.1 =
          .ok (.fromResult call.now (CommandProcessor.process command server.currentState))) ∨
      (outcome.2.executions = server.executions ∧
        outcome.2.currentState = server.currentState ∧
        outcome.2.processedMessageIds = server.processedMessageIds ∧
        outcome.2.highestSequenceByTarget = server.highestSequenceByTarget ∧
        outcome.2.entries = server.entries) := by
  have sound := (@Sound.initial configuration).serve calls
  have signed execution member := MessageAuthenticator.verify_iff.mp (sound.checked execution member).1
  refine ⟨sound.ids, sound.state, sound.sequences,
    fun execution member => ⟨signed execution member, (sound.checked execution member).2⟩, ?_⟩
  intro before call after split
  have written := writes call (by simp [split])
  rcases processCommand_dichotomy (CommandServer.initial.serve configuration before) written with
    ⟨command, parsed, known, authenticated, same⟩ | same
  · refine .inl ⟨command, parsed, ?_, ?_⟩
    · obtain ⟨entries, shape⟩ := store_fields _ _ _ _
      rw [shape] at same
      exact congrArg CommandServer.executions same
    · obtain ⟨passed, processed⟩ := writable_later written authenticated
      exact processCommand_answer _ known authenticated passed processed
  · simp only [core, mk.injEq] at same
    exact .inr ⟨same.2.2.2.2.2.2, same.1, same.2.1, same.2.2.1, same.2.2.2.1⟩

def startDigest : List UInt8 :=
  [0xce, 0x59, 0x9a, 0x8d, 0xf5, 0xd5, 0xc4, 0xec, 0x90, 0x11, 0x76, 0x22, 0x12, 0xf1, 0x38,
    0x73, 0xd4, 0x2a, 0xde, 0x27, 0x5e, 0x59, 0xc6, 0xb4, 0x36, 0x94, 0xfb, 0x01, 0x62, 0x35,
    0xaf, 0x43]

def startSignature : JavaString := MessageAuthenticator.formatHex startDigest

def signedLine (signature : JavaString) : JavaString :=
  let field (name : String) (value : JavaString) :=
    JavaString.quoted (.ofString name) ++ 58 :: JavaString.quoted value
  123 :: (JavaString.join 44 [field "message_id" (.ofString "CMD-000001"),
    field "command_type" (.ofString "START_SYSTEM"), field "target_id" (.ofString "UNIT-01"),
    JavaString.quoted (.ofString "sequence_number") ++ [58, 49],
    field "timestamp" (.ofString "2026-01-01T00:00:00Z"),
    JavaString.quoted (.ofString "payload") ++ [58, 123, 125],
    field "signature" signature] ++ [125])

def signedTree (signature : JavaString) : Json :=
  .object [(.ofString "message_id", .text (.ofString "CMD-000001")),
    (.ofString "command_type", .text (.ofString "START_SYSTEM")),
    (.ofString "target_id", .text (.ofString "UNIT-01")),
    (.ofString "sequence_number", .integer 1),
    (.ofString "timestamp", .text (.ofString "2026-01-01T00:00:00Z")),
    (.ofString "payload", .object []), (.ofString "signature", .text signature)]

def startLine : JavaString := signedLine startSignature

def startTree : Json := signedTree startSignature

def forgedSignature : JavaString := MessageAuthenticator.formatHex (List.replicate 32 0)

def startCanonical : JavaString :=
  JavaString.join 10 [.ofString "CMD-000001", .ofString "START_SYSTEM", .ofString "UNIT-01", [49],
    .ofString "2026-01-01T00:00:00Z", [123, 125]]

def stationConfiguration : Configuration where
  platform := .ofTables [(startLine, startTree), (signedLine forgedSignature, signedTree forgedSignature)]
    [(JavaString.getBytes startCanonical, startDigest)]
  limits := .default
  messageIdWhoseFirstAckShouldBeDropped := none

/-- One second after the time stamp of the command. -/
def startClock : Instant := ⟨1767225601, 0, newYear.nanosRange, by decide⟩

def startCall : Call := ⟨startLine, startClock, startClock, fun _ => true⟩

def forgedCall : Call := { startCall with jsonMessage := signedLine forgedSignature }

theorem at_most_once_execution_retry :
    let calls := [forgedCall, startCall, startCall]
    let final := CommandServer.initial.serve stationConfiguration calls
    final.executions.length = 1 ∧ final.currentState = .standby ∧
      ((runOn (processCommand stationConfiguration forgedCall) .initial).1.toOption.map (·.status)) =
        some .unauthorized ∧
      (final.executions.map (·.command.messageId)).Nodup := by
  refine ⟨by decide +kernel, by decide +kernel, by decide +kernel, ?_⟩
  exact (at_most_once_execution stationConfiguration [forgedCall, startCall, startCall] (by
    intro call member eventType
    simp only [List.mem_cons, List.not_mem_nil, or_false, or_self] at member
    rcases member with rfl | rfl <;> rfl)).1

end CommandServer

end CareerProjects.CommandControl
