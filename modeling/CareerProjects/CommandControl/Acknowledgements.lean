import CareerProjects.CommandControl.Executions

/-! Whether the acknowledgement of every executed command is cached. The audit log is written
between recording, executing and caching a command, and a failed write there separates them. -/

namespace CareerProjects.CommandControl
open Library

namespace CommandServer

variable {configuration : Configuration} {server : CommandServer} {call : Call}
  {command : CommandMessage}

def Caches (server : CommandServer) (execution : Execution) (acknowledgement : CommandAcknowledgement) :
    Prop :=
  (∃ now, acknowledgement = .fromResult now execution.result) ∧
    server.entries execution.command.messageId =
      some ⟨execution.command.signature, acknowledgement⟩

structure Acknowledges (configuration : Configuration) (server : CommandServer) : Prop where
  cached : ∀ execution ∈ server.executions, ∃ acknowledgement, server.Caches execution acknowledgement
  executed : ∀ id ∈ server.processedMessageIds,
    ∃ execution ∈ server.executions, execution.command.messageId = id
  retried : ∀ execution ∈ server.executions, ∀ call : Call,
    CommandMessageParser.parse configuration.platform.readTree call.jsonMessage =
      .ok execution.command →
    ∃ acknowledgement, server.Caches execution acknowledgement ∧
      let outcome := runOn (processCommand configuration call) server
      outcome.2.core = server.core ∧
        if call.writes (.ofString "AUTHENTICATION_PASSED") ∧ call.writes (.ofString "IDEMPOTENT_RETRY") then
          outcome.1 = .ok acknowledgement
        else ∀ answer, outcome.1 = .ok answer → answer.status = .invalid

/-- No audit failure separates the recording, execution and caching of a command: once its
authentication is logged, an accepted command can be logged as validated and as processed. -/
def Undivided (configuration : Configuration) (server : CommandServer) (call : Call) : Prop :=
  ∀ command, verdict configuration server call = .authenticated command .accepted →
    call.writable (authenticationPassed server.currentState command) = true →
    call.writable (validationPassed server.currentState command) = true ∧
      call.writable (commandProcessed (CommandProcessor.process command server.currentState)) = true

theorem retry_runOn {acknowledgement : CommandAcknowledgement}
    (parsed : CommandMessageParser.parse configuration.platform.readTree call.jsonMessage = .ok command)
    (verified : MessageAuthenticator.verify configuration.platform command = true)
    (known : server.entries command.messageId = some ⟨command.signature, acknowledgement⟩) :
    let outcome := runOn (processCommand configuration call) server
    outcome.2.core = server.core ∧
      if call.writable (authenticationPassed server.currentState command) ∧
          call.writable (idempotentRetry command acknowledgement) then
        outcome.1 = .ok acknowledgement
      else ∀ answer, outcome.1 = .ok answer → answer.status = .invalid := by
  have judged : verdict configuration server call = .authenticated command (.retry acknowledgement) := by
    simp [verdict, parsed, verified, judge, known]
  have failing : ∀ (reached : CommandServer) (answer : CommandAcknowledgement),
      (handle call (.error (.runtime writeError), reached)).1 = .ok answer →
        answer.status = .invalid := by
    intro reached answer answered
    simp only [handle, recovered, audited] at answered
    split at answered
    · cases answered
      rfl
    · cases answered
  refine ⟨by rw [processCommand_core, judged]; rfl, ?_⟩
  rw [processCommand_runOn, judged]
  simp only [proceed, settle, audited]
  by_cases authenticated : call.writable (authenticationPassed server.currentState command) = true
  · by_cases retried : call.writable (idempotentRetry command acknowledgement) = true
    · simp [authenticated, retried, handle]
    · simp only [authenticated, retried, if_true, and_false, if_false, Bool.false_eq_true]
      exact failing _
  · simp only [authenticated, Bool.false_eq_true, false_and, if_false]
    exact failing _

def Complete (server : CommandServer) : Prop :=
  (∀ execution ∈ server.executions, ∃ acknowledgement, server.Caches execution acknowledgement) ∧
    ∀ id ∈ server.processedMessageIds,
      ∃ execution ∈ server.executions, execution.command.messageId = id

theorem Complete.initial : Complete .initial := by
  constructor <;> simp [CommandServer.initial]

theorem Complete.of_core {reached : CommandServer} (complete : server.Complete)
    (same : reached.core = server.core) : reached.Complete := by
  simp only [core, mk.injEq] at same
  obtain ⟨-, ids, -, entries, -, -, executions⟩ := same
  simp only [Complete, Caches, ids, entries, executions] at complete ⊢
  exact complete

theorem Complete.acknowledges (complete : server.Complete) (sound : Sound configuration server) :
    Acknowledges configuration server where
  cached := complete.1
  executed := complete.2
  retried execution member call parsed := by
    obtain ⟨acknowledgement, caches⟩ := complete.1 execution member
    obtain ⟨⟨now, rfl⟩, known⟩ := id caches
    refine ⟨_, caches, ?_⟩
    have answered := retry_runOn parsed (sound.checked execution member).1 known
    simpa only [writable_authenticationPassed, writable_idempotentRetry, sound.encodable execution member,
      Bool.true_and] using answered

theorem Acknowledges.all_cached (promised : Acknowledges configuration server) :
    (server.executions.all fun execution =>
      (server.entries execution.command.messageId).isSome) = true := by
  refine List.all_eq_true.mpr fun execution member => ?_
  obtain ⟨acknowledgement, -, known⟩ := promised.cached execution member
  rw [known]
  rfl

theorem Complete.extend {clock now : Instant} (complete : server.Complete)
    (recorded : ∀ execution ∈ server.executions,
      execution.command.messageId ∈ server.processedMessageIds)
    (fresh : command.messageId ∉ server.processedMessageIds)
    (unknown : server.entries command.messageId = none) :
    (AcknowledgementCache.store command.messageId command.signature
      (.fromResult now (CommandProcessor.process command server.currentState))
      (execute command clock (ReplayProtectionService.record command server))).Complete := by
  have absent : (execute command clock (ReplayProtectionService.record command server)).entries
      command.messageId = none := unknown
  rw [AcknowledgementCache.store, absent, Option.isSome_none, if_neg Bool.false_ne_true]
  constructor
  · intro execution member
    rcases List.mem_append.mp member with earlier | last
    · obtain ⟨acknowledgement, result, known⟩ := complete.1 execution earlier
      have other : execution.command.messageId ≠ command.messageId := by
        intro same
        exact fresh (same ▸ recorded execution earlier)
      exact ⟨acknowledgement, result, (Function.update_of_ne other _ _).trans known⟩
    · rw [List.mem_singleton.mp last]
      exact ⟨_, ⟨now, rfl⟩, Function.update_self ..⟩
  · intro id member
    rcases List.mem_append.mp member with earlier | last
    · obtain ⟨execution, known, same⟩ := complete.2 id earlier
      exact ⟨execution, List.mem_append_left _ known, same⟩
    · rw [List.mem_singleton.mp last]
      exact ⟨_, List.mem_append_right _ List.mem_cons_self, rfl⟩

theorem Complete.processCommand (complete : server.Complete) (sound : Sound configuration server)
    (undivided : Undivided configuration server call) :
    (runOn (processCommand configuration call) server).2.Complete := by
  refine Complete.of_core ?_ (processCommand_core server)
  unfold effect
  split
  · next command known =>
    obtain ⟨-, verified, judged⟩ := verdict_authenticated known
    obtain ⟨unknown, -, fresh, -⟩ := judge_accepted judged
    by_cases authenticated : call.writable (authenticationPassed server.currentState command) = true
    · obtain ⟨passed, processed⟩ := undivided command known authenticated
      simp only [authenticated, passed, processed, if_true]
      exact complete.extend sound.recorded fresh unknown
    · rw [if_neg authenticated]
      exact complete
  · exact complete

theorem Complete.undivided (sound : Sound configuration server)
    (complete : (runOn (CommandServer.processCommand configuration call) server).2.Complete) :
    Undivided configuration server call := by
  have effects := complete.of_core (processCommand_core server).symm
  intro command known authenticated
  obtain ⟨-, verified, judged⟩ := verdict_authenticated known
  obtain ⟨unknown, -, fresh, -⟩ := judge_accepted judged
  simp only [known, effect, authenticated, if_true] at effects
  by_cases passed : call.writable (validationPassed server.currentState command) = true
  · refine ⟨passed, ?_⟩
    by_contra failed
    simp only [passed, failed, if_true, if_false] at effects
    obtain ⟨acknowledgement, -, cached⟩ :=
      effects.1 _ (List.mem_append_right _ List.mem_cons_self)
    have absent : server.entries command.messageId = some ⟨command.signature, acknowledgement⟩ :=
      cached
    simp [unknown] at absent
  · simp only [passed, if_false, Bool.false_eq_true] at effects
    obtain ⟨execution, member, same⟩ :=
      effects.2 command.messageId (List.mem_append_right _ List.mem_cons_self)
    exact absurd (same ▸ sound.recorded execution member) fresh

/-- In a run of calls, the server keeps its promise in every state reached if and only if no
audit failure divides a call. -/
theorem executed_commands_acknowledged (configuration : Configuration) (calls : List Call) :
    (∀ before after, calls = before ++ after →
      Acknowledges configuration (CommandServer.initial.serve configuration before)) ↔
    ∀ before call after, calls = before ++ call :: after →
      Undivided configuration (CommandServer.initial.serve configuration before) call := by
  have sound := fun calls => (@Sound.initial configuration).serve calls
  constructor
  · intro promised before call after split
    have reached := promised (before ++ [call]) after (by simp [split])
    rw [serve_concat] at reached
    exact Complete.undivided (sound before) ⟨reached.cached, reached.executed⟩
  · intro undivided before
    induction before using List.reverseRecOn with
    | nil => exact fun _ _ => Complete.initial.acknowledges Sound.initial
    | append_singleton before call ih =>
      intro after split
      have earlier := ih (call :: after) (by simp [split])
      have complete : (CommandServer.initial.serve configuration before).Complete :=
        ⟨earlier.cached, earlier.executed⟩
      have step := complete.processCommand (sound before)
        (undivided before call after (by simp [split]))
      rw [← serve_concat] at step
      exact step.acknowledges (sound _)

def unloggedCall : Call :=
  { startCall with writes := fun eventType => eventType != .ofString "COMMAND_ACCEPTED" }

def unloggedServer : CommandServer :=
  CommandServer.initial.serve stationConfiguration [unloggedCall]

/-- The command is executed, its acknowledgement is lost, and the retry is refused. -/
theorem executed_command_unacknowledged :
    (unloggedServer.currentState = .standby ∧ unloggedServer.executions.length = 1 ∧
      (unloggedServer.entries (.ofString "CMD-000001")).isNone = true ∧
      ((runOn (processCommand stationConfiguration startCall) unloggedServer).1.toOption.map
        fun acknowledgement => (acknowledgement.status, acknowledgement.message)) =
        some (.securityRejected, .ofString
          "DUPLICATE_MESSAGE_ID: The command message ID has already been processed.")) ∧
    ¬Acknowledges stationConfiguration unloggedServer := by
  refine ⟨by decide +kernel, ?_⟩
  intro promised
  have cached := promised.all_cached
  have uncached : (unloggedServer.executions.all fun execution =>
      (unloggedServer.entries execution.command.messageId).isSome) = false := by
    decide +kernel
  exact Bool.noConfusion (uncached.symm.trans cached)

end CommandServer

end CareerProjects.CommandControl
