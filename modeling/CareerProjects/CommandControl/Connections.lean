import CareerProjects.CommandControl.Acknowledgements

/-! The accept loop of the command server. It serves one connection after the other, and
outlives the exceptions of input and output, but no others: those that the audit log throws
where no handler stands behind it end the server. -/

namespace CareerProjects.CommandControl
open Library

/-- How an input or output operation ends: well, or with an exception that may have a message. -/
inductive IoOutcome where
  | done
  | failed (message : Option JavaString)

def IoOutcome.perform : IoOutcome → Serving Unit
  | .done => pure ()
  | .failed message => throw (.io message)

structure ReceivedLine where
  call : Call
  sending : IoOutcome

/-- What happens on one connection from outside. The reading ends after the lines, with the end of
the stream or an exception; the log is written with the types of event that `writes` has, and for
the lines with those of their calls. -/
structure Connection where
  accepting : IoOutcome
  remoteAddress : JavaString
  opening : IoOutcome
  lines : List ReceivedLine
  reading : IoOutcome
  closing : IoOutcome
  writes : JavaString → Bool

namespace CommandServer

/-- Whether the configured first acknowledgement is dropped, which happens once. -/
def shouldDropAcknowledgement (configuration : Configuration) (messageId : JavaString) :
    Serving Bool := do
  if configuration.messageIdWhoseFirstAckShouldBeDropped = some messageId then
    if (← get).intentionallyDroppedAcknowledgements.contains messageId then return false
    modify fun server => { server with
      intentionallyDroppedAcknowledgements :=
        server.intentionallyDroppedAcknowledgements ++ [messageId] }
    return true
  else return false

def sendAcknowledgement (line : ReceivedLine) (acknowledgement : CommandAcknowledgement) :
    Serving Unit := do
  line.sending.perform
  AuditLogger.logCommandEvent line.call.writes .info "ACK_SENT" acknowledgement.messageId
    acknowledgement.commandType acknowledgement.status.name acknowledgement.previousState
    acknowledgement.currentState acknowledgement.message

def handleLine (configuration : Configuration) (line : ReceivedLine) : Serving Bool := do
  if JavaString.isBlank line.call.jsonMessage then return true
  let acknowledgement ← processCommand configuration line.call
  if ← shouldDropAcknowledgement configuration acknowledgement.messageId then
    AuditLogger.logCommandEvent line.call.writes .warning "ACK_DROPPED_FOR_TEST"
      acknowledgement.messageId acknowledgement.commandType acknowledgement.status.name
      acknowledgement.previousState acknowledgement.currentState
      (.ofString "The first acknowledgement was intentionally dropped to test retry behavior.")
    return false
  sendAcknowledgement line acknowledgement
  return true

def handleLines (configuration : Configuration) (reading : IoOutcome) :
    List ReceivedLine → Serving Unit
  | [] => reading.perform
  | line :: rest => do
    if ← handleLine configuration line then handleLines configuration reading rest

def connected (remoteAddress : JavaString) : JavaString :=
  .ofString "Python control station connected from " ++ remoteAddress ++ .ofString "."

def disconnected (remoteAddress : JavaString) : JavaString :=
  .ofString "Python control station disconnected from " ++ remoteAddress ++ .ofString "."

/-- Handle the commands of one connection. The streams are closed after the lines; what is thrown
then counts only if nothing was thrown before. -/
def handleClient (configuration : Configuration) (connection : Connection) : Serving Unit := do
  AuditLogger.logSystemEvent connection.writes .info "CLIENT_CONNECTED"
    (connected connection.remoteAddress)
  tryFinally (do
      connection.opening.perform
      handleLines configuration connection.reading connection.lines
      connection.closing.perform)
    (AuditLogger.logSystemEvent connection.writes .info "CLIENT_DISCONNECTED"
      (disconnected connection.remoteAddress))

def serveConnection (configuration : Configuration) (connection : Connection) : Serving Unit :=
  tryCatch (do
      connection.accepting.perform
      handleClient configuration connection)
    fun
      | .io message => AuditLogger.logSystemEvent connection.writes .error "CLIENT_CONNECTION_ERROR"
          (message.getD [])
      | error => throw error

def start (configuration : Configuration) : List Connection → Serving Unit
  | [] => pure ()
  | connection :: rest => do
    serveConnection configuration connection
    start configuration rest

/-- The `try` block ends without an exception: all its events can be written, and the clock can be
reckoned with. -/
def logs (call : Call) (server : CommandServer) : Verdict → Bool
  | .invalid _ => false
  | .unauthorized command => call.writable (authenticationFailed server.currentState command)
  | .authenticated command judgement =>
    call.writable (authenticationPassed server.currentState command) &&
      match judgement with
      | .retry acknowledgement => call.writable (idempotentRetry command acknowledgement)
      | .collision => call.writable (messageIdCollision server.currentState command)
      | .untimed _ => false
      | .rejected result => call.writable (validationRejected server.currentState command result)
      | .accepted => call.writable (validationPassed server.currentState command) &&
          call.writable (commandProcessed (CommandProcessor.process command server.currentState))

/-- The line is invalid and that can be logged; or it is not, and its events can be logged, or at
least that this failed. -/
def Answered (configuration : Configuration) (server : CommandServer) (call : Call) : Prop :=
  match verdict configuration server call with
  | .invalid message => call.writable (invalidCommand message) = true
  | verdict => server.logs call verdict = true ∨
      call.writes (.ofString "COMMAND_PROCESSING_ERROR") = true

variable {configuration : Configuration} {server : CommandServer} {call : Call}

theorem proceed_ok_iff {verdict : Verdict} :
    (∃ acknowledgement reached, proceed call server verdict = (.ok acknowledgement, reached)) ↔
      server.logs call verdict = true := by
  have audits : ∀ {event next} {server : CommandServer},
      (∃ acknowledgement reached, server.audited call event next = (.ok acknowledgement, reached)) ↔
        call.writable event = true ∧
          ∃ acknowledgement reached, next (server.logged event) = (.ok acknowledgement, reached) := by
    intro event next server
    rw [audited]
    by_cases written : call.writable event = true
    · simp [written]
    · simp [written]
  cases verdict with
  | invalid message => simp [proceed, logs]
  | unauthorized command => simp [proceed, logs, audits]
  | authenticated command judgement =>
    cases judgement <;> simp [proceed, logs, settle, audits]

theorem proceed_runtime (failed : server.logs call (verdict configuration server call) = false)
    (valid : ∀ message, verdict configuration server call ≠ .invalid message) :
    ∃ message reached, proceed call server (verdict configuration server call) =
      (.error (.runtime message), reached) ∧ message ∈ writeError :: Instant.arithmeticMessages := by
  cases outcome : proceed call server (verdict configuration server call) with
  | mk result reached =>
    cases result with
    | ok acknowledgement =>
      have logged := proceed_ok_iff.mp ⟨acknowledgement, reached, outcome⟩
      simp [failed] at logged
    | error error =>
      rcases proceed_error outcome with ⟨message, -, -, invalid⟩ | ⟨message, rfl, known⟩
      · exact absurd invalid (valid message)
      · exact ⟨message, reached, rfl, known⟩

theorem writable_processingError {message : JavaString}
    (known : message ∈ writeError :: Instant.arithmeticMessages) :
    call.writable (processingError message) = call.writes (.ofString "COMMAND_PROCESSING_ERROR") := by
  have encodable : (processingError message).isEncodable = true := by
    have detail := (runtime_message message known).2
    have typed : JavaString.isEncodable (JavaString.trim (.ofString "COMMAND_PROCESSING_ERROR")) = true := by
      decide
    simp only [AuditEvent.isEncodable, processingError, systemEvent, commandEvent, List.all_cons, detail,
      typed]
    decide
  have type : JavaString.trim (.ofString "COMMAND_PROCESSING_ERROR") =
      .ofString "COMMAND_PROCESSING_ERROR" := by
    decide
  rw [Call.writable, encodable, Bool.true_and, processingError, systemEvent, commandEvent, type]

def Sayable (acknowledgement : CommandAcknowledgement) : Prop :=
  JavaString.isBlank acknowledgement.message = false ∧
    ∀ text ∈ [acknowledgement.messageId, acknowledgement.commandType, acknowledgement.status.name,
      acknowledgement.previousState, acknowledgement.currentState, acknowledgement.message],
      JavaString.isEncodable (JavaString.trim text) = true

/-- The cached acknowledgements can be logged, each under the id it is cached for. -/
def Answerable (server : CommandServer) : Prop :=
  ∀ id entry, server.entries id = some entry →
    Sayable entry.acknowledgement ∧ entry.acknowledgement.messageId = id

def respondent (configuration : Configuration) (server : CommandServer) (call : Call) : JavaString :=
  match verdict configuration server call with
  | .invalid _ => .ofString "UNKNOWN"
  | .unauthorized command => if server.logs call (.unauthorized command) then command.messageId
      else .ofString "UNKNOWN"
  | .authenticated command judgement =>
    if server.logs call (.authenticated command judgement) then command.messageId
    else .ofString "UNKNOWN"

theorem encodable_names (state : RemoteUnitState) (commandType : CommandType)
    (status : AcknowledgementStatus) : JavaString.isEncodable (JavaString.trim state.name) = true ∧
      JavaString.isEncodable (JavaString.trim commandType.name) = true ∧
      JavaString.isEncodable (JavaString.trim status.name) = true := by
  refine ⟨?_, ?_, ?_⟩
  · cases state <;> decide
  · cases commandType <;> decide
  · cases status <;> decide

theorem sayable_invalid {now : Instant} {message : JavaString} {state : RemoteUnitState}
    (told : JavaString.isBlank message = false)
    (encodable : JavaString.isEncodable (JavaString.trim message) = true) :
    Sayable (.invalid now message state) := by
  have names := encodable_names state .startSystem .invalid
  have unknown : JavaString.isEncodable (JavaString.trim (.ofString "UNKNOWN")) = true := by decide
  refine ⟨told, ?_⟩
  simp [CommandAcknowledgement.invalid, names, unknown, encodable]

theorem sayable_command {command : CommandMessage} {status : AcknowledgementStatus}
    {previous current : RemoteUnitState} {message processedAt : JavaString}
    (id : JavaString.isEncodable command.messageId = true)
    (told : JavaString.isBlank message = false)
    (encodable : JavaString.isEncodable (JavaString.trim message) = true) :
    Sayable ⟨command.messageId, status, command.commandType.name, previous.name, current.name, message,
      processedAt⟩ := by
  have names := encodable_names previous command.commandType status
  have others := encodable_names current command.commandType status
  refine ⟨told, ?_⟩
  simp [command.messageIdTrimmed, id, names, others, encodable]

theorem encodable_authenticated {state : RemoteUnitState} {command : CommandMessage}
    (written : call.writable (authenticationPassed state command) = true) :
    JavaString.isEncodable command.messageId = true := by
  have known := (Bool.and_eq_true_iff.mp written).1
  rwa [authenticationPassed, isEncodable_unchanged (by decide) (by decide) (by decide)] at known

theorem sayable_result {now : Instant} {command : CommandMessage} {state : RemoteUnitState}
    (id : JavaString.isEncodable command.messageId = true) :
    Sayable (.fromResult now (CommandProcessor.process command state)) := by
  obtain ⟨sameId, sameType, -⟩ := process_spec command state
  have message := process_message command state
  have names := encodable_names (CommandProcessor.process command state).previousState
    command.commandType (if (CommandProcessor.process command state).accepted then .accepted else .rejected)
  have others := encodable_names (CommandProcessor.process command state).currentState
    command.commandType .accepted
  refine ⟨message.1, ?_⟩
  simp [CommandAcknowledgement.fromResult, sameId, sameType, command.messageIdTrimmed, id, names,
    others, message]

theorem judge_rejected {clock : Instant} {command : CommandMessage} {result : SecurityValidationResult}
    (judged : judge configuration server clock command = .rejected result) :
    ReplayProtectionService.validate configuration.limits server command clock = .ok result ∧
      result.accepted = false := by
  rw [judge] at judged
  split at judged
  · split at judged <;> cases judged
  · split at judged
    · cases judged
    · next validated =>
      split at judged
      · cases judged
      · next refused =>
        cases judged
        exact ⟨validated, by simpa using refused⟩

theorem proceed_sayable {acknowledgement : CommandAcknowledgement} {reached : CommandServer}
    (answerable : server.Answerable)
    (done : proceed call server (verdict configuration server call) = (.ok acknowledgement, reached)) :
    Sayable acknowledgement ∧ acknowledgement.messageId = respondent configuration server call := by
  have logged := proceed_ok_iff.mp ⟨acknowledgement, reached, done⟩
  rw [respondent]
  cases known : verdict configuration server call with
  | invalid message => simp [known, logs] at logged
  | unauthorized command =>
    rw [known] at logged done
    simp only [logged, if_true]
    have written := logged
    rw [logs] at written
    simp only [proceed, audited, written, if_true] at done
    have id := (Bool.and_eq_true_iff.mp written).1
    rw [authenticationFailed, isEncodable_unchanged (by decide) (by decide) (by decide)] at id
    cases done
    exact ⟨sayable_command id (by decide) (by decide), rfl⟩
  | authenticated command judgement =>
    obtain ⟨-, -, judged⟩ := verdict_authenticated known
    rw [known] at logged done
    simp only [logged, if_true]
    have written := logged
    simp only [logs, Bool.and_eq_true] at written
    obtain ⟨authenticated, later⟩ := written
    have id := encodable_authenticated authenticated
    simp only [proceed, audited, authenticated, if_true] at done
    cases judgement with
    | retry cached =>
      simp only [settle, audited, later, if_true] at done
      cases done
      have stored := judge_retry judged
      exact answerable _ _ stored
    | collision =>
      simp only [settle, audited, logged_currentState, later, if_true] at done
      cases done
      exact ⟨sayable_command id (by decide +kernel) (by decide +kernel), rfl⟩
    | untimed message => simp at later
    | rejected result =>
      simp only [settle, audited, logged_currentState, later, if_true] at done
      cases done
      obtain ⟨validated, refused⟩ := judge_rejected judged
      have details := (Bool.and_eq_true_iff.mp later).1
      simp only [AuditEvent.isEncodable, validationRejected, unchangedEvent, commandEvent, List.all_cons,
        Bool.and_eq_true] at details
      exact ⟨sayable_command id (rejected_details validated refused) details.2.2.2.2.2.2.1, rfl⟩
    | accepted =>
      simp only [Bool.and_eq_true] at later
      simp only [settle, audited, record_currentState, logged_currentState, later, if_true] at done
      cases done
      obtain ⟨sameId, -⟩ := process_spec command server.currentState
      exact ⟨sayable_result id, sameId⟩

theorem processCommand_unanswered (unanswered : ¬Answered configuration server call) :
    ∃ message, (runOn (processCommand configuration call) server).1 = .error (.runtime message) := by
  rw [processCommand_runOn]
  cases known : verdict configuration server call with
  | invalid message =>
    simp only [Answered, known] at unanswered
    exact ⟨writeError, by simp [proceed, handle, recovered, audited, unanswered]⟩
  | _ =>
    simp only [Answered, known, not_or, Bool.not_eq_true] at unanswered
    obtain ⟨message, reached, outcome, listed⟩ := @proceed_runtime configuration server call
      (by rw [known]; exact unanswered.1) (by simp [known])
    rw [known] at outcome
    have silent := (@writable_processingError call message listed).trans unanswered.2
    exact ⟨writeError, by simp [outcome, handle, recovered, audited, silent]⟩

theorem verdict_invalid {message : JavaString}
    (known : verdict configuration server call = .invalid message) :
    JavaString.isBlank message = false := by
  rw [verdict] at known
  split at known
  · next parsed =>
    cases known
    exact CommandMessageParser.parse_message parsed
  · split at known <;> cases known

theorem processCommand_answered (answered : Answered configuration server call) :
    ∃ acknowledgement, (runOn (processCommand configuration call) server).1 = .ok acknowledgement ∧
      (server.Answerable →
        Sayable acknowledgement ∧ acknowledgement.messageId = respondent configuration server call) := by
  rw [processCommand_runOn]
  by_cases invalid : ∃ message, verdict configuration server call = .invalid message
  · obtain ⟨message, known⟩ := invalid
    have told := verdict_invalid known
    simp only [Answered, known] at answered
    have details := (Bool.and_eq_true_iff.mp answered).1
    simp only [AuditEvent.isEncodable, invalidCommand, systemEvent, commandEvent, List.all_cons,
      Bool.and_eq_true] at details
    refine ⟨.invalid call.now message server.currentState, ?_, fun _ => ⟨?_, ?_⟩⟩
    · simp [known, proceed, handle, recovered, audited, answered]
    · exact sayable_invalid told details.2.2.2.2.2.2.1
    · simp [respondent, known, CommandAcknowledgement.invalid]
  · rw [not_exists] at invalid
    cases logged : server.logs call (verdict configuration server call) with
    | true =>
      obtain ⟨acknowledgement, reached, done⟩ := proceed_ok_iff.mpr logged
      refine ⟨acknowledgement, by rw [done, handle], fun answerable => ?_⟩
      exact proceed_sayable answerable done
    | false =>
      obtain ⟨message, reached, outcome, listed⟩ := proceed_runtime logged invalid
      have told : call.writable (processingError message) = true := by
        rw [writable_processingError listed]
        unfold Answered at answered
        split at answered
        · next message known => exact absurd known (invalid message)
        · exact answered.resolve_left (by simp [logged])
      refine ⟨.invalid call.now (.ofString "Unexpected command-processing failure.")
        reached.currentState, ?_, fun _ => ⟨?_, ?_⟩⟩
      · simp only [outcome, handle, recovered, audited, told, if_true]
        rfl
      · exact sayable_invalid (by decide) (by decide)
      · unfold respondent
        split
        · rfl
        · next command known => simp [← known, logged, CommandAcknowledgement.invalid]
        · next command judgement known => simp [← known, logged, CommandAcknowledgement.invalid]

theorem processCommand_ok_iff : (∃ acknowledgement,
      (runOn (processCommand configuration call) server).1 = .ok acknowledgement) ↔
    Answered configuration server call := by
  constructor
  · rintro ⟨acknowledgement, done⟩
    by_contra unanswered
    obtain ⟨message, thrown⟩ := processCommand_unanswered unanswered
    rw [thrown] at done
    cases done
  · intro answered
    obtain ⟨acknowledgement, done, -⟩ := processCommand_answered answered
    exact ⟨acknowledgement, done⟩

theorem Answerable.initial : Answerable .initial := by
  intro id entry known
  cases known

theorem Answerable.of_core {reached : CommandServer} (answerable : server.Answerable)
    (same : reached.core = server.core) : reached.Answerable := by
  simp only [core, mk.injEq] at same
  rw [Answerable, same.2.2.2.1]
  exact answerable

theorem Answerable.processCommand (answerable : server.Answerable) :
    (runOn (processCommand configuration call) server).2.Answerable := by
  refine Answerable.of_core ?_ (processCommand_core server)
  unfold effect
  split
  · next command known =>
    by_cases authenticated : call.writable (authenticationPassed server.currentState command) = true
    · have id := encodable_authenticated authenticated
      simp only [authenticated, if_true]
      split
      · split
        · intro stored entry member
          unfold AcknowledgementCache.store at member
          split at member
          · exact answerable stored entry member
          · by_cases same : stored = command.messageId
            · subst same
              simp only [Function.update_self, Option.some.injEq] at member
              subst member
              obtain ⟨sameId, -⟩ := process_spec command server.currentState
              exact ⟨sayable_result id, sameId⟩
            · simp only [Function.update_of_ne same] at member
              exact answerable stored entry member
        · exact answerable
      · exact answerable
    · rw [if_neg authenticated]
      exact answerable
  · exact answerable

end CommandServer

namespace Connection

def writable (connection : Connection) (event : AuditEvent) : Bool :=
  event.isEncodable && connection.writes event.eventType

def Reported (connection : Connection) (message : Option JavaString) : Prop :=
  JavaString.isBlank (message.getD []) = false ∧
    connection.writable (systemEvent .error "CLIENT_CONNECTION_ERROR" (message.getD [])) = true

/-- The end of the connection can be logged, and the exception that it ends with if it has one. -/
def Ended (connection : Connection) (lines : IoOutcome) : Prop :=
  connection.writable (systemEvent .info "CLIENT_DISCONNECTED"
      (CommandServer.disconnected connection.remoteAddress)) = true ∧
    match lines, connection.closing with
    | .failed message, _ => connection.Reported message
    | .done, .failed message => connection.Reported message
    | .done, .done => True

end Connection

namespace CommandServer

def drops (configuration : Configuration) (server : CommandServer) (messageId : JavaString) : Bool :=
  configuration.messageIdWhoseFirstAckShouldBeDropped == some messageId &&
    !server.intentionallyDroppedAcknowledgements.contains messageId

/-- Every line that is read is answered, and its answer logged when it is sent or dropped, until
the connection ends. -/
def LinesHandled (configuration : Configuration) (connection : Connection) :
    CommandServer → List ReceivedLine → Prop
  | _, [] => connection.Ended connection.reading
  | server, line :: rest =>
    if JavaString.isBlank line.call.jsonMessage then LinesHandled configuration connection server rest
    else Answered configuration server line.call ∧
      if drops configuration server (respondent configuration server line.call) then
        line.call.writes (.ofString "ACK_DROPPED_FOR_TEST") = true ∧ connection.Ended .done
      else match line.sending with
        | .failed message => connection.Ended (.failed message)
        | .done => line.call.writes (.ofString "ACK_SENT") = true ∧
          LinesHandled configuration connection (runOn (handleLine configuration line) server).2 rest

/-- The log can be written at the start of the connection, for its lines and at its end. -/
def Handled (configuration : Configuration) (server : CommandServer) (connection : Connection) : Prop :=
  let event := systemEvent .info "CLIENT_CONNECTED" (connected connection.remoteAddress)
  match connection.accepting with
  | .failed message => connection.Reported message
  | .done => connection.writable event = true ∧
    match connection.opening with
    | .failed message => connection.Ended (.failed message)
    | .done => LinesHandled configuration connection (server.logged event) connection.lines

def Survivable (configuration : Configuration) : CommandServer → List Connection → Prop
  | _, [] => True
  | server, connection :: rest => Handled configuration server connection ∧
    Survivable configuration (runOn (serveConnection configuration connection) server).2 rest

variable {configuration : Configuration} {server : CommandServer} {call : Call}

theorem shouldDrop_runOn (messageId : JavaString) :
    (runOn (shouldDropAcknowledgement configuration messageId) server).1 =
      .ok (drops configuration server messageId) := by
  rw [shouldDropAcknowledgement, drops]
  by_cases configured : configuration.messageIdWhoseFirstAckShouldBeDropped = some messageId
  · rw [if_pos configured, runOn_bind_ok (runOn_get server)]
    by_cases dropped : messageId ∈ server.intentionallyDroppedAcknowledgements
    · simp [configured, dropped]
    · have known : server.intentionallyDroppedAcknowledgements.contains messageId = false := by
        simpa using dropped
      simp only [known, configured, Bool.false_eq_true, if_false, beq_self_eq_true, Bool.not_false,
        Bool.and_true]
      rfl
  · simp [configured]

theorem effect_dropped (verdict : Verdict) :
    (effect call server verdict).intentionallyDroppedAcknowledgements =
      server.intentionallyDroppedAcknowledgements := by
  unfold effect
  split
  · split
    · dsimp only
      split
      · split
        · unfold AcknowledgementCache.store
          split <;> rfl
        · rfl
      · rfl
    · rfl
  · rfl

theorem processCommand_drops (messageId : JavaString) :
    drops configuration (runOn (processCommand configuration call) server).2 messageId =
      drops configuration server messageId := by
  have same := congrArg intentionallyDroppedAcknowledgements
    (@processCommand_core configuration call server)
  have kept : (runOn (processCommand configuration call) server).2.intentionallyDroppedAcknowledgements =
      server.intentionallyDroppedAcknowledgements := same.trans (effect_dropped _)
  rw [drops, drops, kept]

theorem log_sayable {level : AuditLevel} {eventType : String} {details : JavaString}
    {acknowledgement : CommandAcknowledgement} (sayable : Sayable acknowledgement)
    (typed : JavaString.isBlank (.ofString eventType) = false)
    (plain : JavaString.trim (.ofString eventType) = .ofString eventType)
    (encodable : JavaString.isEncodable (.ofString eventType) = true)
    (told : JavaString.isBlank details = false)
    (written : JavaString.isEncodable (JavaString.trim details) = true) :
    (runOn (AuditLogger.logCommandEvent call.writes level eventType acknowledgement.messageId
        acknowledgement.commandType acknowledgement.status.name acknowledgement.previousState
        acknowledgement.currentState details) server).1 =
      if call.writes (.ofString eventType) then .ok () else .error (.runtime writeError) := by
  rw [logCommandEvent_runOn typed told]
  have known := sayable.2
  simp only [List.forall_mem_cons] at known
  simp only [Call.writable, AuditEvent.isEncodable, commandEvent, List.all_cons, plain, encodable, known,
    written, List.all_nil, Bool.and_true, Bool.true_and]
  split <;> rfl

theorem handleLine_blank {line : ReceivedLine} (blank : JavaString.isBlank line.call.jsonMessage = true) :
    runOn (handleLine configuration line) server = (.ok true, server) := by
  rw [handleLine, if_pos blank]
  rfl

theorem handleLine_unanswered {line : ReceivedLine}
    (blank : ¬JavaString.isBlank line.call.jsonMessage = true)
    (unanswered : ¬Answered configuration server line.call) :
    ∃ message, (runOn (handleLine configuration line) server).1 = .error (.runtime message) := by
  obtain ⟨message, thrown⟩ := processCommand_unanswered unanswered
  refine ⟨message, ?_⟩
  rw [handleLine, if_neg blank, runOn_bind]
  generalize runOn (processCommand configuration line.call) server = outcome at thrown
  obtain ⟨result, reached⟩ := outcome
  cases thrown
  rfl

theorem handleLine_answered {line : ReceivedLine} (answerable : server.Answerable)
    (blank : ¬JavaString.isBlank line.call.jsonMessage = true)
    (answered : Answered configuration server line.call) :
    (runOn (handleLine configuration line) server).1 =
      if drops configuration server (respondent configuration server line.call) then
        if line.call.writes (.ofString "ACK_DROPPED_FOR_TEST") then .ok false
        else .error (.runtime writeError)
      else match line.sending with
        | .failed message => .error (.io message)
        | .done => if line.call.writes (.ofString "ACK_SENT") then .ok true
          else .error (.runtime writeError) := by
  obtain ⟨acknowledgement, done, told⟩ := processCommand_answered answered
  obtain ⟨sayable, id⟩ := told answerable
  have dropping := (@processCommand_drops configuration server line.call
    acknowledgement.messageId).trans (by rw [id])
  rw [handleLine, if_neg blank, runOn_bind]
  generalize runOn (processCommand configuration line.call) server = outcome at done dropping
  obtain ⟨result, reached⟩ := outcome
  cases done
  simp only at dropping ⊢
  have decided := @shouldDrop_runOn configuration reached acknowledgement.messageId
  rw [dropping] at decided
  rw [runOn_bind]
  generalize runOn (shouldDropAcknowledgement configuration acknowledgement.messageId) reached =
    decision at decided
  obtain ⟨result, later⟩ := decision
  cases decided
  simp only
  cases drops configuration server (respondent configuration server line.call) with
  | true =>
    have logged := @log_sayable later line.call .warning "ACK_DROPPED_FOR_TEST"
      (.ofString "The first acknowledgement was intentionally dropped to test retry behavior.")
      acknowledgement sayable (by decide) (by decide) (by decide) (by decide) (by decide +kernel)
    rw [if_pos rfl, if_pos rfl, runOn_bind]
    generalize runOn (AuditLogger.logCommandEvent line.call.writes .warning "ACK_DROPPED_FOR_TEST"
      acknowledgement.messageId acknowledgement.commandType acknowledgement.status.name
      acknowledgement.previousState acknowledgement.currentState _) later = outcome at logged ⊢
    obtain ⟨result, final⟩ := outcome
    simp only at logged
    subst logged
    cases line.call.writes (.ofString "ACK_DROPPED_FOR_TEST") <;> rfl
  | false =>
    have logged := fun state => @log_sayable state line.call .info "ACK_SENT" acknowledgement.message
      acknowledgement sayable (by decide) (by decide) (by decide) sayable.1
      (sayable.2 _ (by simp))
    rw [if_neg Bool.false_ne_true, if_neg Bool.false_ne_true, runOn_bind, sendAcknowledgement]
    cases line.sending with
    | failed message =>
      rfl
    | done =>
      have sent := logged later
      rw [IoOutcome.perform, runOn_bind_ok (runOn_pure () later)]
      generalize runOn (AuditLogger.logCommandEvent line.call.writes .info "ACK_SENT"
        acknowledgement.messageId acknowledgement.commandType acknowledgement.status.name
        acknowledgement.previousState acknowledgement.currentState acknowledgement.message) later =
        outcome at sent ⊢
      obtain ⟨result, final⟩ := outcome
      simp only at sent
      subst sent
      cases line.call.writes (.ofString "ACK_SENT") <;> rfl

theorem keeps_log {writes : JavaString → Bool} {level : AuditLevel} {eventType : String}
    {messageId commandType status previousState currentState details : JavaString} :
    Keeps Answerable (AuditLogger.logCommandEvent writes level eventType messageId commandType status
      previousState currentState details) := by
  intro server answerable
  unfold AuditLogger.logCommandEvent
  split
  · unfold AuditLogger.log
    split
    · exact answerable.of_core rfl
    · exact answerable
  · exact answerable

theorem keeps_perform (outcome : IoOutcome) : Keeps Answerable outcome.perform := by
  cases outcome with
  | done => exact Keeps.pure ()
  | failed message => exact Keeps.throw _

theorem keeps_shouldDrop (messageId : JavaString) :
    Keeps Answerable (shouldDropAcknowledgement configuration messageId) := by
  unfold shouldDropAcknowledgement
  split
  · refine Keeps.bind Keeps.get fun server => ?_
    split
    · exact Keeps.pure false
    · exact Keeps.bind (Keeps.modify fun _ answerable => answerable) fun _ => Keeps.pure true
  · exact Keeps.pure false

theorem keeps_handleLine (line : ReceivedLine) : Keeps Answerable (handleLine configuration line) := by
  unfold handleLine
  split
  · exact Keeps.pure true
  · refine Keeps.bind (fun _ => Answerable.processCommand) fun acknowledgement => ?_
    refine Keeps.bind (keeps_shouldDrop _) fun dropped => ?_
    split
    · exact Keeps.bind keeps_log fun _ => Keeps.pure false
    · exact Keeps.bind (Keeps.bind (keeps_perform _) fun _ => keeps_log) fun _ => Keeps.pure true

theorem keeps_handleLines (reading : IoOutcome) (lines : List ReceivedLine) :
    Keeps Answerable (handleLines configuration reading lines) := by
  induction lines with
  | nil => exact keeps_perform reading
  | cons line rest ih =>
    refine Keeps.bind (keeps_handleLine line) fun goesOn => ?_
    split
    · exact ih
    · exact Keeps.pure ()

theorem keeps_serveConnection (connection : Connection) :
    Keeps Answerable (serveConnection configuration connection) := by
  unfold serveConnection handleClient
  refine Keeps.tryCatch (Keeps.bind (keeps_perform _) fun _ => Keeps.bind keeps_log fun _ =>
    Keeps.tryFinally (Keeps.bind (keeps_perform _) fun _ =>
      Keeps.bind (keeps_handleLines _ _) fun _ => keeps_perform _) keeps_log) fun error => ?_
  cases error with
  | io message => exact keeps_log
  | commandValidation message => exact Keeps.throw _
  | runtime message => exact Keeps.throw _

theorem log_ok_iff {connection : Connection} {level : AuditLevel} {eventType : String}
    {details : JavaString} (typed : JavaString.isBlank (.ofString eventType) = false) :
    (runOn (AuditLogger.logSystemEvent connection.writes level eventType details) server).1 = .ok () ↔
      JavaString.isBlank details = false ∧
        connection.writable (systemEvent level eventType details) = true := by
  rw [AuditLogger.logSystemEvent]
  cases told : JavaString.isBlank details with
  | true => simp [AuditLogger.logCommandEvent, AuditEvent.create, typed, told]
  | false =>
    rw [log_runOn typed told, Connection.writable, systemEvent]
    split
    · next written => simp [written]
    · next failed => simp [failed]

theorem told_disconnected (remoteAddress : JavaString) :
    JavaString.isBlank (disconnected remoteAddress) = false :=
  JavaString.isBlank_append (JavaString.isBlank_append (by decide) _) _

theorem told_connected (remoteAddress : JavaString) :
    JavaString.isBlank (connected remoteAddress) = false :=
  JavaString.isBlank_append (JavaString.isBlank_append (by decide) _) _

def Tolerated (connection : Connection) (result : Except JavaException Unit) : Prop :=
  connection.writable (systemEvent .info "CLIENT_DISCONNECTED"
      (disconnected connection.remoteAddress)) = true ∧
    match result with
    | .ok _ => True
    | .error (.io message) => connection.Reported message
    | .error _ => False

theorem attended_ok_iff {connection : Connection} {body : Serving Unit} :
    (runOn (tryCatch (tryFinally body (AuditLogger.logSystemEvent connection.writes .info
        "CLIENT_DISCONNECTED" (disconnected connection.remoteAddress))) fun
      | .io message => AuditLogger.logSystemEvent connection.writes .error "CLIENT_CONNECTION_ERROR"
          (message.getD [])
      | error => throw error) server).1 = .ok () ↔ Tolerated connection (runOn body server).1 := by
  rw [runOn_tryCatch, runOn_tryFinally]
  generalize runOn body server = outcome
  obtain ⟨result, reached⟩ := outcome
  have closed := @log_runOn connection.writes .info "CLIENT_DISCONNECTED" [] [] [] [] []
    (disconnected connection.remoteAddress) (by decide) (told_disconnected _) reached
  unfold Tolerated
  simp only [AuditLogger.logSystemEvent, closed]
  by_cases written : connection.writable (systemEvent .info "CLIENT_DISCONNECTED"
    (disconnected connection.remoteAddress)) = true
  · have logged := written
    rw [Connection.writable, systemEvent] at logged
    simp only [if_pos logged, written, true_and]
    cases result with
    | ok value => simp
    | error error =>
      cases error with
      | io message => exact log_ok_iff (by decide)
      | commandValidation message => simp
      | runtime message => simp
  · have failed := written
    rw [Connection.writable, systemEvent] at failed
    simp only [if_neg failed, written]
    simp

theorem lines_tolerated {connection : Connection} (answerable : server.Answerable)
    (lines : List ReceivedLine) :
    Tolerated connection (runOn (do
        handleLines configuration connection.reading lines
        connection.closing.perform) server).1 ↔
      LinesHandled configuration connection server lines := by
  have ends : ∀ (outcome : IoOutcome) (server : CommandServer),
      Tolerated connection (runOn (do outcome.perform; connection.closing.perform) server).1 ↔
        connection.Ended outcome := by
    intro outcome server
    cases outcome <;> cases closing : connection.closing <;>
      simp [Tolerated, Connection.Ended, IoOutcome.perform, closing]
  induction lines generalizing server with
  | nil => exact ends connection.reading server
  | cons line rest ih =>
    have cut : runOn (do
        handleLines configuration connection.reading (line :: rest)
        connection.closing.perform) server =
      match runOn (handleLine configuration line) server with
      | (.ok true, reached) => runOn (do
          handleLines configuration connection.reading rest
          connection.closing.perform) reached
      | (.ok false, reached) => runOn connection.closing.perform reached
      | (.error error, reached) => (.error error, reached) := by
      rw [handleLines, bind_assoc, runOn_bind]
      generalize runOn (handleLine configuration line) server = outcome
      obtain ⟨error | _ | _, reached⟩ := outcome <;> rfl
    rw [cut, LinesHandled]
    by_cases blank : JavaString.isBlank line.call.jsonMessage = true
    · rw [handleLine_blank blank, if_pos blank]
      exact ih answerable
    · rw [if_neg blank]
      by_cases answered : Answered configuration server line.call
      · have result := handleLine_answered answerable blank answered
        have later := ih (@keeps_handleLine configuration line server answerable)
        generalize runOn (handleLine configuration line) server = outcome at result later ⊢
        obtain ⟨result, reached⟩ := outcome
        simp only at result later ⊢
        subst result
        simp only [answered, true_and]
        by_cases dropped : drops configuration server (respondent configuration server line.call) = true
        · simp only [if_pos dropped]
          cases line.call.writes (.ofString "ACK_DROPPED_FOR_TEST") with
          | true =>
            simp only [if_true, true_and]
            exact ends .done reached
          | false => simp [Tolerated]
        · simp only [if_neg dropped]
          cases line.sending with
          | failed message => exact ends (.failed message) reached
          | done =>
            cases line.call.writes (.ofString "ACK_SENT") with
            | true => simpa only [if_true, true_and] using later
            | false => simp [Tolerated]
      · obtain ⟨message, thrown⟩ := handleLine_unanswered blank answered
        generalize runOn (handleLine configuration line) server = outcome at thrown ⊢
        obtain ⟨result, reached⟩ := outcome
        cases thrown
        simp [Tolerated, answered]

theorem serveConnection_ok_iff {connection : Connection} (answerable : server.Answerable) :
    (runOn (serveConnection configuration connection) server).1 = .ok () ↔
      Handled configuration server connection := by
  unfold Handled
  cases accepting : connection.accepting with
  | failed message =>
    have thrown : runOn (do
        connection.accepting.perform
        handleClient configuration connection) server = (.error (.io message), server) := by
      rw [accepting, IoOutcome.perform]
      rfl
    rw [serveConnection, runOn_tryCatch, thrown]
    exact log_ok_iff (by decide)
  | done =>
    have logged := @log_runOn connection.writes .info "CLIENT_CONNECTED" [] [] [] [] []
      (connected connection.remoteAddress) (by decide) (told_connected _) server
    rw [serveConnection, accepting, IoOutcome.perform, pure_bind, handleClient, runOn_tryCatch,
      runOn_bind, AuditLogger.logSystemEvent, logged]
    by_cases written : connection.writable (systemEvent .info "CLIENT_CONNECTED"
      (connected connection.remoteAddress)) = true
    · have condition := written
      rw [Connection.writable, systemEvent] at condition
      simp only [if_pos condition, written, true_and]
      rw [← runOn_tryCatch]
      refine attended_ok_iff.trans ?_
      cases opening : connection.opening with
      | failed message =>
        rw [IoOutcome.perform, runOn_bind_error (runOn_throw _ _)]
        rfl
      | done =>
        have known : (server.logged (systemEvent .info "CLIENT_CONNECTED"
            (connected connection.remoteAddress))).Answerable :=
          Answerable.of_core answerable rfl
        exact lines_tolerated known connection.lines
    · have condition := written
      rw [Connection.writable, systemEvent] at condition
      simp only [if_neg condition, written]
      simp

theorem start_ok_iff (answerable : server.Answerable) (connections : List Connection) :
    (runOn (start configuration connections) server).1 = .ok () ↔
      Survivable configuration server connections := by
  induction connections generalizing server with
  | nil => simp [start, Survivable]
  | cons connection rest ih =>
    have handled := @serveConnection_ok_iff configuration server connection answerable
    have later := ih (@keeps_serveConnection configuration connection server answerable)
    rw [start, Survivable, runOn_bind, ← handled]
    generalize runOn (serveConnection configuration connection) server = outcome at later ⊢
    obtain ⟨error | value, reached⟩ := outcome
    · simp
    · simpa using later

theorem answered_always (writes : call.writes = fun _ => true) :
    Answered configuration server call ↔ ∀ message,
      verdict configuration server call = .invalid message →
        JavaString.isEncodable (JavaString.trim message) = true := by
  have typed : JavaString.isEncodable (JavaString.trim (.ofString "INVALID_COMMAND")) = true := by decide
  unfold Answered
  split
  · next message known =>
    have empty : JavaString.isEncodable (JavaString.trim []) = true := by decide
    simp [Call.writable, writes, AuditEvent.isEncodable, invalidCommand, systemEvent, commandEvent,
      typed, known, empty]
  · next valid =>
    simp only [writes, or_true, true_iff]
    exact fun message known => absurd known (valid message)

/-- The server answers a line, and its accept loop goes on, under these conditions on what can be
logged, and under no others. -/
theorem survives_iff (configuration : Configuration) :
    (∀ server call, (∃ acknowledgement,
        (runOn (processCommand configuration call) server).1 = .ok acknowledgement) ↔
      Answered configuration server call) ∧
    ∀ connections, (runOn (start configuration connections) .initial).1 = .ok () ↔
      Survivable configuration .initial connections :=
  ⟨fun _ _ => processCommand_ok_iff, start_ok_iff .initial⟩

def lonelyLine : JavaString := .ofString "\x7b\"\\ud800\":1\x7d"

def lonelyTree : Json := .object [([0xD800], .integer 1)]

def lonelyConfiguration : Configuration where
  platform := .ofTables [(lonelyLine, lonelyTree)] []
  limits := .default
  messageIdWhoseFirstAckShouldBeDropped := none

def lonelyCall : Call := ⟨lonelyLine, startClock, startClock, fun _ => true⟩

def lonelyConnection : Connection where
  accepting := .done
  remoteAddress := .ofString "/127.0.0.1:50000"
  opening := .done
  lines := [⟨lonelyCall, .done⟩]
  reading := .done
  closing := .done
  writes _ := true

/-- It ends the server, though every event that can be encoded can be written. -/
theorem lonely_surrogate_ends_server :
    (¬∃ acknowledgement, (runOn (processCommand lonelyConfiguration lonelyCall) .initial).1 =
      .ok acknowledgement) ∧
    (runOn (start lonelyConfiguration [lonelyConnection]) .initial).1 ≠ .ok () := by
  have invalid (server) : verdict lonelyConfiguration server lonelyCall =
      .invalid (JavaString.ofString "Unknown command field: " ++ [0xD800]) := rfl
  have lonely : JavaString.isEncodable (JavaString.trim
      (JavaString.ofString "Unknown command field: " ++ [0xD800])) = false := by
    decide
  have unanswered (server) : ¬Answered lonelyConfiguration server lonelyCall := by
    intro answered
    have encodable := (answered_always rfl).mp answered _ (invalid server)
    rw [lonely] at encodable
    cases encodable
  constructor
  · rw [processCommand_ok_iff]
    exact unanswered .initial
  · intro survived
    have handled := ((start_ok_iff .initial [lonelyConnection]).mp survived).1.2
    exact unanswered _ handled.1

end CommandServer

end CareerProjects.CommandControl
