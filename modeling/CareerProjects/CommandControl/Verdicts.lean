import CareerProjects.CommandControl.Server
import CareerProjects.CommandControl.ParserMessages

/-! What one call of `processCommand` does. The verdict on the line does not depend on the
audit log; the events that can be written then decide how far the call comes. -/

namespace CareerProjects.CommandControl
open Library

def Call.writable (call : Call) (event : AuditEvent) : Bool :=
  event.isEncodable && call.writes event.eventType

def writeError : JavaString := .ofString "Unable to write the audit event to logs/command_audit.log"

/-- An event about a command, its texts not yet trimmed. -/
def commandEvent (level : AuditLevel) (eventType : String)
    (messageId commandType status previousState currentState details : JavaString) : AuditEvent :=
  { level := level
    eventType := JavaString.trim (.ofString eventType)
    messageId := JavaString.trim messageId
    commandType := JavaString.trim commandType
    status := JavaString.trim status
    previousState := JavaString.trim previousState
    currentState := JavaString.trim currentState
    details := JavaString.trim details }

def systemEvent (level : AuditLevel) (eventType : String) (details : JavaString) : AuditEvent :=
  commandEvent level eventType [] [] [] [] [] details

def unchangedEvent (level : AuditLevel) (eventType : String) (state : RemoteUnitState)
    (command : CommandMessage) (status : String) (details : JavaString) : AuditEvent :=
  commandEvent level eventType command.messageId command.commandType.name (.ofString status)
    state.name state.name details

def CommandServer.logged (server : CommandServer) (event : AuditEvent) : CommandServer :=
  { server with auditLog := server.auditLog ++ [event] }

theorem log_runOn {writes : JavaString → Bool} {level : AuditLevel} {eventType : String}
    {messageId commandType status previousState currentState details : JavaString}
    (typed : JavaString.isBlank (.ofString eventType) = false)
    (detailed : JavaString.isBlank details = false) (server : CommandServer) :
    let event := commandEvent level eventType messageId commandType status previousState
      currentState details
    runOn (AuditLogger.logCommandEvent writes level eventType messageId commandType status
      previousState currentState details) server =
      if event.isEncodable && writes event.eventType then (.ok (), server.logged event)
      else (.error (.runtime writeError), server) := by
  simp only [AuditLogger.logCommandEvent, AuditEvent.create, typed, detailed, if_neg,
    Bool.false_eq_true, not_false_eq_true, AuditLogger.log]
  split
  · next written => exact (if_pos written).symm
  · next failed => exact (if_neg failed).symm

theorem logCommandEvent_runOn {call : Call} {level : AuditLevel} {eventType : String}
    {messageId commandType status previousState currentState details : JavaString}
    (typed : JavaString.isBlank (.ofString eventType) = false)
    (detailed : JavaString.isBlank details = false) (server : CommandServer) :
    let event := commandEvent level eventType messageId commandType status previousState
      currentState details
    runOn (AuditLogger.logCommandEvent call.writes level eventType messageId commandType status
      previousState currentState details) server =
      if call.writable event then (.ok (), server.logged event)
      else (.error (.runtime writeError), server) := log_runOn typed detailed server

theorem logUnchanged_runOn {call : Call} {level : AuditLevel} {eventType : String}
    {command : CommandMessage} {status : String} {details : JavaString}
    (typed : JavaString.isBlank (.ofString eventType) = false)
    (detailed : JavaString.isBlank details = false) (server : CommandServer) :
    let event := unchangedEvent level eventType server.currentState command status details
    runOn (CommandServer.logUnchanged call level eventType command status details) server =
      if call.writable event then (.ok (), server.logged event)
      else (.error (.runtime writeError), server) := by
  rw [CommandServer.logUnchanged, runOn_bind_ok (runOn_get server)]
  exact logCommandEvent_runOn typed detailed server

def authenticationFailed (state : RemoteUnitState) (command : CommandMessage) : AuditEvent :=
  unchangedEvent .security "AUTHENTICATION_FAILED" state command "UNAUTHORIZED"
    (.ofString "HMAC-SHA256 signature verification failed.")

def authenticationPassed (state : RemoteUnitState) (command : CommandMessage) : AuditEvent :=
  unchangedEvent .info "AUTHENTICATION_PASSED" state command "AUTHENTICATED"
    (.ofString "HMAC-SHA256 signature verified.")

def idempotentRetry (command : CommandMessage) (acknowledgement : CommandAcknowledgement) :
    AuditEvent :=
  commandEvent .info "IDEMPOTENT_RETRY" command.messageId command.commandType.name
    acknowledgement.status.name acknowledgement.previousState acknowledgement.currentState
    (.ofString "Cached acknowledgement returned without executing the command again.")

def messageIdCollision (state : RemoteUnitState) (command : CommandMessage) : AuditEvent :=
  unchangedEvent .security "MESSAGE_ID_COLLISION" state command "SECURITY_REJECTED"
    (.ofString "The message ID was reused with different authenticated content.")

def validationRejected (state : RemoteUnitState) (command : CommandMessage)
    (result : SecurityValidationResult) : AuditEvent :=
  unchangedEvent .security "SECURITY_VALIDATION_REJECTED" state command "SECURITY_REJECTED"
    (result.code ++ .ofString ": " ++ result.message)

def validationPassed (state : RemoteUnitState) (command : CommandMessage) : AuditEvent :=
  unchangedEvent .info "SECURITY_VALIDATION_PASSED" state command "SECURITY_ACCEPTED"
    (.ofString "Replay and timestamp validation passed.")

def commandProcessed (result : CommandResult) : AuditEvent :=
  commandEvent (if result.accepted then .info else .warning)
    (if result.accepted then "COMMAND_ACCEPTED" else "COMMAND_REJECTED") result.messageId
    result.commandType.name (if result.accepted then .ofString "ACCEPTED" else .ofString "REJECTED")
    result.previousState.name result.currentState.name result.message

def invalidCommand (message : JavaString) : AuditEvent :=
  systemEvent .warning "INVALID_COMMAND" message

def processingError (message : JavaString) : AuditEvent :=
  systemEvent .error "COMMAND_PROCESSING_ERROR" message

abbrev Loggable (text : JavaString) : Prop :=
  JavaString.isBlank text = false ∧ JavaString.isEncodable (JavaString.trim text) = true

theorem processFrom_message {required next : RemoteUnitState} {refusal message : String}
    (refused : Loggable (.ofString refusal)) (accepted : Loggable (.ofString message)) (command : CommandMessage)
    (state : RemoteUnitState) :
    Loggable (CommandProcessor.processFrom required next refusal message command state).message := by
  rw [CommandProcessor.processFrom]
  split
  · exact refused
  · exact accepted

theorem process_message (command : CommandMessage) (state : RemoteUnitState) :
    JavaString.isBlank (CommandProcessor.process command state).message = false ∧
      JavaString.isEncodable (JavaString.trim (CommandProcessor.process command state).message) =
        true := by
  unfold CommandProcessor.process
  split
  · exact processFrom_message (by decide +kernel) (by decide +kernel) command state
  · exact processFrom_message (by decide +kernel) (by decide +kernel) command state
  · exact processFrom_message (by decide +kernel) (by decide +kernel) command state
  · cases state <;> exact ⟨rfl, rfl⟩
  · exact processFrom_message (by decide +kernel) (by decide +kernel) command state
  · cases state <;> exact ⟨rfl, rfl⟩

/-- What the server decides about an authenticated command. -/
inductive Judgement where
  | retry (acknowledgement : CommandAcknowledgement)
  | collision
  | untimed (message : JavaString)
  | rejected (result : SecurityValidationResult)
  | accepted

/-- What the server decides about a line. -/
inductive Verdict where
  | invalid (message : JavaString)
  | unauthorized (command : CommandMessage)
  | authenticated (command : CommandMessage) (judgement : Judgement)

namespace CommandServer

def judge (configuration : Configuration) (server : CommandServer) (clock : Instant)
    (command : CommandMessage) : Judgement :=
  match server.entries command.messageId with
  | some entry =>
    if entry.signature = command.signature then .retry entry.acknowledgement else .collision
  | none =>
    match ReplayProtectionService.validate configuration.limits server command clock with
    | .error message => .untimed message
    | .ok result => if result.accepted then .accepted else .rejected result

def verdict (configuration : Configuration) (server : CommandServer) (call : Call) : Verdict :=
  match CommandMessageParser.parse configuration.platform.readTree call.jsonMessage with
  | .error message => .invalid message
  | .ok command =>
    if MessageAuthenticator.verify configuration.platform command then
      .authenticated command (judge configuration server call.clock command)
    else .unauthorized command

/-- Write one event and go on, or fail. -/
def audited (call : Call) (event : AuditEvent)
    (next : CommandServer → Except JavaException CommandAcknowledgement × CommandServer)
    (server : CommandServer) : Except JavaException CommandAcknowledgement × CommandServer :=
  if call.writable event then next (server.logged event)
  else (.error (.runtime writeError), server)

/-- How the `try` block goes on with an authenticated command. -/
def settle (call : Call) (command : CommandMessage) (server : CommandServer) :
    Judgement → Except JavaException CommandAcknowledgement × CommandServer
  | .retry acknowledgement =>
    server.audited call (idempotentRetry command acknowledgement) fun server =>
      (.ok acknowledgement, server)
  | .collision =>
    server.audited call (messageIdCollision server.currentState command) fun server =>
      (.ok (.securityRejected call.now command (.ofString "MESSAGE_ID_COLLISION")
        (.ofString "The message ID was previously used with different authenticated content.")
        server.currentState), server)
  | .untimed message => (.error (.runtime message), server)
  | .rejected result =>
    server.audited call (validationRejected server.currentState command result) fun server =>
      (.ok (.securityRejected call.now command result.code result.message server.currentState),
        server)
  | .accepted =>
    let recorded := ReplayProtectionService.record command server
    recorded.audited call (validationPassed server.currentState command) fun server =>
      let result := CommandProcessor.process command server.currentState
      let acknowledgement := CommandAcknowledgement.fromResult call.now result
      (execute command call.clock server).audited call (commandProcessed result) fun server =>
        (.ok acknowledgement,
          AcknowledgementCache.store command.messageId command.signature acknowledgement server)

/-- How the `try` block goes on after the verdict. -/
def proceed (call : Call) (server : CommandServer) :
    Verdict → Except JavaException CommandAcknowledgement × CommandServer
  | .invalid message => (.error (.commandValidation message), server)
  | .unauthorized command =>
    server.audited call (authenticationFailed server.currentState command) fun server =>
      (.ok (.unauthorized call.now command "HMAC-SHA256 signature verification failed."
        server.currentState), server)
  | .authenticated command judgement =>
    server.audited call (authenticationPassed server.currentState command) fun server =>
      settle call command server judgement

end CommandServer

theorem rejected_details {limits : ReplayLimits} {server : CommandServer}
    {command : CommandMessage} {clock : Instant} {result : SecurityValidationResult}
    (known : ReplayProtectionService.validate limits server command clock = .ok result)
    (refused : result.accepted = false) :
    JavaString.isBlank (result.code ++ .ofString ": " ++ result.message) = false := by
  have code : JavaString.isBlank result.code = false := by
    rw [ReplayProtectionService.validate] at known
    cases oldest : clock.minus limits.maximumMessageAge with
    | error message => simp [oldest, bind, Except.bind] at known
    | ok first =>
      cases latest : clock.plus limits.futureClockSkew with
      | error message => simp [oldest, latest, bind, Except.bind] at known
      | ok last =>
        simp only [oldest, latest, bind, Except.bind] at known
        split at known
        · cases known; rfl
        · split at known
          · cases known; rfl
          · split at known
            · cases known; rfl
            · split at known
              · cases known; rfl
              · cases known
                exact absurd refused (by simp [ReplayProtectionService.accepted])
  rw [List.append_assoc]
  exact JavaString.isBlank_append code _

namespace CommandServer

variable {configuration : Configuration} {call : Call}

theorem logCommandEvent_bind {level : AuditLevel} {eventType : String}
    {messageId commandType status previousState currentState details : JavaString}
    (typed : JavaString.isBlank (.ofString eventType) = false)
    (detailed : JavaString.isBlank details = false)
    (next : Unit → Serving CommandAcknowledgement) (server : CommandServer) :
    runOn (AuditLogger.logCommandEvent call.writes level eventType messageId commandType status
      previousState currentState details >>= next) server =
      server.audited call (commandEvent level eventType messageId commandType status previousState
        currentState details) fun server => runOn (next ()) server := by
  rw [runOn_bind, logCommandEvent_runOn typed detailed, audited]
  by_cases written : call.writable (commandEvent level eventType messageId commandType status
      previousState currentState details) = true
  · simp only [if_pos written]
  · simp only [if_neg written]

theorem logUnchanged_bind {level : AuditLevel} {eventType : String} {command : CommandMessage}
    {status : String} {details : JavaString}
    (typed : JavaString.isBlank (.ofString eventType) = false)
    (detailed : JavaString.isBlank details = false)
    (next : Unit → Serving CommandAcknowledgement) (server : CommandServer) :
    runOn (logUnchanged call level eventType command status details >>= next) server =
      server.audited call (unchangedEvent level eventType server.currentState command status
        details) fun server => runOn (next ()) server := by
  rw [runOn_bind, logUnchanged_runOn typed detailed, audited]
  by_cases written :
      call.writable (unchangedEvent level eventType server.currentState command status details) = true
  · simp only [if_pos written]
  · simp only [if_neg written]

@[simp] theorem logged_entries (server : CommandServer) (event : AuditEvent) :
    (server.logged event).entries = server.entries := rfl

@[simp] theorem logged_currentState (server : CommandServer) (event : AuditEvent) :
    (server.logged event).currentState = server.currentState := rfl

@[simp] theorem record_currentState (command : CommandMessage) (server : CommandServer) :
    (ReplayProtectionService.record command server).currentState = server.currentState := rfl

theorem audited_congr {event : AuditEvent} {server : CommandServer}
    {next next' : CommandServer → Except JavaException CommandAcknowledgement × CommandServer}
    (same : next (server.logged event) = next' (server.logged event)) :
    server.audited call event next = server.audited call event next' := by
  rw [audited, audited, same]

theorem answerKnown_runOn (command : CommandMessage) (entry : CacheEntry)
    (server : CommandServer) : runOn (answerKnown call command entry) server =
      settle call command server (if entry.signature = command.signature then
        .retry entry.acknowledgement else .collision) := by
  unfold answerKnown
  split
  · exact logCommandEvent_bind rfl rfl _ server
  · exact logUnchanged_bind rfl rfl _ server

theorem validateAndExecute_runOn (command : CommandMessage) (server : CommandServer) :
    runOn (validateAndExecute configuration call command) server =
      settle call command server
        (match ReplayProtectionService.validate configuration.limits server command call.clock with
          | .error message => .untimed message
          | .ok result => if result.accepted then .accepted else .rejected result) := by
  unfold validateAndExecute
  rw [runOn_bind]
  cases known : ReplayProtectionService.validate configuration.limits server command call.clock with
  | error message =>
    have thrown : runOn (ReplayProtectionService.validateAndRecord configuration.limits command
        call.clock) server = (.error (.runtime message), server) := by
      rw [ReplayProtectionService.validateAndRecord, runOn_bind_ok (runOn_get server), known]
      rfl
    rw [thrown]
    rfl
  | ok result =>
    cases verdict : result.accepted with
    | true =>
      have done : runOn (ReplayProtectionService.validateAndRecord configuration.limits command
          call.clock) server = (.ok result, ReplayProtectionService.record command server) := by
        rw [ReplayProtectionService.validateAndRecord, runOn_bind_ok (runOn_get server), known]
        simp only [verdict, if_true]
        rfl
      rw [done]
      simp only [verdict, Bool.not_true, Bool.false_eq_true, if_false, if_true]
      refine (logUnchanged_bind rfl rfl _ _).trans ?_
      unfold settle
      refine congrFun (congrArg (audited call _) (funext fun server => ?_)) _
      have typed : JavaString.isBlank (.ofString
          (if (CommandProcessor.process command server.currentState).accepted = true then
            "COMMAND_ACCEPTED" else "COMMAND_REJECTED")) = false := by
        split <;> rfl
      have detailed := (process_message command server.currentState).1
      rw [runOn_bind_ok (runOn_get server)]
      simp only
      rw [runOn_bind_ok (runOn_modify (execute command call.clock) server)]
      rw [logCommandEvent_bind typed detailed]
      rfl
    | false =>
      have done : runOn (ReplayProtectionService.validateAndRecord configuration.limits command
          call.clock) server = (.ok result, server) := by
        rw [ReplayProtectionService.validateAndRecord, runOn_bind_ok (runOn_get server), known]
        simp only [verdict, Bool.false_eq_true, if_false]
        rfl
      rw [done]
      have typed : JavaString.isBlank (.ofString "SECURITY_VALIDATION_REJECTED") = false := rfl
      simp only [verdict, Bool.not_false, if_true, Bool.false_eq_true, if_false]
      exact logUnchanged_bind typed (rejected_details known verdict) _ server

theorem answer_runOn (server : CommandServer) :
    runOn (answer configuration call) server =
      proceed call server (verdict configuration server call) := by
  unfold answer verdict
  cases CommandMessageParser.parse configuration.platform.readTree call.jsonMessage with
  | error message => rfl
  | ok command =>
    cases verified : MessageAuthenticator.verify configuration.platform command with
    | false =>
      simp only [verified, Bool.not_false, if_true, Bool.false_eq_true, if_false]
      exact logUnchanged_bind rfl rfl _ server
    | true =>
      simp only [verified, Bool.not_true, Bool.false_eq_true, if_false, if_true]
      simp only [proceed]
      refine (logUnchanged_bind rfl rfl _ server).trans (audited_congr ?_)
      rw [runOn_bind_ok (runOn_get _)]
      unfold judge
      simp only [logged_entries]
      cases server.entries command.messageId with
      | some entry => exact answerKnown_runOn command entry _
      | none => exact validateAndExecute_runOn command _

/-- An exception of the `try` block is written to the log, and becomes an answer if that
succeeds. -/
def recovered (call : Call) (event : AuditEvent) (message : JavaString) (server : CommandServer) :
    Except JavaException CommandAcknowledgement × CommandServer :=
  server.audited call event fun server => (.ok (.invalid call.now message server.currentState), server)

def handle (call : Call) :
    Except JavaException CommandAcknowledgement × CommandServer →
      Except JavaException CommandAcknowledgement × CommandServer
  | (.ok acknowledgement, server) => (.ok acknowledgement, server)
  | (.error (.commandValidation message), server) =>
    recovered call (invalidCommand message) message server
  | (.error (.runtime message), server) =>
    recovered call (processingError message)
      (.ofString "Unexpected command-processing failure.") server
  | (.error (.io message), server) => (.error (.io message), server)

theorem validate_error {limits : ReplayLimits} {server : CommandServer} {command : CommandMessage}
    {clock : Instant} {message : JavaString}
    (failed : ReplayProtectionService.validate limits server command clock = .error message) :
    message ∈ Instant.arithmeticMessages := by
  rw [ReplayProtectionService.validate] at failed
  cases oldest : clock.minus limits.maximumMessageAge with
  | error other =>
    simp only [oldest, bind, Except.bind] at failed
    cases failed
    exact Instant.minus_error oldest
  | ok first =>
    cases latest : clock.plus limits.futureClockSkew with
    | error other =>
      simp only [oldest, latest, bind, Except.bind] at failed
      cases failed
      exact Instant.plus_error latest
    | ok last =>
      simp only [oldest, latest, bind, Except.bind] at failed
      split at failed
      · cases failed
      · split at failed
        · cases failed
        · split at failed
          · cases failed
          · split at failed <;> cases failed

theorem judge_untimed {server : CommandServer} {clock : Instant} {command : CommandMessage}
    {message : JavaString} (known : judge configuration server clock command = .untimed message) :
    message ∈ Instant.arithmeticMessages := by
  unfold judge at known
  cases cached : server.entries command.messageId with
  | some entry =>
    simp only [cached] at known
    split at known <;> cases known
  | none =>
    cases validated : ReplayProtectionService.validate configuration.limits server command clock with
    | error other =>
      simp only [cached, validated] at known
      cases known
      exact validate_error validated
    | ok result =>
      simp only [cached, validated] at known
      split at known <;> cases known

theorem proceed_error {server reached : CommandServer} {error : JavaException}
    (thrown : proceed call server (verdict configuration server call) = (.error error, reached)) :
    (∃ message, error = .commandValidation message ∧ JavaString.isBlank message = false ∧
        verdict configuration server call = .invalid message) ∨
      ∃ message, error = .runtime message ∧ message ∈ writeError :: Instant.arithmeticMessages := by
  have audits : ∀ {event next} {server : CommandServer},
      (∀ error reached, next (server.logged event) = (.error error, reached) →
        ∃ message, error = .runtime message ∧ message ∈ writeError :: Instant.arithmeticMessages) →
      ∀ error reached, server.audited call event next = (.error error, reached) →
        ∃ message, error = .runtime message ∧
          message ∈ writeError :: Instant.arithmeticMessages := by
    intro event next server rest error reached thrown
    rw [audited] at thrown
    split at thrown
    · exact rest error reached thrown
    · cases thrown
      exact ⟨writeError, rfl, List.mem_cons_self⟩
  unfold verdict at thrown
  cases parsed : CommandMessageParser.parse configuration.platform.readTree call.jsonMessage with
  | error message =>
    simp only [parsed, proceed] at thrown
    cases thrown
    exact .inl ⟨message, rfl, CommandMessageParser.parse_message parsed, by simp [verdict, parsed]⟩
  | ok command =>
    refine .inr ?_
    simp only [parsed] at thrown
    split at thrown
    · simp only [proceed] at thrown
      refine audits (fun error reached thrown => ?_) error reached thrown
      cases judged : judge configuration server call.clock command with
      | untimed message =>
        simp only [judged, settle] at thrown
        cases thrown
        exact ⟨message, rfl, List.mem_cons_of_mem _ (judge_untimed judged)⟩
      | accepted =>
        simp only [judged, settle] at thrown
        refine audits (fun error reached thrown => ?_) error reached thrown
        refine audits (fun error reached thrown => ?_) error reached thrown
        cases thrown
      | _ =>
        simp only [judged, settle] at thrown
        refine audits (fun error reached thrown => ?_) error reached thrown
        cases thrown
    · simp only [proceed] at thrown
      refine audits (fun error reached thrown => ?_) error reached thrown
      cases thrown

theorem runtime_message : ∀ message ∈ writeError :: Instant.arithmeticMessages,
    JavaString.isBlank message = false ∧ JavaString.isEncodable (JavaString.trim message) = true := by
  decide +kernel

/-- One call does what its verdict says, and answers for what fails as far as it can be logged. -/
theorem processCommand_runOn (server : CommandServer) :
    runOn (processCommand configuration call) server =
      handle call (proceed call server (verdict configuration server call)) := by
  rw [processCommand, runOn_tryCatch, answer_runOn]
  cases outcome : proceed call server (verdict configuration server call) with
  | mk result reached =>
    cases result with
    | ok acknowledgement => rfl
    | error error =>
      rcases proceed_error outcome with ⟨message, rfl, detailed, -⟩ | ⟨message, rfl, known⟩
      · exact logCommandEvent_bind rfl detailed _ reached
      · exact logCommandEvent_bind rfl (runtime_message message known).1 _ reached

def core (server : CommandServer) : CommandServer := { server with auditLog := [] }

/-- What a call does to the rest of the server: nothing, unless an accepted command is recorded,
then executed, then cached, as far as the events in between can be written. -/
def effect (call : Call) (server : CommandServer) : Verdict → CommandServer
  | .authenticated command .accepted =>
    if call.writable (authenticationPassed server.currentState command) then
      let recorded := ReplayProtectionService.record command server
      if call.writable (validationPassed server.currentState command) then
        let result := CommandProcessor.process command server.currentState
        let executed := execute command call.clock recorded
        if call.writable (commandProcessed result) then
          AcknowledgementCache.store command.messageId command.signature
            (.fromResult call.now result) executed
        else executed
      else recorded
    else server
  | _ => server

@[simp] theorem core_logged (server : CommandServer) (event : AuditEvent) :
    (server.logged event).core = server.core := rfl

theorem handle_core
    (outcome : Except JavaException CommandAcknowledgement × CommandServer) :
    (handle call outcome).2.core = outcome.2.core := by
  obtain ⟨result, server⟩ := outcome
  cases result with
  | ok acknowledgement => rfl
  | error error =>
    cases error <;> simp only [handle, recovered, audited] <;> split <;> rfl

theorem store_core (messageId signature : JavaString) (acknowledgement : CommandAcknowledgement)
    {a b : CommandServer} (same : a.core = b.core) :
    (AcknowledgementCache.store messageId signature acknowledgement a).core =
      (AcknowledgementCache.store messageId signature acknowledgement b).core := by
  simp only [core, mk.injEq] at same
  obtain ⟨states, ids, sequences, entries, dropped, -, executions⟩ := same
  simp only [AcknowledgementCache.store, core, states, ids, sequences, entries, dropped, executions]
  split <;> simp [states, ids, sequences, entries, dropped, executions]

theorem proceed_core (server : CommandServer) (verdict : Verdict) :
    (proceed call server verdict).2.core = (effect call server verdict).core := by
  cases verdict with
  | invalid message => rfl
  | unauthorized command =>
    simp only [proceed, effect, audited]
    split <;> rfl
  | authenticated command judgement =>
    cases judgement with
    | accepted =>
      simp only [proceed, effect, settle, audited]
      split
      · split
        · next passed =>
          rw [if_pos (show call.writable (validationPassed server.currentState command) = true
            from passed)]
          split
          · next written =>
            rw [if_pos (show call.writable (commandProcessed (CommandProcessor.process command
              server.currentState)) = true from written)]
            exact store_core _ _ _ rfl
          · next failed =>
            rw [if_neg (show ¬call.writable (commandProcessed (CommandProcessor.process command
              server.currentState)) = true from failed)]
            rfl
        · next failed =>
          rw [if_neg (show ¬call.writable (validationPassed server.currentState command) = true
            from failed)]
          rfl
      · rfl
    | untimed message =>
      simp only [proceed, effect, settle, audited]
      split <;> rfl
    | _ =>
      simp only [proceed, effect, settle, audited]
      split
      · split <;> rfl
      · rfl

theorem processCommand_core (server : CommandServer) :
    (runOn (processCommand configuration call) server).2.core =
      (effect call server (verdict configuration server call)).core := by
  rw [processCommand_runOn, handle_core, proceed_core]

end CommandServer

end CareerProjects.CommandControl
