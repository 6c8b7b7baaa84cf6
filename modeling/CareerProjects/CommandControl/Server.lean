import CareerProjects.CommandControl.Authentication

/-! The command server: its state machine, replay protection, acknowledgement cache and
audit log, and the processing of one input line. -/

namespace CareerProjects.CommandControl
open Library

structure CommandResult where
  messageId : JavaString
  commandType : CommandType
  accepted : Bool
  previousState : RemoteUnitState
  currentState : RemoteUnitState
  message : JavaString
  deriving DecidableEq

namespace CommandProcessor

def accept (command : CommandMessage) (previousState currentState : RemoteUnitState)
    (message : String) : CommandResult :=
  ⟨command.messageId, command.commandType, true, previousState, currentState, .ofString message⟩

def reject (command : CommandMessage) (previousState : RemoteUnitState) (message : String) :
    CommandResult :=
  ⟨command.messageId, command.commandType, false, previousState, previousState, .ofString message⟩

def processFrom (required next : RemoteUnitState) (refusal message : String)
    (command : CommandMessage) (previousState : RemoteUnitState) : CommandResult :=
  if previousState ≠ required then reject command previousState refusal
  else accept command previousState next message

def processStartSystem : CommandMessage → RemoteUnitState → CommandResult :=
  processFrom .offline .standby "START_SYSTEM is allowed only while OFFLINE."
    "Remote unit initialized and entered standby mode."

def processActivateSystem : CommandMessage → RemoteUnitState → CommandResult :=
  processFrom .standby .active "ACTIVATE_SYSTEM is allowed only while STANDBY."
    "Remote unit entered active operation."

def processStopSystem : CommandMessage → RemoteUnitState → CommandResult :=
  processFrom .active .standby "STOP_SYSTEM is allowed only while ACTIVE."
    "Active operation stopped; remote unit returned to standby."

def processEnterSafeMode (command : CommandMessage) (previousState : RemoteUnitState) :
    CommandResult :=
  if previousState = .offline then
    reject command previousState "An offline remote unit cannot enter safe mode."
  else if previousState = .safeMode then
    reject command previousState "Remote unit is already in safe mode."
  else accept command previousState .safeMode "Remote unit entered safe mode."

def processResetSystem : CommandMessage → RemoteUnitState → CommandResult :=
  processFrom .safeMode .standby "RESET_SYSTEM is allowed only while in SAFE_MODE."
    "Safe-mode condition cleared; remote unit returned to standby."

def processShutdownSystem (command : CommandMessage) (previousState : RemoteUnitState) :
    CommandResult :=
  if previousState = .offline then
    reject command previousState "Remote unit is already offline."
  else accept command previousState .offline "Remote unit shut down successfully."

def process (command : CommandMessage) (previousState : RemoteUnitState) : CommandResult :=
  match command.commandType with
  | .startSystem => processStartSystem command previousState
  | .activateSystem => processActivateSystem command previousState
  | .stopSystem => processStopSystem command previousState
  | .enterSafeMode => processEnterSafeMode command previousState
  | .resetSystem => processResetSystem command previousState
  | .shutdownSystem => processShutdownSystem command previousState

end CommandProcessor

inductive AcknowledgementStatus where
  | accepted
  | rejected
  | invalid
  | unauthorized
  | securityRejected
  deriving DecidableEq

def AcknowledgementStatus.name : AcknowledgementStatus → JavaString
  | .accepted => .ofString "ACCEPTED"
  | .rejected => .ofString "REJECTED"
  | .invalid => .ofString "INVALID"
  | .unauthorized => .ofString "UNAUTHORIZED"
  | .securityRejected => .ofString "SECURITY_REJECTED"

structure CommandAcknowledgement where
  messageId : JavaString
  status : AcknowledgementStatus
  commandType : JavaString
  previousState : JavaString
  currentState : JavaString
  message : JavaString
  processedAt : JavaString
  deriving DecidableEq

namespace CommandAcknowledgement

def fromResult (now : Instant) (result : CommandResult) : CommandAcknowledgement :=
  ⟨result.messageId, if result.accepted then .accepted else .rejected, result.commandType.name,
    result.previousState.name, result.currentState.name, result.message, now.toString⟩

def unauthorized (now : Instant) (command : CommandMessage) (message : String)
    (currentState : RemoteUnitState) : CommandAcknowledgement :=
  ⟨command.messageId, .unauthorized, command.commandType.name, currentState.name,
    currentState.name, .ofString message, now.toString⟩

def securityRejected (now : Instant) (command : CommandMessage) (securityCode message : JavaString)
    (currentState : RemoteUnitState) : CommandAcknowledgement :=
  ⟨command.messageId, .securityRejected, command.commandType.name, currentState.name,
    currentState.name, securityCode ++ .ofString ": " ++ message, now.toString⟩

def invalid (now : Instant) (message : JavaString) (currentState : RemoteUnitState) :
    CommandAcknowledgement :=
  ⟨.ofString "UNKNOWN", .invalid, .ofString "UNKNOWN", currentState.name, currentState.name,
    message, now.toString⟩

end CommandAcknowledgement

inductive AuditLevel where
  | info
  | warning
  | security
  | error
  deriving DecidableEq

structure AuditEvent where
  level : AuditLevel
  eventType : JavaString
  messageId : JavaString
  commandType : JavaString
  status : JavaString
  previousState : JavaString
  currentState : JavaString
  details : JavaString
  deriving DecidableEq

namespace AuditEvent

/-- The constructor; its exceptions are the messages of `IllegalArgumentException`. -/
def create (level : AuditLevel) (eventType messageId commandType status previousState currentState
    details : JavaString) : Except JavaString AuditEvent :=
  if JavaString.isBlank eventType then .error (.ofString "eventType cannot be blank")
  else if JavaString.isBlank details then .error (.ofString "details cannot be blank")
  else .ok {
    level := level
    eventType := JavaString.trim eventType
    messageId := JavaString.trim messageId
    commandType := JavaString.trim commandType
    status := JavaString.trim status
    previousState := JavaString.trim previousState
    currentState := JavaString.trim currentState
    details := JavaString.trim details }

/-- The file is written by an encoder that reports surrogates without partner; JSON leaves them
as they are. -/
def isEncodable (event : AuditEvent) : Bool :=
  [event.eventType, event.messageId, event.commandType, event.status, event.previousState,
    event.currentState, event.details].all JavaString.isEncodable

end AuditEvent

inductive JavaException where
  | commandValidation (message : JavaString)
  | runtime (message : JavaString)
  | io (message : Option JavaString)
  deriving DecidableEq

structure ReplayLimits where
  maximumMessageAge : Duration
  futureClockSkew : Duration

def ReplayLimits.default : ReplayLimits := ⟨.ofSeconds 30, .ofSeconds 5⟩

structure Configuration where
  platform : Platform
  limits : ReplayLimits
  messageIdWhoseFirstAckShouldBeDropped : Option JavaString

structure CacheEntry where
  signature : JavaString
  acknowledgement : CommandAcknowledgement
  deriving DecidableEq

/-- A command that was passed to the processor, the clock reading of its security check and the
result. -/
structure Execution where
  command : CommandMessage
  clock : Instant
  result : CommandResult

/-- The state of the server. The executions are a history that no code reads. -/
structure CommandServer where
  currentState : RemoteUnitState
  processedMessageIds : List JavaString
  highestSequenceByTarget : JavaString → Int
  entries : JavaString → Option CacheEntry
  intentionallyDroppedAcknowledgements : List JavaString
  auditLog : List AuditEvent
  executions : List Execution

def CommandServer.initial : CommandServer := ⟨.offline, [], fun _ => 0, fun _ => none, [], [], []⟩

/-- One call of `processCommand`: the line, the readings of the two clocks, and which types of
event the audit log can be written with during the call. -/
structure Call where
  jsonMessage : JavaString
  clock : Instant
  now : Instant
  writes : JavaString → Bool

/-- Code of the server: it may throw, and what it did before that stays done. -/
abbrev Serving := ExceptT JavaException (StateM CommandServer)

namespace AuditLogger

def log (writes : JavaString → Bool) (event : AuditEvent) : Serving Unit := do
  if event.isEncodable && writes event.eventType then
    modify fun server => { server with auditLog := server.auditLog ++ [event] }
  else throw (.runtime (.ofString "Unable to write the audit event to logs/command_audit.log"))

def logCommandEvent (writes : JavaString → Bool) (level : AuditLevel) (eventType : String)
    (messageId commandType status previousState currentState details : JavaString) :
    Serving Unit := do
  match AuditEvent.create level (.ofString eventType) messageId commandType status previousState
    currentState details with
  | .ok event => log writes event
  | .error message => throw (.runtime message)

def logSystemEvent (writes : JavaString → Bool) (level : AuditLevel) (eventType : String)
    (details : JavaString) : Serving Unit :=
  logCommandEvent writes level eventType [] [] [] [] [] details

end AuditLogger

structure SecurityValidationResult where
  accepted : Bool
  code : JavaString
  message : JavaString
  deriving DecidableEq

namespace ReplayProtectionService

def accepted : SecurityValidationResult :=
  ⟨true, .ofString "ACCEPTED", .ofString "Command passed replay and timestamp validation."⟩

def rejected (code : String) (message : JavaString) : SecurityValidationResult :=
  ⟨false, .ofString code, message⟩

def validate (limits : ReplayLimits) (server : CommandServer) (command : CommandMessage)
    (currentTime : Instant) : Except JavaString SecurityValidationResult := do
  let oldestPermittedTimestamp ← currentTime.minus limits.maximumMessageAge
  let latestPermittedTimestamp ← currentTime.plus limits.futureClockSkew
  if command.timestamp.isBefore oldestPermittedTimestamp then
    .ok (rejected "EXPIRED_TIMESTAMP" (.ofString "Command timestamp is older than the permitted " ++
      JavaString.decimal limits.maximumMessageAge.toSeconds ++
      .ofString "-second message lifetime."))
  else if command.timestamp.isAfter latestPermittedTimestamp then
    .ok (rejected "FUTURE_TIMESTAMP" (.ofString "Command timestamp exceeds the permitted " ++
      JavaString.decimal limits.futureClockSkew.toSeconds ++
      .ofString "-second future clock tolerance."))
  else if server.processedMessageIds.contains command.messageId then
    .ok (rejected "DUPLICATE_MESSAGE_ID"
      (.ofString "The command message ID has already been processed."))
  else if command.sequenceNumber ≤ server.highestSequenceByTarget command.targetId then
    .ok (rejected "REPLAYED_SEQUENCE_NUMBER" (.ofString "Sequence number " ++
      JavaString.integer command.sequenceNumber ++
      .ofString " is not greater than the highest accepted sequence number " ++
      JavaString.integer (server.highestSequenceByTarget command.targetId) ++
      .ofString " for target " ++ command.targetId ++ .ofString "."))
  else .ok accepted

def record (command : CommandMessage) (server : CommandServer) : CommandServer :=
  { server with
    processedMessageIds := server.processedMessageIds ++ [command.messageId]
    highestSequenceByTarget :=
      Function.update server.highestSequenceByTarget command.targetId command.sequenceNumber }

def validateAndRecord (limits : ReplayLimits) (command : CommandMessage) (currentTime : Instant) :
    Serving SecurityValidationResult := do
  match validate limits (← get) command currentTime with
  | .error message => throw (.runtime message)
  | .ok result =>
    if result.accepted then modify (record command)
    return result

end ReplayProtectionService

namespace AcknowledgementCache

def store (messageId signature : JavaString) (acknowledgement : CommandAcknowledgement)
    (server : CommandServer) : CommandServer :=
  if (server.entries messageId).isSome then server
  else { server with
    entries := Function.update server.entries messageId (some ⟨signature, acknowledgement⟩) }

end AcknowledgementCache

namespace CommandServer

def execute (command : CommandMessage) (clock : Instant) (server : CommandServer) :
    CommandServer :=
  let result := CommandProcessor.process command server.currentState
  { server with
    currentState := result.currentState
    executions := server.executions ++ [⟨command, clock, result⟩] }

/-- An event about a command during which the unit keeps its state. -/
def logUnchanged (call : Call) (level : AuditLevel) (eventType : String)
    (command : CommandMessage) (status : String) (details : JavaString) : Serving Unit := do
  let state := (← get).currentState
  AuditLogger.logCommandEvent call.writes level eventType command.messageId
    command.commandType.name (.ofString status) state.name state.name details

/-- The end of the `try` block: security validation, execution, caching. -/
def validateAndExecute (configuration : Configuration) (call : Call) (command : CommandMessage) :
    Serving CommandAcknowledgement := do
  let securityResult ←
    ReplayProtectionService.validateAndRecord configuration.limits command call.clock
  if !securityResult.accepted then
    logUnchanged call .security "SECURITY_VALIDATION_REJECTED" command "SECURITY_REJECTED"
      (securityResult.code ++ .ofString ": " ++ securityResult.message)
    return .securityRejected call.now command securityResult.code securityResult.message
      (← get).currentState
  logUnchanged call .info "SECURITY_VALIDATION_PASSED" command "SECURITY_ACCEPTED"
    (.ofString "Replay and timestamp validation passed.")
  let result := CommandProcessor.process command (← get).currentState
  modify (execute command call.clock)
  let acknowledgement := CommandAcknowledgement.fromResult call.now result
  AuditLogger.logCommandEvent call.writes (if result.accepted then .info else .warning)
    (if result.accepted then "COMMAND_ACCEPTED" else "COMMAND_REJECTED") result.messageId
    result.commandType.name (if result.accepted then .ofString "ACCEPTED" else .ofString "REJECTED")
    result.previousState.name result.currentState.name result.message
  modify (AcknowledgementCache.store command.messageId command.signature acknowledgement)
  return acknowledgement

def answerKnown (call : Call) (command : CommandMessage) (entry : CacheEntry) :
    Serving CommandAcknowledgement := do
  if entry.signature = command.signature then
    let acknowledgement := entry.acknowledgement
    AuditLogger.logCommandEvent call.writes .info "IDEMPOTENT_RETRY" command.messageId
      command.commandType.name acknowledgement.status.name acknowledgement.previousState
      acknowledgement.currentState
      (.ofString "Cached acknowledgement returned without executing the command again.")
    return acknowledgement
  else
    logUnchanged call .security "MESSAGE_ID_COLLISION" command "SECURITY_REJECTED"
      (.ofString "The message ID was reused with different authenticated content.")
    return .securityRejected call.now command (.ofString "MESSAGE_ID_COLLISION")
      (.ofString "The message ID was previously used with different authenticated content.")
      (← get).currentState

def answer (configuration : Configuration) (call : Call) : Serving CommandAcknowledgement := do
  match CommandMessageParser.parse configuration.platform.readTree call.jsonMessage with
  | .error message => throw (.commandValidation message)
  | .ok command =>
    if !MessageAuthenticator.verify configuration.platform command then
      logUnchanged call .security "AUTHENTICATION_FAILED" command "UNAUTHORIZED"
        (.ofString "HMAC-SHA256 signature verification failed.")
      return .unauthorized call.now command "HMAC-SHA256 signature verification failed."
        (← get).currentState
    logUnchanged call .info "AUTHENTICATION_PASSED" command "AUTHENTICATED"
      (.ofString "HMAC-SHA256 signature verified.")
    match (← get).entries command.messageId with
    | some entry => answerKnown call command entry
    | none => validateAndExecute configuration call command

def recover (call : Call) : JavaException → Serving CommandAcknowledgement
  | .commandValidation message => do
    AuditLogger.logSystemEvent call.writes .warning "INVALID_COMMAND" message
    return .invalid call.now message (← get).currentState
  | .runtime message => do
    AuditLogger.logSystemEvent call.writes .error "COMMAND_PROCESSING_ERROR" message
    return .invalid call.now (.ofString "Unexpected command-processing failure.")
      (← get).currentState
  | .io message => throw (.io message)

def processCommand (configuration : Configuration) (call : Call) : Serving CommandAcknowledgement :=
  tryCatch (answer configuration call) (recover call)

end CommandServer

end CareerProjects.CommandControl
