import CareerProjects.Library.Instant
import CareerProjects.Library.Json

/-! Command messages and their parser. The JSON reader is a parameter; everything the
parser itself checks is here, in its order and with its messages. -/

namespace CareerProjects.CommandControl
open Library

inductive CommandType where
  | startSystem
  | activateSystem
  | stopSystem
  | enterSafeMode
  | resetSystem
  | shutdownSystem
  deriving DecidableEq

namespace CommandType

def name : CommandType → JavaString
  | .startSystem => .ofString "START_SYSTEM"
  | .activateSystem => .ofString "ACTIVATE_SYSTEM"
  | .stopSystem => .ofString "STOP_SYSTEM"
  | .enterSafeMode => .ofString "ENTER_SAFE_MODE"
  | .resetSystem => .ofString "RESET_SYSTEM"
  | .shutdownSystem => .ofString "SHUTDOWN_SYSTEM"

def values : List CommandType :=
  [.startSystem, .activateSystem, .stopSystem, .enterSafeMode, .resetSystem, .shutdownSystem]

def valueOf (text : JavaString) : Option CommandType := values.find? (·.name == text)

theorem name_injective : Function.Injective name := by
  intro a b same
  cases a <;> cases b <;> first | rfl | exact absurd same (by decide)

theorem newline_not_mem_name (commandType : CommandType) : 10 ∉ commandType.name := by
  cases commandType <;> decide

end CommandType

inductive RemoteUnitState where
  | offline
  | standby
  | active
  | safeMode
  deriving DecidableEq

def RemoteUnitState.name : RemoteUnitState → JavaString
  | .offline => .ofString "OFFLINE"
  | .standby => .ofString "STANDBY"
  | .active => .ofString "ACTIVE"
  | .safeMode => .ofString "SAFE_MODE"

def isHex (unit : UInt16) : Bool := JavaString.isDigit unit || (97 ≤ unit.toNat && unit.toNat ≤ 102)

/-- `toLowerCase`, as far as it matters: no other unit turns into one of `[0-9a-f]`. -/
def lowerCase (text : JavaString) : JavaString :=
  text.map fun unit => if 65 ≤ unit.toNat && unit.toNat ≤ 90 then unit + 32 else unit

def isSignature (text : JavaString) : Bool := text.length == 64 && text.all isHex

/-- An authenticated command. The payload is a map: a list sorted by key. -/
structure CommandMessage where
  messageId : JavaString
  commandType : CommandType
  targetId : JavaString
  sequenceNumber : Int
  timestamp : Instant
  payload : List (JavaString × Json)
  signature : JavaString
  messageIdTrimmed : JavaString.trim messageId = messageId
  targetIdTrimmed : JavaString.trim targetId = targetId
  sequenceNumberRange : 1 ≤ sequenceNumber ∧ sequenceNumber ≤ 9223372036854775807
  payloadSorted : Sorted payload
  signatureHex : isSignature signature = true

namespace CommandMessage

def requireText (value : JavaString) (fieldName : String) :
    Except JavaString {text : JavaString // text = JavaString.trim value} :=
  if JavaString.isBlank value then .error (.ofString fieldName ++ .ofString " cannot be blank")
  else .ok ⟨JavaString.trim value, rfl⟩

/-- The constructor; its exceptions are the messages of `IllegalArgumentException`. -/
def create (messageId : JavaString) (commandType : CommandType) (targetId : JavaString)
    (sequenceNumber : Int) (inLong : sequenceNumber ≤ 9223372036854775807) (timestamp : Instant)
    (payload : List (JavaString × Json)) (payloadSorted : Sorted payload)
    (signature : JavaString) : Except JavaString CommandMessage := do
  let messageId ← requireText messageId "messageId"
  let targetId ← requireText targetId "targetId"
  if positive : 1 ≤ sequenceNumber then
    let signatureText ← requireText signature "signature"
    if hex : isSignature (lowerCase signatureText) = true then
      .ok {
        messageId := messageId
        commandType := commandType
        targetId := targetId
        sequenceNumber := sequenceNumber
        timestamp := timestamp
        payload := payload
        signature := lowerCase signatureText
        messageIdTrimmed := by rw [messageId.2, JavaString.trim_trim]
        targetIdTrimmed := by rw [targetId.2, JavaString.trim_trim]
        sequenceNumberRange := ⟨positive, inLong⟩
        payloadSorted := payloadSorted
        signatureHex := hex }
    else .error (.ofString "signature must contain exactly 64 hexadecimal characters")
  else .error (.ofString "sequenceNumber must be greater than zero")

end CommandMessage

namespace CommandMessageParser

def allowedFields : List JavaString :=
  [.ofString "message_id", .ofString "command_type", .ofString "target_id",
    .ofString "sequence_number", .ofString "timestamp", .ofString "payload",
    .ofString "signature"]

/-- A field of the root object; a field that is null counts as absent. -/
def get (rootNode : List (JavaString × Json)) (fieldName : String) : Option Json :=
  match rootNode.find? (·.1 == .ofString fieldName) with
  | some (_, .null) => none
  | some (_, node) => some node
  | none => none

def validateUnknownFields (rootNode : List (JavaString × Json)) : Except JavaString Unit :=
  match rootNode.find? (fun entry => !allowedFields.contains entry.1) with
  | some (fieldName, _) => .error (.ofString "Unknown command field: " ++ fieldName)
  | none => .ok ()

def requireText (rootNode : List (JavaString × Json)) (fieldName : String) :
    Except JavaString JavaString :=
  match get rootNode fieldName with
  | none => .error (.ofString "Missing required field: " ++ .ofString fieldName)
  | some (.text value) =>
    if JavaString.trim value = [] then
      .error (.ofString "Field '" ++ .ofString fieldName ++ .ofString "' cannot be blank.")
    else .ok (JavaString.trim value)
  | some _ => .error (.ofString "Field '" ++ .ofString fieldName ++ .ofString "' must contain text.")

def requireSignature (rootNode : List (JavaString × Json)) : Except JavaString JavaString := do
  let signature := lowerCase (← requireText rootNode "signature")
  if isSignature signature then .ok signature
  else .error (.ofString "Field 'signature' must contain exactly 64 hexadecimal characters.")

def requirePositiveLong (rootNode : List (JavaString × Json)) (fieldName : String) :
    Except JavaString {value : Int // value ≤ 9223372036854775807} :=
  match get rootNode fieldName with
  | none => .error (.ofString "Missing required field: " ++ .ofString fieldName)
  | some (.integer value) =>
    if inLong : -9223372036854775808 ≤ value ∧ value ≤ 9223372036854775807 then
      if value < 1 then
        .error (.ofString "Field '" ++ .ofString fieldName ++
          .ofString "' must be greater than zero.")
      else .ok ⟨value, inLong.2⟩
    else
      .error (.ofString "Field '" ++ .ofString fieldName ++
        .ofString "' exceeds the supported integer range.")
  | some _ =>
    .error (.ofString "Field '" ++ .ofString fieldName ++ .ofString "' must contain an integer.")

def parseCommandType (commandTypeText : JavaString) : Except JavaString CommandType :=
  match CommandType.valueOf commandTypeText with
  | some commandType => .ok commandType
  | none => .error (.ofString "Unsupported command type: " ++ commandTypeText)

def parseTimestamp (timestampText : JavaString) : Except JavaString Instant :=
  match Instant.parse timestampText with
  | some timestamp => .ok timestamp
  | none => .error (.ofString "Field 'timestamp' must contain a valid ISO-8601 UTC timestamp.")

def parsePayload (rootNode : List (JavaString × Json)) :
    Except JavaString {payload : List (JavaString × Json) // Sorted payload} :=
  match get rootNode "payload" with
  | none => .ok ⟨[], .nil⟩
  | some (.object entries) =>
    .ok ⟨sortedMap (Json.toMapEntries entries), sorted_sortedMap _⟩
  | some _ => .error (.ofString "Field 'payload' must contain a JSON object.")

def parseRoot (rootNode : List (JavaString × Json)) : Except JavaString CommandMessage := do
  validateUnknownFields rootNode
  let messageId ← requireText rootNode "message_id"
  let commandTypeText ← requireText rootNode "command_type"
  let targetId ← requireText rootNode "target_id"
  let sequenceNumber ← requirePositiveLong rootNode "sequence_number"
  let timestampText ← requireText rootNode "timestamp"
  let signature ← requireSignature rootNode
  let commandType ← parseCommandType commandTypeText
  let timestamp ← parseTimestamp timestampText
  let payload ← parsePayload rootNode
  match CommandMessage.create messageId commandType targetId sequenceNumber.1 sequenceNumber.2
    timestamp payload.1 payload.2 signature with
  | .ok command => .ok command
  | .error message => .error (.ofString "Command model validation failed: " ++ message)

/-- Parse one line, or the message of the `CommandValidationException`. The reader gives nothing
for malformed JSON. -/
def parse (readTree : JavaString → Option Json) (jsonMessage : JavaString) :
    Except JavaString CommandMessage :=
  if JavaString.isBlank jsonMessage then .error (.ofString "Command message cannot be blank.")
  else
    match readTree jsonMessage with
    | none => .error (.ofString "Malformed JSON command message.")
    | some (.object rootNode) => parseRoot rootNode
    | some _ => .error (.ofString "The command message must be a JSON object.")

end CommandMessageParser

def newYear : Instant := ⟨1767225600, 0, by decide, by decide⟩

theorem firstNumber_range : 1 ≤ (1 : Int) ∧ (1 : Int) ≤ 9223372036854775807 := by decide

theorem noEntries_sorted : Sorted ([] : List (JavaString × Json)) := .nil

end CareerProjects.CommandControl
