import CareerProjects.Library.Serializers
import CareerProjects.CommandControl.Authentication
import CareerProjects.Library.Throwing

/-! The control station's commands: their time stamps, canonical text and signature in
Python, and what the server makes of the line it is sent. -/

namespace CareerProjects.CommandControl
open Library PythonString

structure PythonDict where
  items : List (PythonString × PythonValue)
  distinct : (PythonValue.dict items).distinct = true

def PythonDict.empty : PythonDict := ⟨[], rfl⟩

namespace ControlStation

def targetId : PythonString := .ofString "UNIT-01"

def utcTimestamp (now : Datetime) : PythonString :=
  now.isoformat.replace (.ofString "+00:00") (.ofString "Z")

/-- The command dictionary before it is signed. -/
structure Command where
  messageId : PythonString
  commandType : PythonString
  targetId : PythonString
  sequenceNumber : Int
  timestamp : PythonString
  payload : PythonDict

/-- The exact text that is signed by Java and Python. -/
def createCanonicalMessage (command : Command) : PythonString :=
  List.intercalate [10] [command.messageId, command.commandType, command.targetId,
    ofUnits (JavaString.integer command.sequenceNumber), command.timestamp,
    (PythonValue.dict command.payload.items).dumps true]

/-- A lowercase hexadecimal signature; nothing where the text cannot be encoded. -/
def calculateSignature (platform : Platform) (command : Command) : Option PythonString :=
  (encode (createCanonicalMessage command)).map fun bytes =>
    ofUnits (MessageAuthenticator.formatHex (platform.hmacSha256 bytes))

structure SignedCommand extends Command where
  signature : PythonString

def createCommand (platform : Platform) (now : Datetime) (messageId commandType : PythonString)
    (sequenceNumber : Int) (payload : PythonDict) : Option SignedCommand :=
  let command := {
    messageId := messageId
    commandType := commandType
    targetId := targetId
    sequenceNumber := sequenceNumber
    timestamp := utcTimestamp now
    payload := payload }
  (calculateSignature platform command).map fun signature => { command with signature := signature }

def SignedCommand.value (command : SignedCommand) : PythonValue :=
  .dict [(.ofString "message_id", .str command.messageId),
    (.ofString "command_type", .str command.commandType),
    (.ofString "target_id", .str command.targetId),
    (.ofString "sequence_number", .int command.sequenceNumber),
    (.ofString "timestamp", .str command.timestamp),
    (.ofString "payload", .dict command.payload.items),
    (.ofString "signature", .str command.signature)]

/-- The line of the command, without its line break. -/
def SignedCommand.commandJson (command : SignedCommand) : JavaString :=
  units (command.value.dumps false)

def secondOfDay (now : Datetime) : Nat := now.hour * 3600 + now.minute * 60 + now.second

def fraction (now : Datetime) : JavaString :=
  if now.microsecond = 0 then [] else 46 :: JavaString.padded 6 now.microsecond

theorem units_utcTimestamp (now : Datetime) :
    units (utcTimestamp now) = Instant.dateTimeText now.date (secondOfDay now) (fraction now) := by
  have date : Instant.yearText now.date.year = JavaString.padded 4 now.date.year.natAbs := by
    have years := now.yearRange
    rw [Instant.yearText, if_neg (by omega), if_pos (by omega)]
  have time : secondOfDay now / 3600 = now.hour ∧ secondOfDay now / 60 % 60 = now.minute ∧
      secondOfDay now % 60 = now.second := by
    have range := now.timeRange
    rw [secondOfDay]
    omega
  have zone : PythonString.ofString "+00:00" = 43 :: PythonString.ofString "00:00" := by decide
  have utc : PythonString.ofString "Z" = ofUnits [90] := by decide
  rw [utcTimestamp, Datetime.isoformat, zone, replace_suffix, units_append, utc, units_ofUnits,
    units_ofUnits, Instant.dateTimeText, date, time.1, time.2.1, time.2.2]
  · simp only [List.append_assoc, List.cons_append, fraction]
  · intro member
    obtain ⟨unit, inside, same⟩ := List.mem_map.mp member
    have bound := unit.toNat_lt
    have plus : unit.toNat = 43 := by
      rw [← Fin.val_inj, Fin.val_ofNat, Nat.mod_eq_of_lt (by omega)] at same
      exact same
    have digit : ∀ width n, unit ∉ JavaString.padded width n := by
      intro width n member
      have known := JavaString.isDigit_padded width n unit member
      simp [JavaString.isDigit, plus] at known
    have mark : ∀ other : UInt16, other.toNat ≠ 43 → unit ≠ other := by
      rintro other different rfl
      exact different plus
    split at inside <;>
      simp [digit, mark 45 (by decide), mark 84 (by decide), mark 58 (by decide),
        mark 46 (by decide)] at inside

theorem toEpochDay_bounds (now : Datetime) :
    -1000000 ≤ now.date.toEpochDay ∧ now.date.toEpochDay ≤ 4000000 := by
  obtain ⟨firstMonth, lastMonth, firstDay, lastDay⟩ := now.dateValid
  have years := now.yearRange
  have month : now.date.day ≤ 31 := by
    simp only [LocalDate.lengthOfMonth] at lastDay
    split at lastDay
    · split at lastDay <;> omega
    · split at lastDay <;> omega
  simp only [LocalDate.toEpochDay]
  split_ifs <;> omega

theorem parse_utcTimestamp (now : Datetime) : ∃ instant : Instant,
    Instant.parse (units (utcTimestamp now)) = some instant ∧
      instant.seconds = now.date.toEpochDay * 86400 + secondOfDay now ∧
      instant.nanos = now.microsecond * 1000 := by
  have micros := now.microsecondRange
  have time := now.timeRange
  have years := now.yearRange
  have days := toEpochDay_bounds now
  have short : secondOfDay now < 86400 := by
    rw [secondOfDay]
    omega
  have fractional : Instant.parseFraction (fraction now ++ [90]) = (now.microsecond * 1000, [90]) := by
    rw [fraction]
    split
    · simp_all [Instant.parseFraction]
    · exact Instant.parseFraction_padded (by omega) (by omega) (by omega) []
  have parsed := Instant.parse_dateTimeText now.dateValid (by omega) short fractional
  have whole : ((now.date.toEpochDay * 86400 + secondOfDay now) * 1000000000 +
      (now.microsecond * 1000 : Nat)) / 1000000000 =
        now.date.toEpochDay * 86400 + secondOfDay now := by omega
  have rest : (((now.date.toEpochDay * 86400 + secondOfDay now) * 1000000000 +
      (now.microsecond * 1000 : Nat)) % 1000000000).toNat = now.microsecond * 1000 := by omega
  refine ⟨⟨now.date.toEpochDay * 86400 + secondOfDay now, now.microsecond * 1000, by omega, by omega⟩,
    ?_, rfl, rfl⟩
  rw [units_utcTimestamp, parsed, Instant.ofTotal]
  simp only [whole, rest]
  rw [dif_pos (by omega)]
  rfl

theorem fraction_eq_iff (now : Datetime) :
    Instant.fractionText (now.microsecond * 1000) = fraction now ↔
      now.microsecond = 0 ∨ now.microsecond % 1000 ≠ 0 := by
  have micros := now.microsecondRange
  rw [fraction, Instant.fractionText]
  by_cases zero : now.microsecond = 0
  · simp [zero]
  · rw [if_neg (by omega), if_neg zero]
    by_cases millis : now.microsecond % 1000 = 0
    · have short : (JavaString.padded 3 (now.microsecond * 1000 / 1000000)).length = 3 :=
        JavaString.length_padded (by omega) (by omega)
      have long : (JavaString.padded 6 now.microsecond).length = 6 :=
        JavaString.length_padded (by omega) (by omega)
      rw [if_pos (by omega)]
      constructor
      · intro same
        have lengths := congrArg List.length same
        rw [List.length_cons, List.length_cons, short, long] at lengths
        omega
      · omega
    · rw [if_neg (by omega), if_pos (by omega), Nat.mul_div_cancel _ (by omega)]
      simp [millis]

theorem toString_utcTimestamp (now : Datetime) {instant : Instant}
    (parsed : Instant.parse (units (utcTimestamp now)) = some instant) :
    instant.toString = units (utcTimestamp now) ↔
      now.microsecond = 0 ∨ now.microsecond % 1000 ≠ 0 := by
  obtain ⟨known, read, seconds, nanos⟩ := parse_utcTimestamp now
  obtain rfl := Option.some.inj (read.symm.trans parsed)
  have short : secondOfDay now < 86400 := by
    have time := now.timeRange
    rw [secondOfDay]
    omega
  have day : known.seconds / 86400 = now.date.toEpochDay := by omega
  have time : (known.seconds % 86400).toNat = secondOfDay now := by omega
  rw [Instant.toString, day, time, LocalDate.ofEpochDay_toEpochDay now.dateValid, nanos,
    units_utcTimestamp, ← fraction_eq_iff]
  simp only [Instant.dateTimeText, List.append_cancel_left_eq, List.cons.injEq, true_and,
    List.append_cancel_right_eq]

def lines (command : Command) : List JavaString :=
  [units command.messageId, units command.commandType, units command.targetId,
    JavaString.integer command.sequenceNumber, units command.timestamp,
    pythonText (.dict command.payload.items)]

def serverLines (command : CommandMessage) : List JavaString :=
  [command.messageId, command.commandType.name, command.targetId,
    JavaString.integer command.sequenceNumber, command.timestamp.toString,
    MessageAuthenticator.payloadJson command]

theorem units_canonical (command : Command) :
    units (createCanonicalMessage command) = JavaString.join 10 (lines command) := by
  have newline : units [10] = [10] := rfl
  rw [createCanonicalMessage, units_intercalate newline]
  simp only [List.map_cons, List.map_nil, units_ofUnits, lines, pythonText]

/-- The fields of the root that the reader gives for the line. -/
def SignedCommand.fields (command : SignedCommand) : List (JavaString × Json) :=
  [(.ofString "message_id", .text (units command.messageId)),
    (.ofString "command_type", .text (units command.commandType)),
    (.ofString "target_id", .text (units command.targetId)),
    (.ofString "sequence_number", .integer command.sequenceNumber),
    (.ofString "timestamp", .text (units command.timestamp)),
    (.ofString "payload", (PythonValue.dict command.payload.items).received),
    (.ofString "signature", .text (units command.signature))]

theorem received_value (command : SignedCommand) : command.value.received = .object command.fields := by
  have names : ∀ name : String, name ∈ ["message_id", "command_type", "target_id", "sequence_number",
      "timestamp", "payload", "signature"] →
        units (PythonString.ofString name) = JavaString.ofString name := by
    decide
  simp only [SignedCommand.value, PythonValue.received, PythonValue.receivedEntries,
    SignedCommand.fields]
  rw [names _ (by decide), names _ (by decide), names _ (by decide), names _ (by decide),
    names _ (by decide), names _ (by decide), names _ (by decide)]

end ControlStation

namespace CommandMessageParser

theorem create_ok {messageId targetId signature : JavaString} {commandType : CommandType}
    {sequenceNumber : Int} {inLong : sequenceNumber ≤ 9223372036854775807} {timestamp : Instant}
    {payload : List (JavaString × Json)} {payloadSorted : Sorted payload} {command : CommandMessage}
    (created : CommandMessage.create messageId commandType targetId sequenceNumber inLong timestamp
      payload payloadSorted signature = .ok command) :
    command.timestamp = timestamp ∧ command.payload = payload ∧
      command.signature = lowerCase (JavaString.trim signature) := by
  obtain ⟨_, -, created⟩ := ok_of_bind created
  obtain ⟨_, -, created⟩ := ok_of_bind created
  split at created
  · obtain ⟨signatureText, signed, created⟩ := ok_of_bind created
    split at created
    · cases created
      exact ⟨rfl, rfl, congrArg lowerCase signatureText.2⟩
    · cases created
  · cases created

theorem parseRoot_ok {rootNode : List (JavaString × Json)} {command : CommandMessage}
    (parsed : parseRoot rootNode = .ok command) :
    ∃ timestampText signature payload, requireText rootNode "timestamp" = .ok timestampText ∧
      Instant.parse timestampText = some command.timestamp ∧
      requireSignature rootNode = .ok signature ∧
      command.signature = lowerCase (JavaString.trim signature) ∧
      parsePayload rootNode = .ok payload ∧ command.payload = payload.1 := by
  obtain ⟨_, -, parsed⟩ := ok_of_bind parsed
  obtain ⟨messageId, -, parsed⟩ := ok_of_bind parsed
  obtain ⟨commandTypeText, -, parsed⟩ := ok_of_bind parsed
  obtain ⟨targetId, -, parsed⟩ := ok_of_bind parsed
  obtain ⟨sequenceNumber, -, parsed⟩ := ok_of_bind parsed
  obtain ⟨timestampText, stamped, parsed⟩ := ok_of_bind parsed
  obtain ⟨signature, signed, parsed⟩ := ok_of_bind parsed
  obtain ⟨commandType, -, parsed⟩ := ok_of_bind parsed
  obtain ⟨timestamp, timed, parsed⟩ := ok_of_bind parsed
  obtain ⟨payload, loaded, parsed⟩ := ok_of_bind parsed
  have read : Instant.parse timestampText = some timestamp := by
    rw [parseTimestamp] at timed
    split at timed
    · next instant known =>
      cases timed
      exact known
    · cases timed
  split at parsed
  · next created =>
    cases parsed
    obtain ⟨sameTime, samePayload, sameSignature⟩ := create_ok created
    rw [← sameTime] at read
    exact ⟨timestampText, signature, payload, stamped, read, signed, sameSignature, loaded,
      samePayload⟩
  · cases parsed

theorem requireText_ok {rootNode : List (JavaString × Json)} {fieldName : String}
    {value text : JavaString} (field : get rootNode fieldName = some (.text value))
    (required : requireText rootNode fieldName = .ok text) : text = JavaString.trim value := by
  rw [requireText, field] at required
  simp only at required
  split at required
  · cases required
  · cases required
    rfl

end CommandMessageParser

theorem isHex_bounds {unit : UInt16} (hex : isHex unit = true) :
    32 < unit.toNat ∧ ¬(65 ≤ unit.toNat ∧ unit.toNat ≤ 90) := by
  simp only [isHex, JavaString.isDigit, Bool.or_eq_true, Bool.and_eq_true, decide_eq_true_eq] at hex
  omega

theorem lowerCase_hex {text : JavaString} (hex : ∀ unit ∈ text, isHex unit = true) :
    lowerCase text = text := by
  have same : ∀ unit ∈ text, (if 65 ≤ unit.toNat && unit.toNat ≤ 90 then unit + 32 else unit) = unit := by
    intro unit member
    rw [if_neg]
    simpa using (isHex_bounds (hex unit member)).2
  rw [lowerCase, List.map_congr_left same, List.map_id']

namespace ControlStation

variable {platform : Platform} {now : Datetime} {messageId commandType : PythonString}
  {sequenceNumber : Int} {payload : PythonDict} {command : SignedCommand} {accepted : CommandMessage}

theorem createCommand_some
    (created : createCommand platform now messageId commandType sequenceNumber payload = some command) :
    command.timestamp = utcTimestamp now ∧ command.payload = payload ∧
      units command.signature = MessageAuthenticator.formatHex (platform.hmacSha256
        (JavaString.getBytes (JavaString.join 10 (lines command.toCommand)))) := by
  simp only [createCommand, calculateSignature, Option.map_map, Option.map_eq_some_iff] at created
  obtain ⟨bytes, encoded, rfl⟩ := created
  refine ⟨rfl, rfl, ?_⟩
  rw [Function.comp_apply, units_ofUnits, encode_eq_getBytes encoded, units_canonical]

theorem accepted_fields (reads : platform.readTree command.commandJson = some command.value.received)
    (parsed : CommandMessageParser.parse platform.readTree command.commandJson = .ok accepted) :
    CommandMessageParser.parseRoot command.fields = .ok accepted := by
  rw [CommandMessageParser.parse] at parsed
  split at parsed
  · cases parsed
  · rwa [reads, received_value] at parsed

theorem accepted_timestamp
    (created : createCommand platform now messageId commandType sequenceNumber payload = some command)
    (accepts : CommandMessageParser.parseRoot command.fields = .ok accepted) :
    Instant.parse (units (utcTimestamp now)) = some accepted.timestamp := by
  obtain ⟨timestampText, _, _, stamped, read, -⟩ := CommandMessageParser.parseRoot_ok accepts
  have field : CommandMessageParser.get command.fields "timestamp" =
      some (.text (units command.timestamp)) := rfl
  have printable : ∀ unit ∈ units (utcTimestamp now), 32 < unit.toNat := by
    have fractional : ∀ unit ∈ fraction now, Instant.isDateUnit unit = true := by
      rw [fraction]
      split
      · simp
      · exact List.forall_mem_cons.mpr ⟨rfl, Instant.isDateUnit_padded⟩
    rw [units_utcTimestamp]
    exact fun unit member =>
      (Instant.isDateUnit_bounds (Instant.isDateUnit_dateTimeText fractional unit member)).1
  have text := CommandMessageParser.requireText_ok field stamped
  rw [(createCommand_some created).1, JavaString.trim_printable printable] at text
  rwa [text] at read

theorem accepted_payload (accepts : CommandMessageParser.parseRoot command.fields = .ok accepted) :
    MessageAuthenticator.payloadJson accepted = jacksonText (.dict command.payload.items) := by
  obtain ⟨_, _, payload, -, -, -, -, loaded, same⟩ := CommandMessageParser.parseRoot_ok accepts
  have field : CommandMessageParser.get command.fields "payload" =
      some (.object (PythonValue.receivedEntries command.payload.items)) := rfl
  rw [CommandMessageParser.parsePayload, field] at loaded
  cases loaded
  rw [MessageAuthenticator.payloadJson, same, jacksonText, PythonValue.received, Json.toMap]

theorem verify_of_lines
    (created : createCommand platform now messageId commandType sequenceNumber payload = some command)
    (accepts : CommandMessageParser.parseRoot command.fields = .ok accepted)
    (same : lines command.toCommand = serverLines accepted) :
    MessageAuthenticator.verify platform accepted = true := by
  obtain ⟨_, signature, _, -, -, signed, final, -⟩ := CommandMessageParser.parseRoot_ok accepts
  obtain ⟨-, -, digest⟩ := createCommand_some created
  obtain ⟨text, required, signed⟩ := ok_of_bind signed
  have field : CommandMessageParser.get command.fields "signature" =
      some (.text (units command.signature)) := rfl
  have hex : ∀ unit ∈ units command.signature, isHex unit = true := by
    have signature := MessageAuthenticator.isSignature_formatHex
      (platform.digestLength (JavaString.getBytes (JavaString.join 10 (lines command.toCommand))))
    rw [isSignature, Bool.and_eq_true, List.all_eq_true, ← digest] at signature
    exact signature.2
  have trimmed : JavaString.trim (units command.signature) = units command.signature :=
    JavaString.trim_printable fun unit member => (isHex_bounds (hex unit member)).1
  rw [CommandMessageParser.requireText_ok field required, trimmed, lowerCase_hex hex] at signed
  have kept : accepted.signature = units command.signature := by
    simp only at signed
    split at signed
    · cases signed
      rw [final, trimmed, lowerCase_hex hex]
    · cases signed
  have canonical : MessageAuthenticator.createCanonicalMessage accepted =
      JavaString.join 10 (lines command.toCommand) := by
    rw [same]
    rfl
  rw [MessageAuthenticator.verify, MessageAuthenticator.calculateSignatureBytes, canonical, kept, digest,
    MessageAuthenticator.parseHex_formatHex, beq_self_eq_true]

/-- For every time: the server prints the station's time stamp as the station signed it, and
every command that is signed then and arrives with its other lines as they were is authentic, if
and only if the microseconds are zero or do not make up whole milliseconds. -/
theorem timestamp_signed_alike (now : Datetime) :
    ((Instant.parse (units (utcTimestamp now))).map Instant.toString = some (units (utcTimestamp now)) ∧
      ∀ (platform : Platform) (messageId commandType : PythonString) (sequenceNumber : Int)
        (payload : PythonDict) (command : SignedCommand) (accepted : CommandMessage),
        createCommand platform now messageId commandType sequenceNumber payload = some command →
        platform.readTree command.commandJson = some command.value.received →
        CommandMessageParser.parse platform.readTree command.commandJson = .ok accepted →
        (lines command.toCommand).eraseIdx 4 = (serverLines accepted).eraseIdx 4 →
        MessageAuthenticator.verify platform accepted = true) ↔
    (now.microsecond = 0 ∨ now.microsecond % 1000 ≠ 0) := by
  obtain ⟨instant, parsed, -⟩ := parse_utcTimestamp now
  have printed := toString_utcTimestamp now parsed
  rw [parsed, Option.map_some, Option.some.injEq, printed]
  constructor
  · exact fun known => known.1
  · intro known
    refine ⟨known, ?_⟩
    intro platform messageId commandType sequenceNumber payload command accepted created reads accepts
      others
    have fields := accepted_fields reads accepts
    refine verify_of_lines created fields ?_
    have stamp : accepted.timestamp.toString = units command.timestamp := by
      have read := accepted_timestamp created fields
      rw [parsed] at read
      rw [← Option.some.inj read, (createCommand_some created).1]
      exact printed.mpr known
    simp only [lines, serverLines, List.eraseIdx_cons_succ, List.eraseIdx_cons_zero] at others ⊢
    simp_all

def sampleTime (microsecond : Nat) (range : microsecond < 1000000) : Datetime where
  date := ⟨2026, 1, 1⟩
  hour := 0
  minute := 0
  second := 0
  microsecond := microsecond
  dateValid := by decide
  yearRange := by decide
  timeRange := by decide
  microsecondRange := range

def sampleCommand (now : Datetime) (payload : PythonDict) (digest : List UInt8) : SignedCommand where
  messageId := .ofString "CMD-1"
  commandType := .ofString "START_SYSTEM"
  targetId := targetId
  sequenceNumber := 1
  timestamp := utcTimestamp now
  payload := payload
  signature := ofUnits (MessageAuthenticator.formatHex digest)

def sampleText (timestamp payload : String) : JavaString :=
  JavaString.join 10 [.ofString "CMD-1", .ofString "START_SYSTEM", .ofString "UNIT-01", [49],
    .ofString timestamp, .ofString payload]

/-- The reader knows the line of the command, and the digests are those of two texts. -/
def samplePlatform (command : SignedCommand) (signed verified : JavaString × List UInt8) : Platform :=
  .ofTables [(command.commandJson, command.value.received)]
    [(JavaString.getBytes signed.1, signed.2), (JavaString.getBytes verified.1, verified.2)]

def sampleAccepted (nanos : Nat) (range : nanos < 1000000000) (payload : List (JavaString × Json))
    (sorted : Sorted payload) (digest : List UInt8)
    (hex : isSignature (MessageAuthenticator.formatHex digest) = true) : CommandMessage where
  messageId := .ofString "CMD-1"
  commandType := .startSystem
  targetId := .ofString "UNIT-01"
  sequenceNumber := 1
  timestamp := ⟨1767225600, nanos, range, newYear.range⟩
  payload := payload
  signature := MessageAuthenticator.formatHex digest
  messageIdTrimmed := by decide
  targetIdTrimmed := by decide
  sequenceNumberRange := firstNumber_range
  payloadSorted := sorted
  signatureHex := hex

def millisecondTime : Datetime := sampleTime 123000 (by decide)

def microsecondsDigest : List UInt8 :=
  [0xdf, 0x1d, 0xa7, 0x65, 0x51, 0x29, 0x9d, 0xcc, 0x6c, 0xa0, 0xdc, 0x5c, 0x65, 0xfd, 0x2b,
    0x9a, 0x8a, 0x62, 0x75, 0x14, 0xc6, 0x23, 0xe4, 0x9c, 0x9d, 0x93, 0x78, 0x49, 0x6c, 0x15,
    0x33, 0x96]

def millisecondsDigest : List UInt8 :=
  [0x95, 0x9a, 0xd7, 0xa5, 0xfe, 0xe5, 0xdc, 0x74, 0xbf, 0xa3, 0x6f, 0x97, 0xd9, 0xa8, 0x52,
    0x43, 0x8a, 0x78, 0xb7, 0x89, 0x08, 0x20, 0x70, 0xc8, 0xc3, 0x31, 0xbb, 0xc9, 0xe6, 0x4c,
    0xfc, 0xd3]

def millisecondCommand : SignedCommand := sampleCommand millisecondTime .empty microsecondsDigest

def millisecondPlatform : Platform :=
  samplePlatform millisecondCommand
    (sampleText "2026-01-01T00:00:00.123000Z" "\x7b\x7d", microsecondsDigest)
    (sampleText "2026-01-01T00:00:00.123Z" "\x7b\x7d", millisecondsDigest)

def millisecondAccepted : CommandMessage :=
  sampleAccepted 123000000 (by decide) [] noEntries_sorted microsecondsDigest (by decide)

set_option maxRecDepth 50000 in
/-- The server prints the time stamp without its last three zeros, and refuses the command. -/
theorem timestamp_signed_differently :
    units (utcTimestamp millisecondTime) = .ofString "2026-01-01T00:00:00.123000Z" ∧
      (Instant.parse (units (utcTimestamp millisecondTime))).map Instant.toString =
        some (.ofString "2026-01-01T00:00:00.123Z") ∧
      (Instant.parse (units (utcTimestamp millisecondTime))).map Instant.toString ≠
        some (units (utcTimestamp millisecondTime)) ∧
      createCommand millisecondPlatform millisecondTime (.ofString "CMD-1")
        (.ofString "START_SYSTEM") 1 ⟨[], rfl⟩ = some millisecondCommand ∧
      millisecondPlatform.readTree millisecondCommand.commandJson =
        some millisecondCommand.value.received ∧
      CommandMessageParser.parse millisecondPlatform.readTree millisecondCommand.commandJson =
        .ok millisecondAccepted ∧
      (lines millisecondCommand.toCommand).eraseIdx 4 = (serverLines millisecondAccepted).eraseIdx 4 ∧
      MessageAuthenticator.verify millisecondPlatform millisecondAccepted = false := by
  refine ⟨by decide +kernel, by decide +kernel, by decide +kernel, by rfl, by rfl, by rfl,
    by decide +kernel, by decide +kernel⟩

end ControlStation

end CareerProjects.CommandControl
