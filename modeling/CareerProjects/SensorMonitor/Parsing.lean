import CareerProjects.Library.Throwing
import CareerProjects.SensorMonitor.Model

/-! The parser of sensor messages with the exceptions that its steps may throw, and the messages that it
accepts. -/

namespace CareerProjects.SensorMonitor

open Library

/-- The exceptions of the JSON library, and the one that the parser throws itself. -/
inductive Exception
  | json (what : Bytes)
  | runtimeError (what : Bytes)
  deriving DecidableEq

/-- The parser of the JSON library: a value, or the text of its exception. A number token that fits is
an integer of 64 bits. -/
structure JsonLibrary where
  parse : Bytes → Except Bytes Json
  integer_range {message : Bytes} {json : Json} {name : Bytes} {value : ℤ} :
    parse message = .ok json → json.field name = some (.integer value) → -2 ^ 63 ≤ value ∧ value < 2 ^ 63
  unsigned_range {message : Bytes} {json : Json} {name : Bytes} {value : ℕ} :
    parse message = .ok json → json.field name = some (.unsigned value) → value < 2 ^ 64

namespace Json

def typeName : Json → Bytes
  | .null => ascii "null"
  | .boolean _ => ascii "boolean"
  | .integer _ | .unsigned _ | .float _ => ascii "number"
  | .string _ => ascii "string"
  | .array _ => ascii "array"
  | .object _ => ascii "object"

def contains (json : Json) (name : Bytes) : Bool := (json.field name).isSome

def element (json : Json) (name : Bytes) : Except Exception Json :=
  match json with
  | .object fields =>
    match fields.lookup name with
    | some value => .ok value
    | none => .error (.json (ascii "[json.exception.out_of_range.403] key '" ++ name ++ ascii "' not found"))
  | other =>
    .error (.json (ascii "[json.exception.type_error.304] cannot use at() with " ++ other.typeName))

def isString (json : Json) : Bool := json.string?.isSome

def isNumber (json : Json) : Bool := json.double?.isSome

def isNumberUnsigned : Json → Bool
  | .unsigned _ => true
  | _ => false

def isNumberInteger : Json → Bool
  | .integer _ | .unsigned _ => true
  | _ => false

def getString (json : Json) : Except Exception Bytes :=
  match json.string? with
  | some value => .ok value
  | none => .error (.json (ascii "[json.exception.type_error.302] type must be string, but is " ++ json.typeName))

def notNumber (json : Json) : Exception :=
  .json (ascii "[json.exception.type_error.302] type must be number, but is " ++ json.typeName)

def getDouble (json : Json) : Except Exception ℚ :=
  match json.double? with
  | some value => .ok value
  | none => .error json.notNumber

def getUint64 : Json → Except Exception UInt64
  | .integer value => .ok (.ofInt value)
  | .unsigned value => .ok (.ofNat value)
  | .float value => .ok (.ofInt (value.num.tdiv value.den))
  | other => .error other.notNumber

end Json

namespace SensorMessageParser

def copyFields (sensorId sensorType timestamp value unit sequenceNumber : Json) : Except Exception SensorReading := do
  let reading : SensorReading :=
    { sensorId := ← sensorId.getString
      sensorType := ← sensorType.getString
      timestamp := ← timestamp.getString
      value := ← value.getDouble
      unit := ← unit.getString
      sequenceNumber := ← sequenceNumber.getUint64 }
  if reading.sensorId = [] then
    throw (.runtimeError (ascii "The sensor_id field cannot be empty."))
  if reading.sensorType = [] then
    throw (.runtimeError (ascii "The sensor_type field cannot be empty."))
  return reading

def readMessage (parsedMessage : Json) : Except Exception SensorReading := do
  forM requiredFields fun fieldName =>
    unless parsedMessage.contains fieldName do
      throw (.runtimeError (ascii "Missing required field: " ++ fieldName))
  -- every field is there, so that `at` does not throw
  let sensorId ← parsedMessage.element (ascii "sensor_id")
  let sensorType ← parsedMessage.element (ascii "sensor_type")
  let timestamp ← parsedMessage.element (ascii "timestamp")
  let value ← parsedMessage.element (ascii "value")
  let unit ← parsedMessage.element (ascii "unit")
  let sequenceNumber ← parsedMessage.element (ascii "sequence_number")
  if !sensorId.isString || !sensorType.isString || !timestamp.isString || !unit.isString then
    throw (.runtimeError (ascii "One or more text fields contain an invalid type."))
  else if !value.isNumber then
    throw (.runtimeError (ascii "The value field must contain a number."))
  else if !sequenceNumber.isNumberUnsigned && !sequenceNumber.isNumberInteger then
    throw (.runtimeError (ascii "The sequence_number field must contain an integer."))
  else copyFields sensorId sensorType timestamp value unit sequenceNumber

def parse (library : JsonLibrary) (jsonMessage : Bytes) : Except Exception SensorReading :=
  tryCatch (do readMessage (← (library.parse jsonMessage).mapError .json)) fun error =>
    match error with
    | .json what => throw (.runtimeError (ascii "Invalid JSON message: " ++ what))
    | other => throw other

end SensorMessageParser

theorem forM_unless {ε α : Type} (test : α → Bool) (error : α → ε) (names : List α) :
    (forM names fun name => unless test name do throw (error name) : Except ε PUnit) =
      match names.find? fun name => !test name with
      | some name => .error (error name)
      | none => .ok ⟨⟩ := by
  induction names with
  | nil => rfl
  | cons name names ih =>
    by_cases passed : test name
    · rw [List.forM_cons, if_pos passed, pure_bind, ih, List.find?_cons_of_neg (by simpa using passed)]
    · rw [List.forM_cons, if_neg passed, List.find?_cons_of_pos (by simpa using passed)]
      rfl

variable {json value : Json} {name : Bytes} {library : JsonLibrary} {message : Bytes} {reading : SensorReading}

theorem Json.element_of_field (found : json.field name = some value) : json.element name = .ok value := by
  cases json with
  | object fields =>
    have entry : fields.lookup name = some value := found
    rw [element, entry]
  | _ => cases found

namespace SensorMessageParser

theorem checks_eq (sensorId sensorType timestamp value unit sequence : Json) :
    (if !sensorId.isString || !sensorType.isString || !timestamp.isString || !unit.isString then
      .error (.runtimeError (ascii "One or more text fields contain an invalid type."))
    else if !value.isNumber then .error (.runtimeError (ascii "The value field must contain a number."))
    else if !sequence.isNumberUnsigned && !sequence.isNumberInteger then
      .error (.runtimeError (ascii "The sequence_number field must contain an integer."))
    else copyFields sensorId sensorType timestamp value unit sequence) =
      Except.mapError Exception.runtimeError
        (match sensorId.string?, sensorType.string?, timestamp.string?, unit.string? with
        | some sensorId, some sensorType, some timestamp, some unit =>
          match value.double? with
          | none => .error (ascii "The value field must contain a number.")
          | some value =>
            match sequence.uint64? with
            | none => .error (ascii "The sequence_number field must contain an integer.")
            | some sequenceNumber =>
              if sensorId = [] then .error (ascii "The sensor_id field cannot be empty.")
              else if sensorType = [] then .error (ascii "The sensor_type field cannot be empty.")
              else .ok ⟨sensorId, sensorType, timestamp, value, unit, sequenceNumber⟩
        | _, _, _, _ => .error (ascii "One or more text fields contain an invalid type.")) := by
  unfold Json.isString Json.isNumber copyFields Json.getString Json.getDouble
  cases sensorId.string? with
  | none => rfl
  | some idText =>
    cases sensorType.string? with
    | none => rfl
    | some typeText =>
      cases timestamp.string? with
      | none => rfl
      | some timeText =>
        cases unit.string? with
        | none => rfl
        | some unitText =>
          cases value.double? with
          | none => rfl
          | some number =>
            cases sequence with
            | integer _ | unsigned _ =>
              cases idText with
              | nil => rfl
              | cons _ _ =>
                cases typeText with
                | nil => rfl
                | cons _ _ => rfl
            | _ => rfl

theorem readMessage_missing (missing : requiredFields.find? (fun name => !json.contains name) = some name) :
    readMessage json = .error (.runtimeError (ascii "Missing required field: " ++ name)) := by
  rw [readMessage, forM_unless, missing]
  rfl

theorem readMessage_eq (parsed : library.parse message = .ok json) :
    readMessage json = (SensorMonitor.parse library.parse message).mapError .runtimeError := by
  have first : requiredFields.find? (fun name => !json.contains name) =
      requiredFields.find? fun name => (json.field name).isNone := by simp [Json.contains]
  rw [SensorMonitor.parse, parsed]
  cases missing : requiredFields.find? fun name => (json.field name).isNone with
  | some name =>
    rw [readMessage_missing (first.trans missing)]
    simp only [missing]
    rfl
  | none =>
    have present : ∀ name ∈ requiredFields, ∃ value, json.field name = some value := by
      intro name member
      have there := List.find?_eq_none.mp missing name member
      exact Option.ne_none_iff_exists'.mp (by simpa using there)
    obtain ⟨sensorId, foundId⟩ := present (ascii "sensor_id") (by simp [requiredFields])
    obtain ⟨sensorType, foundType⟩ := present (ascii "sensor_type") (by simp [requiredFields])
    obtain ⟨timestamp, foundTime⟩ := present (ascii "timestamp") (by simp [requiredFields])
    obtain ⟨value, foundValue⟩ := present (ascii "value") (by simp [requiredFields])
    obtain ⟨unit, foundUnit⟩ := present (ascii "unit") (by simp [requiredFields])
    obtain ⟨sequence, foundSequence⟩ := present (ascii "sequence_number") (by simp [requiredFields])
    have checked : readMessage json =
        if !sensorId.isString || !sensorType.isString || !timestamp.isString || !unit.isString then
          .error (.runtimeError (ascii "One or more text fields contain an invalid type."))
        else if !value.isNumber then .error (.runtimeError (ascii "The value field must contain a number."))
        else if !sequence.isNumberUnsigned && !sequence.isNumberInteger then
          .error (.runtimeError (ascii "The sequence_number field must contain an integer."))
        else copyFields sensorId sensorType timestamp value unit sequence := by
      rw [readMessage, forM_unless, first, missing, Json.element_of_field foundId, Json.element_of_field foundType,
        Json.element_of_field foundTime, Json.element_of_field foundValue, Json.element_of_field foundUnit,
        Json.element_of_field foundSequence]
      rfl
    rw [checked]
    simp only [missing, foundId, foundType, foundTime, foundValue, foundUnit, foundSequence, Option.bind_some]
    exact checks_eq sensorId sensorType timestamp value unit sequence

theorem parse_eq : parse library message = (SensorMonitor.parse library.parse message).mapError .runtimeError := by
  cases parsed : library.parse message with
  | error what =>
    rw [parse, SensorMonitor.parse, parsed]
    rfl
  | ok json =>
    have read := readMessage_eq parsed
    rw [parse, parsed, ← read]
    cases outcome : SensorMonitor.parse library.parse message with
    | error what =>
      rw [outcome] at read
      change tryCatch (readMessage json) _ = _
      rw [read]
      rfl
    | ok reading =>
      rw [outcome] at read
      change tryCatch (readMessage json) _ = _
      rw [read]
      rfl

/-- The fields of a reading but the sequence number are those of the text. -/
structure SameFields (json : Json) (reading : SensorReading) : Prop where
  sensorId : json.field (ascii "sensor_id") = some (.string reading.sensorId)
  sensorType : json.field (ascii "sensor_type") = some (.string reading.sensorType)
  timestamp : json.field (ascii "timestamp") = some (.string reading.timestamp)
  unit : json.field (ascii "unit") = some (.string reading.unit)
  value : (json.field (ascii "value")).bind Json.double? = some reading.value
  sensorId_ne : reading.sensorId ≠ []
  sensorType_ne : reading.sensorType ≠ []

def wholeNumber? : Json → Option ℤ
  | .integer value => some value
  | .unsigned value => some value
  | _ => none

/-- The text is an object with the six required fields, and the reading has their values. -/
structure Describes (json : Json) (reading : SensorReading) : Prop extends SameFields json reading where
  sequenceNumber : (json.field (ascii "sequence_number")).bind wholeNumber? = some (reading.sequenceNumber.toNat : ℤ)

/-- The parser returns the reading that a text describes, and throws a run-time error at any other. -/
structure AcceptsExactly (library : JsonLibrary) (jsonMessage : Bytes) : Prop where
  returned : ∀ reading, parse library jsonMessage = .ok reading ↔
    ∃ json, library.parse jsonMessage = .ok json ∧ Describes json reading
  thrown : (¬∃ json reading, library.parse jsonMessage = .ok json ∧ Describes json reading) →
    ∃ what, parse library jsonMessage = .error (.runtimeError what)

theorem bind_string? {text : Bytes} : (json.field name).bind Json.string? = some text ↔
    json.field name = some (.string text) := by
  constructor
  · intro known
    obtain ⟨value, found, isText⟩ := Option.bind_eq_some_iff.mp known
    cases value with
    | string other =>
      rw [Json.string?, Option.some.injEq] at isText
      rw [found, isText]
    | _ => cases isText
  · intro found
    rw [found]
    rfl

theorem parse_ok_iff : parse library message = .ok reading ↔
    ∃ json, library.parse message = .ok json ∧ SameFields json reading ∧
      (json.field (ascii "sequence_number")).bind Json.uint64? = some reading.sequenceNumber := by
  have unwrapped : parse library message = .ok reading ↔ SensorMonitor.parse library.parse message = .ok reading := by
    rw [parse_eq]
    cases SensorMonitor.parse library.parse message with
    | error what => simp [Except.mapError]
    | ok other => simp [Except.mapError]
  rw [unwrapped, SensorMonitor.parse]
  constructor
  · intro returned
    cases parsed : library.parse message with
    | error what => simp [parsed] at returned
    | ok json =>
      simp only [parsed] at returned
      refine ⟨json, rfl, ?_⟩
      split at returned
      · cases returned
      split at returned
      · next sensorId sensorType timestamp unit isId isType isTime isUnit =>
        split at returned
        · cases returned
        next value isNumber =>
        split at returned
        · cases returned
        next sequenceNumber isWhole =>
        split at returned
        · cases returned
        next noId =>
        split at returned
        · cases returned
        next noType =>
        cases returned
        exact ⟨⟨bind_string?.mp isId, bind_string?.mp isType, bind_string?.mp isTime, bind_string?.mp isUnit,
          isNumber, noId, noType⟩, isWhole⟩
      · cases returned
  · intro ⟨json, parsed, fields, isWhole⟩
    have complete : requiredFields.find? (fun name => (json.field name).isNone) = none := by
      have value := Option.ne_none_iff_isSome.mpr (Option.isSome_of_isSome_bind (Option.isSome_of_eq_some fields.value))
      have sequence := Option.ne_none_iff_isSome.mpr (Option.isSome_of_isSome_bind (Option.isSome_of_eq_some isWhole))
      simp [requiredFields, fields.sensorId, fields.sensorType, fields.timestamp, fields.unit, value, sequence]
    rw [parsed]
    simp only [complete, bind_string?.mpr fields.sensorId, bind_string?.mpr fields.sensorType,
      bind_string?.mpr fields.timestamp, bind_string?.mpr fields.unit, fields.value, isWhole,
      if_neg fields.sensorId_ne, if_neg fields.sensorType_ne]

theorem uint64?_iff (parsed : library.parse message = .ok json) (found : json.field name = some value)
    (number : UInt64) : value.uint64? = some number ∧ (∀ whole, value = .integer whole → 0 ≤ whole) ↔
      wholeNumber? value = some (number.toNat : ℤ) := by
  cases value with
  | integer whole =>
    have range := library.integer_range parsed found
    have taken : (UInt64.ofInt whole).toNat = (whole % 2 ^ 64).toNat :=
      UInt64.toNat_ofNat_of_lt' (by simp only [UInt64.size]; omega)
    rw [Json.uint64?, wholeNumber?, Option.some.injEq, Option.some.injEq, ← UInt64.toNat_inj, taken]
    constructor
    · rintro ⟨same, nonnegative⟩
      have := nonnegative whole rfl
      omega
    · intro same
      refine ⟨by omega, fun other known => ?_⟩
      cases known
      omega
  | unsigned whole =>
    have taken : (UInt64.ofNat whole).toNat = whole := UInt64.toNat_ofNat_of_lt' (library.unsigned_range parsed found)
    rw [Json.uint64?, wholeNumber?, Option.some.injEq, Option.some.injEq, ← UInt64.toNat_inj, taken]
    simp
  | _ => simp [Json.uint64?, wholeNumber?]

theorem runtimeError_of_error {error : Exception} (failed : parse library message = .error error) :
    ∃ what, error = .runtimeError what := by
  rw [parse_eq] at failed
  cases outcome : SensorMonitor.parse library.parse message with
  | error what =>
    rw [outcome] at failed
    cases failed
    exact ⟨what, rfl⟩
  | ok reading =>
    rw [outcome] at failed
    cases failed

def NegativeSequence (library : JsonLibrary) (jsonMessage : Bytes) : Prop :=
  ∃ json reading, library.parse jsonMessage = .ok json ∧ SameFields json reading ∧
    ∃ number < 0, json.field (ascii "sequence_number") = some (.integer number)

/-- A negative sequence number is the only thing that the parser accepts and should not. -/
theorem acceptsExactly_iff (library : JsonLibrary) (jsonMessage : Bytes) :
    AcceptsExactly library jsonMessage ↔ ¬NegativeSequence library jsonMessage := by
  constructor
  · intro exactly ⟨json, reading, parsed, fields, number, negative, found⟩
    have accepted : parse library jsonMessage = .ok { reading with sequenceNumber := .ofInt number } := by
      refine parse_ok_iff.mpr ⟨json, parsed, ⟨fields.sensorId, fields.sensorType, fields.timestamp, fields.unit,
        fields.value, fields.sensorId_ne, fields.sensorType_ne⟩, ?_⟩
      rw [found]
      rfl
    obtain ⟨other, same, described⟩ := (exactly.returned _).mp accepted
    rw [parsed, Except.ok.injEq] at same
    have whole := described.sequenceNumber
    rw [← same, found, Option.bind_some, wholeNumber?, Option.some.injEq] at whole
    omega
  · intro regular
    have returned : ∀ reading, parse library jsonMessage = .ok reading ↔
        ∃ json, library.parse jsonMessage = .ok json ∧ Describes json reading := by
      intro reading
      rw [parse_ok_iff]
      refine exists_congr fun json => and_congr_right fun parsed => ?_
      constructor
      · intro ⟨fields, read⟩
        obtain ⟨value, found, isWhole⟩ := Option.bind_eq_some_iff.mp read
        refine ⟨fields, ?_⟩
        rw [found]
        refine (uint64?_iff parsed found _).mp ⟨isWhole, fun whole known => ?_⟩
        by_contra negative
        exact regular ⟨json, reading, parsed, fields, whole, not_le.mp negative, known ▸ found⟩
      · intro described
        obtain ⟨value, found, isWhole⟩ := Option.bind_eq_some_iff.mp described.sequenceNumber
        refine ⟨described.toSameFields, ?_⟩
        rw [found]
        exact ((uint64?_iff parsed found _).mpr isWhole).1
    refine ⟨returned, fun undescribed => ?_⟩
    cases outcome : parse library jsonMessage with
    | error error =>
      obtain ⟨what, rfl⟩ := runtimeError_of_error outcome
      exact ⟨what, rfl⟩
    | ok reading =>
      obtain ⟨json, parsed, described⟩ := (returned reading).mp outcome
      exact absurd ⟨json, reading, parsed, described⟩ undescribed

def sampleText : Bytes :=
  ascii ("\x7b\"sensor_id\":\"T-1\",\"sensor_type\":\"TEMPERATURE\",\"timestamp\":\"2026-01-01T00:00:00Z\"," ++
    "\"value\":72.5,\"unit\":\"F\",\"sequence_number\":-1\x7d")

def sampleFields : List (Bytes × Json) :=
  [(ascii "sensor_id", .string (ascii "T-1")), (ascii "sensor_type", .string (ascii "TEMPERATURE")),
    (ascii "timestamp", .string (ascii "2026-01-01T00:00:00Z")), (ascii "value", .float (145 / 2)),
    (ascii "unit", .string (ascii "F")), (ascii "sequence_number", .integer (-1))]

theorem sampleFields_found (found : (Json.object sampleFields).field name = some value) :
    value ∈ sampleFields.map Prod.snd := by
  obtain ⟨first, last, fields, -⟩ := List.lookup_eq_some_iff.mp found
  exact List.mem_map.mpr ⟨(name, value), by rw [fields]; simp, rfl⟩

theorem sampleFields_integer (found : (Json.object sampleFields).field name = some (.integer whole)) :
    -2 ^ 63 ≤ whole ∧ whole < 2 ^ 63 := by
  have known := sampleFields_found found
  simp only [sampleFields, List.map_cons, List.map_nil, List.mem_cons, List.not_mem_nil, Json.integer.injEq,
    reduceCtorEq, false_or, or_false] at known
  omega

theorem sampleFields_unsigned (found : (Json.object sampleFields).field name = some (.unsigned whole)) :
    whole < 2 ^ 64 := by
  have known := sampleFields_found found
  simp [sampleFields] at known

def sampleLibrary : JsonLibrary where
  parse message :=
    if message = sampleText then .ok (.object sampleFields) else .error (ascii "[json.exception.parse_error.101]")
  integer_range := by
    intro message json name whole parsed found
    split at parsed
    · cases parsed
      exact sampleFields_integer found
    · cases parsed
  unsigned_range := by
    intro message json name whole parsed found
    split at parsed
    · cases parsed
      exact sampleFields_unsigned found
    · cases parsed

theorem sample_parsed : sampleLibrary.parse sampleText = .ok (.object sampleFields) := by simp [sampleLibrary]

/-- The sequence number -1 is read as the largest of 64 bits. -/
theorem negative_sequence_read : ¬AcceptsExactly sampleLibrary sampleText := by
  intro exactly
  let reading : SensorReading :=
    ⟨ascii "T-1", ascii "TEMPERATURE", ascii "2026-01-01T00:00:00Z", 145 / 2, ascii "F", .ofInt (-1)⟩
  have accepted : parse sampleLibrary sampleText = .ok reading :=
    parse_ok_iff.mpr ⟨_, sample_parsed, ⟨rfl, rfl, rfl, rfl, rfl, by decide, by decide⟩, rfl⟩
  obtain ⟨json, parsed, described⟩ := (exactly.returned reading).mp accepted
  cases sample_parsed.symm.trans parsed
  have whole : some (-1 : ℤ) = some (reading.sequenceNumber.toNat : ℤ) := described.sequenceNumber
  rw [Option.some.injEq] at whole
  omega

end SensorMessageParser

end CareerProjects.SensorMonitor
