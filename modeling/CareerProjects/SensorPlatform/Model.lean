import CareerProjects.Library.Doubles

/-! The readings of the sensor platform, with their kinds and times. -/

namespace CareerProjects.SensorPlatform

/-- The wall clock in microseconds since the start of the year 1, and the offset from UTC, in
microseconds, that the time zone has then; a naive datetime has none. -/
structure DateTime where
  wall : ℕ
  tzinfo : Option ℤ
  deriving DecidableEq

namespace DateTime

def utcoffset (timestamp : DateTime) : ℤ := timestamp.tzinfo.getD 0

def instant (timestamp : DateTime) : ℤ := timestamp.wall - timestamp.utcoffset

end DateTime

inductive SensorType
  | temperature | voltage | current | vibration
  deriving DecidableEq

namespace SensorType

def value : SensorType → String
  | temperature => "temperature"
  | voltage => "voltage"
  | current => "current"
  | vibration => "vibration"

def all : List SensorType := [temperature, voltage, current, vibration]

/-- `SensorType(value)`, or the message of the exception. -/
def ofValue (text : String) : Except String SensorType :=
  match all.find? fun sensorType => sensorType.value = text with
  | some sensorType => .ok sensorType
  | none => .error ("'" ++ text ++ "' is not a valid SensorType")

@[simp] theorem ofValue_value (sensorType : SensorType) : ofValue sensorType.value = .ok sensorType := by
  cases sensorType <;> rfl

theorem value_injective : Function.Injective value := by
  intro a b same
  have read : ofValue a.value = ofValue b.value := by rw [same]
  rwa [ofValue_value, ofValue_value, Except.ok.injEq] at read

end SensorType

inductive SensorStatus
  | normal | warning | fault
  deriving DecidableEq

namespace SensorStatus

def value : SensorStatus → String
  | normal => "normal"
  | warning => "warning"
  | fault => "fault"

def all : List SensorStatus := [normal, warning, fault]

def ofValue (text : String) : Except String SensorStatus :=
  match all.find? fun status => status.value = text with
  | some status => .ok status
  | none => .error ("'" ++ text ++ "' is not a valid SensorStatus")

@[simp] theorem ofValue_value (status : SensorStatus) : ofValue status.value = .ok status := by
  cases status <;> rfl

end SensorStatus

/-- The value is a float that is a number. -/
structure SensorReading where
  sensorId : String
  sensorType : SensorType
  value : ℚ
  unit : String
  timestamp : DateTime
  status : SensorStatus := .normal
  deriving DecidableEq

end CareerProjects.SensorPlatform
