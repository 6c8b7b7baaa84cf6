import CareerProjects.SensorPlatform.Model
import Mathlib.Data.List.Induction
import Mathlib.Data.List.Forall2

/-! The readings in the database: how they are saved, and what comes back in which order. -/

namespace CareerProjects.SensorPlatform

/-- The record of a reading, as it is handed to the database. -/
structure SensorReadingRecord where
  sensorId : String
  sensorType : String
  value : ℚ
  unit : String
  timestamp : DateTime
  status : String
  deriving DecidableEq

namespace SensorReadingRecord

def fromDomain (reading : SensorReading) : SensorReadingRecord where
  sensorId := reading.sensorId
  sensorType := reading.sensorType.value
  value := reading.value
  unit := reading.unit
  timestamp := reading.timestamp
  status := reading.status.value

def toDomain (record : SensorReadingRecord) : Except String SensorReading := do
  let timestamp := if record.timestamp.tzinfo = none then { record.timestamp with tzinfo := some 0 }
    else record.timestamp
  return {
    sensorId := record.sensorId
    sensorType := ← SensorType.ofValue record.sensorType
    value := record.value
    unit := record.unit
    timestamp := timestamp
    status := ← SensorStatus.ofValue record.status }

def stored (record : SensorReadingRecord) : SensorReadingRecord :=
  { record with timestamp := ⟨record.timestamp.wall, none⟩ }

end SensorReadingRecord

structure Row where
  id : ℕ
  record : SensorReadingRecord
  deriving DecidableEq

abbrev Database := List Row

namespace Database

def nextId (database : Database) : ℕ := (database.map Row.id).foldr max 0 + 1

def insert (database : Database) (record : SensorReadingRecord) : Database × ℕ :=
  (database ++ [⟨database.nextId, record.stored⟩], database.nextId)

def addAll : Database → List SensorReadingRecord → Database × List ℕ
  | database, [] => (database, [])
  | database, record :: records =>
    let (inserted, id) := database.insert record
    let (final, ids) := addAll inserted records
    (final, id :: ids)

end Database

def Row.notAfter (a b : Row) : Bool :=
  if a.record.timestamp.wall = b.record.timestamp.wall then a.id ≤ b.id
  else a.record.timestamp.wall < b.record.timestamp.wall

namespace SensorReadingRepository

def save (database : Database) (reading : SensorReading) : Database × ℕ :=
  database.insert (.fromDomain reading)

def saveMany (database : Database) (readings : List SensorReading) : Database × List ℕ :=
  let records := readings.map .fromDomain
  if records = [] then (database, []) else database.addAll records

def listAll (database : Database) (limit : Option ℤ) : Except String (List SensorReading) :=
  if ∃ number ∈ limit, number ≤ 0 then .error "limit must be greater than zero"
  else
    let statement := database.mergeSort Row.notAfter
    let records := match limit with
      | some number => statement.take number.toNat
      | none => statement
    records.mapM fun row => row.record.toDomain

end SensorReadingRepository

inductive Call
  | save (reading : SensorReading)
  | saveMany (readings : List SensorReading)

namespace Call

def readings : Call → List SensorReading
  | save reading => [reading]
  | saveMany readings => readings

/-- The database after the call, and the keys that it returns. -/
def perform (database : Database) : Call → Database × List ℕ
  | save reading =>
    let (stored, id) := SensorReadingRepository.save database reading
    (stored, [id])
  | saveMany readings => SensorReadingRepository.saveMany database readings

end Call

def run (calls : List Call) : Database × List ℕ :=
  calls.foldl (fun so call =>
    let (database, ids) := call.perform so.1
    (database, so.2 ++ ids)) ([], [])

/-- The readings that the calls store, with the keys that were returned for them. -/
def saved (calls : List Call) : List (SensorReading × ℕ) := (calls.flatMap Call.readings).zip (run calls).2

section Table

variable {readings more : List SensorReading} {reading : SensorReading}

def rowOf (entry : SensorReading × ℕ) : Row := ⟨entry.2, (SensorReadingRecord.fromDomain entry.1).stored⟩

def table (readings : List SensorReading) : Database := (readings.zipIdx 1).map rowOf

theorem table_snoc : table (readings ++ [reading]) = table readings ++ [rowOf (reading, readings.length + 1)] := by
  rw [table, List.zipIdx_append, List.map_append, List.zipIdx_singleton, List.map_singleton, Nat.add_comm]
  rfl

theorem nextId_table : (table readings).nextId = readings.length + 1 := by
  have largest (start : ℕ) : ((table readings).map Row.id).foldr max start = max readings.length start := by
    induction readings using List.reverseRecOn generalizing start with
    | nil => simp [table]
    | append_singleton readings reading ih =>
      rw [table_snoc, List.map_append, List.foldr_append, ih, List.length_append]
      simp only [List.map_cons, List.map_nil, List.foldr_cons, List.foldr_nil, rowOf, List.length_singleton]
      omega
  rw [Database.nextId, largest]
  omega

theorem insert_table : (table readings).insert (.fromDomain reading) =
    (table (readings ++ [reading]), readings.length + 1) := by
  rw [Database.insert, nextId_table, table_snoc]
  rfl

theorem addAll_table : (table readings).addAll (more.map .fromDomain) =
    (table (readings ++ more), List.range' (readings.length + 1) more.length) := by
  induction more generalizing readings with
  | nil => simp [Database.addAll]
  | cons reading more ih =>
    rw [List.map_cons, Database.addAll, insert_table]
    simp only [ih]
    simp [List.range'_succ]

theorem perform_table (call : Call) : call.perform (table readings) =
    (table (readings ++ call.readings), List.range' (readings.length + 1) call.readings.length) := by
  cases call with
  | save reading =>
    rw [Call.perform, SensorReadingRepository.save, insert_table]
    rfl
  | saveMany more =>
    rw [Call.perform, SensorReadingRepository.saveMany, Call.readings]
    by_cases none : more = []
    · subst none
      simp
    · simp [none, addAll_table]

theorem run_table (calls : List Call) : run calls =
    (table (calls.flatMap Call.readings), List.range' 1 (calls.flatMap Call.readings).length) := by
  induction calls using List.reverseRecOn with
  | nil => rfl
  | append_singleton calls call ih =>
    rw [run, List.foldl_append] at *
    rw [ih, List.foldl_cons, List.foldl_nil, perform_table, List.flatMap_append, List.flatMap_singleton,
      List.length_append, Nat.add_comm _ 1]
    exact Prod.ext rfl List.range'_append_1

end Table

/-- The readings agree, and their timestamps are the same instant. -/
structure Same (a b : SensorReading) : Prop where
  sensorId : a.sensorId = b.sensorId
  sensorType : a.sensorType = b.sensorType
  value : a.value = b.value
  unit : a.unit = b.unit
  instant : a.timestamp.instant = b.timestamp.instant
  status : a.status = b.status

def notLater (a b : SensorReading) : Bool := a.timestamp.instant ≤ b.timestamp.instant

/-- The readings come back as they were saved, each under its key; `list_all` has them all, the oldest first
and those of one instant in the order of insertion, or the first of them. -/
structure ComesBack (calls : List Call) : Prop where
  kept : ∀ entry ∈ saved calls, ∃ row ∈ (run calls).1, row.id = entry.2 ∧
    ∃ back, row.record.toDomain = .ok back ∧ Same entry.1 back
  listed : ∃ listed, SensorReadingRepository.listAll (run calls).1 none = .ok listed ∧
    List.Forall₂ Same ((calls.flatMap Call.readings).mergeSort notLater) listed
  limited : ∀ limit : ℤ, 1 ≤ limit → ∃ listed, SensorReadingRepository.listAll (run calls).1 none = .ok listed ∧
    SensorReadingRepository.listAll (run calls).1 (some limit) = .ok (listed.take limit.toNat)

section Back

variable {calls : List Call} {readings : List SensorReading} {reading : SensorReading}

def restored (reading : SensorReading) : SensorReading :=
  { reading with timestamp := ⟨reading.timestamp.wall, some 0⟩ }

theorem toDomain_rowOf (entry : SensorReading × ℕ) : (rowOf entry).record.toDomain = .ok (restored entry.1) := by
  simp [rowOf, SensorReadingRecord.toDomain, SensorReadingRecord.stored, SensorReadingRecord.fromDomain, restored,
    bind, Except.bind, pure, Except.pure]

theorem same_restored : Same reading (restored reading) ↔ reading.timestamp.utcoffset = 0 := by
  have moved : (restored reading).timestamp.instant = reading.timestamp.wall := by
    simp [restored, DateTime.instant, DateTime.utcoffset]
  constructor
  · intro same
    have instant := same.instant
    rw [moved, DateTime.instant] at instant
    omega
  · intro utc
    refine ⟨rfl, rfl, rfl, rfl, ?_, rfl⟩
    rw [moved, DateTime.instant]
    omega

def ordered (readings : List SensorReading) : List (SensorReading × ℕ) :=
  (readings.zipIdx 1).mergeSort fun a b => Row.notAfter (rowOf a) (rowOf b)

theorem mapM_ok {α β ε : Type} {f : α → Except ε β} {g : α → β} (values : List α)
    (computes : ∀ value, f value = .ok (g value)) :
    values.mapM f = .ok (values.map g) := by
  rw [funext computes]
  exact List.mapM_pure

theorem sorted_table : (table readings).mergeSort Row.notAfter = (ordered readings).map rowOf :=
  (List.map_mergeSort (f := rowOf) fun _ _ _ _ => rfl).symm

theorem listAll_table : SensorReadingRepository.listAll (table readings) none =
    .ok ((ordered readings).map fun entry => restored entry.1) := by
  rw [SensorReadingRepository.listAll, if_neg (by simp), sorted_table, List.mapM_map]
  exact mapM_ok _ toDomain_rowOf

theorem listAll_table_limit {limit : ℤ} (positive : 1 ≤ limit) :
    SensorReadingRepository.listAll (table readings) (some limit) =
      .ok (((ordered readings).map fun entry => restored entry.1).take limit.toNat) := by
  rw [SensorReadingRepository.listAll, if_neg (by simp; omega), sorted_table]
  simp only [← List.map_take, List.mapM_map]
  exact mapM_ok _ toDomain_rowOf

theorem ordered_utc (utc : ∀ reading ∈ readings, reading.timestamp.utcoffset = 0) :
    (ordered readings).map Prod.fst = readings.mergeSort notLater := by
  have agree : ∀ a ∈ readings.zipIdx, ∀ b ∈ readings.zipIdx,
      List.zipIdxLE notLater a b = Row.notAfter (rowOf (a.1, 1 + a.2)) (rowOf (b.1, 1 + b.2)) := by
    intro a first b second
    have zeroA := utc a.1 (List.fst_mem_of_mem_zipIdx first)
    have zeroB := utc b.1 (List.fst_mem_of_mem_zipIdx second)
    simp only [Row.notAfter, List.zipIdxLE, notLater, DateTime.instant, zeroA, zeroB, decide_eq_true_eq]
    by_cases same : a.1.timestamp.wall = b.1.timestamp.wall
    · simp [rowOf, SensorReadingRecord.stored, SensorReadingRecord.fromDomain, same]
    · by_cases before : a.1.timestamp.wall < b.1.timestamp.wall
      · simp [rowOf, SensorReadingRecord.stored, SensorReadingRecord.fromDomain, same, before]
        omega
      · simp [rowOf, SensorReadingRecord.stored, SensorReadingRecord.fromDomain, same, before]
        omega
  have sorted : ordered readings =
      (readings.zipIdx.mergeSort (List.zipIdxLE notLater)).map fun entry => (entry.1, 1 + entry.2) := by
    rw [ordered, List.zipIdx_eq_map_add]
    exact (List.map_mergeSort (f := fun entry : SensorReading × ℕ => (entry.1, 1 + entry.2)) agree).symm
  rw [sorted, List.map_map]
  exact List.mergeSort_zipIdx

theorem saved_eq (calls : List Call) : saved calls = (calls.flatMap Call.readings).zipIdx 1 := by
  rw [saved, run_table, List.zipIdx_eq_zip_range']

/-- Readings come back as they were exactly where each is in UTC. -/
theorem comesBack_iff (calls : List Call) :
    ComesBack calls ↔ ∀ reading ∈ calls.flatMap Call.readings, reading.timestamp.utcoffset = 0 := by
  have database : (run calls).1 = table (calls.flatMap Call.readings) := by rw [run_table]
  constructor
  · intro back reading member
    have entries := saved_eq calls
    rw [← List.zipIdx_map_fst 1 (calls.flatMap Call.readings), ← entries] at member
    obtain ⟨entry, inside, rfl⟩ := List.mem_map.mp member
    obtain ⟨row, present, key, found, decoded, same⟩ := back.kept entry inside
    rw [database] at present
    obtain ⟨origin, numbered, rfl⟩ := List.mem_map.mp present
    -- the keys number the readings, so that the row under the key is that of the reading
    rw [entries] at inside
    have own : origin.1 = entry.1 := by
      have first := List.mem_zipIdx_iff_le_and_getElem?_sub.mp numbered
      have second := List.mem_zipIdx_iff_le_and_getElem?_sub.mp inside
      rw [show origin.2 = entry.2 from key, second.2, Option.some.injEq] at first
      exact first.2.symm
    rw [toDomain_rowOf, Except.ok.injEq, own] at decoded
    rw [← decoded] at same
    exact same_restored.mp same
  · intro utc
    refine ⟨?_, ?_, ?_⟩
    · intro entry inside
      rw [saved_eq] at inside
      refine ⟨rowOf entry, ?_, rfl, restored entry.1, toDomain_rowOf entry, ?_⟩
      · rw [database]
        exact List.mem_map_of_mem inside
      · exact same_restored.mpr (utc _ (List.fst_mem_of_mem_zipIdx inside))
    · rw [database]
      refine ⟨_, listAll_table, ?_⟩
      rw [← ordered_utc utc, List.forall₂_map_left_iff, List.forall₂_map_right_iff, List.forall₂_same]
      intro entry inside
      have member : entry.1 ∈ (calls.flatMap Call.readings).mergeSort notLater := by
        rw [← ordered_utc utc]
        exact List.mem_map_of_mem inside
      exact same_restored.mpr (utc _ (List.mem_mergeSort.mp member))
    · intro limit positive
      rw [database]
      exact ⟨_, listAll_table, listAll_table_limit positive⟩

def sampleReading : SensorReading where
  sensorId := "temperature-001"
  sensorType := .temperature
  value := 49 / 2
  unit := "C"
  timestamp := ⟨63900000000000000, some 7200000000⟩

/-- A reading that was taken two hours ahead of UTC comes back two hours later. -/
theorem offset_lost : ¬ComesBack [.save sampleReading] := by
  intro back
  obtain ⟨listed, found, same⟩ := back.listed
  have query : SensorReadingRepository.listAll (run [.save sampleReading]).1 none = .ok [restored sampleReading] := by
    decide +kernel
  rw [query, Except.ok.injEq] at found
  rw [← found] at same
  have alone : ([Call.save sampleReading].flatMap Call.readings).mergeSort notLater = [sampleReading] :=
    List.mergeSort_singleton sampleReading
  rw [alone] at same
  have instants := same_restored.mp (List.forall₂_cons.mp same).1
  exact absurd instants (by decide)

end Back

end CareerProjects.SensorPlatform
