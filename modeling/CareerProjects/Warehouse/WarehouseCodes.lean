import CareerProjects.Library.Keyed
import CareerProjects.Library.Runs
import CareerProjects.Warehouse.Inventory

/-! The warehouse service: its table of warehouses with the constraints of the database, the requests that
write it, step by step and mixed in any order, and when a conflict of codes is reported. -/

namespace CareerProjects.WarehouseService

open Library
open Warehouse (Uuid Time)

inductive Column
  | code | name | addressLine1 | addressLine2 | city | state | postalCode | countryCode | isActive
  deriving DecidableEq

namespace Column

def all : List Column :=
  [code, name, addressLine1, addressLine2, city, state, postalCode, countryCode, isActive]

theorem mem_all (column : Column) : column ∈ all := by cases column <;> decide

@[reducible] def Value : Column → Type
  | isActive => Bool
  | _ => String

instance (column : Column) : DecidableEq column.Value :=
  match column with
  | isActive => inferInstanceAs (DecidableEq Bool)
  | code | name | addressLine1 | addressLine2 | city | state | postalCode | countryCode =>
    inferInstanceAs (DecidableEq String)

def nullable : Column → Bool
  | addressLine2 => true
  | _ => false

def length : Column → ℕ
  | code => 50
  | name => 150
  | addressLine1 | addressLine2 => 200
  | city | state => 100
  | postalCode => 20
  | countryCode => 2
  | isActive => 0

def text? : (column : Column) → column.Value → Option String
  | isActive, _ => none
  | code, value | name, value | addressLine1, value | addressLine2, value | city, value | state, value
  | postalCode, value | countryCode, value => some value

end Column

def sendable (text : String) : Bool := '\x00' ∉ text.toList

def Column.takes (column : Column) (value : Option column.Value) : Bool :=
  match value.bind column.text? with
  | some text => text.length ≤ column.length && sendable text
  | none => true

abbrev Row := (column : Column) → Option column.Value

/-- The values of some of the columns: a field that was not supplied has none. -/
abbrev Changes := (column : Column) → Option (Option column.Value)

def Changes.apply (changes : Changes) (row : Row) : Row := fun column => (changes column).getD (row column)

/-- The columns that the session writes: those whose value is not the one it has loaded. -/
def Changes.since (values : Changes) (loaded : Row) : Changes := fun column =>
  match values column with
  | some value => if value = loaded column then none else some value
  | none => none

/-- The time of the last `UPDATE`, which the session sends only where there is a column to write. -/
def Changes.stamp (changes : Changes) (now before : Time) : Time :=
  if Column.all.any fun column => (changes column).isSome then now else before

def Changes.storable (changes : Changes) : Bool := Column.all.all fun column => (changes column).all column.takes

structure Warehouse where
  id : Uuid
  row : Row
  updatedAt : Time

abbrev Table := List Warehouse

namespace Table

def find (table : Table) (id : Uuid) : Option Warehouse := table.find? fun warehouse => warehouse.id = id

def findByCode (table : Table) (code : String) : Option Warehouse :=
  table.find? fun warehouse => warehouse.row .code = some code

/-- A row is refused under its id: a column is NULL and must not be, or the code is another one's. -/
def refuses (table : Table) (id : Uuid) (row : Row) : Bool :=
  (Column.all.any fun column => !column.nullable && (row column).isNone) ||
    table.any fun other => other.id ≠ id && (row .code).isSome && other.row .code = row .code

def update (table : Table) (id : Uuid) (changes : Changes) (now : Time) : Table :=
  table.map fun warehouse =>
    if warehouse.id = id then
      { warehouse with
        row := changes.apply warehouse.row
        updatedAt := changes.stamp now warehouse.updatedAt }
    else warehouse

end Table

structure WarehouseCreate where
  code : String
  name : String
  addressLine1 : String
  addressLine2 : Option String := none
  city : String
  state : String
  postalCode : String
  countryCode : String := "US"

def WarehouseCreate.row (request : WarehouseCreate) : Row
  | .code => some request.code
  | .name => some request.name
  | .addressLine1 => some request.addressLine1
  | .addressLine2 => request.addressLine2
  | .city => some request.city
  | .state => some request.state
  | .postalCode => some request.postalCode
  | .countryCode => some request.countryCode
  | .isActive => some true

/-- An update has the fields that the client supplied, also those that are null. -/
inductive Request
  | create (request : WarehouseCreate)
  | update (warehouseId : Uuid) (updateValues : Changes)
  | deactivate (warehouseId : Uuid)

def Request.code : Request → Option String
  | create request => some request.code
  | update _ updateValues => (updateValues .code).join
  | deactivate _ => none

inductive Failure
  | notFound (warehouseId : Uuid)
  | codeConflict (code : Option String)
  | databaseError

inductive Phase
  | ready
  /-- The warehouse is loaded. -/
  | loaded (row : Row)
  /-- The code is not in use; the row is the new one, or the one that was loaded. -/
  | unclaimed (row : Row)
  | committed (warehouseId : Uuid)
  | returned (row : Option Row)
  | raised (failure : Failure)

structure Session where
  request : Request
  phase : Phase

structure Database where
  table : Table
  sessions : ℕ → Option Session

inductive Action
  | start (session : ℕ) (request : Request)
  | advance (session : ℕ) (draw : Uuid) (now : Time)

/-- The next step of a request: what it makes of the table, and where it stands then. -/
def perform (table : Table) (draw : Uuid) (now : Time) : Request → Phase → Option (Table × Phase)
  | .create request, .ready =>
    if !sendable request.code then some (table, .raised .databaseError)
    else match table.findByCode request.code with
      | some _ => some (table, .raised (.codeConflict request.code))
      | none => some (table, .unclaimed request.row)
  | .create request, .unclaimed row =>
    if (table.find draw).isSome then none
    else if !Changes.storable fun column => some (row column) then some (table, .raised .databaseError)
    else if table.refuses draw row then some (table, .raised (.codeConflict request.code))
    else some (table ++ [⟨draw, row, now⟩], .committed draw)
  | .update id _, .ready | .deactivate id, .ready =>
    match table.find id with
    | some warehouse => some (table, .loaded warehouse.row)
    | none => some (table, .raised (.notFound id))
  | .update _ updateValues, .loaded row =>
    match (updateValues .code).join with
    | none => some (table, .unclaimed row)
    | some newCode =>
      if row .code = some newCode then some (table, .unclaimed row)
      else if !sendable newCode then some (table, .raised .databaseError)
      else match table.findByCode newCode with
        | some _ => some (table, .raised (.codeConflict newCode))
        | none => some (table, .unclaimed row)
  | .update id updateValues, .unclaimed loaded =>
    let changes := updateValues.since loaded
    if !changes.storable then some (table, .raised .databaseError)
    else
      let current := (table.find id).map Warehouse.row
      if (current.any fun row => table.refuses id (changes.apply row)) then
        -- `new_code or warehouse.code`, the latter read again after the rollback
        let newCode := (updateValues .code).join.filter (· ≠ "")
        some (table, .raised (.codeConflict (newCode.or (current.bind fun row => row .code))))
      else some (table.update id changes now, .committed id)
  | .deactivate id, .loaded row =>
    let changes := Changes.since (fun | .isActive => some (some false) | _ => none) row
    some (table.update id changes now, .returned none)
  | _, .committed id => some (table, .returned ((table.find id).map Warehouse.row))
  | _, _ => none

def next (database : Database) : Action → Option Database
  | .start id request =>
    match database.sessions id with
    | some _ => none
    | none => some { database with sessions := Function.update database.sessions id (some ⟨request, .ready⟩) }
  | .advance id draw now =>
    match database.sessions id with
    | none => none
    | some session =>
      (perform database.table draw now session.request session.phase).map fun result =>
        { table := result.1
          sessions := Function.update database.sessions id (some { session with phase := result.2 }) }

def initial : Database := ⟨[], fun _ => none⟩

structure Table.Sound (table : Table) : Prop where
  ids : (table.map Warehouse.id).Nodup
  codes : ∀ a ∈ table, ∀ b ∈ table, a.row .code = b.row .code → a.id = b.id
  required : ∀ warehouse ∈ table, ∀ column, column.nullable = false → (warehouse.row column).isSome
  stored : ∀ warehouse ∈ table, ∀ column : Column, column.takes (warehouse.row column)

section Tables

variable {table : Table} {id : Uuid} {row : Row} {changes values : Changes} {own warehouse : Warehouse} {code : String}
  {now : Time}

theorem Table.find_eq_some (sound : table.Sound) : table.find id = some own ↔ own ∈ table ∧ own.id = id := by
  rw [find]
  exact find?_key_iff sound.ids

theorem Table.refuses_eq_false : table.refuses id row = false ↔
    (∀ column, column.nullable = false → (row column).isSome) ∧
      ∀ other ∈ table, other.id ≠ id → (row .code).isSome → other.row .code ≠ row .code := by
  simp only [refuses, Bool.or_eq_false_iff, List.any_eq_false]
  refine and_congr ?_ ?_
  · constructor
    · intro known column required
      have present := known column column.mem_all
      simpa [required, ← Option.isSome_iff_ne_none] using present
    · intro known column _ missing
      simp only [Bool.and_eq_true, Bool.not_eq_true', Option.isNone_iff_eq_none] at missing
      simpa [missing.2] using known column missing.1
  · refine forall₂_congr fun other _ => ?_
    simp

theorem Changes.storable_iff : changes.storable ↔
    ∀ (column : Column) value, changes column = some value → column.takes value := by
  simp only [storable, List.all_eq_true, Option.all_eq_true]
  exact ⟨fun known column value written => known column column.mem_all value written,
    fun known column _ value written => known column value written⟩

theorem Table.Sound.append (sound : table.Sound) (fresh : table.find id = none)
    (storable : ∀ column : Column, column.takes (row column)) (accepted : table.refuses id row = false) :
    Table.Sound (table ++ [⟨id, row, now⟩]) := by
  have other : ∀ warehouse ∈ table, warehouse.id ≠ id := by simpa [find] using fresh
  obtain ⟨required, free⟩ := refuses_eq_false.mp accepted
  have apart : ∀ warehouse ∈ table, warehouse.row .code ≠ row .code := fun warehouse member =>
    free warehouse member (other warehouse member) (required .code rfl)
  refine ⟨?_, ?_, ?_, ?_⟩
  · rw [List.map_append, List.nodup_append]
    refine ⟨sound.ids, List.nodup_singleton _, ?_⟩
    simpa using other
  · simp only [List.mem_append, List.mem_singleton]
    intro a first b second same
    rcases first with old | rfl
    · rcases second with old' | rfl
      · exact sound.codes a old b old' same
      · exact absurd same (apart a old)
    · rcases second with old' | rfl
      · exact absurd same.symm (apart b old')
      · rfl
  · rw [List.forall_mem_append]
    exact ⟨sound.required, by simpa using required⟩
  · rw [List.forall_mem_append]
    exact ⟨sound.stored, by simpa using storable⟩

theorem Table.update_id : (table.update id changes now).map Warehouse.id = table.map Warehouse.id := by
  rw [update, List.map_map]
  refine List.map_congr_left fun warehouse _ => ?_
  by_cases own : warehouse.id = id <;> simp [own]

theorem Table.Sound.update (sound : table.Sound) (storable : changes.storable)
    (accepted : ∀ own, table.find id = some own → table.refuses id (changes.apply own.row) = false) :
    (table.update id changes now).Sound := by
  have written : ∀ own ∈ table, own.id = id → table.refuses id (changes.apply own.row) = false := fun own member key =>
    accepted own ((find_eq_some sound).mpr ⟨member, key⟩)
  refine ⟨?_, ?_, ?_, ?_⟩
  · rw [update_id]
    exact sound.ids
  · simp only [Table.update, List.mem_map]
    rintro _ ⟨a, first, rfl⟩ _ ⟨b, second, rfl⟩ same
    by_cases ownA : a.id = id
    · by_cases ownB : b.id = id
      · simp [ownA, ownB]
      · obtain ⟨required, free⟩ := refuses_eq_false.mp (written a first ownA)
        simp only [if_pos ownA, if_neg ownB] at same
        exact absurd same.symm (free b second ownB (required .code rfl))
    · by_cases ownB : b.id = id
      · obtain ⟨required, free⟩ := refuses_eq_false.mp (written b second ownB)
        simp only [if_pos ownB, if_neg ownA] at same
        exact absurd same (free a first ownA (required .code rfl))
      · simp only [if_neg ownA, if_neg ownB] at same ⊢
        exact sound.codes a first b second same
  · rw [Table.update, List.forall_mem_map]
    intro warehouse member column
    by_cases own : warehouse.id = id
    · rw [if_pos own]
      exact (refuses_eq_false.mp (written warehouse member own)).1 column
    · rw [if_neg own]
      exact sound.required warehouse member column
  · rw [Table.update, List.forall_mem_map]
    intro warehouse member column
    by_cases own : warehouse.id = id
    · rw [if_pos own]
      cases new : changes column with
      | none => simpa [Changes.apply, new] using sound.stored warehouse member column
      | some value => simpa [Changes.apply, new] using Changes.storable_iff.mp storable column value new
    · rw [if_neg own]
      exact sound.stored warehouse member column

end Tables

/-- Another warehouse has the code that a request asks for. -/
def AnotherHolds (table : Table) (request : Request) : Prop :=
  match request with
  | .create request => ∃ other ∈ table, other.row .code = some request.code
  | .update id updateValues => ∃ newCode, (updateValues .code).join = some newCode ∧
      (∃ own ∈ table, own.id = id) ∧ ∃ other ∈ table, other.id ≠ id ∧ other.row .code = some newCode
  | .deactivate _ => False

/-- The request has written, or needs not. -/
def Phase.settled : Phase → Bool
  | .committed _ | .returned _ => true
  | _ => false

/-- The fields of one warehouse, and with them the time of its last update. -/
def Table.write (table : Table) (id : Uuid) (changes : Changes) (updatedAt : Time) : Table :=
  table.map fun warehouse =>
    if warehouse.id = id then { warehouse with row := changes.apply warehouse.row, updatedAt := updatedAt } else warehouse

/-- What a step of a request may do: a conflict is reported exactly if another warehouse has the code; the table is
written only by the step with which a request settles, after which it does not raise, so that a request that raises
has left the table as it was in all its steps; and an update writes the fields that were supplied. -/
structure ExactStep (table : Table) (request : Request) (phase : Phase) (table' : Table) (phase' : Phase) : Prop where
  conflict : ∀ failure, phase' = .raised failure →
    ((∃ code, failure = .codeConflict code) ↔ AnotherHolds table request)
  unchanged : phase.settled = true ∨ phase'.settled = false → table' = table
  settled : phase.settled = true → phase'.settled = true
  updated : ∀ id updateValues committed, request = .update id updateValues → phase' = .committed committed →
    ∃ updatedAt, table' = table.write id updateValues updatedAt

def Clears (changes : Changes) : Prop := ∃ column, column.nullable = false ∧ changes column = some none

def Taken (table : Table) (id : Uuid) (changes : Changes) : Prop :=
  ∃ newCode, changes .code = some (some newCode) ∧ ∃ other ∈ table, other.id ≠ id ∧ other.row .code = some newCode

/-- Nothing goes wrong at the next step of a request. -/
def Regular (table : Table) : Request → Phase → Prop
  -- a text is too long for its column, or has no place in the database
  | .create request, .unclaimed row =>
    (Changes.storable fun column => some (row column)) = false → ¬AnotherHolds table (.create request)
  -- the code became the warehouse's own since it was loaded
  | .update id updateValues, .loaded row => ∀ newCode, (updateValues .code).join = some newCode →
    row .code ≠ some newCode → ∀ own ∈ table, own.id = id → own.row .code ≠ some newCode
  | .update id updateValues, .unclaimed loaded =>
    let changes := updateValues.since loaded
    (changes.storable = false → ¬AnotherHolds table (.update id updateValues)) ∧
    -- a column that must not be NULL is set to it
    (changes.storable → Clears changes → AnotherHolds table (.update id updateValues)) ∧
    -- a field was changed since it was loaded with the value that it is to get
    (changes.storable → ¬Clears changes → ¬Taken table id changes →
      ∀ own ∈ table, own.id = id → ∀ column value, updateValues column = some value → value = loaded column →
        own.row column = value)
  | _, _ => True

/-- The warehouse of a request that has loaded it is there; a new row is that of its request. -/
def Session.Present (table : Table) (session : Session) : Prop :=
  match session.request, session.phase with
  | .create request, .unclaimed row => row = request.row
  | .update id _, .loaded _ | .update id _, .unclaimed _ => ∃ own ∈ table, own.id = id
  | _, _ => True

section Steps

variable {table table' : Table} {request : Request} {phase phase' : Phase} {id draw : Uuid} {row loaded : Row}
  {values changes : Changes} {own : Warehouse} {code : String} {now : Time}

theorem exactStep_of_not_raised (quiet : ∀ failure, phase' ≠ .raised failure)
    (open' : ∀ committed, phase' ≠ .committed committed) (settled : phase.settled = true → phase'.settled = true) :
    ExactStep table request phase table phase' :=
  ⟨fun failure raised => absurd raised (quiet failure), fun _ => rfl, settled,
    fun _ _ committed _ known => absurd known (open' committed)⟩

theorem exactStep_raised {failure : Failure} (unsettled : phase.settled = false) :
    ExactStep table request phase table (.raised failure) ↔
      ((∃ code, failure = .codeConflict code) ↔ AnotherHolds table request) := by
  constructor
  · intro exactly
    exact exactly.conflict failure rfl
  · intro same
    refine ⟨fun other known => ?_, fun _ => rfl, by simp [unsettled], fun _ _ _ _ known => by cases known⟩
    cases known
    exact same

theorem exactStep_conflict {newCode : Option String} (unsettled : phase.settled = false) :
    ExactStep table request phase table (.raised (.codeConflict newCode)) ↔ AnotherHolds table request := by
  rw [exactStep_raised unsettled]
  simp

theorem exactStep_other {failure : Failure} (unsettled : phase.settled = false)
    (other : ∀ newCode, failure ≠ .codeConflict newCode) :
    ExactStep table request phase table (.raised failure) ↔ ¬AnotherHolds table request := by
  rw [exactStep_raised unsettled]
  simp [other]

theorem Table.findByCode_eq_none : table.findByCode code = none ↔ ∀ other ∈ table, other.row .code ≠ some code := by
  simp [Table.findByCode]

theorem Table.findByCode_eq_some (found : table.findByCode code = some own) : own ∈ table ∧ own.row .code = some code :=
  ⟨List.mem_of_find?_eq_some found, by simpa using List.find?_some found⟩

theorem Table.Sound.sendable (sound : table.Sound) (member : own ∈ table) (held : own.row .code = some code) :
    sendable code = true := by
  have stored := sound.stored own member .code
  rw [held] at stored
  simp only [Column.takes, Option.bind_some, Column.text?, Bool.and_eq_true] at stored
  exact stored.2

theorem create_ready (sound : table.Sound) {create : WarehouseCreate}
    (taken : perform table draw now (.create create) .ready = some (table', phase')) :
    ExactStep table (.create create) .ready table' phase' := by
  simp only [perform] at taken
  split at taken
  · next unsendable =>
    cases taken
    rw [exactStep_other rfl (by simp)]
    intro ⟨other, member, held⟩
    simp [sound.sendable member held] at unsendable
  · split at taken
    · next found =>
      cases taken
      obtain ⟨member, held⟩ := Table.findByCode_eq_some found
      exact (exactStep_conflict rfl).mpr ⟨_, member, held⟩
    · cases taken
      exact exactStep_of_not_raised (by simp) (by simp) (by simp [Phase.settled])

theorem WarehouseCreate.row_isSome (create : WarehouseCreate) {column : Column} (required : column.nullable = false) :
    (create.row column).isSome := by
  cases column <;> first | rfl | cases required

theorem create_unclaimed {create : WarehouseCreate}
    (taken : perform table draw now (.create create) (.unclaimed create.row) = some (table', phase')) :
    ExactStep table (.create create) (.unclaimed create.row) table' phase' ↔
      Regular table (.create create) (.unclaimed create.row) := by
  simp only [perform] at taken
  split at taken
  · cases taken
  · next fresh =>
    have apart : ∀ other ∈ table, other.id ≠ draw := by
      rw [Option.not_isSome_iff_eq_none] at fresh
      simpa [Table.find] using fresh
    split at taken
    · next unstorable =>
      cases taken
      rw [exactStep_other rfl (by simp)]
      simp [Regular, Bool.not_eq_true' _ ▸ unstorable]
    · next storable =>
      have storable : (Changes.storable fun column => some (create.row column)) = true := by simpa using storable
      refine iff_of_true ?_ (by simp [Regular, storable])
      split at taken
      · next refused =>
        cases taken
        rw [exactStep_conflict rfl]
        by_contra free
        have accepted : table.refuses draw create.row = false :=
          Table.refuses_eq_false.mpr ⟨fun column => create.row_isSome,
            fun other member _ _ held => free ⟨other, member, held⟩⟩
        rw [accepted] at refused
        cases refused
      · cases taken
        exact ⟨by simp, by simp [Phase.settled], by simp [Phase.settled], by simp⟩

theorem update_loaded (sound : table.Sound) (present : ∃ own ∈ table, own.id = id)
    (taken : perform table draw now (.update id values) (.loaded row) = some (table', phase')) :
    ExactStep table (.update id values) (.loaded row) table' phase' ↔ Regular table (.update id values) (.loaded row) := by
  simp only [perform] at taken
  have quiet (code : String) (free : ∀ other ∈ table, other.row .code ≠ some code)
      (asked : (values .code).join = some code) : Regular table (.update id values) (.loaded row) := by
    intro newCode known _ own member _
    rw [asked, Option.some.injEq] at known
    rw [← known]
    exact free own member
  split at taken
  · next unasked =>
    cases taken
    refine iff_of_true (exactStep_of_not_raised (by simp) (by simp) (by simp [Phase.settled])) ?_
    simp [Regular, unasked]
  · next newCode asked =>
    split at taken
    · next same =>
      cases taken
      refine iff_of_true (exactStep_of_not_raised (by simp) (by simp) (by simp [Phase.settled])) ?_
      intro code known different
      rw [asked] at known
      exact absurd (known ▸ same) different
    · next different =>
      split at taken
      · next unsendable =>
        cases taken
        have free : ∀ other ∈ table, other.row .code ≠ some newCode := fun other member held => by
          simp [sound.sendable member held] at unsendable
        refine iff_of_true ((exactStep_other rfl (by simp)).mpr ?_) (quiet newCode free asked)
        intro ⟨code, known, _, other, member, _, held⟩
        rw [asked, Option.some.injEq] at known
        exact free other member (known ▸ held)
      · split at taken
        · next holder found =>
          cases taken
          obtain ⟨member, held⟩ := Table.findByCode_eq_some found
          rw [exactStep_conflict rfl]
          constructor
          · intro ⟨code, known, _, other, member', apart, held'⟩ code' known' _ own inside key ownCode
            rw [known, Option.some.injEq] at known'
            exact apart ((sound.codes other member' own inside (by rw [held', ownCode, known'])).trans key)
          · intro regular
            refine ⟨newCode, asked, present, holder, member, fun key => ?_, held⟩
            exact regular newCode asked different holder member key held
        · next free =>
          cases taken
          exact iff_of_true (exactStep_of_not_raised (by simp) (by simp) (by simp [Phase.settled]))
            (quiet newCode (Table.findByCode_eq_none.mp free) asked)

theorem Changes.since_eq_some {column : Column} {value : Option column.Value} :
    values.since loaded column = some value ↔ values column = some value ∧ value ≠ loaded column := by
  unfold since
  cases supplied : values column with
  | none => simp
  | some other =>
    simp only [Option.some.injEq]
    by_cases same : other = loaded column
    · rw [if_pos same]
      refine iff_of_false (by simp) fun both => both.2 (both.1 ▸ same)
    · rw [if_neg same, Option.some.injEq]
      exact ⟨fun known => ⟨known, known ▸ same⟩, fun both => both.1⟩

theorem update_eq_write {updatedAt : Time} : table.update id changes now = table.write id values updatedAt ↔
    ∀ own ∈ table, own.id = id →
      changes.apply own.row = values.apply own.row ∧ changes.stamp now own.updatedAt = updatedAt := by
  unfold Table.update Table.write
  rw [List.map_inj_left]
  refine forall₂_congr fun own _ => ?_
  by_cases key : own.id = id
  · simp [key]
  · simp [key]

theorem exists_write_iff (sound : table.Sound) :
    (∃ updatedAt, table.update id changes now = table.write id values updatedAt) ↔
      ∀ own ∈ table, own.id = id → changes.apply own.row = values.apply own.row := by
  simp only [update_eq_write]
  constructor
  · intro ⟨updatedAt, same⟩ own member key
    exact (same own member key).1
  · intro same
    cases found : table.find id with
    | none => exact ⟨now, fun own member key => absurd key (by simpa using List.find?_eq_none.mp found own member)⟩
    | some own =>
      refine ⟨changes.stamp now own.updatedAt, fun other member key => ⟨same other member key, ?_⟩⟩
      rw [(Table.find_eq_some sound).mpr ⟨member, key⟩, Option.some.injEq] at found
      rw [found]

/-- Writing what was not loaded writes what was supplied, where nothing else has been written meanwhile. -/
theorem written_iff (sound : table.Sound) (values : Changes) (loaded : Row) :
    (∃ updatedAt, table.update id (values.since loaded) now = table.write id values updatedAt) ↔
      ∀ own ∈ table, own.id = id → ∀ column value, values column = some value → value = loaded column →
        own.row column = value := by
  rw [exists_write_iff sound]
  refine forall₂_congr fun own _ => forall_congr' fun _ => ?_
  rw [funext_iff]
  refine forall_congr' fun column => ?_
  unfold Changes.apply Changes.since
  cases supplied : values column with
  | none => simp
  | some value =>
    simp only [Option.some.injEq, forall_eq', Option.getD_some]
    by_cases same : value = loaded column
    · simp [same]
    · simp [same]

theorem refuses_update (values : Changes) (loaded : Row) (sound : table.Sound) (found : table.find id = some own) :
    table.refuses id ((values.since loaded).apply own.row) ↔
      Clears (values.since loaded) ∨ Taken table id (values.since loaded) := by
  obtain ⟨member, key⟩ := (Table.find_eq_some sound).mp found
  have complete := sound.required own member
  generalize values.since loaded = changes
  rw [← not_iff_not, Bool.not_eq_true, Table.refuses_eq_false, not_or]
  constructor
  · intro ⟨required, free⟩
    refine ⟨fun ⟨column, needed, cleared⟩ => ?_, fun ⟨newCode, written, other, inside, apart, held⟩ => ?_⟩
    · have present := required column needed
      simp [Changes.apply, cleared] at present
    · refine free other inside apart (required .code rfl) ?_
      rw [held, Changes.apply, written]
      rfl
  · intro ⟨kept, free⟩
    refine ⟨fun column needed => ?_, fun other inside apart _ held => ?_⟩
    · cases written : changes column with
      | none => simpa [Changes.apply, written] using complete column needed
      | some value =>
        cases value with
        | none => exact absurd ⟨column, needed, written⟩ kept
        | some value => simp [Changes.apply, written]
    · cases written : changes .code with
      | none =>
        rw [Changes.apply, written] at held
        exact apart ((sound.codes other inside own member held).trans key)
      | some value =>
        cases value with
        | none => exact kept ⟨.code, rfl, written⟩
        | some newCode =>
          rw [Changes.apply, written] at held
          exact free ⟨newCode, written, other, inside, apart, held⟩

theorem update_unclaimed (sound : table.Sound) (present : ∃ own ∈ table, own.id = id)
    (taken : perform table draw now (.update id values) (.unclaimed loaded) = some (table', phase')) :
    ExactStep table (.update id values) (.unclaimed loaded) table' phase' ↔
      Regular table (.update id values) (.unclaimed loaded) := by
  obtain ⟨own, member, key⟩ := present
  have found : table.find id = some own := (Table.find_eq_some sound).mpr ⟨member, key⟩
  have refused := refuses_update values loaded sound found
  simp only [perform, found, Option.map_some, Option.any_some] at taken
  simp only [Regular]
  split at taken
  · next unstorable =>
    have unstorable : (values.since loaded).storable = false := by simpa using unstorable
    cases taken
    rw [exactStep_other rfl (by simp)]
    simp [unstorable]
  · next storable =>
    have storable : (values.since loaded).storable = true := by simpa using storable
    split at taken
    · next refuses =>
      cases taken
      rw [exactStep_conflict rfl]
      by_cases clears : Clears (values.since loaded)
      · simp [storable, clears]
      · have claimed := (refused.mp refuses).resolve_left clears
        have another : AnotherHolds table (.update id values) := by
          obtain ⟨newCode, written, other, inside, apart, held⟩ := claimed
          refine ⟨newCode, ?_, ⟨own, member, key⟩, other, inside, apart, held⟩
          rw [(Changes.since_eq_some.mp written).1]
          rfl
        simp [storable, clears, claimed, another]
    · next accepted =>
      cases taken
      rw [Bool.not_eq_true, ← Bool.not_eq_true, refused, not_or] at accepted
      have whole := @written_iff table id now sound values loaded
      simp only [storable, accepted.1, accepted.2]
      simp only [Bool.true_eq_false, false_implies, true_and, not_false_eq_true, true_implies, ← whole]
      constructor
      · intro exactly
        exact exactly.updated id values id rfl rfl
      · intro same
        refine ⟨by simp, by simp [Phase.settled], by simp [Phase.settled], fun other others committed known _ => ?_⟩
        cases known
        exact same

theorem exactStep_iff (sound : table.Sound) (present : Session.Present table ⟨request, phase⟩)
    (taken : perform table draw now request phase = some (table', phase')) :
    ExactStep table request phase table' phase' ↔ Regular table request phase := by
  cases request with
  | create create =>
    cases phase with
    | ready => exact iff_of_true (create_ready sound taken) trivial
    | unclaimed row =>
      have own : row = create.row := present
      subst own
      exact create_unclaimed taken
    | committed id =>
      cases taken
      exact iff_of_true (exactStep_of_not_raised (by simp) (by simp) (by simp [Phase.settled])) trivial
    | _ => cases taken
  | update id values =>
    cases phase with
    | ready =>
      refine iff_of_true ?_ trivial
      simp only [perform] at taken
      split at taken
      · cases taken
        exact exactStep_of_not_raised (by simp) (by simp) (by simp [Phase.settled])
      · next missing =>
        cases taken
        rw [exactStep_other rfl (by simp)]
        intro ⟨_, _, ⟨own, member, key⟩, _⟩
        exact absurd key (by simpa using List.find?_eq_none.mp missing own member)
    | loaded row => exact update_loaded sound present taken
    | unclaimed loaded => exact update_unclaimed sound present taken
    | committed id =>
      cases taken
      exact iff_of_true (exactStep_of_not_raised (by simp) (by simp) (by simp [Phase.settled])) trivial
    | _ => cases taken
  | deactivate id =>
    refine iff_of_true ?_ (by cases phase <;> trivial)
    cases phase with
    | ready =>
      simp only [perform] at taken
      split at taken
      · cases taken
        exact exactStep_of_not_raised (by simp) (by simp) (by simp [Phase.settled])
      · cases taken
        exact (exactStep_other rfl (by simp)).mpr fun held => held
    | loaded row =>
      cases taken
      exact ⟨by simp, by simp [Phase.settled], by simp [Phase.settled], by simp⟩
    | committed id =>
      cases taken
      exact exactStep_of_not_raised (by simp) (by simp) (by simp [Phase.settled])
    | _ => cases taken

/-- What holds after a step: the constraints, no warehouse is gone, and the request stands where it may. -/
structure Kept (table : Table) (request : Request) (table' : Table) (phase' : Phase) : Prop where
  sound : table'.Sound
  there : ∀ own ∈ table, ∃ own' ∈ table', own'.id = own.id
  present : Session.Present table' ⟨request, phase'⟩

theorem Kept.same (sound : table.Sound) (present : Session.Present table ⟨request, phase'⟩) :
    Kept table request table phase' := ⟨sound, fun own member => ⟨own, member, rfl⟩, present⟩

theorem Table.update_there (own : Warehouse) (member : own ∈ table) :
    ∃ own' ∈ table.update id values now, own'.id = own.id := by
  have ids : own.id ∈ (table.update id values now).map Warehouse.id := by
    rw [Table.update_id]
    exact List.mem_map_of_mem member
  exact List.mem_map.mp ids

theorem Table.Sound.deactivate (sound : table.Sound) :
    (table.update id (Changes.since (fun | .isActive => some (some false) | _ => none) loaded) now).Sound := by
  have only {column : Column} {value : Option column.Value}
      (written : Changes.since (fun | .isActive => some (some false) | _ => none) loaded column = some value) :
      column = .isActive ∧ value.isSome := by
    have supplied := (Changes.since_eq_some.mp written).1
    cases column with
    | isActive =>
      cases supplied
      exact ⟨rfl, rfl⟩
    | _ => cases supplied
  refine sound.update (Changes.storable_iff.mpr fun column value written => ?_) fun own found => ?_
  · obtain ⟨rfl, -⟩ := only written
    cases value with
    | none => rfl
    | some flag => rfl
  · rw [← Bool.not_eq_true, refuses_update _ _ sound found]
    rintro (⟨column, -, cleared⟩ | ⟨newCode, written, -⟩)
    · simpa using (only cleared).2
    · exact absurd (only written).1 (by decide)

theorem create_kept {create : WarehouseCreate} (sound : table.Sound)
    (taken : perform table draw now (.create create) phase = some (table', phase')) :
    Kept table (.create create) table' phase' := by
  cases phase with
  | ready =>
    simp only [perform] at taken
    split at taken
    · cases taken
      exact .same sound trivial
    · split at taken
      · cases taken
        exact .same sound trivial
      · cases taken
        exact .same sound rfl
  | unclaimed row =>
    simp only [perform] at taken
    split at taken
    · cases taken
    · next fresh =>
      split at taken
      · cases taken
        exact .same sound trivial
      · next storable =>
        split at taken
        · cases taken
          exact .same sound trivial
        · next accepted =>
          cases taken
          have storable : (Changes.storable fun column => some (row column)) = true := by simpa using storable
          refine ⟨sound.append (by simpa using fresh)
            (fun column => Changes.storable_iff.mp storable column _ rfl) (by simpa using accepted), ?_, trivial⟩
          exact fun own member => ⟨own, List.mem_append_left _ member, rfl⟩
  | committed id =>
    cases taken
    exact .same sound trivial
  | _ => cases taken

theorem update_kept {id : Uuid} {values : Changes} (sound : table.Sound)
    (present : Session.Present table ⟨.update id values, phase⟩)
    (taken : perform table draw now (.update id values) phase = some (table', phase')) :
    Kept table (.update id values) table' phase' := by
  cases phase with
  | ready =>
    simp only [perform] at taken
    split at taken
    · next own found =>
      cases taken
      exact .same sound ⟨own, (Table.find_eq_some sound).mp found⟩
    · cases taken
      exact .same sound trivial
  | loaded row =>
    simp only [perform] at taken
    split at taken
    · cases taken
      exact .same sound present
    · split at taken
      · cases taken
        exact .same sound present
      · split at taken
        · cases taken
          exact .same sound trivial
        · split at taken
          · cases taken
            exact .same sound trivial
          · cases taken
            exact .same sound present
  | unclaimed loaded =>
    simp only [perform] at taken
    split at taken
    · cases taken
      exact .same sound trivial
    · next storable =>
      split at taken
      · cases taken
        exact .same sound trivial
      · next accepted =>
        cases taken
        refine ⟨sound.update (by simpa using storable) fun own found => ?_, Table.update_there, trivial⟩
        simpa [found] using accepted
  | committed id =>
    cases taken
    exact .same sound trivial
  | _ => cases taken

theorem deactivate_kept {id : Uuid} (sound : table.Sound)
    (taken : perform table draw now (.deactivate id) phase = some (table', phase')) :
    Kept table (.deactivate id) table' phase' := by
  cases phase with
  | ready =>
    simp only [perform] at taken
    split at taken
    · cases taken
      exact .same sound trivial
    · cases taken
      exact .same sound trivial
  | loaded row =>
    cases taken
    exact ⟨sound.deactivate, Table.update_there, trivial⟩
  | committed id =>
    cases taken
    exact .same sound trivial
  | _ => cases taken

theorem perform_kept (sound : table.Sound) (present : Session.Present table ⟨request, phase⟩)
    (taken : perform table draw now request phase = some (table', phase')) : Kept table request table' phase' := by
  cases request with
  | create create => exact create_kept sound taken
  | update id values => exact update_kept sound present taken
  | deactivate id => exact deactivate_kept sound taken

end Steps

/-- The table is sound, and the requests stand where they may. -/
structure Database.Sound (database : Database) : Prop where
  table : database.table.Sound
  present : ∀ id session, database.sessions id = some session → session.Present database.table

/-- After the step the codes differ and no required column is NULL, and the request has done what it may. -/
structure ExactAt (before : Database) (action : Action) (after : Database) : Prop where
  sound : after.table.Sound
  exact : ∀ id draw now session session', action = .advance id draw now → before.sessions id = some session →
    after.sessions id = some session' →
      ExactStep before.table session.request session.phase after.table session'.phase

def RegularAt (before : Database) (action : Action) : Prop :=
  ∀ id draw now session, action = .advance id draw now → before.sessions id = some session →
    Regular before.table session.request session.phase

theorem Session.Present.mono {table table' : Table} {session : Session} (present : session.Present table)
    (there : ∀ own ∈ table, ∃ own' ∈ table', own'.id = own.id) : session.Present table' := by
  obtain ⟨request, phase⟩ := session
  have kept (id : Uuid) : (∃ own ∈ table, own.id = id) → ∃ own ∈ table', own.id = id := by
    intro ⟨own, member, key⟩
    obtain ⟨own', member', same⟩ := there own member
    exact ⟨own', member', same.trans key⟩
  cases request with
  | create create => cases phase <;> exact present
  | update id values =>
    cases phase with
    | loaded row => exact kept id present
    | unclaimed row => exact kept id present
    | _ => exact present
  | deactivate id => cases phase <;> exact present

theorem next_advance {before after : Database} {id : ℕ} {draw : Uuid} {now : Time}
    (step : next before (.advance id draw now) = some after) :
    ∃ session table' phase', before.sessions id = some session ∧
      perform before.table draw now session.request session.phase = some (table', phase') ∧
      after = ⟨table', Function.update before.sessions id (some { session with phase := phase' })⟩ := by
  simp only [next] at step
  cases known : before.sessions id with
  | none => simp [known] at step
  | some session =>
    simp only [known, Option.map_eq_some_iff] at step
    obtain ⟨⟨table', phase'⟩, taken, rfl⟩ := step
    exact ⟨session, table', phase', rfl, taken, rfl⟩

theorem next_sound (before : Database) (action : Action) (after : Database) (sound : before.Sound)
    (step : next before action = some after) : after.Sound := by
  cases action with
  | start id request =>
    simp only [next] at step
    split at step
    · cases step
    · cases step
      refine ⟨sound.table, fun other session known => ?_⟩
      dsimp only at known
      by_cases own : other = id
      · subst own
        rw [Function.update_self, Option.some.injEq] at known
        subst known
        cases request <;> trivial
      · rw [Function.update_of_ne own] at known
        exact sound.present other session known
  | advance id draw now =>
    obtain ⟨session, table', phase', known, taken, rfl⟩ := next_advance step
    have kept := perform_kept sound.table (sound.present id session known) taken
    refine ⟨kept.sound, fun other session' known' => ?_⟩
    dsimp only at known'
    by_cases own : other = id
    · subst own
      rw [Function.update_self, Option.some.injEq] at known'
      subst known'
      exact kept.present
    · rw [Function.update_of_ne own] at known'
      exact (sound.present other session' known').mono kept.there

theorem exactAt_iff (before : Database) (action : Action) (after : Database) (sound : before.Sound)
    (step : next before action = some after) : ExactAt before action after ↔ RegularAt before action := by
  cases action with
  | start id request =>
    refine iff_of_true ⟨(next_sound _ _ _ sound step).table, ?_⟩ ?_
    · intro _ _ _ _ _ known
      cases known
    · intro _ _ _ _ known
      cases known
  | advance id draw now =>
    obtain ⟨session, table', phase', known, taken, rfl⟩ := next_advance step
    have same := exactStep_iff sound.table (sound.present id session known) taken
    constructor
    · intro exactly other draw' now' session' action own
      cases action
      rw [known, Option.some.injEq] at own
      subst own
      exact same.mp (exactly.exact id draw now session _ rfl known (Function.update_self ..))
    · intro regular
      refine ⟨(next_sound _ _ _ sound step).table, fun other draw' now' session' reached action own there => ?_⟩
      cases action
      rw [known, Option.some.injEq] at own
      subst own
      dsimp only at there
      rw [Function.update_self, Option.some.injEq] at there
      subst there
      exact same.mpr (regular id draw now session rfl known)

theorem initial_sound : initial.Sound := by
  refine ⟨⟨List.nodup_nil, ?_, ?_, ?_⟩, fun _ _ known => by cases known⟩
  · simp [initial]
  · simp [initial]
  · simp [initial]

/-- The runs in which conflicts are reported exactly are those in which no step goes wrong. -/
theorem conflicts_exact_iff (actions : List Action) (final : Database) :
    Run (fun before action after => next before action = some after ∧ ExactAt before action after)
        initial actions final ↔
      Run (fun before action after => next before action = some after ∧ RegularAt before action)
        initial actions final :=
  Run.guards_iff initial_sound next_sound exactAt_iff

theorem AnotherHolds.asked {table : Table} {request : Request} (held : AnotherHolds table request) :
    request.code.isSome := by
  cases request with
  | create create => rfl
  | update id values =>
    obtain ⟨newCode, asked, -⟩ := held
    rw [Request.code, asked]
    rfl
  | deactivate id => cases held

def sampleCreate : WarehouseCreate where
  code := "BOS-01"
  name := "Boston"
  addressLine1 := "1 Main Street"
  city := "Boston"
  state := "MA"
  postalCode := "02110"

def clearName : Changes
  | .name => some none
  | _ => none

def sampleActions : List Action :=
  [.start 0 (.create sampleCreate), .advance 0 7 0, .advance 0 7 0, .start 1 (.update 7 clearName), .advance 1 0 1,
    .advance 1 0 1]

def Phase.conflicts : Phase → Bool
  | .raised (.codeConflict _) => true
  | _ => false

/-- An update that sets the name to null is refused as a conflict of codes, without there being one. -/
theorem null_name_conflicts : ∃ final,
    Run (fun before action after => next before action = some after) initial (sampleActions ++ [.advance 1 0 1]) final ∧
      ¬Run (fun before action after => next before action = some after ∧ ExactAt before action after)
        initial (sampleActions ++ [.advance 1 0 1]) final := by
  have ends : ((sampleActions ++ [Action.advance 1 0 1]).foldlM next initial).map (fun final : Database =>
      (final.sessions 1).map fun session => session.phase.conflicts) = some (some true) := by decide +kernel
  have comes : (sampleActions.foldlM next initial).map (fun before : Database =>
      (before.sessions 1).map fun session => session.request.code) = some (some none) := by decide +kernel
  obtain ⟨final, run, last⟩ := Option.map_eq_some_iff.mp ends
  obtain ⟨before, front, unasked⟩ := Option.map_eq_some_iff.mp comes
  obtain ⟨session', there, conflicts⟩ := Option.map_eq_some_iff.mp last
  obtain ⟨session, own, none⟩ := Option.map_eq_some_iff.mp unasked
  refine ⟨final, .of_foldlM run, fun exactly => ?_⟩
  obtain ⟨middle, start, -, step⟩ := exactly.snoc_inv
  have same : middle = before :=
    (start.mono fun _ _ _ both => both.1).deterministic (.of_foldlM front)
  subst same
  have exact := step.exact 1 0 1 session session' rfl own there
  cases phase : session'.phase with
  | raised failure =>
    cases failure with
    | codeConflict code =>
      have asked := ((exact.conflict _ phase).mp ⟨code, rfl⟩).asked
      rw [none] at asked
      cases asked
    | _ => simp [phase, Phase.conflicts] at conflicts
  | _ => simp [phase, Phase.conflicts] at conflicts

end CareerProjects.WarehouseService
