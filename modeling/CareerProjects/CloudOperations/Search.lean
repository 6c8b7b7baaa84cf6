import CareerProjects.CloudOperations.Model
import CareerProjects.Library.Like
import CareerProjects.Library.Lines
import Mathlib.Data.List.Sort

/-! The search for incidents: the term of a query is looked for as it is, whatever characters it has,
in the title, the description and the service name of each incident. -/

namespace CareerProjects.CloudOperations

open Library

structure CaseFolding where
  fold : Char → Char
  special : ∀ c, ∀ mark ∈ ['\\', '%', '_'], fold c = mark ↔ c = mark

namespace CaseFolding

variable (folding : CaseFolding)

def text (text : List Char) : List Char := text.map folding.fold

def ilike (pattern subject : List Char) : Option Bool := Like.like '\\' (folding.text pattern) (folding.text subject)

end CaseFolding

def replace (old : Char) (new value : List Char) : List Char := value.flatMap fun c => if c = old then new else [c]

def escapeLikeValue (value : List Char) : List Char :=
  replace '_' ['\\', '_'] (replace '%' ['\\', '%'] (replace '\\' ['\\', '\\'] value))

structure IncidentRow where
  incident : Incident
  createdAt : ℤ

structure IncidentQuery where
  search : Option String
  status : Option IncidentStatus
  severity : Option IncidentSeverity
  serviceName : Option String
  offset : ℕ
  limit : ℕ

def stripped (text : Option String) : List Char := text.elim [] fun text => strip text.toList

def searchPattern (search : List Char) : List Char := '%' :: (escapeLikeValue search ++ ['%'])

section Statement

variable (folding : CaseFolding) (lower : List Char → List Char)

/-- The condition on the three texts, of which an error in one is an error of the statement. -/
def searched (search : List Char) (incident : Incident) : Option Bool :=
  (folding.ilike (searchPattern search) incident.title.toList).bind fun inTitle =>
    (folding.ilike (searchPattern search) incident.description.toList).bind fun inDescription =>
      (folding.ilike (searchPattern search) incident.serviceName.toList).map fun inServiceName =>
        inTitle || inDescription || inServiceName

/-- The other conditions; Python lowers the service name that is asked for, the database the stored
ones. -/
def filtered (query : IncidentQuery) (incident : Incident) : Bool :=
  let serviceName := lower (stripped query.serviceName)
  (serviceName = [] || folding.text incident.serviceName.toList = serviceName) &&
    query.status.all (incident.status = ·) && query.severity.all (incident.severity = ·)

def condition (query : IncidentQuery) (row : IncidentRow) : Option Bool :=
  let search := stripped query.search
  (if search = [] then some true else searched folding search row.incident).map fun found =>
    found && filtered folding lower query row.incident

/-- The rows for which the condition holds, if it is an error for none. -/
def whereRows {α : Type} (condition : α → Option Bool) : List α → Option (List α)
  | [] => some []
  | row :: rows => (condition row).bind fun keep =>
    (whereRows condition rows).map fun kept => if keep then row :: kept else kept

def Newer (a b : IncidentRow) : Prop :=
  b.createdAt < a.createdAt ∨ a.createdAt = b.createdAt ∧ b.incident.id ≤ a.incident.id

instance : DecidableRel Newer := fun _ _ => inferInstanceAs (Decidable (_ ∨ _))

def IncidentQuery.page (query : IncidentQuery) (rows : List IncidentRow) : List IncidentRow :=
  ((rows.insertionSort Newer).drop query.offset).take query.limit

def listIncidents (query : IncidentQuery) (rows : List IncidentRow) : Option (List IncidentRow) :=
  (whereRows (condition folding lower query) rows).map query.page

/-- One of an incident's texts contains the term, but for case. -/
def Mentions (search : List Char) (incident : Incident) : Prop :=
  folding.text search <:+: folding.text incident.title.toList ∨
    folding.text search <:+: folding.text incident.description.toList ∨
    folding.text search <:+: folding.text incident.serviceName.toList

instance (search : List Char) (incident : Incident) : Decidable (Mentions folding search incident) :=
  inferInstanceAs (Decidable (_ ∨ _))

end Statement

theorem escapeLikeValue_eq (value : List Char) : escapeLikeValue value = value.flatMap (Like.escapeChar '\\') := by
  rw [escapeLikeValue, replace, replace, replace, List.flatMap_assoc, List.flatMap_assoc]
  refine List.flatMap_congr fun c _ => ?_
  unfold Like.escapeChar
  by_cases backslash : c = '\\'
  · subst backslash
    rfl
  · by_cases percent : c = '%'
    · subst percent
      rfl
    · by_cases underscore : c = '_'
      · subst underscore
        rfl
      · simp [backslash, percent, underscore]

variable (folding : CaseFolding) (lower : List Char → List Char)

theorem map_escapeChar (c : Char) :
    (Like.escapeChar '\\' c).map folding.fold = Like.escapeChar '\\' (folding.fold c) := by
  have backslash := folding.special c '\\' (by simp)
  have percent := folding.special c '%' (by simp)
  have underscore := folding.special c '_' (by simp)
  have kept := (folding.special '\\' '\\' (by simp)).mpr rfl
  unfold Like.escapeChar
  by_cases special : c = '\\' ∨ c = '%' ∨ c = '_'
  · rw [if_pos special, if_pos (by rwa [backslash, percent, underscore]), List.map_cons, kept, List.map_singleton]
  · rw [if_neg special, if_neg (by rwa [backslash, percent, underscore]), List.map_singleton]

theorem text_searchPattern (search : List Char) : folding.text (searchPattern search) =
    '%' :: ((folding.text search).flatMap (Like.escapeChar '\\') ++ ['%']) := by
  have percent := (folding.special '%' '%' (by simp)).mpr rfl
  have escaped : folding.text (search.flatMap (Like.escapeChar '\\')) =
      (folding.text search).flatMap (Like.escapeChar '\\') := by
    rw [CaseFolding.text, CaseFolding.text, List.map_flatMap, List.flatMap_map]
    exact List.flatMap_congr fun c _ => map_escapeChar folding c
  rw [searchPattern, escapeLikeValue_eq, ← escaped]
  simp [CaseFolding.text, percent]

theorem ilike_searchPattern (search subject : List Char) :
    folding.ilike (searchPattern search) subject =
      some (decide (folding.text search <:+: folding.text subject)) := by
  rw [CaseFolding.ilike, text_searchPattern]
  exact Like.like_between (by decide) _ _

theorem searched_eq (search : List Char) (incident : Incident) :
    searched folding search incident = some (decide (Mentions folding search incident)) := by
  simp only [searched, ilike_searchPattern, Option.bind_some, Option.map_some, Option.some.injEq]
  rw [Bool.eq_iff_iff, decide_eq_true_iff]
  simp [Mentions, or_assoc]

theorem whereRows_eq {α : Type} {condition : α → Option Bool} {holds : α → Bool}
    (known : ∀ row, condition row = some (holds row)) (rows : List α) :
    whereRows condition rows = some (rows.filter holds) := by
  induction rows with
  | nil => rfl
  | cons row rows ih =>
    rw [whereRows, known, Option.bind_some, ih, Option.map_some, List.filter_cons]

/-- A term is looked for literally and without regard to case, in every text; and a search gives
exactly the incidents that mention it and pass the other filters, in pages. -/
theorem search_literal : (∀ search subject, folding.ilike (searchPattern search) subject =
      some (decide (folding.text search <:+: folding.text subject))) ∧
    ∀ (query : IncidentQuery) (rows : List IncidentRow), stripped query.search ≠ [] →
      listIncidents folding lower query rows = some (query.page (rows.filter fun row =>
        Mentions folding (stripped query.search) row.incident ∧ filtered folding lower query row.incident)) := by
  refine ⟨ilike_searchPattern folding, ?_⟩
  intro query rows nonblank
  have known : ∀ row, condition folding lower query row = some
      (decide (Mentions folding (stripped query.search) row.incident ∧ filtered folding lower query row.incident)) := by
    intro row
    simp only [condition, if_neg nonblank, searched_eq, Option.map_some, Bool.decide_and, Bool.decide_eq_true]
  rw [listIncidents, whereRows_eq known, Option.map_some]

def asciiFolding : CaseFolding where
  fold c := if c.toNat ∈ List.range' 65 26 then Char.ofNat (c.toNat + 32) else c
  special c mark member := by
    by_cases upper : c.toNat ∈ List.range' 65 26
    · have lower : ∀ n ∈ List.range' 65 26, ['\\', '%', '_'].all fun mark =>
          Char.ofNat (n + 32) ≠ mark ∧ Char.ofNat n ≠ mark := by decide
      have apart := of_decide_eq_true (List.all_eq_true.mp (lower c.toNat upper) mark member)
      rw [Char.ofNat_toNat] at apart
      rw [if_pos upper]
      exact iff_of_false apart.1 apart.2
    · rw [if_neg upper]

def discount : IncidentRow where
  incident := ⟨1, "Discounts of 50%_OFF \\ fail", "The coupon is refused.", "checkout", .high, .openStatus⟩
  createdAt := 0

def percentQuery : IncidentQuery := ⟨some " 50%_off \\ ", none, none, none, 0, 20⟩

theorem search_literal_discount : stripped percentQuery.search ≠ [] ∧
    listIncidents asciiFolding id percentQuery [discount] = some [discount] := by
  have nonblank : stripped percentQuery.search ≠ [] := by decide +kernel
  have found := (search_literal asciiFolding id).2 percentQuery [discount] nonblank
  have kept : ([discount].filter fun row => Mentions asciiFolding (stripped percentQuery.search) row.incident ∧
      filtered asciiFolding id percentQuery row.incident) = [discount] := by
    rw [List.filter_cons_of_pos (by decide +kernel), List.filter_nil]
  rw [kept] at found
  exact ⟨nonblank, found⟩

end CareerProjects.CloudOperations
