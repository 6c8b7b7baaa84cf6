import Mathlib.Data.List.Pairwise
import CareerProjects.Library.Unlocked
import CareerProjects.Observability.Model

/-! Acknowledging and resolving incidents. A request reads the incident's row without locking it,
checks the status it has read, and writes the columns it has changed. -/

namespace CareerProjects.Observability
open Library

/-- The new value of a column, written only where it differs from the loaded one. -/
def column {α : Type*} [DecidableEq α] (loaded new current : α) : α :=
  if new = loaded then current else new

inductive IncidentError
  | notFound (incidentId : Uuid)
  | cannotBeAcknowledged (status : IncidentStatus)
  | cannotBeResolvedAgain
  deriving DecidableEq

inductive IncidentRequest
  | acknowledge (incidentId : Uuid) (acknowledgedBy : String) (now : Time)
  | resolve (incidentId : Uuid) (resolvedBy : String) (resolutionSummary : String) (now : Time)
  deriving DecidableEq

namespace IncidentRequest

def incidentId : IncidentRequest → Uuid
  | .acknowledge id .. | .resolve id .. => id

def allowed (request : IncidentRequest) (status : IncidentStatus) : Bool :=
  match request with
  | .acknowledge .. => status == .openStatus
  | .resolve .. => status != .resolved

def write (request : IncidentRequest) (loaded current : IncidentRecord) : IncidentRecord :=
  match request with
  | .acknowledge _ acknowledgedBy now =>
    { current with
      status := column loaded.status .acknowledged current.status
      acknowledgedAt := column loaded.acknowledgedAt (some now) current.acknowledgedAt
      acknowledgedBy := column loaded.acknowledgedBy (some acknowledgedBy) current.acknowledgedBy }
  | .resolve _ resolvedBy resolutionSummary now =>
    { current with
      status := column loaded.status .resolved current.status
      resolvedAt := column loaded.resolvedAt (some now) current.resolvedAt
      resolvedBy := column loaded.resolvedBy (some resolvedBy) current.resolvedBy
      resolutionSummary :=
        column loaded.resolutionSummary (some resolutionSummary) current.resolutionSummary }

def transitionError (request : IncidentRequest) (status : IncidentStatus) : IncidentError :=
  match request with
  | .acknowledge .. => .cannotBeAcknowledged status
  | .resolve .. => .cannotBeResolvedAgain

/-- `_get_record`, the check of the status, and the write. -/
def program : Program IncidentRequest Uuid IncidentRecord IncidentError := fun request reads =>
  match reads with
  | [] => .read request.incidentId
  | none :: _ => .finish (.notFound request.incidentId)
  | some loaded :: _ =>
    if request.allowed loaded.status then .write (.update request.incidentId (request.write loaded))
    else .finish (request.transitionError loaded.status)

end IncidentRequest

abbrev Incidents := Shared IncidentRequest Uuid IncidentRecord IncidentError

namespace IncidentRecord

structure Opened (row : IncidentRecord) : Prop where
  status : row.status = .openStatus
  acknowledgedAt : row.acknowledgedAt = none
  acknowledgedBy : row.acknowledgedBy = none
  resolvedAt : row.resolvedAt = none
  resolvedBy : row.resolvedBy = none
  resolutionSummary : row.resolutionSummary = none

/-- The columns that go with the status are set, and no column of a later status is. -/
structure Lawful (row : IncidentRecord) : Prop where
  unacknowledged : row.status = .openStatus → row.acknowledgedAt = none ∧ row.acknowledgedBy = none
  acknowledged : row.status = .acknowledged → row.acknowledgedAt.isSome ∧ row.acknowledgedBy.isSome
  unresolved : row.status ≠ .resolved →
    row.resolvedAt = none ∧ row.resolvedBy = none ∧ row.resolutionSummary = none
  resolved : row.status = .resolved →
    row.resolvedAt.isSome ∧ row.resolvedBy.isSome ∧ row.resolutionSummary.isSome

theorem Opened.lawful {row : IncidentRecord} (opened : row.Opened) : row.Lawful where
  unacknowledged _ := ⟨opened.acknowledgedAt, opened.acknowledgedBy⟩
  acknowledged status := by simp [opened.status] at status
  unresolved _ := ⟨opened.resolvedAt, opened.resolvedBy, opened.resolutionSummary⟩
  resolved status := by simp [opened.status] at status

end IncidentRecord

theorem column_none {α : Type*} [DecidableEq α] (new : α) (current : Option α) :
    column none (some new) current = some new := by
  simp [column]

namespace IncidentRequest

variable {request : IncidentRequest} {loaded current : IncidentRecord}

def isResolve : IncidentRequest → Bool
  | .acknowledge .. => false
  | .resolve .. => true

def target (request : IncidentRequest) : IncidentStatus :=
  if request.isResolve then .resolved else .acknowledged

theorem write_status (allowed : request.allowed loaded.status = true) :
    (request.write loaded current).status = request.target := by
  cases request with
  | acknowledge id acknowledgedBy now =>
    have status : loaded.status = .openStatus := by simpa [IncidentRequest.allowed] using allowed
    simp [write, target, isResolve, column, status]
  | resolve id resolvedBy summary now =>
    have status : loaded.status ≠ .resolved := by simpa [IncidentRequest.allowed] using allowed
    simp [write, target, isResolve, column, status.symm]

theorem write_lawful (allowed : request.allowed loaded.status = true) (lawful : loaded.Lawful)
    (still : request.allowed current.status = true) (sound : current.Lawful) :
    (request.write loaded current).Lawful := by
  have status := @write_status _ _ current allowed
  cases request with
  | acknowledge id acknowledgedBy now =>
    have before : loaded.status = .openStatus := by simpa [IncidentRequest.allowed] using allowed
    have now_open : current.status = .openStatus := by simpa [IncidentRequest.allowed] using still
    obtain ⟨at_none, by_none⟩ := lawful.unacknowledged before
    simp only [target, isResolve, Bool.false_eq_true, if_false] at status
    refine ⟨fun wrong => ?_, fun _ => ?_, fun _ => ?_, fun wrong => ?_⟩
    · rw [status] at wrong
      cases wrong
    · simp [write, at_none, by_none, column_none]
    · exact sound.unresolved (by simp [now_open])
    · rw [status] at wrong
      cases wrong
  | resolve id resolvedBy summary now =>
    have before : loaded.status ≠ .resolved := by simpa [IncidentRequest.allowed] using allowed
    obtain ⟨at_none, by_none, summary_none⟩ := lawful.unresolved before
    simp only [target, isResolve, if_true] at status
    refine ⟨fun wrong => ?_, fun wrong => ?_, fun wrong => absurd status wrong, fun _ => ?_⟩
    · rw [status] at wrong
      cases wrong
    · rw [status] at wrong
      cases wrong
    · simp [write, at_none, by_none, summary_none, column_none]

theorem program_write {reads : List (Option IncidentRecord)} {wanted : Write Uuid IncidentRecord}
    (writes : program request reads = .write wanted) : ∃ loaded, some loaded ∈ reads ∧
      request.allowed loaded.status = true ∧
      wanted = .update request.incidentId (request.write loaded) := by
  unfold program at writes
  split at writes
  · cases writes
  · cases writes
  · next loaded rest =>
    split at writes
    · next allowed =>
      cases writes
      exact ⟨loaded, List.mem_cons_self, allowed, rfl⟩
    · cases writes

end IncidentRequest

namespace Incidents

open IncidentRequest Shared

structure LifecycleHolds (state : Incidents) : Prop where
  resolvedForEver : ∀ id client row, state.clients id = some client →
    client.progress = .committed row → client.request.isResolve = true →
      ∃ stored, state.store.committed client.request.incidentId = some stored ∧
        stored.status = .resolved
  resolvedColumns : ∀ incidentId row, state.store.committed incidentId = some row →
    (row.status = .resolved ↔
      row.resolvedAt.isSome ∧ row.resolvedBy.isSome ∧ row.resolutionSummary.isSome)
  acknowledgedColumns : ∀ incidentId row, state.store.committed incidentId = some row →
    row.status = .acknowledged →
      row.acknowledgedAt.isSome ∧ row.acknowledgedBy.isSome ∧ row.resolvedAt = none
  succeedOnce : ∀ id other client client' row row', state.clients id = some client →
    state.clients other = some client' → client.progress = .committed row →
    client'.progress = .committed row' → client.request.isResolve = client'.request.isResolve →
    client.request.incidentId = client'.request.incidentId → id = other

/-- When a request commits, the stored status is one that its check lets pass. -/
def StillAllowed (state : Incidents) (_ : ℕ)
    (client : Client IncidentRequest IncidentRecord IncidentError) (_ : Write Uuid IncidentRecord) : Prop :=
  ∀ row, state.store.committed client.request.incidentId = some row →
    client.request.allowed row.status = true

/-- The rows and the successful requests that led to them. -/
structure Matching (rows : Uuid → Option IncidentRecord)
    (changes : List (Change IncidentRequest IncidentRecord)) : Prop where
  lawful : ∀ incidentId row, rows incidentId = some row → row.Lawful
  stored : ∀ change ∈ changes, ∃ row, rows change.request.incidentId = some row ∧
    row.status ≠ .openStatus ∧ (change.request.isResolve = true → row.status = .resolved)
  caused : ∀ incidentId row, rows incidentId = some row → row.status ≠ .openStatus →
    ∃ change ∈ changes, change.request.incidentId = incidentId ∧ change.request.target = row.status
  once : changes.Pairwise fun first second =>
    ¬(first.request.isResolve = second.request.isResolve ∧
      first.request.incidentId = second.request.incidentId)

variable {state : Incidents} {id : ℕ} {client : Client IncidentRequest IncidentRecord IncidentError}
  {wanted : Write Uuid IncidentRecord}

theorem commit_row (sound : Sound program state) (commits : Commits program state id client wanted) :
    ∃ loaded current, some loaded ∈ client.reads ∧ client.request.allowed loaded.status = true ∧
      state.store.committed client.request.incidentId = some current ∧
      wanted.key = client.request.incidentId ∧
      state.result id wanted = some (client.request.write loaded current) := by
  obtain ⟨loaded, inside, allowed, rfl⟩ := program_write commits.writes
  rcases commits.result_cases sound with ⟨result, admits⟩ | ⟨-, -, admits⟩
  · obtain ⟨current, stored⟩ := Option.isSome_iff_exists.mp admits
    refine ⟨loaded, current, inside, allowed, stored, rfl, ?_⟩
    rw [result]
    exact congrArg (Option.map _) stored
  · cases admits

theorem Matching.initial {rows : Uuid → Option IncidentRecord}
    (opened : ∀ incidentId row, rows incidentId = some row → row.Opened) : Matching rows [] where
  lawful incidentId row present := (opened incidentId row present).lawful
  stored change member := by cases member
  caused incidentId row present started := absurd (opened incidentId row present).status started
  once := .nil

theorem Matching.commit (matching : Matching state.store.committed state.changes)
    (sound : Sound program state) (reads : ReadBy program (fun _ => IncidentRecord.Lawful) client)
    (commits : Commits program state id client wanted) (still : StillAllowed state id client wanted) :
    Matching (state.commit id client wanted).store.committed (state.commit id client wanted).changes := by
  obtain ⟨loaded, current, inside, allowed, stored, key, result⟩ := commit_row sound commits
  have now := still current stored
  have status := @write_status _ _ current allowed
  have started : client.request.target ≠ .openStatus := by
    unfold target
    split <;> simp
  -- no request of the same kind has succeeded: the stored status would not let this one pass
  have fresh : ∀ change ∈ state.changes, ¬(change.request.isResolve = client.request.isResolve ∧
      change.request.incidentId = client.request.incidentId) := by
    rintro change member ⟨kind, same⟩
    obtain ⟨row, present, moved, resolved⟩ := matching.stored change member
    rw [same, stored, Option.some.injEq] at present
    subst present
    cases request : client.request with
    | acknowledge =>
      rw [request] at now
      exact moved (by simpa [IncidentRequest.allowed] using now)
    | resolve =>
      rw [request] at now kind
      simp [IncidentRequest.allowed, resolved kind] at now
  have unresolved : current.status ≠ .resolved := by
    intro resolved
    cases request : client.request <;> simp [request, IncidentRequest.allowed, resolved] at now
  simp only [Shared.commit, key, result]
  constructor
  · intro incidentId row present
    by_cases same : incidentId = client.request.incidentId
    · subst same
      rw [Function.update_self, Option.some.injEq] at present
      subst present
      exact write_lawful allowed (reads.mem inside) now (matching.lawful _ current stored)
    · rw [Function.update_of_ne same] at present
      exact matching.lawful incidentId row present
  · intro change member
    rw [List.mem_append, List.mem_singleton] at member
    rcases member with old | rfl
    · by_cases same : change.request.incidentId = client.request.incidentId
      · rw [same, Function.update_self]
        refine ⟨_, rfl, by rwa [status], fun resolve => ?_⟩
        obtain ⟨row, present, -, resolved⟩ := matching.stored change old
        rw [same, stored, Option.some.injEq] at present
        exact absurd (present ▸ resolved resolve) unresolved
      · rw [Function.update_of_ne same]
        exact matching.stored change old
    · rw [Function.update_self]
      exact ⟨_, rfl, by rwa [status], fun resolve => by rw [status, target, if_pos resolve]⟩
  · intro incidentId row present moved
    by_cases same : incidentId = client.request.incidentId
    · subst same
      rw [Function.update_self, Option.some.injEq] at present
      subst present
      exact ⟨_, List.mem_append_right _ List.mem_cons_self, rfl, status.symm⟩
    · rw [Function.update_of_ne same] at present
      obtain ⟨change, member, cause⟩ := matching.caused incidentId row present moved
      exact ⟨change, List.mem_append_left _ member, cause⟩
  · rw [List.pairwise_append]
    refine ⟨matching.once, List.pairwise_singleton _ _, fun change member last new => ?_⟩
    rw [List.mem_singleton.mp new]
    exact fresh change member

theorem Matching.holds (matching : Matching state.store.committed state.changes)
    (sound : Sound program state) : LifecycleHolds state where
  resolvedForEver id client row present committed resolve := by
    obtain ⟨change, member, -, request, -⟩ := (sound.clients id client present).change row committed
    obtain ⟨stored, found, -, resolved⟩ := matching.stored change member
    rw [request] at found resolved
    exact ⟨stored, found, resolved resolve⟩
  resolvedColumns incidentId row present := by
    have lawful := matching.lawful incidentId row present
    refine ⟨lawful.resolved, fun columns => ?_⟩
    by_contra unresolved
    rw [(lawful.unresolved unresolved).1] at columns
    cases columns.1
  acknowledgedColumns incidentId row present acknowledged := by
    have lawful := matching.lawful incidentId row present
    obtain ⟨at_some, by_some⟩ := lawful.acknowledged acknowledged
    exact ⟨at_some, by_some, (lawful.unresolved (by simp [acknowledged])).1⟩
  succeedOnce id other client client' row row' present present' committed committed' kind incident := by
    obtain ⟨change, member, rfl, request, -⟩ := (sound.clients id client present).change row committed
    obtain ⟨change', member', rfl, request', -⟩ :=
      (sound.clients other client' present').change row' committed'
    by_contra different
    have symmetric : Std.Symm fun first second : Change IncidentRequest IncidentRecord =>
        ¬(first.request.isResolve = second.request.isResolve ∧
          first.request.incidentId = second.request.incidentId) :=
      ⟨fun _ _ apart same => apart ⟨same.1.symm, same.2.symm⟩⟩
    refine matching.once.forall member member' (fun same => different (congrArg Change.client same)) ?_
    rw [request, request']
    exact ⟨kind, incident⟩

theorem Matching.broken (matching : Matching state.store.committed state.changes)
    (sound : Sound program state) (commits : Commits program state id client wanted)
    (late : ¬StillAllowed state id client wanted) : ¬LifecycleHolds (state.commit id client wanted) := by
  intro holds
  obtain ⟨loaded, current, -, allowed, stored, key, result⟩ := commit_row sound commits
  have status := @write_status _ _ current allowed
  have refused : client.request.allowed current.status = false := by
    by_contra still
    refine late fun row present => ?_
    rw [stored, Option.some.injEq] at present
    rw [← present]
    simpa using still
  have moved : current.status ≠ .openStatus := by
    intro opened
    cases request : client.request <;> simp [request, IncidentRequest.allowed, opened] at refused
  obtain ⟨change, member, incident, cause⟩ := matching.caused _ current stored moved
  obtain ⟨earlier, present, committed, request⟩ := sound.committed_of_change member
  have different : change.client ≠ id := by
    intro same
    rw [same, commits.present, Option.some.injEq] at present
    rw [← present, commits.flushed] at committed
    cases committed
  have kept : (state.commit id client wanted).clients change.client = some earlier :=
    (Function.update_of_ne different ..).trans present
  have own : (state.commit id client wanted).clients id =
      some { client with progress := .committed (state.result id wanted) } := Function.update_self ..
  by_cases kind : earlier.request.isResolve = client.request.isResolve
  · exact different (holds.succeedOnce _ id earlier _ _ _ kept own committed rfl kind (request ▸ incident))
  · -- an acknowledgement over a resolved incident
    have resolve : earlier.request.isResolve = true := by
      by_contra acknowledge
      have mine : client.request.isResolve = true := by
        cases own_kind : client.request.isResolve <;> simp_all
      rw [← request, target, if_neg acknowledge] at cause
      cases asked : client.request with
      | acknowledge => simp [asked, isResolve] at mine
      | resolve => simp [asked, IncidentRequest.allowed, ← cause] at refused
    obtain ⟨row, found, resolved⟩ := holds.resolvedForEver _ earlier _ kept committed resolve
    have mine : client.request.isResolve = false := by
      cases own_kind : client.request.isResolve <;> simp_all
    simp only [Shared.commit, key, result, request, incident, Function.update_self,
      Option.some.injEq] at found
    rw [← found, status, target, mine] at resolved
    cases resolved

/-- In every run of acknowledge and resolve requests over incidents that start open, whatever the
order of their statements: the lifecycle holds in every state exactly if each request that commits
finds a stored status that its check lets pass; and a request that fails has changed nothing. -/
theorem incident_lifecycle (rows : Uuid → Option IncidentRecord)
    (opened : ∀ incidentId row, rows incidentId = some row → row.Opened) :
    (∀ labels (state : Incidents),
      Run (fun a action b => a.step program action = some b) (initial rows) labels state →
      ((∀ before later middle, labels = before ++ later →
          Run (fun a action b => a.step program action = some b) (initial rows) before middle →
          LifecycleHolds middle) ↔
        Run (fun a action b => a.step program action = some b ∧ Permits program StillAllowed a action)
          (initial rows) labels state)) ∧
    ∀ (middle : Incidents) action after final,
      Reached (fun a action b => a.step program action = some b) (initial rows) middle →
      middle.step program action = some after →
      Reached (fun a action b => a.step program action = some b) after final →
      after.store.committed = middle.store.committed ∨ ∃ id client row, action = .execute id ∧
        final.clients id = some client ∧ client.progress = .committed row := by
  refine ⟨fun labels state run => ?_, fun middle action after final _ moved later =>
    unchanged_or_committed moved later⟩
  refine @Run.guarded_iff _ _ _ _ _ (fun state action => state.step program action)
    (fun state => Sound program state ∧ Matching state.store.committed state.changes ∧
      ReadsFrom program (fun _ => IncidentRecord.Lawful) state) LifecycleHolds
    (Permits program StillAllowed) ⟨.initial rows, .initial opened, .initial rows⟩ ?_ ?_ ?_ run
  · rintro state action after ⟨sound, matching, reads⟩ moved permitted
    refine ⟨sound.step moved, ?_, reads.step matching.lawful moved⟩
    rcases step_cases moved with ⟨id, client, wanted, executed, commits, rfl⟩ | ⟨same, unchanged⟩
    · exact matching.commit sound (reads id client commits.present) commits
        (permitted id client wanted executed commits)
    · rwa [same, unchanged]
  · exact fun state known => known.2.1.holds known.1
  · rintro state action after ⟨sound, matching, reads⟩ moved late
    obtain ⟨id, client, wanted, commits, refused, rfl⟩ := unpermitted moved late
    exact matching.broken sound commits refused

def databaseDown : IncidentRecord :=
  ⟨5, 1, 9, .openStatus, .critical, "Incident: Critical log detected", .text "database down", 0,
    none, none, none, none, none⟩

def openIncidents : Uuid → Option IncidentRecord := fun id => if id = 5 then some databaseDown else none

theorem openIncidents_opened : ∀ incidentId row, openIncidents incidentId = some row → row.Opened := by
  intro incidentId row present
  unfold openIncidents at present
  split at present
  · cases present
    exact ⟨rfl, rfl, rfl, rfl, rfl, rfl⟩
  · cases present

def raceActions : List (Action IncidentRequest) :=
  [.start 0 (.acknowledge 5 "aj" 1), .start 1 (.resolve 5 "automation" "Recovered" 2), .execute 0,
    .execute 1, .execute 1, .execute 1, .execute 0, .execute 0]

def succeeded : Progress IncidentRecord IncidentError → Bool
  | .committed _ => true
  | _ => false

theorem race_reached : ∃ (state : Incidents) (client : Client IncidentRequest IncidentRecord IncidentError)
    (result : Option IncidentRecord) (row : IncidentRecord),
    Run (fun a action b => a.step program action = some b) (initial openIncidents) raceActions state ∧
    state.clients 1 = some client ∧ client.request = .resolve 5 "automation" "Recovered" 2 ∧
    client.progress = .committed result ∧ state.store.committed 5 = some row ∧
    row.status = .acknowledged := by
  have ending : ((raceActions.foldlM (Shared.step program) (initial openIncidents)).map fun state =>
      ((state.clients 1).map fun client => (client.request, succeeded client.progress),
        (state.store.committed 5).map IncidentRecord.status)) =
      some (some (.resolve 5 "automation" "Recovered" 2, true), some .acknowledged) := by
    decide +kernel
  obtain ⟨state, found, observed⟩ := Option.map_eq_some_iff.mp ending
  rw [Prod.mk.injEq, Option.map_eq_some_iff, Option.map_eq_some_iff] at observed
  obtain ⟨⟨client, present, kind⟩, row, stored, status⟩ := observed
  rw [Prod.mk.injEq] at kind
  cases progress : client.progress with
  | committed result => exact ⟨state, client, result, row, .of_foldlM found, present, kind.1, progress,
      stored, status⟩
  | _ => simp [progress, succeeded] at kind

theorem not_holds_of_overwritten {result : Option IncidentRecord} {row : IncidentRecord}
    (present : state.clients id = some client) (committed : client.progress = .committed result)
    (resolve : client.request.isResolve = true)
    (stored : state.store.committed client.request.incidentId = some row)
    (overwritten : row.status ≠ .resolved) : ¬LifecycleHolds state := by
  intro holds
  obtain ⟨row', found, resolved⟩ := holds.resolvedForEver id client result present committed resolve
  rw [stored, Option.some.injEq] at found
  exact overwritten (found ▸ resolved)

theorem resolved_then_acknowledged : ∃ state : Incidents,
    Run (fun a action b => a.step program action = some b) (initial openIncidents) raceActions state ∧
    ¬LifecycleHolds state := by
  obtain ⟨state, client, result, row, run, present, request, committed, stored, status⟩ := race_reached
  have overwritten : row.status ≠ .resolved := by simp [status]
  refine ⟨state, run, not_holds_of_overwritten present committed (by rw [request]; rfl) ?_ overwritten⟩
  rw [request]
  exact stored

theorem incident_lifecycle_raced : ∃ state : Incidents,
    Run (fun a action b => a.step program action = some b) (initial openIncidents) raceActions state ∧
    ¬Run (fun a action b => a.step program action = some b ∧ Permits program StillAllowed a action)
      (initial openIncidents) raceActions state := by
  obtain ⟨state, client, result, row, run, present, request, committed, stored, status⟩ := race_reached
  refine ⟨state, run, fun guarded => ?_⟩
  have everywhere := ((incident_lifecycle openIncidents openIncidents_opened).1 raceActions state run).mpr guarded
  have overwritten : row.status ≠ .resolved := by simp [status]
  refine not_holds_of_overwritten present committed (by rw [request]; rfl) ?_ overwritten
    (everywhere raceActions [] state (by simp) run)
  rw [request]
  exact stored

end Incidents

end CareerProjects.Observability
