import Mathlib.Data.List.Dedup
import Mathlib.Data.List.Sort
import Mathlib.Data.Prod.Lex
import Mathlib.Data.String.Basic
import CareerProjects.Library.Doubles
import CareerProjects.Library.Inserting
import CareerProjects.Observability.Platform

/-! Trace spans. Batches of spans are ingested all or none, beside what else happens on the platform; a
trace is reconstructed from the spans that are stored. Times are whole microseconds. -/

namespace CareerProjects.Observability
open Library Library.Doubles

inductive SpanStatus
  | unset | ok | error
  deriving DecidableEq, Repr

structure Span (Attributes : Type) where
  traceId : String
  spanId : String
  parentSpanId : Option String
  service : String
  environment : ServiceEnvironment
  source : String
  operation : String
  status : SpanStatus
  startedAt : ℤ
  endedAt : ℤ
  attributes : Attributes
  deriving DecidableEq

def IsHex (length : ℕ) (text : String) : Prop :=
  text.length = length ∧ ∀ c ∈ text.toList, c ∈ "0123456789abcdef".toList

structure TraceSpanCreate (Attributes : Type) extends Span Attributes where
  traceIdHex : IsHex 32 traceId
  spanIdHex : IsHex 16 spanId
  parentSpanIdHex : ∀ parent ∈ parentSpanId, IsHex 16 parent
  serviceLength : 1 ≤ service.length ∧ service.length ≤ 100
  sourceLength : 1 ≤ source.length ∧ source.length ≤ 200
  operationLength : 1 ≤ operation.length ∧ operation.length ≤ 200
  timing : startedAt ≤ endedAt
  notOwnParent : parentSpanId ≠ some spanId
  deriving DecidableEq

structure TraceBatchCreate (Attributes : Type) where
  spans : List (TraceSpanCreate Attributes)
  size : 1 ≤ spans.length ∧ spans.length ≤ 1000
  deriving DecidableEq

def Span.identity {Attributes : Type} (span : Span Attributes) : String × ServiceEnvironment :=
  (span.service, span.environment)

structure TraceSpanRecord (Attributes : Type) where
  id : Uuid
  serviceId : Uuid
  traceId : String
  spanId : String
  parentSpanId : Option String
  source : String
  operation : String
  status : SpanStatus
  startedAt : ℤ
  endedAt : ℤ
  durationMs : ℚ
  attributes : Attributes
  receivedAt : ℤ
  deriving DecidableEq

/-- The primary key of a record, and its unique trace and span. -/
inductive TraceKey
  | record (id : Uuid)
  | span (traceId spanId : String)
  deriving DecidableEq

/-- A batch with its clock reading and the identifiers it draws. -/
structure TraceIngest (Attributes : Type) where
  batch : TraceBatchCreate Attributes
  receivedAt : ℤ
  recordId : ℕ → Uuid

inductive TraceError
  | mixedTraceBatch
  | repeatedSpanIds (traceId : String)
  | existingSpanIds (traceId : String) (spanIds : List String)
  | unregisteredService (service : String) (environment : ServiceEnvironment)
  deriving DecidableEq

/-- `round((ended_at - started_at).total_seconds() * 1000, 3)`, in floating point. -/
def durationMs (startedAt endedAt : ℤ) : ℚ :=
  round (times (divide (endedAt - startedAt : ℤ) 1000000) 1000) 3

variable {Attributes : Type}

abbrev TraceRead (Attributes : Type) := Snapshot Database TraceKey (TraceSpanRecord Attributes)

abbrev Traces (Attributes : Type) :=
  Inserts (TraceIngest Attributes) Database TraceKey (TraceSpanRecord Attributes) TraceError

/-- How far `_resolve_services` comes with what has been read. -/
inductive Resolution (Attributes : Type)
  | read
  | unregistered (service : String) (environment : ServiceEnvironment)
  | resolved (spans : List (TraceSpanCreate Attributes × Uuid))

def Resolution.cons (entry : TraceSpanCreate Attributes × Uuid) : Resolution Attributes → Resolution Attributes
  | .resolved spans => .resolved (entry :: spans)
  | other => other

/-- `_resolve_services`: one query for each identity that is not in the cache. -/
def resolveServices : List (TraceSpanCreate Attributes) → List ((String × ServiceEnvironment) × Uuid) →
    List (TraceRead Attributes) → Resolution Attributes
  | [], _, _ => .resolved []
  | span :: spans, serviceIds, reads =>
    match serviceIds.lookup span.identity, reads with
    | some serviceId, reads => (resolveServices spans serviceIds reads).cons (span, serviceId)
    | none, [] => .read
    | none, read :: reads =>
      match read.world.service span.identity with
      | none => .unregistered span.service span.environment
      | some service =>
        (resolveServices spans ((span.identity, service.id) :: serviceIds) reads).cons (span, service.id)

namespace TraceIngest

def existing (request : TraceIngest Attributes) (traceId : String) (read : TraceRead Attributes) :
    List String :=
  ((request.batch.spans.map fun span => span.spanId).filter fun spanId =>
    (read.rows (.span traceId spanId)).isSome).insertionSort (· ≤ ·)

def record (request : TraceIngest Attributes) (position : ℕ) (entry : TraceSpanCreate Attributes × Uuid) :
    TraceSpanRecord Attributes where
  id := request.recordId position
  serviceId := entry.2
  traceId := entry.1.traceId
  spanId := entry.1.spanId
  parentSpanId := entry.1.parentSpanId
  source := entry.1.source
  operation := entry.1.operation
  status := entry.1.status
  startedAt := entry.1.startedAt
  endedAt := entry.1.endedAt
  durationMs := durationMs entry.1.startedAt entry.1.endedAt
  attributes := entry.1.attributes
  receivedAt := request.receivedAt

def createBatch (request : TraceIngest Attributes) (resolved : List (TraceSpanCreate Attributes × Uuid)) :
    List (TraceKey × TraceSpanRecord Attributes) :=
  (resolved.mapIdx request.record).flatMap fun record =>
    [(.record record.id, record), (.span record.traceId record.spanId, record)]

def ingest : Planner (TraceIngest Attributes) Database TraceKey (TraceSpanRecord Attributes) TraceError
  | request, reads =>
    let spanIds := request.batch.spans.map fun span => span.spanId
    match (request.batch.spans.map fun span => span.traceId).dedup with
    | [traceId] =>
      if spanIds.length ≠ spanIds.dedup.length then .finish (.repeatedSpanIds traceId)
      else
        match reads with
        | [] => .read
        | read :: reads =>
          if request.existing traceId read ≠ [] then
            .finish (.existingSpanIds traceId (request.existing traceId read))
          else
            match resolveServices request.batch.spans [] reads with
            | .read => .read
            | .unregistered service environment => .finish (.unregisteredService service environment)
            | .resolved resolved => .insert (request.createBatch resolved)
    | _ => .finish .mixedTraceBatch

end TraceIngest

structure TraceSpanResponse (Attributes : Type) where
  id : Uuid
  traceId : String
  spanId : String
  parentSpanId : Option String
  serviceId : Uuid
  service : String
  environment : ServiceEnvironment
  source : String
  operation : String
  status : SpanStatus
  startedAt : ℤ
  endedAt : ℤ
  durationMs : ℚ
  attributes : Attributes
  deriving DecidableEq

structure TraceResponse (Attributes : Type) where
  traceId : String
  spanCount : ℕ
  startedAt : ℤ
  endedAt : ℤ
  durationMs : ℚ
  services : List String
  spans : List (TraceSpanResponse Attributes)
  deriving DecidableEq

abbrev TraceSpanRow (Attributes : Type) := TraceSpanRecord Attributes × MonitoredService

def TraceSpanRow.response (row : TraceSpanRow Attributes) : TraceSpanResponse Attributes where
  id := row.1.id
  traceId := row.1.traceId
  spanId := row.1.spanId
  parentSpanId := row.1.parentSpanId
  serviceId := row.2.id
  service := row.2.name
  environment := row.2.environment
  source := row.1.source
  operation := row.1.operation
  status := row.1.status
  startedAt := row.1.startedAt
  endedAt := row.1.endedAt
  durationMs := row.1.durationMs
  attributes := row.1.attributes

def joinService (services : List MonitoredService) (record : TraceSpanRecord Attributes) :
    Option (TraceSpanRow Attributes) :=
  (services.find? fun service => service.id = record.serviceId).map fun service => (record, service)

def getRows (services : List MonitoredService) (table : List (TraceSpanRecord Attributes)) (traceId : String) :
    List (TraceSpanRow Attributes) :=
  ((table.filter fun record => record.traceId = traceId).filterMap (joinService services)).insertionSort
    fun a b => toLex (a.1.startedAt, a.1.spanId) ≤ toLex (b.1.startedAt, b.1.spanId)

/-- The service's `get_by_trace_id`; it raises where there is no span. -/
def getByTraceId (services : List MonitoredService) (table : List (TraceSpanRecord Attributes))
    (traceId : String) : Option (TraceResponse Attributes) := do
  let rows := getRows services table traceId
  let startedAt ← (rows.map fun row => row.1.startedAt).min?
  let endedAt ← (rows.map fun row => row.1.endedAt).max?
  return {
    traceId := traceId
    spanCount := rows.length
    startedAt := startedAt
    endedAt := endedAt
    durationMs := durationMs startedAt endedAt
    services := (rows.map fun row => row.2.name).dedup.insertionSort (· ≤ ·)
    spans := rows.map TraceSpanRow.response }

/-- The record that an entry under a trace and a span holds. -/
def spanRecord : TraceKey × TraceSpanRecord Attributes → Option (TraceSpanRecord Attributes)
  | (.span _ _, record) => some record
  | (.record _, _) => none

def Traces.table (state : Traces Attributes) : List (TraceSpanRecord Attributes) :=
  (state.commits.flatMap Inserted.rows).filterMap spanRecord

theorem durationMs_mono {a b c d : ℤ} (start : a ≤ b) (shorter : b - a ≤ d - c) :
    durationMs a b ≤ durationMs c d := by
  have none : (0 : ℚ) ≤ (b - a : ℤ) := by
    exact_mod_cast sub_nonneg.mpr start
  have less : ((b - a : ℤ) : ℚ) ≤ (d - c : ℤ) := by exact_mod_cast shorter
  refine round_mono (double_nonneg _) (double_mono ?_ ?_)
  · have seconds := double_nonneg (((b - a : ℤ) : ℚ) / 1000000)
    unfold divide
    positivity
  · have seconds : divide (b - a : ℤ) 1000000 ≤ divide (d - c : ℤ) 1000000 :=
      double_mono (by positivity) (by gcongr)
    gcongr

theorem durationMs_refl (a : ℤ) : durationMs a a = 0 := by
  unfold durationMs
  rw [sub_self]
  decide +kernel

theorem durationMs_exact {a b : ℤ} (start : a ≤ b) (short : b - a ≤ 2 ^ 50) :
    durationMs a b = double (((b - a : ℤ) : ℚ) / 1000) := by
  obtain ⟨k, length⟩ := Int.eq_ofNat_of_zero_le (sub_nonneg.mpr start)
  rw [length] at short
  unfold durationMs
  rw [length, Int.cast_natCast]
  by_cases none : k = 0
  · subst none
    decide +kernel
  · have error := times_divide_error (Nat.one_le_iff_ne_zero.mpr none)
    have small : (k : ℚ) ≤ 1125899906842624 := by exact_mod_cast short
    have digits : roundHalfEven (times (divide k 1000000) 1000 * 10 ^ 3) = k := by
      have positive := double_nonneg (divide k 1000000 * 1000)
      refine roundHalfEven_eq (by unfold times; positivity) ?_
      rw [abs_le] at error
      rw [abs_lt]
      norm_num at error ⊢
      constructor <;> linarith
    rw [Doubles.round, digits]
    norm_num

theorem durationMs_error {a b : ℤ} (start : a ≤ b) :
    |durationMs a b - ((b - a : ℤ) : ℚ) / 1000| ≤ ((b - a : ℤ) : ℚ) / 1000 / 2 ^ 49 := by
  obtain ⟨k, length⟩ := Int.eq_ofNat_of_zero_le (sub_nonneg.mpr start)
  by_cases none : k = 0
  · subst none
    have same : b = a := by omega
    subst same
    rw [durationMs_refl]
    simp
  have some : 1 ≤ k := Nat.one_le_iff_ne_zero.mpr none
  have one : (1 : ℚ) ≤ k := by exact_mod_cast some
  by_cases short : b - a ≤ 2 ^ 50
  · rw [durationMs_exact start short, length, Int.cast_natCast]
    calc |double ((k : ℚ) / 1000) - k / 1000| ≤ k / 1000 / 2 ^ 53 := double_error_of_le (by linarith)
      _ ≤ k / 1000 / 2 ^ 49 := by gcongr <;> norm_num
  · have large : (1125899906842624 : ℚ) ≤ k := by
      have long : (1125899906842624 : ℤ) ≤ k := by omega
      exact_mod_cast long
    unfold durationMs
    rw [length, Int.cast_natCast]
    have error := abs_le.mp (times_divide_error some)
    have positive := double_nonneg (divide k 1000000 * 1000)
    have digits := abs_le.mp (roundHalfEven_error
      (show 0 ≤ times (divide k 1000000) 1000 * 10 ^ 3 by unfold times; positivity))
    rw [Doubles.round]
    have rounded := abs_le.mp (double_error_of_le
      (show (1 : ℚ) / 1000000 ≤ roundHalfEven (times (divide k 1000000) 1000 * 10 ^ 3) / 10 ^ 3 by
        norm_num at error digits ⊢
        linarith))
    rw [abs_le]
    norm_num at error digits rounded ⊢
    constructor <;> linarith

variable {request : TraceIngest Attributes} {reads : List (TraceRead Attributes)}
  {resolved : List (TraceSpanCreate Attributes × Uuid)}

theorem Resolution.cons_eq_resolved {resolution : Resolution Attributes}
    {entry : TraceSpanCreate Attributes × Uuid} (done : resolution.cons entry = .resolved resolved) :
    ∃ rest, resolution = .resolved rest ∧ resolved = entry :: rest := by
  cases resolution with
  | read => cases done
  | unregistered service environment => cases done
  | resolved rest =>
    cases done
    exact ⟨rest, rfl, rfl⟩

theorem resolveServices_resolved {Known : (String × ServiceEnvironment) × Uuid → Prop}
    {spans : List (TraceSpanCreate Attributes)} {serviceIds : List ((String × ServiceEnvironment) × Uuid)}
    (cached : ∀ entry ∈ serviceIds, Known entry)
    (found : ∀ read ∈ reads, ∀ identity service, read.world.service identity = some service →
      Known (identity, service.id))
    (done : resolveServices spans serviceIds reads = .resolved resolved) :
    resolved.map Prod.fst = spans ∧ ∀ entry ∈ resolved, Known (entry.1.identity, entry.2) := by
  induction spans generalizing serviceIds reads resolved with
  | nil =>
    cases done
    simp
  | cons span spans ih =>
    unfold resolveServices at done
    split at done
    · next serviceId hit =>
      obtain ⟨rest, later, rfl⟩ := Resolution.cons_eq_resolved done
      obtain ⟨same, known⟩ := ih cached found later
      refine ⟨by rw [List.map_cons, same], List.forall_mem_cons.mpr ⟨cached _ ?_, known⟩⟩
      obtain ⟨front, back, split, -⟩ := List.lookup_eq_some_iff.mp hit
      rw [split]
      exact List.mem_append_right _ List.mem_cons_self
    · cases done
    · next read reads' miss =>
      split at done
      · cases done
      · next service registered =>
        obtain ⟨rest, later, rfl⟩ := Resolution.cons_eq_resolved done
        have first := found read List.mem_cons_self _ service registered
        obtain ⟨same, known⟩ := ih (List.forall_mem_cons.mpr ⟨first, cached⟩)
          (fun read' member => found read' (List.mem_cons_of_mem _ member)) later
        exact ⟨by rw [List.map_cons, same], List.forall_mem_cons.mpr ⟨first, known⟩⟩

theorem ingest_insert {rows : List (TraceKey × TraceSpanRecord Attributes)}
    (plan : request.ingest reads = .insert rows) : ∃ traceId resolved,
      rows = request.createBatch resolved ∧ resolved.map Prod.fst = request.batch.spans ∧
      (∀ span ∈ request.batch.spans, span.traceId = traceId) ∧
      ∀ entry ∈ resolved, ∃ read ∈ reads, ∃ service,
        read.world.service entry.1.identity = some service ∧ service.id = entry.2 := by
  unfold TraceIngest.ingest at plan
  dsimp only at plan
  split at plan
  · next traceId single =>
    split at plan
    · cases plan
    · split at plan
      · cases plan
      · next read rest =>
        split at plan
        · cases plan
        · split at plan
          · cases plan
          · cases plan
          · next resolved done =>
            cases plan
            have known := @resolveServices_resolved _ rest resolved
              (fun entry => ∃ known ∈ read :: rest, ∃ service,
                known.world.service entry.1 = some service ∧ service.id = entry.2) _ [] (by simp)
              (fun read' member identity service found =>
                ⟨read', List.mem_cons_of_mem _ member, service, found, rfl⟩) done
            refine ⟨traceId, resolved, rfl, known.1, fun span member => ?_, known.2⟩
            have listed : span.traceId ∈ (request.batch.spans.map fun span => span.traceId).dedup :=
              List.mem_dedup.mpr (List.mem_map.mpr ⟨span, member, rfl⟩)
            rw [single, List.mem_singleton] at listed
            exact listed
  · cases plan

def TraceSpanRow.span (row : TraceSpanRow Attributes) : Span Attributes where
  traceId := row.1.traceId
  spanId := row.1.spanId
  parentSpanId := row.1.parentSpanId
  service := row.2.name
  environment := row.2.environment
  source := row.1.source
  operation := row.1.operation
  status := row.1.status
  startedAt := row.1.startedAt
  endedAt := row.1.endedAt
  attributes := row.1.attributes

theorem record_span {service : MonitoredService} {entry : TraceSpanCreate Attributes × Uuid} {position : ℕ}
    (identity : service.identity = entry.1.identity) :
    TraceSpanRow.span (request.record position entry, service) = entry.1.toSpan := by
  rw [MonitoredService.identity, Span.identity, Prod.mk.injEq] at identity
  simp only [TraceSpanRow.span, TraceIngest.record, identity]

theorem createBatch_records (resolved : List (TraceSpanCreate Attributes × Uuid)) :
    (request.createBatch resolved).filterMap spanRecord = resolved.mapIdx request.record := by
  rw [TraceIngest.createBatch]
  induction resolved.mapIdx request.record with
  | nil => rfl
  | cons record records ih =>
    rw [List.flatMap_cons, List.filterMap_append, ih]
    rfl

variable {services services' : List MonitoredService} {table : List (TraceSpanRecord Attributes)} {traceId : String}
  {spans spans' : List (Span Attributes)} {response response' : TraceResponse Attributes}

def Span.key (span : Span Attributes) : ℤ ×ₗ String := toLex (span.startedAt, span.spanId)

/-- An item of a response reports a span with its own fields and the service that it names. -/
structure Reports (services : List MonitoredService) (span : Span Attributes)
    (item : TraceSpanResponse Attributes) : Prop where
  service : ∃ service ∈ services, service.identity = span.identity ∧ item.serviceId = service.id
  names : item.service = span.service ∧ item.environment = span.environment
  ids : item.traceId = span.traceId ∧ item.spanId = span.spanId ∧ item.parentSpanId = span.parentSpanId
  texts : item.source = span.source ∧ item.operation = span.operation ∧ item.status = span.status ∧
    item.attributes = span.attributes
  times : item.startedAt = span.startedAt ∧ item.endedAt = span.endedAt
  duration : item.durationMs = durationMs span.startedAt span.endedAt

structure IsTrace (services : List MonitoredService) (traceId : String) (spans : List (Span Attributes))
    (response : TraceResponse Attributes) : Prop where
  id : response.traceId = traceId
  count : response.spanCount = spans.length
  reports : ∃ order : List (Span Attributes), order.Perm spans ∧
    order.Pairwise (fun a b => a.key < b.key) ∧ List.Forall₂ (Reports services) order response.spans
  names : response.services.Pairwise (· < ·) ∧
    ∀ name, name ∈ response.services ↔ ∃ span ∈ spans, span.service = name
  starts : (∃ span ∈ spans, span.startedAt = response.startedAt) ∧
    ∀ span ∈ spans, response.startedAt ≤ span.startedAt
  ends : (∃ span ∈ spans, span.endedAt = response.endedAt) ∧
    ∀ span ∈ spans, span.endedAt ≤ response.endedAt
  duration : response.durationMs = durationMs response.startedAt response.endedAt
  longest : ∀ item ∈ response.spans, item.durationMs ≤ response.durationMs

def TraceSpanResponse.upToRecordId (item : TraceSpanResponse Attributes) : TraceSpanResponse Attributes :=
  { item with id := 0 }

def TraceResponse.upToRecordIds (response : TraceResponse Attributes) : TraceResponse Attributes :=
  { response with spans := response.spans.map TraceSpanResponse.upToRecordId }

/-- The services of two registries that have one identity are the same. -/
def Agree (services services' : List MonitoredService) : Prop :=
  ∀ service ∈ services, ∀ service' ∈ services', service.identity = service'.identity → service = service'

theorem Reports.unique {span : Span Attributes} {item item' : TraceSpanResponse Attributes}
    (agree : Agree services services')
    (reported : Reports services span item) (reported' : Reports services' span item') :
    item.upToRecordId = item'.upToRecordId := by
  obtain ⟨service, member, identity, serviceId⟩ := reported.service
  obtain ⟨service', member', identity', serviceId'⟩ := reported'.service
  have same := agree service member service' member' (identity.trans identity'.symm)
  simp only [TraceSpanResponse.upToRecordId, serviceId, serviceId', same, reported.names, reported'.names,
    reported.ids, reported'.ids, reported.texts, reported'.texts, reported.times, reported'.times,
    reported.duration, reported'.duration]

theorem IsTrace.unique (agree : Agree services services')
    (trace : IsTrace services traceId spans response) (trace' : IsTrace services' traceId spans' response')
    (same : spans.Perm spans') : response.upToRecordIds = response'.upToRecordIds := by
  obtain ⟨order, perm, sorted, reports⟩ := trace.reports
  obtain ⟨order', perm', sorted', reports'⟩ := trace'.reports
  have orders : order = order' := by
    refine (perm.trans (same.trans perm'.symm)).eq_of_pairwise ?_ sorted sorted'
    intro a b _ _ less more
    exact absurd (less.trans more) (lt_irrefl _)
  subst orders
  have items : response.spans.map TraceSpanResponse.upToRecordId =
      response'.spans.map TraceSpanResponse.upToRecordId := by
    clear perm perm' sorted sorted'
    generalize response.spans = items at reports
    generalize response'.spans = items' at reports'
    induction reports generalizing items' with
    | nil =>
      cases reports'
      rfl
    | cons first _ ih =>
      cases reports' with
      | cons first' rest' =>
        rw [List.map_cons, List.map_cons, first.unique agree first', ih _ rest']
  have names : response.services = response'.services := by
    refine trace.names.1.eq_of_mem_iff trace'.names.1 fun name => ?_
    rw [trace.names.2, trace'.names.2]
    simp only [same.mem_iff]
  have startedAt : response.startedAt = response'.startedAt := by
    obtain ⟨⟨first, member, equal⟩, least⟩ := trace.starts
    obtain ⟨⟨first', member', equal'⟩, least'⟩ := trace'.starts
    have one := least first' (same.mem_iff.mpr member')
    have other := least' first (same.mem_iff.mp member)
    omega
  have endedAt : response.endedAt = response'.endedAt := by
    obtain ⟨⟨last, member, equal⟩, greatest⟩ := trace.ends
    obtain ⟨⟨last', member', equal'⟩, greatest'⟩ := trace'.ends
    have one := greatest last' (same.mem_iff.mpr member')
    have other := greatest' last (same.mem_iff.mp member)
    omega
  unfold TraceResponse.upToRecordIds
  rw [items]
  simp only [trace.id, trace'.id, trace.count, trace'.count, same.length_eq, names,
    startedAt, endedAt, trace.duration, trace'.duration]

theorem joinService_eq_some {record : TraceSpanRecord Attributes} {row : TraceSpanRow Attributes}
    (joined : joinService services record = some row) : row.1 = record ∧ row.2 ∈ services := by
  rw [joinService, Option.map_eq_some_iff] at joined
  obtain ⟨service, found, rfl⟩ := joined
  exact ⟨rfl, List.mem_of_find?_eq_some found⟩

theorem getByTraceId_isTrace
    (same : (((table.filter fun record => record.traceId = traceId).filterMap (joinService services)).map
      TraceSpanRow.span).Perm spans)
    (distinct : (spans.map Span.spanId).Nodup) (valid : ∀ span ∈ spans, span.startedAt ≤ span.endedAt)
    (durations : ∀ record ∈ table, record.durationMs = durationMs record.startedAt record.endedAt)
    (nonempty : spans ≠ []) :
    ∃ response, getByTraceId services table traceId = some response ∧
      IsTrace services traceId spans response := by
  have perm : ((getRows services table traceId).map TraceSpanRow.span).Perm spans :=
    ((List.perm_insertionSort _ _).map _).trans same
  have sorted : (getRows services table traceId).Pairwise fun a b => a.span.key < b.span.key := by
    refine @pairwise_sort _ _ _ (fun row : TraceSpanRow Attributes => row.span.key) _ ?_
    refine List.Nodup.of_map (fun key : ℤ ×ₗ String => (ofLex key).2) ?_
    rw [List.map_map]
    have ids := (same.map Span.spanId).nodup_iff.mpr distinct
    rw [List.map_map] at ids
    exact ids
  have known : ∀ row ∈ getRows services table traceId, row.1 ∈ table ∧ row.2 ∈ services := by
    intro row member
    rw [getRows, List.mem_insertionSort, List.mem_filterMap] at member
    obtain ⟨record, inside, joined⟩ := member
    obtain ⟨rfl, service⟩ := joinService_eq_some joined
    exact ⟨List.mem_of_mem_filter inside, service⟩
  unfold getByTraceId
  generalize getRows services table traceId = rows at perm sorted known
  have spanOf : ∀ span, span ∈ spans ↔ ∃ row ∈ rows, row.span = span := by
    intro span
    rw [← perm.mem_iff, List.mem_map]
  have present : rows ≠ [] := by
    intro none
    rw [none] at perm
    exact nonempty (List.nil_perm.mp perm)
  obtain ⟨startedAt, least⟩ : ∃ startedAt, (rows.map fun row => row.1.startedAt).min? = some startedAt :=
    Option.ne_none_iff_exists'.mp fun none => present (List.map_eq_nil_iff.mp (List.min?_eq_none_iff.mp none))
  obtain ⟨endedAt, greatest⟩ : ∃ endedAt, (rows.map fun row => row.1.endedAt).max? = some endedAt :=
    Option.ne_none_iff_exists'.mp fun none => present (List.map_eq_nil_iff.mp (List.max?_eq_none_iff.mp none))
  dsimp only
  rw [least, greatest]
  refine ⟨_, rfl, ?_⟩
  obtain ⟨first, before⟩ := List.min?_eq_some_iff.mp least
  obtain ⟨last, after⟩ := List.max?_eq_some_iff.mp greatest
  simp only [List.mem_map, forall_exists_index, and_imp, forall_apply_eq_imp_iff₂] at first before last after
  have duration : ∀ row ∈ rows, row.1.durationMs = durationMs row.1.startedAt row.1.endedAt :=
    fun row member => durations row.1 (known row member).1
  constructor
  · rfl
  · rw [← perm.length_eq, List.length_map]
  · refine ⟨rows.map TraceSpanRow.span, perm, List.pairwise_map.mpr sorted, ?_⟩
    rw [List.forall₂_map_left_iff, List.forall₂_map_right_iff, List.forall₂_same]
    intro row member
    exact ⟨⟨row.2, (known row member).2, rfl, rfl⟩, ⟨rfl, rfl⟩, ⟨rfl, rfl, rfl⟩, ⟨rfl, rfl, rfl, rfl⟩,
      ⟨rfl, rfl⟩, duration row member⟩
  · refine ⟨@pairwise_sort _ _ _ (fun name : String => name) _ ?_, fun name => ?_⟩
    · rw [List.map_id']
      exact List.nodup_dedup _
    · rw [List.mem_insertionSort, List.mem_dedup, List.mem_map]
      constructor
      · rintro ⟨row, member, rfl⟩
        exact ⟨row.span, (spanOf _).mpr ⟨row, member, rfl⟩, rfl⟩
      · rintro ⟨span, member, rfl⟩
        obtain ⟨row, inside, rfl⟩ := (spanOf span).mp member
        exact ⟨row, inside, rfl⟩
  · refine ⟨?_, fun span member => ?_⟩
    · obtain ⟨row, member, start⟩ := first
      exact ⟨row.span, (spanOf _).mpr ⟨row, member, rfl⟩, start⟩
    · obtain ⟨row, inside, rfl⟩ := (spanOf span).mp member
      exact before row inside
  · refine ⟨?_, fun span member => ?_⟩
    · obtain ⟨row, member, stop⟩ := last
      exact ⟨row.span, (spanOf _).mpr ⟨row, member, rfl⟩, stop⟩
    · obtain ⟨row, inside, rfl⟩ := (spanOf span).mp member
      exact after row inside
  · rfl
  · intro item listed
    obtain ⟨row, member, rfl⟩ := List.mem_map.mp listed
    have own : row.1.startedAt ≤ row.1.endedAt := valid row.span ((spanOf _).mpr ⟨row, member, rfl⟩)
    have early := before row member
    have late := after row member
    rw [TraceSpanRow.response, duration row member]
    exact durationMs_mono own (by omega)

abbrev TraceAction (Attributes : Type) := Inserts.Action (TraceIngest Attributes) PlatformEvent

def TraceStep (state : Traces Attributes) (action : TraceAction Attributes) (after : Traces Attributes) : Prop :=
  state.step TraceIngest.ingest happen action = some after

abbrev TraceRun (start : Traces Attributes) (labels : List (TraceAction Attributes))
    (state : Traces Attributes) : Prop := Run TraceStep start labels state

variable {state : Traces Attributes} {labels : List (TraceAction Attributes)}
  {commit : Inserted (TraceIngest Attributes) Database TraceKey (TraceSpanRecord Attributes)}

theorem services_of_run {start : Traces Attributes} (run : TraceRun start labels state) :
    start.world.Grows state.world :=
  Inserts.world_of_run .refl (fun _ _ _ => .trans) (fun _ _ _ => happen_grows) run

theorem joinService_record {read : TraceRead Attributes} {database : Database} {service : MonitoredService}
    {entry : TraceSpanCreate Attributes × Uuid} {position : ℕ} (grows : read.world.Grows database)
    (found : read.world.service entry.1.identity = some service) (id : service.id = entry.2) :
    joinService database.services (request.record position entry) =
      some (request.record position entry, service) := by
  have member := grows.services service (List.mem_of_find?_eq_some found)
  have own := find?_key database.serviceIds member
  rw [id] at own
  rw [joinService, TraceIngest.record, own]
  rfl

theorem commit_spans (sound : Inserts.Sound TraceIngest.ingest state) (member : commit ∈ state.commits)
    (grows : ∀ read ∈ commit.reads, read.world.Grows state.world) :
    ((commit.rows.filterMap spanRecord).filterMap (joinService state.world.services)).map TraceSpanRow.span =
      commit.request.batch.spans.map TraceSpanCreate.toSpan := by
  obtain ⟨traceId, resolved, rows, batch, -, known⟩ := ingest_insert (sound.planned commit member)
  rw [rows, createBatch_records, ← batch, List.map_map]
  refine filterMap_mapIdx_map fun position entry listed => ?_
  obtain ⟨read, inside, service, found, id⟩ := known entry listed
  refine ⟨_, joinService_record (grows read inside) found id, record_span ?_⟩
  simpa using List.find?_some found

theorem table_spans (sound : Inserts.Sound TraceIngest.ingest state)
    (grows : ∀ commit ∈ state.commits, ∀ read ∈ commit.reads, read.world.Grows state.world) (traceId : String) :
    ((state.table.filter fun record => record.traceId = traceId).filterMap
        (joinService state.world.services)).map TraceSpanRow.span =
      (state.commits.flatMap fun commit => commit.request.batch.spans.map TraceSpanCreate.toSpan).filter
        fun span => span.traceId = traceId := by
  have filtered : ∀ (record : TraceSpanRecord Attributes) row, joinService state.world.services record = some row →
      decide (row.span.traceId = traceId) = decide (record.traceId = traceId) := by
    intro record row joined
    rw [← (joinService_eq_some joined).1]
    rfl
  have flat : (state.table.filterMap (joinService state.world.services)).map TraceSpanRow.span =
      state.commits.flatMap fun commit => commit.request.batch.spans.map TraceSpanCreate.toSpan := by
    rw [Traces.table, List.filterMap_flatMap, List.filterMap_flatMap, List.map_flatMap]
    exact List.flatMap_congr fun commit member => commit_spans sound member (grows commit member)
  rw [filter_filterMap filtered, ← flat, List.filter_map]
  rfl

theorem table_durations (sound : Inserts.Sound TraceIngest.ingest state) :
    ∀ record ∈ state.table, record.durationMs = durationMs record.startedAt record.endedAt := by
  intro record member
  rw [Traces.table, List.filterMap_flatMap, List.mem_flatMap] at member
  obtain ⟨commit, listed, inside⟩ := member
  obtain ⟨traceId, resolved, rows, -⟩ := ingest_insert (sound.planned commit listed)
  rw [rows, createBatch_records] at inside
  obtain ⟨position, within, rfl⟩ := List.mem_mapIdx.mp inside
  rfl

theorem committed_spans (sound : Inserts.Sound TraceIngest.ingest state)
    {batches : List (ℕ × TraceBatchCreate Attributes)}
    (clients : (batches.map Prod.fst).Nodup)
    (accepted : ∀ entry ∈ batches, ∃ client, state.clients entry.1 = some client ∧
      client.request.batch = entry.2 ∧ client.progress = .committed)
    (one : ∀ entry ∈ batches, ∀ span ∈ entry.2.spans, span.traceId = traceId)
    (others : ∀ id client, state.clients id = some client → client.progress = .committed →
      id ∉ batches.map Prod.fst → ∀ span ∈ client.request.batch.spans, span.traceId ≠ traceId) :
    ((state.commits.flatMap fun commit => commit.request.batch.spans.map TraceSpanCreate.toSpan).filter
        fun span => span.traceId = traceId).Perm
      ((batches.flatMap fun entry => entry.2.spans).map TraceSpanCreate.toSpan) := by
  have known : ∀ commit ∈ state.commits, ∃ client, state.clients commit.client = some client ∧
      client.progress = .committed ∧ commit.request = client.request := by
    intro commit member
    obtain ⟨client, present⟩ := Option.isSome_iff_exists.mp (sound.known commit member)
    have own := sound.clients commit.client client present
    have committed := own.recorded ⟨commit, member, rfl⟩
    obtain ⟨commit', member', same, request, -⟩ := own.committed committed
    rw [List.inj_on_of_nodup_map sound.once member' member same] at request
    exact ⟨client, present, committed, request⟩
  -- the commits of the trace, as the clients with their batches
  have spans : ((state.commits.flatMap fun commit =>
      commit.request.batch.spans.map TraceSpanCreate.toSpan).filter fun span => span.traceId = traceId) =
      ((state.commits.filter fun commit => commit.client ∈ batches.map Prod.fst).map
        fun commit => (commit.client, commit.request.batch)).flatMap
          fun entry => entry.2.spans.map TraceSpanCreate.toSpan := by
    rw [List.flatMap_map]
    refine filter_flatMap_blocks fun commit member span listed => ?_
    obtain ⟨client, present, committed, request⟩ := known commit member
    obtain ⟨created, inside, rfl⟩ := List.mem_map.mp listed
    rw [request] at inside
    rw [decide_eq_decide]
    constructor
    · intro own
      by_contra missing
      exact others _ client present committed missing created inside own
    · intro own
      obtain ⟨entry, chosen, same⟩ := List.mem_map.mp own
      obtain ⟨client', present', batch, -⟩ := accepted entry chosen
      rw [same, present, Option.some.injEq] at present'
      rw [present', batch] at inside
      exact one entry chosen created inside
  have perm : ((state.commits.filter fun commit => commit.client ∈ batches.map Prod.fst).map
      fun commit => (commit.client, commit.request.batch)).Perm batches := by
    refine (List.perm_ext_iff_of_nodup (.of_map Prod.fst ?_) (.of_map Prod.fst clients)).mpr fun entry => ?_
    · rw [List.map_map]
      exact sound.once.sublist (List.filter_sublist.map _)
    · rw [List.mem_map]
      constructor
      · rintro ⟨commit, member, rfl⟩
        rw [List.mem_filter, decide_eq_true_iff] at member
        obtain ⟨entry, chosen, same⟩ := List.mem_map.mp member.2
        obtain ⟨client, present, -, request⟩ := known commit member.1
        obtain ⟨client', present', batch, -⟩ := accepted entry chosen
        rw [same, present, Option.some.injEq] at present'
        rw [request, present', batch, ← same]
        exact chosen
      · intro chosen
        obtain ⟨client, present, batch, committed⟩ := accepted entry chosen
        obtain ⟨commit, member, same, request, -⟩ := (sound.clients _ client present).committed committed
        refine ⟨commit, List.mem_filter.mpr ⟨member, decide_eq_true ?_⟩, ?_⟩
        · rw [same]
          exact List.mem_map_of_mem chosen
        · rw [same, request, batch]
  rw [spans, List.map_flatMap]
  exact perm.flatMap_right _

/-- Whatever batches of spans are ingested, in whatever order and interleaving, beside whatever else
happens: once the batches of a partition of a trace's spans have been accepted, the trace is that of the
spans, and two such traces are the same up to record ids. What a batch does that is not accepted changes
nothing. -/
theorem trace_reconstruction {database : Database} (run : TraceRun (Inserts.initial database) labels state)
    {traceId : String} {spans : List (TraceSpanCreate Attributes)} (nonempty : spans ≠ [])
    (one : ∀ span ∈ spans, span.traceId = traceId) (distinct : (spans.map fun span => span.spanId).Nodup)
    {batches : List (ℕ × TraceBatchCreate Attributes)}
    (partition : spans.Perm (batches.flatMap fun entry => entry.2.spans))
    (clients : (batches.map Prod.fst).Nodup)
    (accepted : ∀ entry ∈ batches, ∃ client, state.clients entry.1 = some client ∧
      client.request.batch = entry.2 ∧ client.progress = .committed)
    (others : ∀ id client, state.clients id = some client → client.progress = .committed →
      id ∉ batches.map Prod.fst → ∀ span ∈ client.request.batch.spans, span.traceId ≠ traceId) :
    (∃ response, getByTraceId state.world.services state.table traceId = some response ∧
      IsTrace state.world.services traceId (spans.map TraceSpanCreate.toSpan) response ∧
      (∀ services' spans' response', Agree state.world.services services' →
        IsTrace services' traceId spans' response' → spans'.Perm (spans.map TraceSpanCreate.toSpan) →
        response'.upToRecordIds = response.upToRecordIds) ∧
      |response.durationMs - ((response.endedAt - response.startedAt : ℤ) : ℚ) / 1000| ≤
        ((response.endedAt - response.startedAt : ℤ) : ℚ) / 1000 / 2 ^ 49 ∧
      (response.endedAt - response.startedAt ≤ 2 ^ 50 →
        response.durationMs = double (((response.endedAt - response.startedAt : ℤ) : ℚ) / 1000))) ∧
    ∀ id, (∀ client, state.clients id = some client → client.progress ≠ .committed) →
      ∀ before action later middle after, TraceRun (Inserts.initial database) before middle →
        TraceStep middle action after → TraceRun after later state → action.client = some id →
        after.world = middle.world ∧ after.store.committed = middle.store.committed := by
  have sound : Inserts.Sound TraceIngest.ingest state := Inserts.sound_of_run run
  have reads := Inserts.reads_of_run run (.initial database)
  have grows : ∀ commit ∈ state.commits, ∀ read ∈ commit.reads, read.world.Grows state.world := by
    intro commit member read listed
    obtain ⟨before, later, middle, -, -, onward, rfl⟩ := reads.commits commit member read listed
    exact services_of_run onward
  refine ⟨?_, fun id uncommitted before action later middle after first moved rest acts =>
    Inserts.unchanged_of_run first moved rest acts uncommitted⟩
  have same := committed_spans sound clients accepted (fun entry listed span member =>
    one span (partition.mem_iff.mpr (List.mem_flatMap.mpr ⟨entry, listed, member⟩))) others
  rw [← table_spans sound grows] at same
  obtain ⟨response, found, trace⟩ := getByTraceId_isTrace
    (same.trans (partition.map _).symm) (by rwa [List.map_map])
    (List.forall_mem_map.mpr fun span _ => span.timing) (table_durations sound)
    (by simpa using nonempty)
  obtain ⟨⟨first, member, start⟩, -⟩ := trace.starts
  have valid : response.startedAt ≤ response.endedAt := by
    obtain ⟨span, -, rfl⟩ := List.mem_map.mp member
    rw [← start]
    exact span.timing.trans (trace.ends.2 _ member)
  refine ⟨response, found, trace, fun services' spans' response' agree trace' perm => ?_, ?_, fun short => ?_⟩
  · exact (trace.unique agree trace' perm.symm).symm
  · rw [trace.duration]
    exact durationMs_error valid
  · rw [trace.duration]
    exact durationMs_exact valid short

def sampleSpan (spanId : String) (hex : IsHex 16 spanId) (startedAt : ℤ) : TraceSpanCreate Unit where
  traceId := "0123456789abcdef0123456789abcdef"
  spanId := spanId
  parentSpanId := none
  service := "shop"
  environment := .production
  source := "web"
  operation := "checkout"
  status := .ok
  startedAt := startedAt
  endedAt := startedAt + 1500
  attributes := ()
  traceIdHex := ⟨by decide +kernel, @of_decide_eq_true _ (List.decidableBAll _ _) (by decide +kernel)⟩
  spanIdHex := hex
  parentSpanIdHex := by simp
  serviceLength := by decide +kernel
  sourceLength := by decide +kernel
  operationLength := by decide +kernel
  timing := by omega
  notOwnParent := by simp

def sampleBatch (span : TraceSpanCreate Unit) : TraceBatchCreate Unit := ⟨[span], by simp⟩

def laterSpan : TraceSpanCreate Unit :=
  sampleSpan "00000000000000aa"
    ⟨by decide +kernel, @of_decide_eq_true _ (List.decidableBAll _ _) (by decide +kernel)⟩ 2000

def earlierSpan : TraceSpanCreate Unit :=
  sampleSpan "00000000000000bb"
    ⟨by decide +kernel, @of_decide_eq_true _ (List.decidableBAll _ _) (by decide +kernel)⟩ 1000

/-- Two batches of one span each, the later span first, and one that loses the race for a span id. -/
def splitLabels : List (TraceAction Unit) :=
  let ingest (span : TraceSpanCreate Unit) (first : Uuid) : TraceIngest Unit :=
    ⟨sampleBatch span, 5000, fun i => first + .ofNat 128 i⟩
  [.event (.register ⟨1, "shop", .production⟩),
    .start 0 (ingest laterSpan 10), .start 2 (ingest laterSpan 20), .execute 0, .execute 2, .execute 0,
    .execute 2, .execute 0, .execute 2, .execute 0, .execute 0, .execute 0, .execute 2, .execute 2,
    .start 1 (ingest earlierSpan 30), .execute 1, .execute 1, .execute 1, .execute 1, .execute 1, .execute 1]

theorem trace_reconstruction_split : ∃ state response,
    TraceRun (Inserts.initial Database.empty) splitLabels state ∧
      (state.clients 2).any (fun client => client.progress matches .failed) ∧
      getByTraceId state.world.services state.table "0123456789abcdef0123456789abcdef" = some response ∧
      IsTrace state.world.services "0123456789abcdef0123456789abcdef"
        [earlierSpan.toSpan, laterSpan.toSpan] response := by
  have checked : (splitLabels.foldlM (Inserts.step TraceIngest.ingest happen)
      (Inserts.initial Database.empty)).any (fun state =>
        state.commits.map Inserted.client = [0, 1] &&
        (state.clients 2).any (fun client => client.progress matches .failed) &&
        (state.clients 0).any (fun client =>
          client.request.batch = sampleBatch laterSpan && client.progress matches .committed) &&
        (state.clients 1).any (fun client =>
          client.request.batch = sampleBatch earlierSpan && client.progress matches .committed)) = true := by
    decide +kernel
  obtain ⟨state, reached, holds⟩ := (Option.any_eq_true _ _).mp checked
  simp only [Bool.and_eq_true, decide_eq_true_eq, Option.any_eq_true] at holds
  obtain ⟨⟨⟨commits, lost⟩, later⟩, earlier⟩ := holds
  have run : TraceRun (Inserts.initial Database.empty) splitLabels state := .of_foldlM reached
  have done : ∀ client : Inserter (TraceIngest Unit) Database TraceKey (TraceSpanRecord Unit) TraceError,
      (client.progress matches .committed) = true → client.progress = .committed := by
    intro client
    cases client.progress <;> simp
  have accepted : ∀ entry ∈ [(1, sampleBatch earlierSpan), (0, sampleBatch laterSpan)],
      ∃ client, state.clients entry.1 = some client ∧ client.request.batch = entry.2 ∧
        client.progress = .committed := by
    simp only [List.mem_cons, List.not_mem_nil, or_false, forall_eq_or_imp, forall_eq]
    obtain ⟨client, present, batch, progress⟩ := earlier
    obtain ⟨client', present', batch', progress'⟩ := later
    exact ⟨⟨client, present, batch, done client progress⟩, ⟨client', present', batch', done client' progress'⟩⟩
  obtain ⟨⟨response, found, trace, -⟩, -⟩ := @trace_reconstruction Unit state splitLabels Database.empty run
    "0123456789abcdef0123456789abcdef" [earlierSpan, laterSpan] (by simp)
    (by simp [earlierSpan, laterSpan, sampleSpan]) (by decide +kernel)
    [(1, sampleBatch earlierSpan), (0, sampleBatch laterSpan)] (.refl _) (by simp) accepted
    (by
      intro id client present progress missing
      have sound : Inserts.Sound TraceIngest.ingest state := Inserts.sound_of_run run
      obtain ⟨commit, member, same, -⟩ := (sound.clients id client present).committed progress
      have listed : id ∈ state.commits.map Inserted.client := List.mem_map.mpr ⟨commit, member, same⟩
      rw [commits] at listed
      simp at listed missing
      omega)
  exact ⟨state, response, run, by simpa [Option.any_eq_true] using lost, found, trace⟩

end CareerProjects.Observability
