import Mathlib.Data.List.Dedup
import Mathlib.Data.Set.List
import Mathlib.Data.String.Basic
import CareerProjects.Library.Runs
import CareerProjects.Library.Statistics
import CareerProjects.Observability.Correlations

/-! Summaries of one metric for the dashboard: statistics of the stored samples in a time window, and the
samples themselves in the order of their times. -/

namespace CareerProjects.Observability
open Library Library.Doubles

structure MetricQuery where
  service : String
  environment : ServiceEnvironment
  metricName : String
  source : Option String := none
  observedFrom : Option Time := none
  observedTo : Option Time := none
  windowMinutes : ℤ := 60

structure TelemetryRow where
  record : TelemetryRecord
  monitoredService : MonitoredService
  deriving DecidableEq

structure MetricTimeSeriesPoint where
  observedAt : Time
  value : ℚ
  source : String
  deriving DecidableEq

structure MetricSummaryResponse where
  service : String
  environment : ServiceEnvironment
  metricName : String
  unit : Option String
  sources : List String
  windowStartedAt : Time
  windowEndedAt : Time
  sampleCount : ℕ
  minimumValue : ℚ
  maximumValue : ℚ
  averageValue : ℚ
  p95Value : ℚ
  latestValue : ℚ
  latestObservedAt : Time
  points : List MetricTimeSeriesPoint
  deriving DecidableEq

/-- The errors of the service, and those that Python raises for a missing key or an empty collection. -/
inductive DashboardError
  | invalidDashboardWindow
  | metricSamplesNotFound (metricName service : String) (environment : ServiceEnvironment)
  | inconsistentMetricUnit (metricName : String)
  | keyError | indexError | valueError | stopIteration
  deriving DecidableEq

def TelemetryItem.getName : TelemetryItem → Option String
  | .metric item => some item.name
  | .log _ => none
  | .event item => some item.name

/-- `payload.get("unit")`, of a unit that may be missing. -/
def TelemetryItem.getUnit : TelemetryItem → Option String
  | .metric item => item.unit
  | .log _ => none
  | .event _ => none

namespace TelemetryRecord

def value (record : TelemetryRecord) : Except DashboardError ℚ :=
  match record.payload with
  | .metric item => .ok item.value
  | .log _ => .error .keyError
  | .event _ => .error .keyError

def point (record : TelemetryRecord) : Except DashboardError MetricTimeSeriesPoint := do
  return ⟨record.observedAt, ← record.value, record.source⟩

/-- Records are listed by their observation times, and those of one time by their ids. -/
def position (record : TelemetryRecord) : ℚ ×ₗ ℕ := toLex (record.observedAt, record.id.toNat)

end TelemetryRecord

namespace Database

def joinMonitoredService (database : Database) (record : TelemetryRecord) : Option TelemetryRow :=
  (database.services.find? fun service => service.id = record.serviceId).map fun service => ⟨record, service⟩

def queryMetricRecords (database : Database) (service : String) (environment : ServiceEnvironment)
    (source : Option String) (observedFrom observedTo : Time) : List TelemetryRow :=
  ((database.telemetry.filterMap database.joinMonitoredService).filter fun row =>
    row.record.telemetryType = "metric" ∧ row.monitoredService.name = service ∧
      row.monitoredService.environment = environment ∧ observedFrom ≤ row.record.observedAt ∧
      row.record.observedAt ≤ observedTo ∧ (source = none ∨ source = some row.record.source)).insertionSort
  fun row other => row.record.position ≤ other.record.position

end Database

/-- `max(0, ceil(0.95 * count) - 1)`; the subtraction of natural numbers stops at zero. -/
def p95Index (count : ℕ) : ℕ := ⌈times (double 0.95) (double count)⌉₊ - 1

def required {α : Type} (error : DashboardError) : Option α → Except DashboardError α
  | none => .error error
  | some value => .ok value

namespace MetricQuery

def windowEndedAt (query : MetricQuery) (now : Time) : Time := query.observedTo.getD now

def windowStartedAt (query : MetricQuery) (now : Time) : Time :=
  query.observedFrom.getD (query.windowEndedAt now - 60 * query.windowMinutes)

/-- The statistics of the matching records, of which there is a first one. -/
def aggregate (query : MetricQuery) (first : TelemetryRecord) (rest : List TelemetryRecord) :
    Except DashboardError MetricSummaryResponse := do
  let records := first :: rest
  let units := (records.map fun record => record.payload.getUnit).dedup
  if 1 < units.length then throw (.inconsistentMetricUnit query.metricName)
  let values ← records.mapM TelemetryRecord.value
  let latestRecord := records.getLast (List.cons_ne_nil first rest)
  let p95Value ← required .indexError (ranked values (p95Index values.length))
  let points ← records.mapM TelemetryRecord.point
  let unit ← required .stopIteration units.head?
  let minimumValue ← required .valueError values.min?
  let maximumValue ← required .valueError values.max?
  let latestValue ← latestRecord.value
  return {
    service := query.service
    environment := query.environment
    metricName := query.metricName
    unit := unit
    sources := (records.map TelemetryRecord.source).dedup.insertionSort (· ≤ ·)
    windowStartedAt := first.observedAt
    windowEndedAt := latestRecord.observedAt
    sampleCount := values.length
    minimumValue := minimumValue
    maximumValue := maximumValue
    averageValue := roundDecimals (mean values) 3
    p95Value := p95Value
    latestValue := latestValue
    latestObservedAt := latestRecord.observedAt
    points := points }

def matchingRows (query : MetricQuery) (database : Database) (now : Time) : List TelemetryRow :=
  (database.queryMetricRecords query.service query.environment query.source (query.windowStartedAt now)
    (query.windowEndedAt now)).filter fun row => row.record.payload.getName = some query.metricName

/-- `MetricDashboardService.summarize`, with the reading of the clock. -/
def summarize (query : MetricQuery) (database : Database) (now : Time) :
    Except DashboardError MetricSummaryResponse :=
  if query.windowEndedAt now < query.windowStartedAt now then .error .invalidDashboardWindow
  else
    match (query.matchingRows database now).map TelemetryRow.record with
    | [] => .error (.metricSamplesNotFound query.metricName query.service query.environment)
    | first :: rest => query.aggregate first rest

end MetricQuery

structure MetricSample where
  record : TelemetryRecord
  item : MetricTelemetry
  stored : record.payload = .metric item

namespace MetricSample

def value (sample : MetricSample) : ℚ := sample.item.value

def unit (sample : MetricSample) : Option String := sample.item.unit

def point (sample : MetricSample) : MetricTimeSeriesPoint :=
  ⟨sample.record.observedAt, sample.value, sample.record.source⟩

@[simp] theorem getUnit_record (sample : MetricSample) : sample.record.payload.getUnit = sample.unit := by
  rw [sample.stored]
  rfl

@[simp] theorem value_record (sample : MetricSample) : sample.record.value = .ok sample.value := by
  rw [TelemetryRecord.value, sample.stored]
  rfl

@[simp] theorem point_record (sample : MetricSample) : sample.record.point = .ok sample.point := by
  rw [TelemetryRecord.point, value_record]
  rfl

end MetricSample

namespace MetricQuery

structure Wants (query : MetricQuery) (database : Database) (now : Time) (record : TelemetryRecord) : Prop where
  stored : record ∈ database.telemetry
  metric : record.telemetryType = "metric"
  named : record.payload.getName = some query.metricName
  service : ∃ service ∈ database.services, service.id = record.serviceId ∧ service.name = query.service ∧
    service.environment = query.environment
  source : query.source = none ∨ query.source = some record.source
  window : query.windowStartedAt now ≤ record.observedAt ∧ record.observedAt ≤ query.windowEndedAt now

/-- The samples that a query asks for, each of them once. -/
structure Lists (query : MetricQuery) (database : Database) (now : Time) (samples : List MetricSample) :
    Prop where
  once : (samples.map MetricSample.record).Nodup
  all : ∀ record, record ∈ samples.map MetricSample.record ↔ query.Wants database now record

end MetricQuery

variable {database : Database} {query : MetricQuery} {now : Time} {record : TelemetryRecord}
  {row : TelemetryRow} {samples ordered : List MetricSample}

theorem joinMonitoredService_eq_some : database.joinMonitoredService record = some row ↔
    row.record = record ∧ row.monitoredService ∈ database.services ∧
      row.monitoredService.id = record.serviceId := by
  simp only [Database.joinMonitoredService, Option.map_eq_some_iff, find?_key_iff database.serviceIds]
  constructor
  · rintro ⟨service, known, rfl⟩
    exact ⟨rfl, known⟩
  · rintro ⟨rfl, known⟩
    exact ⟨row.monitoredService, known, rfl⟩

theorem mem_matchingRows : record ∈ (query.matchingRows database now).map TelemetryRow.record ↔
    query.Wants database now record := by
  simp only [MetricQuery.matchingRows, Database.queryMetricRecords, List.mem_map, List.mem_filter,
    List.mem_insertionSort, List.mem_filterMap, decide_eq_true_eq, joinMonitoredService_eq_some]
  constructor
  · rintro ⟨row, ⟨⟨⟨_, stored, rfl, member, joined⟩, metric, name, environment, after, before, source⟩, named⟩,
      rfl⟩
    exact ⟨stored, metric, named, ⟨_, member, joined, name, environment⟩, source, after, before⟩
  · rintro ⟨stored, metric, named, ⟨service, member, joined, name, environment⟩, source, after, before⟩
    exact ⟨⟨record, service⟩, ⟨⟨⟨record, stored, rfl, member, joined⟩, metric, name, environment, after, before,
      source⟩, named⟩, rfl⟩

theorem matchingRows_ids : ((query.matchingRows database now).map fun row => row.record.id).Nodup := by
  have joined : ((database.telemetry.filterMap database.joinMonitoredService).map fun row => row.record.id).Nodup := by
    refine database.telemetryIds.sublist (map_filterMap_sublist (fun record row found => ?_) _)
    rw [(joinMonitoredService_eq_some.mp found).1]
  refine List.Nodup.sublist (List.filter_sublist.map _) ?_
  rw [Database.queryMetricRecords, ((List.perm_insertionSort _ _).map _).nodup_iff]
  exact joined.sublist (List.filter_sublist.map _)

theorem matchingRows_once : ((query.matchingRows database now).map TelemetryRow.record).Nodup := by
  have ids := List.pairwise_map.mp (@matchingRows_ids database query now)
  exact List.pairwise_map.mpr (ids.imp fun different same => different (congrArg TelemetryRecord.id same))

theorem matchingRows_sorted : ((query.matchingRows database now).map TelemetryRow.record).Pairwise
    fun record other => record.position < other.position := by
  let before (row other : TelemetryRow) : Prop := row.record.position ≤ other.record.position
  have total : Std.Total before := ⟨fun _ _ => le_total _ _⟩
  have transitive : IsTrans TelemetryRow before := ⟨fun _ _ _ => le_trans⟩
  have order : (query.matchingRows database now).Pairwise before :=
    List.Pairwise.filter _ (List.pairwise_insertionSort before _)
  have distinct := List.pairwise_map.mp (@matchingRows_ids database query now)
  refine List.pairwise_map.mpr (order.imp₂ (fun row other ordered different => ?_) distinct)
  refine lt_of_le_of_ne ordered fun same => different ?_
  have ids := congrArg (fun position => (ofLex position).2) same
  exact BitVec.eq_of_toNat_eq ids

theorem MetricQuery.Lists.window (lists : query.Lists database now samples) (some : samples ≠ []) :
    query.windowStartedAt now ≤ query.windowEndedAt now := by
  obtain ⟨sample, member⟩ := List.exists_mem_of_ne_nil samples some
  have wanted := (lists.all sample.record).mp (List.mem_map_of_mem member)
  exact wanted.window.1.trans wanted.window.2

theorem MetricQuery.Lists.exists_ordered (lists : query.Lists database now samples) :
    ∃ ordered : List MetricSample, ordered.Perm samples ∧
      (query.matchingRows database now).map TelemetryRow.record = ordered.map MetricSample.record := by
  have same : ((query.matchingRows database now).map TelemetryRow.record).Perm
      (samples.map MetricSample.record) := by
    rw [List.perm_ext_iff_of_nodup matchingRows_once lists.once]
    intro record
    rw [mem_matchingRows, lists.all]
  have images : List.Forall₂ (fun record sample => record = MetricSample.record sample)
      (samples.map MetricSample.record) samples :=
    List.forall₂_map_left_iff.mpr (List.forall₂_same.mpr fun _ _ => rfl)
  obtain ⟨ordered, listed, back⟩ := List.perm_comp_forall₂ same images
  refine ⟨ordered, back, ?_⟩
  have equal := List.forall₂_map_right_iff.mpr listed
  rwa [List.forall₂_eq_eq_eq] at equal

/-- The type column of a record is that of its payload. -/
def Typed (database : Database) : Prop :=
  ∀ record ∈ database.telemetry, record.telemetryType = record.payload.type

theorem happen_typed {database' : Database} {event : PlatformEvent} (typed : Typed database)
    (happened : happen database event = some database') : Typed database' := by
  cases event with
  | register service =>
    simp only [happen, Database.insertService] at happened
    split at happened
    · cases happened
      exact typed
    · cases happened
  | ingest failing draw receivedAt batch =>
    have ends := @ingest_ensures failing draw receivedAt database batch ⟨database, database⟩ rfl
    simp only [happen, Option.some.injEq] at happened
    generalize runOn (ingest failing draw receivedAt batch) ⟨database, database⟩ = outcome at ends happened
    obtain ⟨error | response, state⟩ := outcome
    · obtain ⟨rfl, -⟩ := ends
      exact happened ▸ typed
    · obtain ⟨after, records, anomalies, incidents, rfl, ingested⟩ := ends
      subst happened
      intro record member
      rw [ingested.addedTelemetry] at member
      rcases List.mem_append.mp member with old | new
      · exact typed record old
      · obtain ⟨i, inside, rfl⟩ := List.getElem_of_mem new
        have made := ingested.telemetry.get (by rw [ingested.telemetry.length_eq]; exact inside) inside
        have same := made.2
        rw [List.get_eq_getElem, List.get_eq_getElem] at same
        rw [same]
        rfl
  | handle request loaded =>
    cases happened
    exact typed

/-- Whatever the platform has taken in, the rows that a query matches are the samples of one list. -/
theorem exists_samples {events : List PlatformEvent}
    (run : Run (fun database event after => happen database event = some after) Database.empty events database)
    (query : MetricQuery) (now : Time) : ∃ samples, query.Lists database now samples := by
  have typed : Typed database := run.invariant (by simp [Typed, Database.empty]) fun _ _ _ => happen_typed
  have held : (query.matchingRows database now).map TelemetryRow.record ∈
      Set.range (List.map MetricSample.record) := by
    rw [Set.range_list_map]
    intro record member
    have wanted := mem_matchingRows.mp member
    have metric := (typed record wanted.stored).symm.trans wanted.metric
    cases payload : record.payload with
    | metric item => exact ⟨⟨record, item, payload⟩, rfl⟩
    | log item =>
      simp [payload, TelemetryItem.type] at metric
    | event item =>
      simp [payload, TelemetryItem.type] at metric
  obtain ⟨samples, records⟩ := held
  refine ⟨samples, ?_, fun record => ?_⟩
  · rw [records]
    exact matchingRows_once
  · rw [records, mem_matchingRows]

theorem double_share : double 0.95 = 19 / 20 - 1 / (5 * 2 ^ 52) := by
  decide +kernel

theorem p95Index_add_one {count : ℕ} (some : 1 ≤ count) (small : count < 422212465065999) :
    p95Index count + 1 = (19 * count + 19) / 20 := by
  have exact : double count = count := double_natCast (by omega)
  have positive : (1 : ℚ) ≤ count := by exact_mod_cast some
  have bound : (count : ℚ) < 422212465065999 := by exact_mod_cast small
  obtain ⟨below, rank⟩ : ∃ below, (19 * count + 19) / 20 = below + 1 :=
    ⟨(19 * count + 19) / 20 - 1, by omega⟩
  have product : double 0.95 * count = 19 / 20 * count - count / (5 * 2 ^ 52) := by
    rw [double_share]
    ring
  have start : 0 ≤ double 0.95 * count := by
    rw [product]
    linarith
  have less : double 0.95 * count < 2 ^ 49 := by
    rw [product]
    linarith
  have near := abs_le.mp (double_error_of_lt start less)
  have upper : double (double 0.95 * count) ≤ below + 1 := by
    have ordered : double 0.95 * count ≤ (below + 1 : ℕ) := by
      have above : 19 * (count : ℚ) ≤ 20 * (below + 1) := by
        exact_mod_cast (by omega : 19 * count ≤ 20 * (below + 1))
      rw [product]
      push_cast
      linarith
    have whole : double (below + 1 : ℕ) = (below + 1 : ℕ) := double_natCast (by omega)
    calc double (double 0.95 * count) ≤ double (below + 1 : ℕ) := double_mono start ordered
      _ = below + 1 := by
        rw [whole]
        push_cast
        rfl
  have lower : (below : ℚ) < double (double 0.95 * count) := by
    rw [product] at near ⊢
    by_cases tight : (19 * count + 19) % 20 = 0
    · -- only counts that end a score come this close
      have last : (count : ℚ) ≤ 422212465065979 := by
        exact_mod_cast (by omega : count ≤ 422212465065979)
      have rest : 19 * (count : ℚ) = 20 * below + 1 := by
        exact_mod_cast (by omega : 19 * count = 20 * below + 1)
      linarith
    · have rest : 20 * (below : ℚ) + 2 ≤ 19 * count := by
        exact_mod_cast (by omega : 20 * below + 2 ≤ 19 * count)
      linarith
  have ceiling : ⌈double (double 0.95 * count)⌉₊ = below + 1 := by
    rw [Nat.ceil_eq_iff (by omega)]
    push_cast
    exact ⟨lower, upper⟩
  rw [p95Index, times, exact, ceiling, rank]
  omega

theorem p95Index_short : 20 * (p95Index 422212465065999 + 1) < 19 * 422212465065999 := by
  decide +kernel

theorem p95Index_nearest {count : ℕ} (some : 1 ≤ count) (small : count < 422212465065999) :
    (19 / 20 : ℚ) * count ≤ p95Index count + 1 ∧ (p95Index count : ℚ) < 19 / 20 * count := by
  have rank := p95Index_add_one some small
  have reached : (19 * count : ℚ) ≤ 20 * (p95Index count + 1) := by
    exact_mod_cast (by omega : 19 * count ≤ 20 * (p95Index count + 1))
  have first : (20 * p95Index count : ℚ) < 19 * count := by
    exact_mod_cast (by omega : 20 * p95Index count < 19 * count)
  constructor <;> linarith

theorem p95Index_lt {count : ℕ} (some : 1 ≤ count) : p95Index count < count := by
  have positive : (1 : ℚ) ≤ count := by exact_mod_cast some
  have float := abs_le.mp (double_error_of_le (x := count) (by linarith))
  have product := abs_le.mp (double_error_of_le (x := double 0.95 * double count) (by
    rw [double_share]
    linarith))
  have ceiling : ⌈times (double 0.95) (double count)⌉₊ ≤ count := by
    rw [Nat.ceil_le, times]
    rw [double_share] at product ⊢
    linarith
  rw [p95Index]
  omega

theorem not_isPercentile_of_short {count : ℕ} {value : ℚ} (short : 20 * (p95Index count + 1) < 19 * count)
    (found : ranked ((List.range count).map fun second : ℕ => (second : ℚ)) (p95Index count) = some value) :
    ¬IsPercentile (19 / 20) ((List.range count).map fun second : ℕ => (second : ℚ)) value := by
  intro percentile
  have distinct : ((List.range count).map fun second : ℕ => (second : ℚ)).Nodup :=
    List.Nodup.map Nat.cast_injective List.nodup_range
  have covered := percentile.covered
  rw [countP_of_nodup found distinct, List.length_map, List.length_range] at covered
  have reached : 19 * count ≤ 20 * (p95Index count + 1) := by
    have scaled : (19 * count : ℚ) ≤ 20 * (p95Index count + 1) := by
      push_cast at covered
      linarith
    exact_mod_cast scaled
  omega

def sampleItem (value : ℕ → ℚ) (second : ℕ) : MetricTelemetry where
  service := "api"
  environment := .production
  source := "api-1"
  timestamp := second
  attributes := []
  name := "latency"
  value := value second
  unit := some "seconds"

def sampleAt (value : ℕ → ℚ) (second : ℕ) : MetricSample where
  record := .ofItem (BitVec.ofNat 128 second) second (.metric (sampleItem value second), 1)
  item := sampleItem value second
  stored := rfl

theorem sampleAt_once (value : ℕ → ℚ) {count : ℕ} (small : count ≤ 2 ^ 128) :
    ((List.range count).map fun second => (sampleAt value second).record.id).Nodup := by
  refine List.Nodup.map_on (fun one member other present same => ?_) List.nodup_range
  have least := List.mem_range.mp member
  have most := List.mem_range.mp present
  have numbers := congrArg BitVec.toNat same
  simp only [sampleAt, TelemetryRecord.ofItem, BitVec.toNat_ofNat] at numbers
  omega

def sampleDatabase (value : ℕ → ℚ) (count : ℕ) (small : count ≤ 2 ^ 128) : Database where
  services := [⟨1, "api", .production⟩]
  telemetry := (List.range count).map fun second => (sampleAt value second).record
  anomalies := []
  incidents := []
  serviceIds := by simp
  serviceIdentities := by simp
  telemetryIds := by
    rw [List.map_map]
    exact sampleAt_once value small
  telemetryServices := by simp [sampleAt, TelemetryRecord.ofItem]
  anomalyIds := Database.empty.anomalyIds
  anomalyTelemetry := by simp
  incidentIds := Database.empty.incidentIds
  incidentServices := by simp
  incidentAnomalies := Database.empty.incidentAnomalies
  incidentTriggers := Database.empty.incidentTriggers

def sampleQuery (count : ℕ) : MetricQuery where
  service := "api"
  environment := .production
  metricName := "latency"
  observedFrom := some 0
  observedTo := some count

theorem sampleQuery_lists (value : ℕ → ℚ) (count : ℕ) (small : count ≤ 2 ^ 128) (now : Time) :
    (sampleQuery count).Lists (sampleDatabase value count small) now
      ((List.range count).map (sampleAt value)) where
  once := by
    have ids := sampleAt_once value small
    refine List.Nodup.of_map TelemetryRecord.id ?_
    rw [List.map_map, List.map_map]
    exact ids
  all record := by
    rw [List.map_map]
    constructor
    · intro member
      obtain ⟨second, listed, rfl⟩ := List.mem_map.mp member
      have before : (second : ℚ) ≤ count := by exact_mod_cast (List.mem_range.mp listed).le
      exact {
        stored := member
        metric := rfl
        named := rfl
        service := ⟨_, List.mem_singleton.mpr rfl, rfl, rfl, rfl⟩
        source := .inl rfl
        window := ⟨Nat.cast_nonneg second, before⟩ }
    · exact fun wanted => wanted.stored

theorem sampleAt_values (value : ℕ → ℚ) (count : ℕ) :
    ((List.range count).map (sampleAt value)).map MetricSample.value = (List.range count).map value := by
  rw [List.map_map]
  rfl

end CareerProjects.Observability
