import Mathlib.Data.List.MinMax
import Mathlib.Data.List.Nodup
import Mathlib.Data.Prod.Lex
import CareerProjects.Library.Doubles
import CareerProjects.Observability.Model

/-! The root cause engine. It scores the signals of a correlation in floating point, rounds the scores
to hundredths and takes the best; the rounded scores are the documented sums. -/

namespace CareerProjects.Observability
open Library Library.Doubles

structure CorrelationSignal where
  anomalyId : Uuid
  incidentId : Uuid
  ruleId : String
  category : AnomalyCategory
  severity : AnomalySeverity
  source : String
  observedAt : Time
  deriving DecidableEq

structure RootCauseCandidate where
  anomalyId : Uuid
  incidentId : Uuid
  ruleId : String
  category : AnomalyCategory
  severity : AnomalySeverity
  source : String
  observedAt : Time
  confidenceScore : ℚ
  reasons : List String
  deriving DecidableEq

def AnomalyCategory.value : AnomalyCategory → String
  | .metricThreshold => "metric_threshold"
  | .logSeverity => "log_severity"
  | .eventSeverity => "event_severity"

def categoryScore : AnomalyCategory → ℚ
  | .eventSeverity => double 0.20
  | .logSeverity => double 0.10
  | .metricThreshold => double 0.05

def severityScore : AnomalySeverity → ℚ
  | .critical => double 0.15
  | .warning => double 0.05

/-- The sum of `_score_signal`, in the order in which it adds. -/
def confidenceScore (earliest : Bool) (category : AnomalyCategory) (severity : AnomalySeverity)
    (repeated : Bool) : ℚ :=
  let score := double 0.25
  let score := if earliest then plus score (double 0.25) else score
  let score := plus score (categoryScore category)
  let score := plus score (severityScore severity)
  let score := if repeated then plus score (double 0.15) else score
  round (min score 1) 2

def scoreReasons (signal : CorrelationSignal) (earliest : Bool) (sourceCount : ℕ) : List String :=
  ["Signal is part of the correlated incident window"] ++
    (if earliest then ["Signal is the earliest observed anomaly"] else []) ++
    ["Category '" ++ signal.category.value ++ "' contributes causal weight"] ++
    [match signal.severity with
      | .critical => "Signal severity is critical"
      | .warning => "Signal severity is warning"] ++
    (if 1 < sourceCount then
      ["Source appears in " ++ toString sourceCount ++ " correlated incidents"] else [])

def scoreSignal (signal : CorrelationSignal) (earliestObservedAt : Time) (sourceCount : ℕ) :
    RootCauseCandidate where
  anomalyId := signal.anomalyId
  incidentId := signal.incidentId
  ruleId := signal.ruleId
  category := signal.category
  severity := signal.severity
  source := signal.source
  observedAt := signal.observedAt
  confidenceScore := confidenceScore (signal.observedAt = earliestObservedAt) signal.category
    signal.severity (1 < sourceCount)
  reasons := scoreReasons signal (signal.observedAt = earliestObservedAt) sourceCount

/-- Candidates are compared by their scores, the greatest first, then by their times and ids. -/
def RootCauseCandidate.key (candidate : RootCauseCandidate) : ℚ ×ₗ ℚ ×ₗ ℕ :=
  toLex (-candidate.confidenceScore, toLex (candidate.observedAt, candidate.anomalyId.toNat))

def sourceCount (signals : List CorrelationSignal) (signal : CorrelationSignal) : ℕ :=
  signals.countP fun other => other.source = signal.source

/-- `RootCauseAnalysisEngine.analyze`; without signals it raises. -/
def analyzeSignals (signals : List CorrelationSignal) : Option RootCauseCandidate :=
  (signals.map CorrelationSignal.observedAt).min?.bind fun earliestObservedAt =>
    (signals.map fun signal => scoreSignal signal earliestObservedAt (sourceCount signals signal)).argmin
      RootCauseCandidate.key

def categoryHundredths : AnomalyCategory → ℕ
  | .eventSeverity => 20
  | .logSeverity => 10
  | .metricThreshold => 5

def severityHundredths : AnomalySeverity → ℕ
  | .critical => 15
  | .warning => 5

/-- The documented score in hundredths. -/
def hundredths (earliest : Bool) (category : AnomalyCategory) (severity : AnomalySeverity)
    (repeated : Bool) : ℕ :=
  25 + (if earliest then 25 else 0) + categoryHundredths category + severityHundredths severity +
    (if repeated then 15 else 0)

theorem hundredths_le (earliest : Bool) (category : AnomalyCategory) (severity : AnomalySeverity)
    (repeated : Bool) : hundredths earliest category severity repeated ≤ 100 := by
  cases earliest <;> cases category <;> cases severity <;> cases repeated <;> decide

theorem confidenceScore_eq (earliest : Bool) (category : AnomalyCategory) (severity : AnomalySeverity)
    (repeated : Bool) : confidenceScore earliest category severity repeated =
      double (hundredths earliest category severity repeated / 100) := by
  cases earliest <;> cases category <;> cases severity <;> cases repeated <;> decide +kernel

theorem double_hundredth_lt : ∀ n : Fin 100, double (n.val / 100) < double ((n.val + 1 : ℕ) / 100) := by
  decide +kernel

theorem double_hundredths_lt {n m : ℕ} (less : n < m) (small : m ≤ 100) :
    double (n / 100) < double (m / 100) := by
  calc double (n / 100) < double ((n + 1 : ℕ) / 100) := double_hundredth_lt ⟨n, by omega⟩
    _ ≤ double (m / 100) := by
      refine double_mono (by positivity) ?_
      have next : ((n + 1 : ℕ) : ℚ) ≤ m := by exact_mod_cast less
      gcongr

variable {signals signals' : List CorrelationSignal} {signal other : CorrelationSignal}
  {candidate : RootCauseCandidate} {earliest : Time}

def isEarliest (signals : List CorrelationSignal) (signal : CorrelationSignal) : Bool :=
  signals.all fun other => signal.observedAt ≤ other.observedAt

def documentedScore (signals : List CorrelationSignal) (signal : CorrelationSignal) : ℕ :=
  hundredths (isEarliest signals signal) signal.category signal.severity (1 < sourceCount signals signal)

/-- The member with the greatest score; of those the earliest, and of these the one with the
smallest anomaly id. -/
structure IsRootCause (signals : List CorrelationSignal) (signal : CorrelationSignal) : Prop where
  member : signal ∈ signals
  best : ∀ other ∈ signals, documentedScore signals other < documentedScore signals signal ∨
    (documentedScore signals other = documentedScore signals signal ∧
      (signal.observedAt < other.observedAt ∨
        (signal.observedAt = other.observedAt ∧ signal.anomalyId ≤ other.anomalyId)))

theorem min_eq_some (least : (signals.map CorrelationSignal.observedAt).min? = some earliest) :
    (∃ signal ∈ signals, signal.observedAt = earliest) ∧
      ∀ signal ∈ signals, earliest ≤ signal.observedAt := by
  obtain ⟨member, below⟩ := List.min?_eq_some_iff.mp least
  refine ⟨List.mem_map.mp member, fun signal inside => ?_⟩
  exact below _ (List.mem_map_of_mem inside)

theorem isEarliest_eq (least : (signals.map CorrelationSignal.observedAt).min? = some earliest)
    (member : signal ∈ signals) : isEarliest signals signal = decide (signal.observedAt = earliest) := by
  obtain ⟨⟨first, inside, rfl⟩, below⟩ := min_eq_some least
  rw [Bool.eq_iff_iff, isEarliest, List.all_eq_true, decide_eq_true_iff]
  constructor
  · intro all
    exact le_antisymm (of_decide_eq_true (all first inside)) (below signal member)
  · intro same other present
    rw [same]
    exact decide_eq_true (below other present)

theorem scoreSignal_confidence (least : (signals.map CorrelationSignal.observedAt).min? = some earliest)
    (member : signal ∈ signals) :
    (scoreSignal signal earliest (sourceCount signals signal)).confidenceScore =
      double (documentedScore signals signal / 100) := by
  rw [scoreSignal, confidenceScore_eq, documentedScore, isEarliest_eq least member]

theorem key_le (least : (signals.map CorrelationSignal.observedAt).min? = some earliest)
    (member : signal ∈ signals) (present : other ∈ signals)
    (first : (scoreSignal signal earliest (sourceCount signals signal)).key ≤
      (scoreSignal other earliest (sourceCount signals other)).key) :
    documentedScore signals other < documentedScore signals signal ∨
      (documentedScore signals other = documentedScore signals signal ∧
        (signal.observedAt < other.observedAt ∨
          (signal.observedAt = other.observedAt ∧ signal.anomalyId ≤ other.anomalyId))) := by
  rw [RootCauseCandidate.key, RootCauseCandidate.key, Prod.Lex.toLex_le_toLex, neg_lt_neg_iff, neg_inj,
    Prod.Lex.toLex_le_toLex, scoreSignal_confidence least member, scoreSignal_confidence least present] at first
  rcases first with better | ⟨same, rest⟩
  · left
    by_contra worse
    refine absurd better (not_lt.mpr (double_mono (by positivity) ?_))
    have scores : (documentedScore signals signal : ℚ) ≤ documentedScore signals other := by
      exact_mod_cast not_lt.mp worse
    gcongr
  · refine .inr ⟨?_, ?_⟩
    · rcases lt_trichotomy (documentedScore signals other) (documentedScore signals signal) with
        less | equal | more
      · exact absurd same (double_hundredths_lt less (hundredths_le ..)).ne'
      · exact equal
      · exact absurd same (double_hundredths_lt more (hundredths_le ..)).ne
    · rcases rest with earlier | ⟨equal, ids⟩
      · exact .inl earlier
      · exact .inr ⟨equal, BitVec.le_def.mpr ids⟩

theorem analyzeSignals_cases (found : analyzeSignals signals = some candidate) :
    ∃ earliest signal, (signals.map CorrelationSignal.observedAt).min? = some earliest ∧
      signal ∈ signals ∧ candidate = scoreSignal signal earliest (sourceCount signals signal) ∧
      ∀ other ∈ signals, candidate.key ≤ (scoreSignal other earliest (sourceCount signals other)).key := by
  rw [analyzeSignals, Option.bind_eq_some_iff] at found
  obtain ⟨earliest, least, chosen⟩ := found
  obtain ⟨signal, member, rfl⟩ := List.mem_map.mp (List.argmin_mem chosen)
  exact ⟨earliest, signal, least, member, rfl, fun other present =>
    List.le_of_mem_argmin (List.mem_map.mpr ⟨other, present, rfl⟩) chosen⟩

theorem analyzeSignals_rootCause (found : analyzeSignals signals = some candidate) :
    ∃ signal, IsRootCause signals signal ∧ candidate.anomalyId = signal.anomalyId ∧
      candidate.incidentId = signal.incidentId ∧
      candidate.confidenceScore = double (documentedScore signals signal / 100) := by
  obtain ⟨earliest, signal, least, member, rfl, first⟩ := analyzeSignals_cases found
  refine ⟨signal, ⟨member, fun other present => key_le least member present (first other present)⟩,
    rfl, rfl, scoreSignal_confidence least member⟩

theorem analyzeSignals_some (nonempty : signals ≠ []) : analyzeSignals signals ≠ none := by
  intro failed
  cases least : (signals.map CorrelationSignal.observedAt).min? with
  | none => exact nonempty (List.map_eq_nil_iff.mp (List.min?_eq_none_iff.mp least))
  | some earliest =>
    rw [analyzeSignals, least, Option.bind_some, List.argmin_eq_none, List.map_eq_nil_iff] at failed
    exact nonempty failed

theorem analyzeSignals_perm (same : signals.Perm signals')
    (distinct : (signals.map CorrelationSignal.anomalyId).Nodup) :
    analyzeSignals signals = analyzeSignals signals' := by
  by_cases empty : signals = []
  · subst empty
    rw [List.nil_perm.mp same]
  · obtain ⟨candidate, found⟩ := Option.ne_none_iff_exists'.mp (analyzeSignals_some empty)
    have empty' : signals' ≠ [] := fun nil => empty (List.perm_nil.mp (nil ▸ same))
    obtain ⟨candidate', found'⟩ := Option.ne_none_iff_exists'.mp (analyzeSignals_some empty')
    rw [found, found', Option.some.injEq]
    obtain ⟨earliest, signal, least, member, rfl, first⟩ := analyzeSignals_cases found
    obtain ⟨earliest', signal', least', member', rfl, first'⟩ := analyzeSignals_cases found'
    have times : earliest = earliest' := by
      obtain ⟨⟨one, inside, rfl⟩, below⟩ := min_eq_some least
      obtain ⟨⟨two, inside', rfl⟩, below'⟩ := min_eq_some least'
      exact le_antisymm (below two (same.mem_iff.mpr inside')) (below' one (same.mem_iff.mp inside))
    have counts : sourceCount signals = sourceCount signals' := by
      funext one
      exact same.countP_eq _
    subst times
    rw [counts] at first ⊢
    have keys := le_antisymm (first signal' (same.mem_iff.mpr member')) (first' signal (same.mem_iff.mp member))
    have ids : signal.anomalyId = signal'.anomalyId := by
      simp only [RootCauseCandidate.key, EmbeddingLike.apply_eq_iff_eq, Prod.mk.injEq] at keys
      exact BitVec.eq_of_toNat_eq keys.2.2
    rw [List.inj_on_of_nodup_map distinct member (same.mem_iff.mpr member') ids]

end CareerProjects.Observability
