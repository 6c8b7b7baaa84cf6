import CareerProjects.Observability.MetricDashboard

/-! What a summary says about the samples of its query: every query is answered, refused for its window,
for its lack of samples or for their units. -/

namespace CareerProjects.Observability
open Library Library.Doubles

variable {database : Database} {query : MetricQuery} {now : Time} {samples : List MetricSample}

/-- What a summary says about the samples of a query, in whatever order they are listed. -/
structure Summarizes (query : MetricQuery) (samples : List MetricSample) (response : MetricSummaryResponse) :
    Prop where
  identity : response.service = query.service ∧ response.environment = query.environment ∧
    response.metricName = query.metricName
  unit : ∀ sample ∈ samples, response.unit = sample.unit
  sources : response.sources.Pairwise (· < ·) ∧
    ∀ source, source ∈ response.sources ↔ ∃ sample ∈ samples, sample.record.source = source
  sampleCount : response.sampleCount = samples.length
  minimum : IsLeast {value | value ∈ samples.map MetricSample.value} response.minimumValue
  maximum : IsGreatest {value | value ∈ samples.map MetricSample.value} response.maximumValue
  index : p95Index samples.length < samples.length
  p95 : ranked (samples.map MetricSample.value) (p95Index samples.length) = some response.p95Value
  p95_range : response.minimumValue ≤ response.p95Value ∧ response.p95Value ≤ response.maximumValue
  percentile : samples.length < 422212465065999 →
    IsPercentile (19 / 20) (samples.map MetricSample.value) response.p95Value
  average : response.averageValue = roundDecimals (mean (samples.map MetricSample.value)) 3
  mean_range : response.minimumValue ≤ mean (samples.map MetricSample.value) ∧
    mean (samples.map MetricSample.value) ≤ response.maximumValue
  average_error : |response.averageValue - mean (samples.map MetricSample.value)| ≤ 1 / 2000
  average_range : roundDecimals response.minimumValue 3 ≤ response.averageValue ∧
    response.averageValue ≤ roundDecimals response.maximumValue 3
  points : ∃ ordered : List MetricSample, ordered.Perm samples ∧
    ordered.Pairwise (fun sample other => sample.record.position < other.record.position) ∧
    response.points = ordered.map MetricSample.point
  earliest : ∃ first ∈ samples, (∀ other ∈ samples, first.record.position ≤ other.record.position) ∧
    response.windowStartedAt = first.record.observedAt
  latest : ∃ last ∈ samples, (∀ other ∈ samples, other.record.position ≤ last.record.position) ∧
    response.latestValue = last.value ∧ response.latestObservedAt = last.record.observedAt ∧
    response.windowEndedAt = last.record.observedAt

theorem mapM_ok {α β ε : Type} {f : α → Except ε β} {g : α → β} {items : List α}
    (fine : ∀ item ∈ items, f item = .ok (g item)) : items.mapM f = .ok (items.map g) := by
  induction items with
  | nil => rfl
  | cons item items ih =>
    have rest := ih fun other member => fine other (List.mem_cons_of_mem _ member)
    rw [List.mapM_cons, fine item List.mem_cons_self, rest]
    rfl

theorem values_records (samples : List MetricSample) :
    (samples.map MetricSample.record).mapM TelemetryRecord.value = .ok (samples.map MetricSample.value) := by
  rw [List.mapM_map]
  exact mapM_ok fun sample _ => sample.value_record

theorem points_records (samples : List MetricSample) :
    (samples.map MetricSample.record).mapM TelemetryRecord.point = .ok (samples.map MetricSample.point) := by
  rw [List.mapM_map]
  exact mapM_ok fun sample _ => sample.point_record

theorem units_records (samples : List MetricSample) :
    ((samples.map MetricSample.record).map fun record => record.payload.getUnit) =
      samples.map MetricSample.unit := by
  rw [List.map_map]
  exact List.map_congr_left fun sample _ => sample.getUnit_record

theorem aggregate_units {first one other : MetricSample} {rest : List MetricSample}
    (member : one ∈ first :: rest) (present : other ∈ first :: rest) (different : one.unit ≠ other.unit) :
    query.aggregate first.record (rest.map MetricSample.record) =
      .error (.inconsistentMetricUnit query.metricName) := by
  have units : [one.unit, other.unit].Nodup := by simpa using different
  have two : [one.unit, other.unit].length ≤ ((first :: rest).map MetricSample.unit).dedup.length := by
    refine (List.subperm_of_subset units fun unit listed => ?_).length_le
    rw [List.mem_dedup]
    rcases List.mem_pair.mp listed with rfl | rfl
    · exact List.mem_map_of_mem member
    · exact List.mem_map_of_mem present
  have many : 1 < (((first.record :: rest.map MetricSample.record).map fun record =>
      record.payload.getUnit)).dedup.length := by
    rw [← List.map_cons, units_records]
    exact two
  rw [MetricQuery.aggregate]
  simp only [many, if_true]
  rfl

theorem aggregate_ok {first : MetricSample} {rest : List MetricSample}
    (same : ∀ sample ∈ first :: rest, sample.unit = first.unit) :
    ∃ p95 minimum maximum,
      ranked ((first :: rest).map MetricSample.value) (p95Index (rest.length + 1)) = some p95 ∧
      ((first :: rest).map MetricSample.value).min? = some minimum ∧
      ((first :: rest).map MetricSample.value).max? = some maximum ∧
      query.aggregate first.record (rest.map MetricSample.record) = .ok {
        service := query.service
        environment := query.environment
        metricName := query.metricName
        unit := first.unit
        sources := (((first :: rest).map MetricSample.record).map TelemetryRecord.source).dedup.insertionSort
          (· ≤ ·)
        windowStartedAt := first.record.observedAt
        windowEndedAt := ((first :: rest).getLast (List.cons_ne_nil _ _)).record.observedAt
        sampleCount := rest.length + 1
        minimumValue := minimum
        maximumValue := maximum
        averageValue := roundDecimals (mean ((first :: rest).map MetricSample.value)) 3
        p95Value := p95
        latestValue := ((first :: rest).getLast (List.cons_ne_nil _ _)).value
        latestObservedAt := ((first :: rest).getLast (List.cons_ne_nil _ _)).record.observedAt
        points := (first :: rest).map MetricSample.point } := by
  have inside : p95Index (rest.length + 1) < ((first :: rest).map MetricSample.value).length := by
    rw [List.length_map, List.length_cons]
    exact p95Index_lt (by omega)
  obtain ⟨p95, found⟩ := exists_ranked inside
  have valued : (first :: rest).map MetricSample.value ≠ [] := by simp
  obtain ⟨minimum, least⟩ := Option.isSome_iff_exists.mp (List.isSome_min?_of_ne_nil valued)
  obtain ⟨maximum, most⟩ := Option.isSome_iff_exists.mp (List.isSome_max?_of_ne_nil valued)
  refine ⟨p95, minimum, maximum, found, least, most, ?_⟩
  have units : ((first :: rest).map MetricSample.unit).dedup = [first.unit] := by
    have copies : (first :: rest).map MetricSample.unit = List.replicate (rest.length + 1) first.unit := by
      refine List.eq_replicate_iff.mpr ⟨by simp, fun unit member => ?_⟩
      obtain ⟨sample, listed, rfl⟩ := List.mem_map.mp member
      exact same sample listed
    rw [copies, List.replicate_dedup (by omega)]
  have single : ¬1 < ((first.record :: rest.map MetricSample.record).map fun record =>
      record.payload.getUnit).dedup.length := by
    rw [← List.map_cons, units_records, units]
    simp
  have last : (first.record :: rest.map MetricSample.record).getLast (List.cons_ne_nil _ _) =
      ((first :: rest).getLast (List.cons_ne_nil _ _)).record :=
    List.getLast_map (f := MetricSample.record) (l := first :: rest) (by simp)
  have goOn {α β : Type} (value : α) (next : α → Except DashboardError β) :
      (Except.ok value >>= next) = next value := rfl
  have count : ((first :: rest).map MetricSample.value).length = rest.length + 1 := by simp
  rw [MetricQuery.aggregate]
  simp only [single, if_false, last]
  rw [← List.map_cons, units_records, units, values_records, points_records]
  simp only [goOn, MetricSample.value_record, count, found, least, most, required, List.head?_cons]
  rfl

theorem le_getLast {first : MetricSample} {rest : List MetricSample} {sample : MetricSample}
    (sorted : (first :: rest).Pairwise fun sample other => sample.record.position < other.record.position)
    (member : sample ∈ first :: rest) :
    sample.record.position ≤ ((first :: rest).getLast (List.cons_ne_nil _ _)).record.position := by
  have parts := List.dropLast_append_getLast (List.cons_ne_nil first rest)
  generalize (first :: rest).getLast (List.cons_ne_nil _ _) = last at parts
  rw [← parts] at sorted member
  rcases List.mem_append.mp member with before | same
  · exact ((List.pairwise_append.mp sorted).2.2 sample before last List.mem_cons_self).le
  · rw [List.mem_singleton.mp same]

theorem sources_sorted (sources : List String) :
    (sources.dedup.insertionSort (· ≤ ·)).Pairwise (· < ·) ∧
      ∀ source, source ∈ sources.dedup.insertionSort (· ≤ ·) ↔ source ∈ sources := by
  constructor
  · have order := List.pairwise_insertionSort (· ≤ ·) sources.dedup
    have once : (sources.dedup.insertionSort (· ≤ ·)).Nodup := by
      rw [(List.perm_insertionSort _ _).nodup_iff]
      exact List.nodup_dedup sources
    exact order.imp₂ (fun _ _ ordered different => lt_of_le_of_ne ordered different) once
  · intro source
    rw [List.mem_insertionSort, List.mem_dedup]

theorem MetricQuery.Lists.summarize_ok (lists : query.Lists database now samples) (some : samples ≠ [])
    (unit : ∀ one ∈ samples, ∀ other ∈ samples, one.unit = other.unit) :
    ∃ response, query.summarize database now = .ok response ∧ Summarizes query samples response := by
  obtain ⟨ordered, back, records⟩ := lists.exists_ordered
  have sorted := @matchingRows_sorted database query now
  rw [records] at sorted
  replace sorted := List.pairwise_map.mp sorted
  cases ordered with
  | nil => exact absurd (List.nil_perm.mp back) some
  | cons first rest =>
    have answer : query.summarize database now =
        query.aggregate first.record (rest.map MetricSample.record) := by
      rw [MetricQuery.summarize, if_neg (not_lt.mpr (lists.window some)), records]
      rfl
    have member {sample : MetricSample} : sample ∈ first :: rest ↔ sample ∈ samples := back.mem_iff
    have alike : ∀ sample ∈ first :: rest, sample.unit = first.unit := fun sample listed =>
      unit sample (member.mp listed) first (member.mp List.mem_cons_self)
    obtain ⟨p95, minimum, maximum, found, least, most, aggregated⟩ := @aggregate_ok query first rest alike
    refine ⟨_, answer.trans aggregated, ?_⟩
    have values : ((first :: rest).map MetricSample.value).Perm (samples.map MetricSample.value) := back.map _
    have count : rest.length + 1 = samples.length := back.length_eq
    rw [ranked_perm values, count] at found
    rw [min?_perm values] at least
    rw [max?_perm values] at most
    rw [mean_perm values, count]
    have smallest := List.min?_eq_some_iff.mp least
    have greatest := List.max?_eq_some_iff.mp most
    have valued : samples.map MetricSample.value ≠ [] := by simpa using some
    have positive : 1 ≤ samples.length := by omega
    have low := le_mean valued smallest.2
    have high := mean_le valued greatest.2
    have inside := @List.mem_cons_self _ first rest
    have last := List.getLast_mem (List.cons_ne_nil first rest)
    have listed := sources_sorted (((first :: rest).map MetricSample.record).map TelemetryRecord.source)
    exact {
      identity := ⟨rfl, rfl, rfl⟩
      unit := fun sample present => unit first (member.mp inside) sample present
      sources := by
        refine ⟨listed.1, fun source => (listed.2 source).trans ?_⟩
        rw [List.map_map, List.mem_map]
        exact exists_congr fun sample => and_congr_left fun _ => member
      sampleCount := rfl
      minimum := ⟨smallest.1, fun _ present => smallest.2 _ present⟩
      maximum := ⟨greatest.1, fun _ present => greatest.2 _ present⟩
      index := p95Index_lt positive
      p95 := found
      p95_range := ⟨smallest.2 _ (ranked_mem found), greatest.2 _ (ranked_mem found)⟩
      percentile := fun small => by
        have rank := p95Index_nearest positive small
        refine isPercentile_of_ranked found ?_ ?_ <;> rw [List.length_map]
        · exact rank.1
        · exact rank.2
      average := rfl
      mean_range := ⟨low, high⟩
      average_error := by
        refine (roundDecimals_error _ 3).trans ?_
        norm_num
      average_range := ⟨roundDecimals_mono low, roundDecimals_mono high⟩
      points := ⟨first :: rest, back, sorted, rfl⟩
      earliest := by
        refine ⟨first, member.mp inside, fun other present => ?_, rfl⟩
        rcases List.mem_cons.mp (member.mpr present) with rfl | after
        · exact le_refl _
        · exact ((List.pairwise_cons.mp sorted).1 other after).le
      latest := ⟨_, member.mp last, fun other present => le_getLast sorted (member.mpr present), rfl, rfl, rfl⟩ }

theorem MetricQuery.Lists.summarize_units (lists : query.Lists database now samples) {one other : MetricSample}
    (member : one ∈ samples) (present : other ∈ samples) (different : one.unit ≠ other.unit) :
    query.summarize database now = .error (.inconsistentMetricUnit query.metricName) := by
  obtain ⟨ordered, back, records⟩ := lists.exists_ordered
  rw [MetricQuery.summarize, if_neg (not_lt.mpr (lists.window (List.ne_nil_of_mem member))), records]
  cases ordered with
  | nil =>
    rw [List.nil_perm.mp back] at member
    cases member
  | cons first rest => exact aggregate_units (back.mem_iff.mpr member) (back.mem_iff.mpr present) different

theorem Summarizes.statistics_eq {query' : MetricQuery} {samples' : List MetricSample}
    {response response' : MetricSummaryResponse} (summary : Summarizes query samples response)
    (summary' : Summarizes query' samples' response')
    (same : (samples.map MetricSample.value).Perm (samples'.map MetricSample.value)) :
    response.minimumValue = response'.minimumValue ∧ response.maximumValue = response'.maximumValue ∧
      response.averageValue = response'.averageValue ∧ response.p95Value = response'.p95Value := by
  have members : {value | value ∈ samples.map MetricSample.value} =
      {value | value ∈ samples'.map MetricSample.value} := by
    ext value
    exact same.mem_iff
  have count : samples.length = samples'.length := by
    simpa using same.length_eq
  refine ⟨?_, ?_, ?_, ?_⟩
  · exact summary.minimum.unique (members ▸ summary'.minimum)
  · exact summary.maximum.unique (members ▸ summary'.maximum)
  · rw [summary.average, summary'.average, mean_perm same]
  · have found := summary.p95
    rw [ranked_perm same, count, summary'.p95, Option.some.injEq] at found
    exact found.symm

theorem MetricQuery.Lists.summarize_none (lists : query.Lists database now samples) (none : samples = [])
    (window : query.windowStartedAt now ≤ query.windowEndedAt now) : query.summarize database now =
      .error (.metricSamplesNotFound query.metricName query.service query.environment) := by
  obtain ⟨ordered, back, records⟩ := lists.exists_ordered
  rw [none, List.perm_nil] at back
  rw [MetricQuery.summarize, if_neg (not_lt.mpr window), records, back]
  rfl

theorem MetricQuery.Lists.summarize_cases (lists : query.Lists database now samples) :
    (query.windowEndedAt now < query.windowStartedAt now ∧
        query.summarize database now = .error .invalidDashboardWindow) ∨
      (samples = [] ∧ query.summarize database now =
        .error (.metricSamplesNotFound query.metricName query.service query.environment)) ∨
      ((∃ one ∈ samples, ∃ other ∈ samples, one.unit ≠ other.unit) ∧
        query.summarize database now = .error (.inconsistentMetricUnit query.metricName)) ∨
      ∃ response, query.summarize database now = .ok response ∧ Summarizes query samples response := by
  by_cases reversed : query.windowEndedAt now < query.windowStartedAt now
  · left
    refine ⟨reversed, ?_⟩
    rw [MetricQuery.summarize, if_pos reversed]
  right
  by_cases none : samples = []
  · left
    exact ⟨none, lists.summarize_none none (not_lt.mp reversed)⟩
  right
  by_cases units : ∃ one ∈ samples, ∃ other ∈ samples, one.unit ≠ other.unit
  · left
    obtain ⟨one, member, other, present, different⟩ := units
    exact ⟨⟨one, member, other, present, different⟩, lists.summarize_units member present different⟩
  · right
    push Not at units
    exact lists.summarize_ok none units

theorem MetricQuery.Lists.summarizes {response : MetricSummaryResponse}
    (lists : query.Lists database now samples) (answered : query.summarize database now = .ok response) :
    Summarizes query samples response := by
  rcases lists.summarize_cases with ⟨-, failed⟩ | ⟨-, failed⟩ | ⟨-, failed⟩ | ⟨other, found, summary⟩
  · rw [failed] at answered
    cases answered
  · rw [failed] at answered
    cases answered
  · rw [failed] at answered
    cases answered
  · rw [answered, Except.ok.injEq] at found
    exact found ▸ summary

theorem exists_sampleSummary (value : ℕ → ℚ) (count : ℕ) (some : 1 ≤ count) (small : count ≤ 2 ^ 128)
    (now : Time) : ∃ response, (sampleQuery count).summarize (sampleDatabase value count small) now = .ok response ∧
      Summarizes (sampleQuery count) ((List.range count).map (sampleAt value)) response := by
  refine (sampleQuery_lists value count small now).summarize_ok ?_ ?_
  · rw [ne_eq, List.map_eq_nil_iff, List.range_eq_nil]
    omega
  · intro one member other present
    obtain ⟨_, -, rfl⟩ := List.mem_map.mp member
    obtain ⟨_, -, rfl⟩ := List.mem_map.mp present
    rfl

/-- A summary holds the order statistics, the mean to three decimals and the points of exactly the samples
that its query asks for; the statistics depend on the values alone; two units are an error. -/
theorem metric_summary (lists : query.Lists database now samples) (some : samples ≠ []) :
    ((∃ one ∈ samples, ∃ other ∈ samples, one.unit ≠ other.unit) →
        query.summarize database now = .error (.inconsistentMetricUnit query.metricName)) ∧
      ((∀ one ∈ samples, ∀ other ∈ samples, one.unit = other.unit) → ∃ response,
        query.summarize database now = .ok response ∧ Summarizes query samples response) ∧
      ∀ response, query.summarize database now = .ok response →
        ∀ (query' : MetricQuery) (database' : Database) (now' : Time) (samples' : List MetricSample) response',
          query'.Lists database' now' samples' → query'.summarize database' now' = .ok response' →
          (samples.map MetricSample.value).Perm (samples'.map MetricSample.value) →
            response.minimumValue = response'.minimumValue ∧ response.maximumValue = response'.maximumValue ∧
              response.averageValue = response'.averageValue ∧ response.p95Value = response'.p95Value := by
  refine ⟨?_, lists.summarize_ok some, ?_⟩
  · rintro ⟨one, member, other, present, different⟩
    exact lists.summarize_units member present different
  · intro response answered query' database' now' samples' response' lists' answered' same
    exact (lists.summarizes answered).statistics_eq (lists'.summarizes answered') same

theorem metric_summary_of_two : ∃ response,
    (sampleQuery 2).summarize (sampleDatabase (fun second => second) 2 (by decide)) 0 = .ok response ∧
      Summarizes (sampleQuery 2) ((List.range 2).map (sampleAt fun second => second)) response :=
  (metric_summary (sampleQuery_lists (fun second => second) 2 (by decide) 0) (by decide)).2.1 (by decide)

/-- The average of one sample of 0.0004 is zero, and of so many different samples the p95 value is one too
small. -/
theorem rounded_statistics :
    (∃ response, (sampleQuery 1).summarize (sampleDatabase (fun _ => 1 / 2500) 1 (by decide)) 0 = .ok response ∧
      response.averageValue < response.minimumValue) ∧
    ∃ response, (sampleQuery 422212465065999).summarize
        (sampleDatabase (fun second => second) 422212465065999 (by decide)) 0 = .ok response ∧
      ¬IsPercentile (19 / 20) ((List.range 422212465065999).map fun second : ℕ => (second : ℚ)) response.p95Value := by
  constructor
  · obtain ⟨response, answered, summary⟩ := exists_sampleSummary (fun _ => 1 / 2500) 1 (by decide)
      (by decide) 0
    refine ⟨response, answered, ?_⟩
    have minimum := summary.minimum.1
    rw [summary.average]
    simp only [List.range_one, List.map_cons, List.map_nil, List.mem_singleton,
      Set.mem_ofPred_eq] at minimum ⊢
    rw [minimum]
    decide +kernel
  · obtain ⟨response, answered, summary⟩ := exists_sampleSummary (fun second => second)
      422212465065999 (by decide) (by decide) 0
    refine ⟨response, answered, ?_⟩
    have found := summary.p95
    rw [sampleAt_values, List.length_map, List.length_range] at found
    exact not_isPercentile_of_short p95Index_short found

end CareerProjects.Observability
