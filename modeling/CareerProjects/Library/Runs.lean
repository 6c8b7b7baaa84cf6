import Mathlib.Data.List.Induction

/-! Finite runs of a labelled transition relation. A run lists its labels in the
order in which the steps were taken; the newest step is the last one, so an
induction over a run peels off the step that produced the final state. -/

namespace CareerProjects.Library

variable {σ τ ι : Type*}

/-- `Run step s labels t`: the labelled steps lead from `s` to `t`. -/
inductive Run (step : σ → ι → σ → Prop) : σ → List ι → σ → Prop
  | nil (s : σ) : Run step s [] s
  | snoc {s t u : σ} {labels : List ι} {label : ι} :
      Run step s labels t → step t label u → Run step s (labels ++ [label]) u

namespace Run

variable {step : σ → ι → σ → Prop} {s t u : σ} {labels more : List ι} {label : ι}

theorem single (h : step s label t) : Run step s [label] t :=
  (nil s).snoc h

theorem append (first : Run step s labels t) (second : Run step t more u) :
    Run step s (labels ++ more) u := by
  induction second with
  | nil => simpa using first
  | snoc _ last ih =>
    rw [← List.append_assoc]
    exact snoc ih last

theorem cons (first : step s label t) (rest : Run step t labels u) :
    Run step s (label :: labels) u := by
  simpa using append (single first) rest

theorem snoc_inv (h : Run step s (labels ++ [label]) u) :
    ∃ t, Run step s labels t ∧ step t label u := by
  generalize list : labels ++ [label] = all at h
  cases h with
  | nil => simp at list
  | snoc earlier last =>
    obtain ⟨rfl, equal⟩ := List.append_inj' list rfl
    cases equal
    exact ⟨_, earlier, last⟩

theorem split (h : Run step s (labels ++ more) u) :
    ∃ t, Run step s labels t ∧ Run step t more u := by
  induction more using List.reverseRecOn generalizing u with
  | nil => exact ⟨u, by simpa using h, nil u⟩
  | append_singleton more last ih =>
    rw [← List.append_assoc] at h
    obtain ⟨v, earlier, final⟩ := snoc_inv h
    obtain ⟨t, front, back⟩ := ih earlier
    exact ⟨t, front, snoc back final⟩

theorem cons_inv (h : Run step s (label :: labels) u) :
    ∃ t, step s label t ∧ Run step t labels u := by
  obtain ⟨t, first, rest⟩ := @split _ _ _ _ _ [label] _ h
  obtain ⟨s', start, last⟩ := @snoc_inv _ _ _ _ _ [] _ first
  generalize none_left : [] = before at start
  cases start with
  | nil => exact ⟨t, last, rest⟩
  | snoc _ _ => simp at none_left

theorem invariant {I : σ → Prop} (h : Run step s labels t) (start : I s)
    (kept : ∀ a label b, I a → step a label b → I b) : I t := by
  induction h with
  | nil => exact start
  | snoc _ last ih => exact kept _ _ _ ih last

/-- The same for steps of which only those carrying a guard keep the invariant:
`guard` is checked at every step of the run, in the state before it. -/
theorem invariant_of_guard {I : σ → Prop} {guard : σ → ι → Prop}
    (h : Run (fun a label b => step a label b ∧ guard a label) s labels t) (start : I s)
    (kept : ∀ a label b, I a → step a label b → guard a label → I b) : I t :=
  h.invariant start fun a label b inv both => kept a label b inv both.1 both.2

theorem mono {step' : σ → ι → σ → Prop} (h : Run step s labels t)
    (sub : ∀ a label b, step a label b → step' a label b) : Run step' s labels t := by
  induction h with
  | nil => exact nil _
  | snoc _ last ih => exact snoc ih (sub _ _ _ last)

theorem deterministic {next : σ → ι → Option σ} (first : Run (fun a label b => next a label = some b) s labels t)
    (second : Run (fun a label b => next a label = some b) s labels u) : t = u := by
  induction first generalizing u with
  | nil =>
    generalize empty : [] = all at second
    cases second with
    | nil => rfl
    | snoc _ _ => simp at empty
  | snoc _ last ih =>
    obtain ⟨middle, earlier, last'⟩ := second.snoc_inv
    rw [ih earlier, last'] at last
    exact (Option.some.inj last).symm

theorem guards_iff {I : σ → Prop} {P Q : σ → ι → σ → Prop} (start : I s)
    (kept : ∀ a label b, I a → step a label b → I b)
    (same : ∀ a label b, I a → step a label b → (P a label b ↔ Q a label b)) :
    Run (fun a label b => step a label b ∧ P a label b) s labels t ↔
      Run (fun a label b => step a label b ∧ Q a label b) s labels t := by
  constructor
  · intro run
    induction run with
    | nil => exact nil _
    | snoc earlier last ih =>
      have known : I _ := earlier.invariant start fun a label b inv both => kept a label b inv both.1
      exact ih.snoc ⟨last.1, (same _ _ _ known last.1).mp last.2⟩
  · intro run
    induction run with
    | nil => exact nil _
    | snoc earlier last ih =>
      have known : I _ := earlier.invariant start fun a label b inv both => kept a label b inv both.1
      exact ih.snoc ⟨last.1, (same _ _ _ known last.1).mpr last.2⟩

/-- What holds in every state of a run, of which an invariant keeps only the guarded steps: it holds
exactly if all steps are guarded, when a step that is not ends in a state without it. -/
theorem guarded_iff {next : σ → ι → Option σ} {I P : σ → Prop} {guard : σ → ι → Prop}
    (start : I s) (kept : ∀ a label b, I a → next a label = some b → guard a label → I b)
    (holds : ∀ a, I a → P a)
    (broken : ∀ a label b, I a → next a label = some b → ¬guard a label → ¬P b)
    (run : Run (fun a label b => next a label = some b) s labels t) :
    (∀ before later middle, labels = before ++ later →
        Run (fun a label b => next a label = some b) s before middle → P middle) ↔
      Run (fun a label b => next a label = some b ∧ guard a label) s labels t := by
  constructor
  · intro everywhere
    induction run with
    | nil => exact nil _
    | @snoc t _ labels label earlier last ih =>
      have guarded := ih fun before later middle split => everywhere before (later ++ [label]) middle
        (by rw [split, List.append_assoc])
      refine guarded.snoc ⟨last, ?_⟩
      by_contra unguarded
      have known : I t := guarded.invariant_of_guard start kept
      exact broken t label _ known last unguarded
        (everywhere (labels ++ [label]) [] _ (by simp) (earlier.snoc last))
  · rintro guarded before later middle rfl reached
    obtain ⟨other, front, -⟩ := guarded.split
    have same : middle = other := reached.deterministic (front.mono fun _ _ _ both => both.1)
    subst same
    exact holds middle (front.invariant_of_guard start kept)

theorem of_foldlM {next : σ → ι → Option σ} {start : σ} (h : labels.foldlM next start = some t) :
    Run (fun a label b => next a label = some b) start labels t := by
  induction labels generalizing start with
  | nil =>
    cases h
    exact nil _
  | cons label labels ih =>
    simp only [List.foldlM_cons, Option.bind_eq_bind, Option.bind_eq_some_iff] at h
    obtain ⟨u, first, rest⟩ := h
    exact cons first (ih rest)

end Run

def Reached (step : σ → ι → σ → Prop) (s t : σ) : Prop :=
  ∃ labels, Run step s labels t

namespace Reached

variable {step : σ → ι → σ → Prop} {s t u : σ} {label : ι}

theorem refl (s : σ) : Reached step s s := ⟨[], .nil s⟩

theorem tail (h : Reached step s t) (last : step t label u) : Reached step s u := by
  obtain ⟨labels, run⟩ := h
  exact ⟨_, run.snoc last⟩

theorem trans (first : Reached step s t) (second : Reached step t u) : Reached step s u := by
  obtain ⟨labels, run⟩ := first
  obtain ⟨more, run'⟩ := second
  exact ⟨_, run.append run'⟩

theorem invariant {I : σ → Prop} (h : Reached step s t) (start : I s)
    (kept : ∀ a label b, I a → step a label b → I b) : I t := by
  obtain ⟨labels, run⟩ := h
  exact run.invariant start kept

theorem of_foldlM {next : σ → ι → Option σ} {start : σ} {labels : List ι}
    (h : labels.foldlM next start = some t) :
    Reached (fun a label b => next a label = some b) start t := ⟨labels, .of_foldlM h⟩

end Reached

/-- Forward simulation: every concrete step from a related pair is matched by
finitely many abstract ones. Related starts then reach related states. -/
theorem Run.simulate {step : σ → ι → σ → Prop} {κ : Type*} {step' : τ → κ → τ → Prop}
    {R : σ → τ → Prop} {s t : σ} {labels : List ι} {s' : τ}
    (h : Run step s labels t) (start : R s s')
    (match_step : ∀ a label b a', R a a' → step a label b → ∃ b', Reached step' a' b' ∧ R b b') :
    ∃ t', Reached step' s' t' ∧ R t t' := by
  induction h with
  | nil => exact ⟨s', .refl s', start⟩
  | snoc _ last ih =>
    obtain ⟨t', reached, related⟩ := ih
    obtain ⟨u', more, related'⟩ := match_step _ _ _ _ related last
    exact ⟨u', reached.trans more, related'⟩

end CareerProjects.Library
