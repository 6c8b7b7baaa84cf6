import Mathlib.Control.Monad.Basic

/-! Code that reads and writes a state and may throw, the state it had reached remaining:
what it does when it runs on a state. -/

namespace CareerProjects.Library

variable {ε σ α β : Type}

/-- The result or the exception, and the state reached. -/
def runOn (code : ExceptT ε (StateM σ) α) (state : σ) : Except ε α × σ := code.run.run state

@[simp] theorem runOn_pure (value : α) (state : σ) :
    runOn (pure value : ExceptT ε (StateM σ) α) state = (.ok value, state) := rfl

@[simp] theorem runOn_throw (error : ε) (state : σ) :
    runOn (throw error : ExceptT ε (StateM σ) α) state = (.error error, state) := rfl

@[simp] theorem runOn_get (state : σ) :
    runOn (get : ExceptT ε (StateM σ) σ) state = (.ok state, state) := rfl

@[simp] theorem runOn_modify (change : σ → σ) (state : σ) :
    runOn (modify change : ExceptT ε (StateM σ) PUnit) state = (.ok ⟨⟩, change state) := rfl

theorem runOn_bind (code : ExceptT ε (StateM σ) α) (next : α → ExceptT ε (StateM σ) β)
    (state : σ) : runOn (code >>= next) state =
      match runOn code state with
      | (.ok value, reached) => runOn (next value) reached
      | (.error error, reached) => (.error error, reached) := by
  simp only [runOn, ExceptT.run_bind, StateT.run_bind]
  rcases code.run.run state with ⟨error | value, reached⟩ <;> rfl

theorem runOn_bind_ok {code : ExceptT ε (StateM σ) α} {state reached : σ} {value : α}
    (done : runOn code state = (.ok value, reached)) (next : α → ExceptT ε (StateM σ) β) :
    runOn (code >>= next) state = runOn (next value) reached := by
  rw [runOn_bind, done]

theorem runOn_bind_error {code : ExceptT ε (StateM σ) α} {state reached : σ} {error : ε}
    (thrown : runOn code state = (.error error, reached)) (next : α → ExceptT ε (StateM σ) β) :
    runOn (code >>= next) state = (.error error, reached) := by
  rw [runOn_bind, thrown]

theorem runOn_tryCatch (code : ExceptT ε (StateM σ) α) (handler : ε → ExceptT ε (StateM σ) α)
    (state : σ) : runOn (tryCatch code handler) state =
      match runOn code state with
      | (.ok value, reached) => (.ok value, reached)
      | (.error error, reached) => runOn (handler error) reached := by
  have shape : (tryCatch code handler).run = code.run >>= fun
      | .ok value => pure (.ok value)
      | .error error => (handler error).run := rfl
  simp only [runOn, shape, StateT.run_bind]
  rcases code.run.run state with ⟨error | value, reached⟩ <;> rfl

/-- An exception of the finalizer takes the place of one before it. -/
theorem runOn_tryFinally (code : ExceptT ε (StateM σ) α) (finalizer : ExceptT ε (StateM σ) β)
    (state : σ) : runOn (tryFinally code finalizer) state =
      match runOn code state with
      | (outcome, reached) =>
        match runOn finalizer reached with
        | (.ok _, final) => (outcome, final)
        | (.error error, final) => (.error error, final) := by
  have shape : runOn (tryFinally code finalizer) state =
      match code state with
      | (outcome, reached) =>
        match finalizer reached with
        | (.ok _, final) => (outcome, final)
        | (.error error, final) => (.error error, final) := by
    simp only [tryFinally, tryFinally', Functor.map, ExceptT.map, runOn, ExceptT.run, ExceptT.mk,
      StateT.run, bind, StateT.bind, pure]
    rcases code state with ⟨error | value, reached⟩
    · simp only
      rcases finalizer reached with ⟨error | value, final⟩ <;> rfl
    · simp only
      rcases finalizer reached with ⟨error | value, final⟩ <;> rfl
  exact shape

theorem runOn_mapM {γ : Type} {f : γ → ExceptT ε (StateM σ) α} {g : γ → α} {state : σ} {values : List γ}
    (computes : ∀ value ∈ values, runOn (f value) state = (.ok (g value), state)) :
    runOn (values.mapM f) state = (.ok (values.map g), state) := by
  induction values with
  | nil => rfl
  | cons value values ih =>
    have rest := ih fun other member => computes other (List.mem_cons_of_mem _ member)
    rw [List.mapM_cons, runOn_bind_ok (computes value List.mem_cons_self), runOn_bind_ok rest,
      runOn_pure, List.map_cons]

/-- Computing values one by one without changing the state, where one of them throws. -/
theorem runOn_mapM_error {f : α → ExceptT ε (StateM σ) β} {state : σ} {error : ε} {values : List α} {value : α}
    (quiet : ∀ other, (runOn (f other) state).2 = state) (member : value ∈ values)
    (thrown : runOn (f value) state = (.error error, state)) :
    ∃ first, runOn (values.mapM f) state = (.error first, state) := by
  induction values with
  | nil => cases member
  | cons head values ih =>
    rw [List.mapM_cons]
    have same := quiet head
    cases outcome : runOn (f head) state with
    | mk result reached =>
      rw [outcome] at same
      obtain rfl : reached = state := same
      cases result with
      | error first => exact ⟨first, runOn_bind_error outcome _⟩
      | ok value' =>
        rcases List.mem_cons.mp member with rfl | later
        · rw [thrown] at outcome
          cases outcome
        · obtain ⟨first, rest⟩ := ih later
          exact ⟨first, by rw [runOn_bind_ok outcome, runOn_bind_error rest]⟩

theorem ok_of_bind {outcome : Except ε α} {next : α → Except ε β} {value : β}
    (done : outcome >>= next = .ok value) : ∃ middle, outcome = .ok middle ∧ next middle = .ok value := by
  cases outcome with
  | error error => cases done
  | ok middle => exact ⟨middle, rfl, done⟩

/-- What holds before the code runs holds after it, however it ends. -/
def Keeps (invariant : σ → Prop) (code : ExceptT ε (StateM σ) α) : Prop :=
  ∀ state, invariant state → invariant (runOn code state).2

section Keeps

variable {invariant : σ → Prop}

theorem Keeps.pure (value : α) : Keeps invariant (pure value : ExceptT ε (StateM σ) α) :=
  fun _ known => known

theorem Keeps.throw (error : ε) : Keeps invariant (throw error : ExceptT ε (StateM σ) α) :=
  fun _ known => known

theorem Keeps.get : Keeps invariant (get : ExceptT ε (StateM σ) σ) := fun _ known => known

theorem Keeps.modify {change : σ → σ} (kept : ∀ state, invariant state → invariant (change state)) :
    Keeps invariant (modify change : ExceptT ε (StateM σ) PUnit) := kept

theorem Keeps.bind {code : ExceptT ε (StateM σ) α} {next : α → ExceptT ε (StateM σ) β}
    (first : Keeps invariant code) (rest : ∀ value, Keeps invariant (next value)) :
    Keeps invariant (code >>= next) := by
  intro state known
  have reached := first state known
  rw [runOn_bind]
  generalize runOn code state = outcome at reached ⊢
  obtain ⟨error | value, middle⟩ := outcome
  · exact reached
  · exact rest value middle reached

theorem Keeps.tryCatch {code : ExceptT ε (StateM σ) α} {handler : ε → ExceptT ε (StateM σ) α}
    (first : Keeps invariant code) (rest : ∀ error, Keeps invariant (handler error)) :
    Keeps invariant (tryCatch code handler) := by
  intro state known
  have reached := first state known
  rw [runOn_tryCatch]
  generalize runOn code state = outcome at reached ⊢
  obtain ⟨error | value, middle⟩ := outcome
  · exact rest error middle reached
  · exact reached

theorem Keeps.tryFinally {code : ExceptT ε (StateM σ) α} {finalizer : ExceptT ε (StateM σ) β}
    (first : Keeps invariant code) (rest : Keeps invariant finalizer) :
    Keeps invariant (tryFinally code finalizer) := by
  intro state known
  have reached := rest _ (first state known)
  rw [runOn_tryFinally]
  simp only
  generalize runOn finalizer (runOn code state).2 = ending at reached ⊢
  obtain ⟨error | value, final⟩ := ending
  · exact reached
  · exact reached

end Keeps

/-- From a state with the precondition the code returns with its postcondition, or throws with the
other one. -/
def Ensures (before : σ → Prop) (code : ExceptT ε (StateM σ) α) (returned : α → σ → Prop)
    (thrown : ε → σ → Prop) : Prop :=
  ∀ state, before state →
    match runOn code state with
    | (.ok value, reached) => returned value reached
    | (.error error, reached) => thrown error reached

section Ensures

variable {before : σ → Prop} {returned : α → σ → Prop} {thrown : ε → σ → Prop}

theorem Ensures.pure {value : α} (known : ∀ state, before state → returned value state) :
    Ensures before (pure value : ExceptT ε (StateM σ) α) returned thrown := known

theorem Ensures.throw {error : ε} (known : ∀ state, before state → thrown error state) :
    Ensures before (throw error : ExceptT ε (StateM σ) α) returned thrown := known

theorem Ensures.get {returned : σ → σ → Prop} (known : ∀ state, before state → returned state state) :
    Ensures before (get : ExceptT ε (StateM σ) σ) returned thrown := known

theorem Ensures.modify {change : σ → σ} {returned : PUnit → σ → Prop}
    (known : ∀ state, before state → returned ⟨⟩ (change state)) :
    Ensures before (modify change : ExceptT ε (StateM σ) PUnit) returned thrown := known

theorem Ensures.bind {code : ExceptT ε (StateM σ) β} {next : β → ExceptT ε (StateM σ) α}
    (between : β → σ → Prop) (first : Ensures before code between thrown)
    (rest : ∀ value, Ensures (between value) (next value) returned thrown) :
    Ensures before (code >>= next) returned thrown := by
  intro state known
  have reached := first state known
  rw [runOn_bind]
  generalize runOn code state = outcome at reached ⊢
  obtain ⟨error | value, middle⟩ := outcome
  · exact reached
  · exact rest value middle reached

theorem Ensures.tryCatch {code : ExceptT ε (StateM σ) α} {handler : ε → ExceptT ε (StateM σ) α}
    (between : ε → σ → Prop) (first : Ensures before code returned between)
    (rest : ∀ error, Ensures (between error) (handler error) returned thrown) :
    Ensures before (tryCatch code handler) returned thrown := by
  intro state known
  have reached := first state known
  rw [runOn_tryCatch]
  generalize runOn code state = outcome at reached ⊢
  obtain ⟨error | value, middle⟩ := outcome
  · exact rest error middle reached
  · exact reached

theorem Ensures.ite {condition : Prop} [Decidable condition] {code other : ExceptT ε (StateM σ) α}
    (yes : condition → Ensures before code returned thrown)
    (no : ¬condition → Ensures before other returned thrown) :
    Ensures before (if condition then code else other) returned thrown := by
  split
  · next holds => exact yes holds
  · next fails => exact no fails

theorem Ensures.mono {weaker : σ → Prop} {returns : α → σ → Prop} {throws : ε → σ → Prop}
    {code : ExceptT ε (StateM σ) α} (known : Ensures weaker code returns throws)
    (start : ∀ state, before state → weaker state)
    (ok : ∀ value state, returns value state → returned value state)
    (error : ∀ error state, throws error state → thrown error state) :
    Ensures before code returned thrown := by
  intro state holds
  have reached := known state (start state holds)
  generalize runOn code state = outcome at reached ⊢
  obtain ⟨raised | value, final⟩ := outcome
  · exact error raised final reached
  · exact ok value final reached

theorem Ensures.pointwise {code : ExceptT ε (StateM σ) α}
    (each : ∀ state, before state → Ensures (fun start => start = state) code returned thrown) :
    Ensures before code returned thrown := fun state holds => each state holds state rfl

theorem Ensures.of_runOn {state reached : σ} {value : α} {code : ExceptT ε (StateM σ) α}
    (computes : runOn code state = (.ok value, reached)) (known : returned value reached) :
    Ensures (fun start => start = state) code returned thrown := by
  rintro start rfl
  rw [computes]
  exact known

end Ensures

/-- What holds of the error of an outcome, if it is one. -/
def Failing (property : ε → Prop) (outcome : Except ε α) : Prop :=
  ∀ error, outcome = .error error → property error

theorem Failing.ok {property : ε → Prop} (value : α) : Failing property (.ok value) := by
  intro error known
  cases known

theorem Failing.error {property : ε → Prop} {error : ε} (known : property error) :
    Failing property (.error error : Except ε α) := by
  rintro _ ⟨⟩
  exact known

theorem Failing.bind {property : ε → Prop} {outcome : Except ε α} {next : α → Except ε β}
    (first : Failing property outcome)
    (rest : ∀ value, outcome = .ok value → Failing property (next value)) :
    Failing property (outcome >>= next) := by
  intro error known
  cases outcome with
  | error other =>
    cases known
    exact first error rfl
  | ok value => exact rest value rfl error known

end CareerProjects.Library
