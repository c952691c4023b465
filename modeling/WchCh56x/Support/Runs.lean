import Mathlib.Tactic

/-!
# Runs of a system that takes one action after another

`step` is `none` where the system fails.  A run is given by its actions.
-/

namespace WchCh56x.Support.Runs

universe u v

variable {State : Type u} {Act : Type v} (step : State → Act → Option State)

/-- No action fails, and `property` holds at the start and after every action. -/
def Always (property : State → Prop) (state : State) : List Act → Prop
  | [] => property state
  | act :: rest => property state ∧ ∃ next, step state act = some next ∧
      Always property next rest

/-- `condition` holds of every action and the state in which it is taken. -/
def EveryStep (condition : State → Act → Prop) (state : State) : List Act → Prop
  | [] => True
  | act :: rest => condition state act ∧ ∀ next, step state act = some next →
      EveryStep condition next rest

variable {step}

theorem Always.start {property : State → Prop} {state : State} {acts : List Act}
    (always : Always step property state acts) : property state := by
  cases acts with
  | nil => exact always
  | cons act rest => exact always.1

theorem Always.imp {property weaker : State → Prop} (weaken : ∀ state, property state → weaker state)
    {state : State} {acts : List Act} (always : Always step property state acts) :
    Always step weaker state acts := by
  induction acts generalizing state with
  | nil => exact weaken state always
  | cons act rest ih =>
      obtain ⟨holds, next, stepped, after⟩ := always
      exact ⟨weaken state holds, next, stepped, ih after⟩

theorem Always.final {property : State → Prop} {state : State} {acts : List Act}
    (always : Always step property state acts) :
    ∃ final, acts.foldlM step state = some final ∧ property final := by
  induction acts generalizing state with
  | nil => exact ⟨state, rfl, always⟩
  | cons act rest ih =>
      obtain ⟨_, next, stepped, after⟩ := always
      obtain ⟨final, run, holds⟩ := ih after
      refine ⟨final, ?_, holds⟩
      rw [List.foldlM_cons, stepped]
      exact run

theorem everyStep_cons {condition : State → Act → Prop} {state next : State} {act : Act}
    {rest : List Act} (stepped : step state act = some next) :
    EveryStep step condition state (act :: rest) ↔
      condition state act ∧ EveryStep step condition next rest := by
  constructor
  · rintro ⟨met, after⟩
    exact ⟨met, after next stepped⟩
  · rintro ⟨met, after⟩
    refine ⟨met, fun other steppedOther => ?_⟩
    obtain rfl := Option.some.inj (stepped.symm.trans steppedOther)
    exact after

theorem everyStep_of_forall {condition : State → Act → Prop} {acts : List Act}
    (holds : ∀ act ∈ acts, ∀ state, condition state act) (state : State) :
    EveryStep step condition state acts := by
  induction acts generalizing state with
  | nil => trivial
  | cons act rest ih =>
      have others (next : State) := ih (fun act inRest => holds act (List.mem_cons_of_mem _ inRest)) next
      exact ⟨holds act List.mem_cons_self state, fun next _ => others next⟩

theorem always_cons {property : State → Prop} {state next : State} {act : Act}
    {rest : List Act} (stepped : step state act = some next) :
    Always step property state (act :: rest) ↔ property state ∧ Always step property next rest := by
  constructor
  · rintro ⟨holds, other, steppedOther, after⟩
    obtain rfl := Option.some.inj (stepped.symm.trans steppedOther)
    exact ⟨holds, after⟩
  · rintro ⟨holds, after⟩
    exact ⟨holds, next, stepped, after⟩

instance EveryStep.decidable {condition : State → Act → Prop}
    [∀ state act, Decidable (condition state act)] :
    ∀ acts state, Decidable (EveryStep step condition state acts)
  | [], _ => isTrue trivial
  | act :: rest, state =>
      match stepped : step state act with
      | none =>
          decidable_of_iff (condition state act)
            ⟨fun met => ⟨met, fun _ taken => nomatch stepped.symm.trans taken⟩, And.left⟩
      | some next =>
          have : Decidable (EveryStep step condition next rest) := EveryStep.decidable rest next
          decidable_of_iff _ (everyStep_cons stepped).symm

instance Always.decidable {property : State → Prop} [∀ state, Decidable (property state)] :
    ∀ acts state, Decidable (Always step property state acts)
  | [], state => inferInstanceAs (Decidable (property state))
  | act :: rest, state =>
      match stepped : step state act with
      | none =>
          isFalse fun ⟨_, _, taken, _⟩ => nomatch stepped.symm.trans taken
      | some next =>
          have : Decidable (Always step property next rest) := Always.decidable rest next
          decidable_of_iff _ (always_cons stepped).symm

/-- An invariant that every step keeps holds along every run. -/
theorem always_of_keeps {invariant : State → Prop}
    (keeps : ∀ state act, invariant state → ∃ next, step state act = some next ∧ invariant next)
    {state : State} (holds : invariant state) (acts : List Act) :
    Always step invariant state acts := by
  induction acts generalizing state with
  | nil => exact holds
  | cons act rest ih =>
      obtain ⟨next, stepped, after⟩ := keeps state act holds
      exact ⟨holds, next, stepped, ih after⟩

/-- An invariant that every step under its condition keeps holds along the whole run. -/
theorem always_of_everyStep {invariant : State → Prop} {condition : State → Act → Prop}
    (keeps : ∀ state act, invariant state → condition state act →
      ∃ next, step state act = some next ∧ invariant next)
    {state : State} {acts : List Act} (holds : invariant state)
    (every : EveryStep step condition state acts) : Always step invariant state acts := by
  induction acts generalizing state with
  | nil => exact holds
  | cons act rest ih =>
      obtain ⟨next, stepped, after⟩ := keeps state act holds every.1
      exact ⟨holds, next, stepped, ih after (every.2 next stepped)⟩

/-- Where a step shows the property only if it meets a condition, and where a step under the
condition keeps what makes the property true, the property holds along a run exactly if every
step of it meets the condition. -/
theorem always_iff_everyStep {invariant strong property : State → Prop}
    {admissible condition : State → Act → Prop}
    (shows : ∀ state, strong state → property state)
    (keeps : ∀ state act, invariant state → admissible state act →
      ∃ next, step state act = some next ∧ invariant next)
    (exactly : ∀ state act next, invariant state → strong state → admissible state act →
      step state act = some next →
        (property next → condition state act) ∧ (condition state act → strong next))
    {state : State} {acts : List Act} (invariantHolds : invariant state)
    (holds : strong state) (every : EveryStep step admissible state acts) :
    Always step property state acts ↔ EveryStep step condition state acts := by
  induction acts generalizing state with
  | nil => exact ⟨fun _ => trivial, fun _ => shows state holds⟩
  | cons act rest ih =>
      obtain ⟨next, stepped, invariantNext⟩ := keeps state act invariantHolds every.1
      obtain ⟨only, enough⟩ := exactly state act next invariantHolds holds every.1 stepped
      have others (met : condition state act) :=
        ih invariantNext (enough met) (every.2 next stepped)
      constructor
      · rintro ⟨_, other, steppedOther, after⟩
        obtain rfl := Option.some.inj (steppedOther.symm.trans stepped)
        have met := only after.start
        refine ⟨met, fun third steppedThird => ?_⟩
        obtain rfl := Option.some.inj (steppedThird.symm.trans stepped)
        exact (others met).mp after
      · rintro ⟨met, after⟩
        exact ⟨shows state holds, next, stepped, (others met).mpr (after next stepped)⟩

/-- Where each step shows something exactly if it meets a condition, so do all steps of a run. -/
theorem everyStep_iff {strong : State → Prop} {admissible shows condition : State → Act → Prop}
    (exactly : ∀ state act, strong state → admissible state act →
      (shows state act ↔ condition state act))
    (keeps : ∀ state act next, strong state → admissible state act → condition state act →
      step state act = some next → strong next)
    {state : State} {acts : List Act} (holds : strong state)
    (every : EveryStep step admissible state acts) :
    EveryStep step shows state acts ↔ EveryStep step condition state acts := by
  induction acts generalizing state with
  | nil => exact Iff.rfl
  | cons act rest ih =>
      have here := exactly state act holds every.1
      constructor
      · rintro ⟨shown, after⟩
        have met := here.mp shown
        exact ⟨met, fun next stepped =>
          (ih (keeps state act next holds every.1 met stepped) (every.2 next stepped)).mp
            (after next stepped)⟩
      · rintro ⟨met, after⟩
        exact ⟨here.mpr met, fun next stepped =>
          (ih (keeps state act next holds every.1 met stepped) (every.2 next stepped)).mpr
            (after next stepped)⟩

/-- What each step under the conditions shows is shown along the whole run. -/
theorem everyStep_of_everyStep {invariant : State → Prop}
    {admissible condition shows : State → Act → Prop}
    (step_shows : ∀ state act, invariant state → admissible state act → condition state act →
      shows state act)
    (keeps : ∀ state act next, invariant state → admissible state act →
      step state act = some next → invariant next)
    {state : State} {acts : List Act} (holds : invariant state)
    (every : EveryStep step admissible state acts)
    (conditions : EveryStep step condition state acts) : EveryStep step shows state acts := by
  induction acts generalizing state with
  | nil => trivial
  | cons act rest ih =>
      refine ⟨step_shows state act holds every.1 conditions.1, fun next stepped => ?_⟩
      exact ih (keeps state act next holds every.1 stepped) (every.2 next stepped)
        (conditions.2 next stepped)

end WchCh56x.Support.Runs
