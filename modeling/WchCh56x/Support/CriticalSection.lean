import Mathlib.Tactic

/-!
# Nested critical sections

Entering a section disables interrupts and counts one level of nesting; leaving
it counts the level back and enables interrupts at level zero.  The count is a
machine word.  A guarded computation works on a state and enters and leaves
sections on its way.
-/

namespace WchCh56x.Support

/-- The word that counts the levels, the interrupts, and how often a section was entered. -/
structure Critical where
  nesting : BitVec 32
  interruptsEnabled : Bool
  entered : Nat
  deriving DecidableEq, Repr

abbrev Guarded (State : Type) := StateT (Critical × State) Option

namespace Critical

def enter (critical : Critical) : Critical where
  nesting := critical.nesting + 1
  interruptsEnabled := false
  entered := critical.entered + 1

def exit (critical : Critical) : Critical :=
  { critical with
    nesting := critical.nesting - 1
    interruptsEnabled := critical.interruptsEnabled || critical.nesting - 1 == 0 }

/-- Nothing happened, or sections were entered and all left again. -/
def Restores (before after : Critical) : Prop :=
  after = before ∨ (before.entered < after.entered ∧ after.nesting = before.nesting ∧
    (before.nesting = 0 → after.interruptsEnabled = true))

/-- The innermost section was left. -/
def Leaves (before after : Critical) : Prop :=
  before.entered ≤ after.entered ∧ after.nesting = before.nesting - 1 ∧
    (after.nesting = 0 → after.interruptsEnabled = true)

theorem Restores.trans {before middle after : Critical} (first : before.Restores middle)
    (second : middle.Restores after) : before.Restores after := by
  rcases first with rfl | ⟨more, same, _⟩
  · exact second
  · rcases second with rfl | ⟨evenMore, sameAfter, enabled⟩
    · exact .inr ⟨more, same, by assumption⟩
    · exact .inr ⟨more.trans evenMore, sameAfter.trans same, fun zero => enabled (same.trans zero)⟩

theorem Restores.leaves {before middle after : Critical} (first : before.Restores middle)
    (second : middle.Leaves after) : before.Leaves after := by
  obtain ⟨more, less, enabled⟩ := second
  rcases first with rfl | ⟨evenMore, same, _⟩
  · exact ⟨more, less, enabled⟩
  · exact ⟨evenMore.le.trans more, by rw [less, same], enabled⟩

theorem Leaves.restores {before middle after : Critical} (first : before.Leaves middle)
    (second : middle.Restores after) : before.Leaves after := by
  obtain ⟨more, less, enabled⟩ := first
  rcases second with rfl | ⟨evenMore, same, enabledAfter⟩
  · exact ⟨more, less, enabled⟩
  · exact ⟨more.trans evenMore.le, same.trans less,
      fun zero => enabledAfter (same.symm.trans zero)⟩

theorem exit_leaves (critical : Critical) : critical.Leaves critical.exit :=
  ⟨Nat.le_refl _, rfl, fun zero => by
    have zero : critical.nesting - 1 = 0 := zero
    simp only [exit, zero, beq_self_eq_true, Bool.or_true]⟩

/-- A section that is entered and left. -/
theorem restores_of_leaves {before after : Critical} (leaves : before.enter.Leaves after) :
    before.Restores after := by
  obtain ⟨more, less, enabled⟩ := leaves
  have same : after.nesting = before.nesting := by
    rw [less]
    exact BitVec.add_sub_cancel before.nesting 1
  exact .inr ⟨more, same, fun zero => enabled (same.trans zero)⟩

end Critical

namespace Guarded

variable {State Result Other : Type}

def enter : Guarded State Unit := fun (critical, state) => some ((), critical.enter, state)

def exit : Guarded State Unit := fun (critical, state) => some ((), critical.exit, state)

/-- A computation on the state alone. -/
def lift (compute : State → Option (Result × State)) : Guarded State Result :=
  fun (critical, state) => (compute state).map fun (result, state) => (result, critical, state)

/-- A computation on a part of the state. -/
def on {Part : Type} (part : State → Part) (put : Part → State → State)
    (op : Guarded Part Result) : Guarded State Result := fun (critical, state) =>
  (op (critical, part state)).map fun outcome =>
    (outcome.1, outcome.2.1, put outcome.2.2 state)

/-- Every run that returns relates the critical sections before it to those after it. -/
def Ends (relation : Critical → Critical → Prop) (op : Guarded State Result) : Prop :=
  ∀ critical state result after, op (critical, state) = some (result, after) →
    relation critical after.1

abbrev Balanced (op : Guarded State Result) : Prop := Ends Critical.Restores op

abbrev Closing (op : Guarded State Result) : Prop := Ends Critical.Leaves op

/-- What the computation does to the state, whatever the level of nesting. -/
def Computes (op : Guarded State Result) (compute : State → Option (Result × State)) : Prop :=
  ∀ critical state,
    (op (critical, state)).map (fun outcome => (outcome.1, outcome.2.2)) = compute state

/-! ## The rules for nesting -/

theorem ends_bind {first second both : Critical → Critical → Prop}
    (compose : ∀ before middle after, first before middle → second middle after →
      both before after)
    {op : Guarded State Result} {next : Result → Guarded State Other} (ends : Ends first op)
    (endsNext : ∀ result, Ends second (next result)) : Ends both (op >>= next) := by
  intro critical state result after ran
  obtain ⟨⟨middle, critical', state'⟩, ranFirst, ranNext⟩ := Option.bind_eq_some_iff.mp ran
  exact compose _ _ _ (ends _ _ _ _ ranFirst) (endsNext middle _ _ _ _ ranNext)

theorem Balanced.pure (result : Result) :
    Balanced (Pure.pure result : Guarded State Result) := by
  rintro critical state _ _ ⟨rfl⟩
  exact .inl rfl

theorem Balanced.lift (compute : State → Option (Result × State)) : Balanced (lift compute) := by
  intro critical state result after ran
  obtain ⟨_, _, same⟩ := Option.map_eq_some_iff.mp ran
  exact .inl (congrArg (fun outcome => outcome.2.1) same).symm

theorem Balanced.bind {op : Guarded State Result} {next : Result → Guarded State Other}
    (balanced : Balanced op) (balancedNext : ∀ result, Balanced (next result)) :
    Balanced (op >>= next) := by
  refine ends_bind (fun _ _ _ => ?_) balanced balancedNext
  exact Critical.Restores.trans

theorem Closing.after {op : Guarded State Result} {next : Result → Guarded State Other}
    (balanced : Balanced op) (closing : ∀ result, Closing (next result)) : Closing (op >>= next) := by
  refine ends_bind (fun _ _ _ => ?_) balanced closing
  exact Critical.Restores.leaves

theorem Closing.exit : Closing (exit : Guarded State Unit) := by
  rintro critical state _ _ ⟨rfl⟩
  exact critical.exit_leaves

theorem Closing.then {op : Guarded State Result} {next : Result → Guarded State Other}
    (closing : Closing op) (balanced : ∀ result, Balanced (next result)) : Closing (op >>= next) := by
  refine ends_bind (fun _ _ _ => ?_) closing balanced
  exact Critical.Leaves.restores

/-- The return from a section. -/
theorem Closing.return (result : Result) :
    Closing (do Guarded.exit; return result : Guarded State Result) :=
  Closing.exit.then fun _ => .pure result

theorem Balanced.section {next : Guarded State Result} (closing : Closing next) :
    Balanced (do Guarded.enter; next) := by
  intro critical state result after ran
  exact Critical.restores_of_leaves (closing critical.enter state result after ran)

theorem ends_ite {relation : Critical → Critical → Prop} {condition : Prop}
    [Decidable condition] {yes no : Guarded State Result} (endsYes : Ends relation yes)
    (endsNo : Ends relation no) : Ends relation (if condition then yes else no) := by
  split
  · exact endsYes
  · exact endsNo

theorem Balanced.on {Part : Type} {op : Guarded Part Result} (balanced : Balanced op)
    (part : State → Part) (put : Part → State → State) : Balanced (op.on part put) := by
  intro critical state result after ran
  obtain ⟨outcome, ranPart, same⟩ := Option.map_eq_some_iff.mp ran
  have restored := balanced critical (part state) outcome.1 outcome.2 ranPart
  rwa [congrArg (fun outcome => outcome.2.1) same] at restored

/-! ## Running a computation -/

theorem Computes.run_some {op : Guarded State Result}
    {compute : State → Option (Result × State)} (computes : Computes op compute)
    (critical : Critical) {state after : State} {result : Result}
    (outcome : compute state = some (result, after)) :
    ∃ criticalAfter, op (critical, state) = some (result, criticalAfter, after) := by
  rw [← computes critical state] at outcome
  obtain ⟨⟨_, criticalAfter, _⟩, ran, same⟩ := Option.map_eq_some_iff.mp outcome
  obtain ⟨rfl, rfl⟩ := Prod.mk.inj same
  exact ⟨criticalAfter, ran⟩

theorem Computes.run_none {op : Guarded State Result}
    {compute : State → Option (Result × State)} (computes : Computes op compute)
    (critical : Critical) {state : State} (outcome : compute state = none) :
    op (critical, state) = none := by
  rw [← computes critical state] at outcome
  exact Option.map_eq_none_iff.mp outcome

section Run

variable (critical : Critical) (state : State)

@[simp] theorem bind_apply (op : Guarded State Result) (next : Result → Guarded State Other)
    (start : Critical × State) :
    (op >>= next) start = (op start).bind fun outcome => next outcome.1 outcome.2 := rfl

@[simp] theorem map_apply (op : Guarded State Result) (compute : Result → Other)
    (start : Critical × State) :
    (compute <$> op) start = (op start).map fun outcome => (compute outcome.1, outcome.2) := by
  change (op start).bind _ = _
  cases op start <;> rfl

@[simp] theorem pure_apply (result : Result) (start : Critical × State) :
    (pure result : Guarded State Result) start = some (result, start) := rfl

@[simp] theorem enter_apply :
    (enter : Guarded State Unit) (critical, state) = some ((), critical.enter, state) := rfl

@[simp] theorem exit_apply :
    (exit : Guarded State Unit) (critical, state) = some ((), critical.exit, state) := rfl

@[simp] theorem lift_apply (compute : State → Option (Result × State)) :
    lift compute (critical, state) =
      (compute state).map fun outcome => (outcome.1, critical, outcome.2) := rfl

@[simp] theorem on_apply {Part : Type} (part : State → Part) (put : Part → State → State)
    (op : Guarded Part Result) :
    op.on part put (critical, state) = (op (critical, part state)).map fun outcome =>
      (outcome.1, outcome.2.1, put outcome.2.2 state) := rfl

end Run

end Guarded

end WchCh56x.Support
