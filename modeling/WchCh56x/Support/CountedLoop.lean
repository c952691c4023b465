import Mathlib.Tactic

/-!
# Counted loops over arrays

The rule for a `for` loop with a failing body, and the arrays that such loops
leave behind when each turn stores the same value into the next cell.
-/

namespace WchCh56x.Support.CountedLoop

universe u

/-- A loop whose turns step through the states `state 0`, `state 1`, … ends in the last one. -/
theorem foldlM_range {State : Type u} (turn : State → Nat → Option State)
    (state : Nat → State) (count : Nat)
    (step : ∀ index < count, turn (state index) index = some (state (index + 1))) :
    (List.range count).foldlM turn (state 0) = some (state count) := by
  induction count with
  | zero => rfl
  | succ count ih =>
      have loop := ih fun index before => step index (Nat.lt_succ_of_lt before)
      rw [List.range_succ, List.foldlM_append, loop]
      simpa using step count (Nat.lt_succ_self _)

/-- `count` cells from `start` on hold `value`; the others are unchanged. -/
def overwrite {α : Type u} (array : List α) (start count : Nat) (value : α) : List α :=
  array.mapIdx fun index old => if start ≤ index ∧ index < start + count then value else old

section Overwrite

variable {α : Type u} (array : List α) (start count : Nat) (value : α)

@[simp] theorem overwrite_length : (overwrite array start count value).length = array.length := by
  simp [overwrite]

@[simp] theorem overwrite_zero : overwrite array start 0 value = array := by
  apply List.ext_getElem?
  intro index
  have outside : ¬ (start ≤ index ∧ index < start) := by omega
  simp [overwrite, outside]

theorem overwrite_get {index : Nat} (inside : index < array.length) :
    (overwrite array start count value)[index]? =
      if start ≤ index ∧ index < start + count then some value else array[index]? := by
  unfold overwrite
  rw [List.getElem?_mapIdx, List.getElem?_eq_getElem inside]
  split <;> rfl

variable {array start count} in
theorem overwrite_get_inside {index : Nat} (inside : index < array.length)
    (covered : start ≤ index ∧ index < start + count) :
    (overwrite array start count value)[index]? = some value := by
  rw [overwrite_get _ _ _ _ inside, if_pos covered]

variable {start count} in
theorem overwrite_get_outside {index : Nat}
    (outside : ¬ (start ≤ index ∧ index < start + count)) :
    (overwrite array start count value)[index]? = array[index]? := by
  by_cases inside : index < array.length
  · rw [overwrite_get _ _ _ _ inside, if_neg outside]
  · rw [List.getElem?_eq_none (by simpa using inside), List.getElem?_eq_none (by omega)]

theorem overwrite_set_next :
    (overwrite array start count value).set (start + count) value =
      overwrite array start (count + 1) value := by
  apply List.ext_getElem?
  intro index
  rw [List.getElem?_set]
  by_cases inside : index < array.length
  · rw [overwrite_get _ _ _ _ inside, overwrite_get _ _ _ _ inside]
    by_cases here : start + count = index
    · subst here
      simp [inside]
    · have same : (start ≤ index ∧ index < start + count) ↔
          (start ≤ index ∧ index < start + (count + 1)) := by omega
      simp only [here, if_false, same]
  · rw [List.getElem?_eq_none (by simpa using inside), List.getElem?_eq_none (by simpa using inside)]
    split
    · simp only [overwrite_length]
      rw [if_neg (by omega)]
    · rfl

end Overwrite

end WchCh56x.Support.CountedLoop
