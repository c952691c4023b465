import Mathlib.Order.Bounds.Defs
import Mathlib.Tactic
import WchCh56x.Support.CountedLoop

/-!
# First fit in an array of cells

The runs of vacant cells of an array, the first of them, and the rule for a
search loop that carries a flag from one candidate to the next.
-/

namespace WchCh56x.Support.FirstFit

open CountedLoop

universe u

/-! ## Search loops -/

/-- A loop whose flag stays good finds the first candidate that passes. -/
theorem scan_eq_find? {Flag : Type u} {search : List Nat → Flag → Option (Option Nat)}
    {Inside Passes : Nat → Prop} [DecidablePred Passes] {Good : Flag → Prop}
    (ended : ∀ flag, search [] flag = some none)
    (taken : ∀ candidate rest flag, Inside candidate → Good flag → Passes candidate →
      search (candidate :: rest) flag = some (some candidate))
    (passed : ∀ candidate rest flag, Inside candidate → Good flag → ¬ Passes candidate →
      ∃ next, Good next ∧ search (candidate :: rest) flag = search rest next)
    (candidates : List Nat) (inside : ∀ candidate ∈ candidates, Inside candidate) {flag : Flag}
    (good : Good flag) :
    search candidates flag = some (candidates.find? fun candidate => Passes candidate) := by
  induction candidates generalizing flag with
  | nil => exact ended flag
  | cons candidate rest ih =>
      obtain ⟨here, others⟩ := List.forall_mem_cons.mp inside
      by_cases passes : Passes candidate
      · rw [taken candidate rest flag here good passes,
          List.find?_cons_of_pos (by simpa using passes)]
      · obtain ⟨next, goodNext, goesOn⟩ := passed candidate rest flag here good passes
        rw [goesOn, ih others goodNext, List.find?_cons_of_neg (by simpa using passes)]

/-! ## Runs of vacant cells -/

section Runs

variable {Cell : Type u} (vacant : Cell) (cells : List Cell) (count : Nat)

/-- `count` cells from `start` on are inside the array and vacant. -/
def FitsAt (start : Nat) : Prop :=
  start + count ≤ cells.length ∧ ∀ offset < count, cells[start + offset]? = some vacant

instance [DecidableEq Cell] : DecidablePred (FitsAt vacant cells count) := fun _ =>
  inferInstanceAs (Decidable (_ ∧ _))

/-- The lowest start of a run of `count` vacant cells. -/
def firstFit [DecidableEq Cell] : Option Nat :=
  (List.range (cells.length + 1 - count)).find? fun start => FitsAt vacant cells count start

variable {vacant cells count}

theorem FitsAt.candidate {start : Nat} (fits : FitsAt vacant cells count start) :
    start < cells.length + 1 - count := by
  have inside := fits.1
  omega

variable [DecidableEq Cell]

theorem firstFit_eq_some_iff {start : Nat} :
    firstFit vacant cells count = some start ↔
      IsLeast {start | FitsAt vacant cells count start} start := by
  unfold firstFit
  rw [List.find?_range_eq_some]
  constructor
  · rintro ⟨fits, _, blocked⟩
    refine ⟨by simpa using fits, fun other otherFits => ?_⟩
    by_contra lower
    have notThere := blocked other (Nat.not_le.mp lower)
    have there : FitsAt vacant cells count other := otherFits
    simp [there] at notThere
  · rintro ⟨fits, lowest⟩
    have fits : FitsAt vacant cells count start := fits
    refine ⟨by simpa using fits, List.mem_range.mpr fits.candidate, fun other lower => ?_⟩
    have notThere : ¬ FitsAt vacant cells count other := by
      intro there
      exact Nat.not_le.mpr lower (lowest there)
    simp [notThere]

theorem firstFit_eq_none_iff :
    firstFit vacant cells count = none ↔ ∀ start, ¬ FitsAt vacant cells count start := by
  unfold firstFit
  rw [List.find?_range_eq_none]
  constructor
  · intro blocked start fits
    have notThere := blocked start fits.candidate
    simp [fits] at notThere
  · intro none start _
    simp [none start]

end Runs

end WchCh56x.Support.FirstFit
