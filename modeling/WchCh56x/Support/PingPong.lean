import Mathlib.Tactic

/-!
# Two slots filled in turn

A producer fills two slots alternately.  What a slot holds depends on how many items
came, and not on when a consumer looks.
-/

namespace WchCh56x.Support.PingPong

universe u v

variable {Slot : Type u} {Item : Type v}

/-- The slot of each item, where items of equal parity share a slot. -/
def Alternates (turn : Nat → Slot) : Prop := ∀ left right, turn left = turn right ↔ left % 2 = right % 2

/-- The youngest of `count` items in the slot of item `index`. -/
def youngest (count index : Nat) : Nat := index + 2 * ((count - 1 - index) / 2)

theorem youngest_lt {count index : Nat} (inside : index < count) : youngest count index < count := by
  unfold youngest
  omega

/-- The youngest item is `missed / 2` rounds ahead. -/
theorem youngest_add (index missed : Nat) :
    youngest (index + 1 + missed) index = index + 2 * (missed / 2) := by
  unfold youngest
  congr 3
  omega

/-- Each slot holds the youngest of its items. -/
def Holds (turn : Nat → Slot) (items : List Item) (slots : Slot → Item) : Prop :=
  ∀ index < items.length, items[youngest items.length index]? = some (slots (turn index))

theorem holds_nil (turn : Nat → Slot) (slots : Slot → Item) : Holds turn [] slots :=
  fun _ inside => absurd inside (Nat.not_lt_zero _)

/-- The next item goes to the slot whose turn it is. -/
theorem Holds.push {turn : Nat → Slot} (alternates : Alternates turn) {items : List Item}
    {slots after : Slot → Item} (holds : Holds turn items slots) {item : Item}
    (filled : after (turn items.length) = item)
    (kept : ∀ slot, slot ≠ turn items.length → after slot = slots slot) :
    Holds turn (items ++ [item]) after := by
  intro index inside
  rw [List.length_append, List.length_singleton] at inside ⊢
  by_cases same : index % 2 = items.length % 2
  · have last : youngest (items.length + 1) index = items.length := by
      unfold youngest
      omega
    rw [last, (alternates index items.length).mpr same, filled, List.getElem?_concat_length]
  · have unchanged : youngest (items.length + 1) index = youngest items.length index := by
      unfold youngest
      omega
    have older : index < items.length := by
      rcases Nat.lt_succ_iff_lt_or_eq.mp inside with before | rfl
      · exact before
      · exact absurd rfl same
    rw [unchanged, List.getElem?_append_left (youngest_lt older), holds index older,
      kept (turn index) fun equal => same ((alternates index items.length).mp equal)]

end WchCh56x.Support.PingPong
