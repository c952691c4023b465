import Mathlib.Data.Nat.Bits
import Mathlib.Tactic

/-!
# One bit against repetitions

A sender gives the items bits that alternate, and repeats an item until it hears
that it has arrived.  The receiver takes an item only with the bit that it expects,
so that a repetition does no harm.
-/

namespace WchCh56x.Support.AlternatingBit

/-- How an attempt to hand an item over ends. -/
inductive Outcome where
  | lost
  /-- The item arrives, and the sender does not hear of it. -/
  | unacknowledged
  | acknowledged
  deriving DecidableEq, Repr

variable {α : Type}

/-- The receiver takes an item with the bit of the next one. -/
def receive (received : List α) (bit : Bool) (item : α) : List α :=
  if bit = received.length.bodd then received ++ [item] else received

/-- What the receiver has after an attempt. -/
def attempt (outcome : Outcome) (received : List α) (bit : Bool) (item : α) : List α :=
  match outcome with
  | .lost => received
  | .unacknowledged | .acknowledged => receive received bit item

/-- The receiver has what the sender knows to have arrived, and may have the item under way. -/
def InStep (confirmed : List α) (underWay : Option α) (received : List α) : Prop :=
  received = confirmed ∨ ∃ item, underWay = some item ∧ received = confirmed ++ [item]

namespace InStep

variable {confirmed received : List α} {underWay : Option α} {item : α}

theorem refl (received : List α) (underWay : Option α) : InStep received underWay received :=
  .inl rfl

/-- Nothing is under way: both know the same. -/
theorem received_eq (inStep : InStep confirmed none received) : received = confirmed := by
  rcases inStep with same | ⟨item, under, _⟩
  · exact same
  · cases under

/-- The next item is put under way. -/
theorem put (inStep : InStep confirmed none received) (underWay : Option α) :
    InStep confirmed underWay received := .inl inStep.received_eq

/-- The item arrives, and a repetition of it is not taken again. -/
theorem receive_eq (inStep : InStep confirmed (some item) received) :
    receive received confirmed.length.bodd item = confirmed ++ [item] := by
  rcases inStep with rfl | ⟨_, ⟨rfl⟩, rfl⟩
  · exact if_pos rfl
  · refine if_neg fun same => ?_
    rw [List.length_append, List.length_singleton, Nat.bodd_succ] at same
    exact absurd same.symm (Bool.not_ne_self _)

theorem attempt (inStep : InStep confirmed (some item) received) (outcome : Outcome) :
    InStep confirmed (some item)
      (AlternatingBit.attempt outcome received confirmed.length.bodd item) := by
  have arrives : InStep confirmed (some item) (receive received confirmed.length.bodd item) :=
    .inr ⟨item, rfl, inStep.receive_eq⟩
  cases outcome with
  | lost => exact inStep
  | unacknowledged => exact arrives
  | acknowledged => exact arrives

/-- The sender hears that the item has arrived. -/
theorem confirm (inStep : InStep confirmed (some item) received) (next : Option α) :
    InStep (confirmed ++ [item]) next
      (AlternatingBit.attempt .acknowledged received confirmed.length.bodd item) :=
  .inl inStep.receive_eq

theorem confirmed_prefix (inStep : InStep confirmed underWay received) : confirmed <+: received := by
  rcases inStep with rfl | ⟨item, _, rfl⟩
  · exact List.prefix_rfl
  · exact List.prefix_append ..

theorem received_prefix (inStep : InStep confirmed underWay received) :
    received <+: confirmed ++ underWay.toList := by
  rcases inStep with rfl | ⟨item, rfl, rfl⟩
  · exact List.prefix_append ..
  · exact List.prefix_rfl

end InStep

end WchCh56x.Support.AlternatingBit
