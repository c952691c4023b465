import Mathlib.Data.List.Basic
import Mathlib.Tactic

/-!
# The abstract bounded queue

A first-in first-out list of at most `capacity` elements, with batches that are
taken whole or not at all.  A request answers with the number of elements it
moved (or counted) and the elements it shows.
-/

namespace WchCh56x.Support.BoundedQueue

variable {α : Type}

inductive Request (α : Type) where
  | write (batch : List α)
  | read
  | readN (n : Nat)
  | peekN (n : Nat)
  | count
  | clean

structure Reply (α : Type) where
  count : Nat
  shown : List α

/-- The answer of a queue holding `queue`, and what it holds afterwards. -/
def step (capacity : Nat) (queue : List α) : Request α → Reply α × List α
  | .write batch =>
      if queue.length + batch.length ≤ capacity then
        (⟨batch.length, []⟩, queue ++ batch)
      else
        (⟨0, []⟩, queue)
  | .read => (⟨queue.length, queue⟩, [])
  | .readN n =>
      if n ≤ queue.length then (⟨n, queue.take n⟩, queue.drop n) else (⟨0, []⟩, queue)
  | .peekN n =>
      if n ≤ queue.length then (⟨n, queue.take n⟩, queue) else (⟨0, []⟩, queue)
  | .count => (⟨queue.length, []⟩, queue)
  | .clean => (⟨0, []⟩, [])

def run (capacity : Nat) (queue : List α) : List (Request α) → List (Reply α) × List α
  | [] => ([], queue)
  | request :: rest =>
      let first := step capacity queue request
      let others := run capacity first.2 rest
      (first.1 :: others.1, others.2)

theorem run_append (capacity : Nat) (queue : List α) (first second : List (Request α)) :
    run capacity queue (first ++ second) =
      ((run capacity queue first).1 ++ (run capacity (run capacity queue first).2 second).1,
        (run capacity (run capacity queue first).2 second).2) := by
  induction first generalizing queue with
  | nil => rfl
  | cons request rest ih =>
      simp only [List.cons_append, run]
      rw [ih]

end WchCh56x.Support.BoundedQueue
