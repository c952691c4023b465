import Mathlib.Data.List.Infix
import Mathlib.Tactic

/-!
# Counting the owners of a shared object

A counter with finitely many values stands for the number of owners of an
object: a take adds one modulo the number of values, and a free at one or below
is taken for the last.
-/

namespace WchCh56x.Support.SharedCount

inductive OwnerOp where
  | take
  | free
  deriving DecidableEq, Repr

/-- The counter after a call; `none` is a freed object. -/
def count (limit : Nat) : Option Nat → OwnerOp → Option Nat
  | none, _ => none
  | some counter, .take => some ((counter + 1) % limit)
  | some counter, .free => if counter ≤ 1 then none else some (counter - 1)

def run (limit : Nat) (counter : Option Nat) (ops : List OwnerOp) : Option Nat :=
  ops.foldl (count limit) counter

/-- The owners that are left of `owners` and those that were added. -/
def ownersAfter (owners : Nat) (ops : List OwnerOp) : Nat :=
  owners + ops.count .take - ops.count .free

/-- At every moment somebody owns the object. -/
def Owned (owners : Nat) (ops : List OwnerOp) : Prop :=
  ∀ before, before <+: ops → before.count .free < owners + before.count .take

/-- At every moment the owners are few enough for the counter. -/
def Fits (limit owners : Nat) (ops : List OwnerOp) : Prop :=
  ∀ before, before <+: ops → ownersAfter owners before < limit

instance (owners : Nat) (ops : List OwnerOp) : Decidable (Owned owners ops) :=
  decidable_of_iff (∀ before ∈ ops.inits, before.count .free < owners + before.count .take)
    (forall_congr' fun _ => by rw [List.mem_inits])

instance (limit owners : Nat) (ops : List OwnerOp) : Decidable (Fits limit owners ops) :=
  decidable_of_iff (∀ before ∈ ops.inits, ownersAfter owners before < limit)
    (forall_congr' fun _ => by rw [List.mem_inits])

section Laws

variable {limit owners : Nat} {ops before : List OwnerOp} {op : OwnerOp}

theorem ownersAfter_take : ownersAfter owners (before ++ [.take]) =
    owners + before.count .take + 1 - before.count .free := by
  simp [ownersAfter, Nat.add_assoc]

theorem ownersAfter_free : ownersAfter owners (before ++ [.free]) =
    ownersAfter owners before - 1 := by
  simp [ownersAfter, Nat.sub_sub]

theorem Owned.earlier (owned : Owned owners (before ++ [op])) : Owned owners before :=
  fun earlier isPrefix => owned earlier (isPrefix.trans (List.prefix_append _ _))

theorem Owned.positive (owned : Owned owners ops) : 0 < ownersAfter owners ops := by
  have now := owned ops List.prefix_rfl
  unfold ownersAfter
  omega

/-- Takes and then one free leave somebody who owns the object, if there were two owners by then. -/
theorem owned_takes_free (positive : 0 < owners) {takes : Nat} (several : 1 < owners + takes) :
    Owned owners (List.replicate takes .take ++ [.free]) := by
  intro before isPrefix
  rcases List.prefix_concat_iff.mp isPrefix with rfl | inTakes
  · simpa [List.count_append, List.count_replicate] using several
  · have noFree : before.count .free ≤ (List.replicate takes OwnerOp.take).count .free :=
      inTakes.sublist.count_le _
    rw [List.count_replicate, if_neg (by decide)] at noFree
    omega

theorem fits_concat : Fits limit owners (before ++ [op]) ↔
    Fits limit owners before ∧ ownersAfter owners (before ++ [op]) < limit := by
  unfold Fits
  simp only [List.prefix_concat_iff, or_imp, forall_and, forall_eq, and_comm]

theorem run_concat (counter : Option Nat) :
    run limit counter (before ++ [op]) = count limit (run limit counter before) op := by
  simp [run]

@[simp] theorem run_cons (counter : Option Nat) :
    run limit counter (op :: ops) = run limit (count limit counter op) ops := rfl

theorem count_take (value : Nat) :
    count limit (some value) .take = some ((value + 1) % limit) := rfl

theorem count_free (value : Nat) :
    count limit (some value) .free = if value ≤ 1 then none else some (value - 1) := rfl

theorem run_append (counter : Option Nat) (first second : List OwnerOp) :
    run limit counter (first ++ second) = run limit (run limit counter first) second :=
  List.foldl_append

theorem run_none (ops : List OwnerOp) : run limit none ops = none := by
  induction ops with
  | nil => rfl
  | cons op rest ih => exact ih

/-- The counter has been freed or is too low by at least the number of its values. -/
def Lags (limit : Nat) (counter : Option Nat) (owners : Nat) : Prop :=
  ∀ value, counter = some value → value + limit ≤ owners

/-- As long as the owners fit the counter is their number, and from the first time they do not it
stays behind them. -/
theorem run_tracks (enough : owners < limit) (owned : Owned owners ops) :
    (Fits limit owners ops → run limit (some owners) ops = some (ownersAfter owners ops)) ∧
      (¬ Fits limit owners ops →
        Lags limit (run limit (some owners) ops) (ownersAfter owners ops)) := by
  induction ops using List.reverseRecOn with
  | nil =>
      refine ⟨fun _ => by simp [run, ownersAfter], fun overflow => absurd ?_ overflow⟩
      intro before isPrefix
      rw [List.prefix_nil.mp isPrefix]
      simpa [ownersAfter] using enough
  | append_singleton before op ih =>
      obtain ⟨exact, lags⟩ := ih owned.earlier
      have positive := owned.earlier.positive
      have now := owned _ List.prefix_rfl
      rw [fits_concat, run_concat]
      by_cases fits : Fits limit owners before
      · rw [exact fits]
        have small := fits before List.prefix_rfl
        cases op with
        | take =>
            rw [ownersAfter_take]
            unfold ownersAfter at positive small ⊢
            rw [count_take]
            constructor
            · rintro ⟨_, room⟩
              rw [Option.some.injEq, Nat.mod_eq_of_lt (by omega)]
              omega
            · intro overflow
              have full : ¬ owners + before.count .take + 1 - before.count .free < limit :=
                fun room => overflow ⟨fits, room⟩
              -- the owners have just reached the limit, and the counter wraps to zero
              have wraps : owners + before.count .take - before.count .free + 1 = limit := by
                omega
              rintro value isValue
              rw [wraps, Nat.mod_self, Option.some.injEq] at isValue
              omega
        | free =>
            rw [ownersAfter_free]
            have several : 1 < ownersAfter owners before := by
              rw [List.count_append, List.count_append] at now
              unfold ownersAfter
              simp only [List.count_singleton_self, show ([OwnerOp.free].count .take) = 0 by rfl]
                at now
              omega
            refine ⟨fun _ => if_neg (Nat.not_le.mpr several), fun overflow => absurd ?_ overflow⟩
            exact ⟨fits, by omega⟩
      · refine ⟨fun both => absurd both.1 fits, fun _ => ?_⟩
        intro value isValue
        have behind := lags fits
        cases counter : run limit (some owners) before with
        | none =>
            rw [counter] at isValue
            nomatch isValue
        | some old =>
            have lower := behind old counter
            rw [counter] at isValue
            cases op with
            | take =>
                rw [ownersAfter_take]
                unfold ownersAfter at lower
                have wrapped := Nat.mod_le (old + 1) limit
                obtain rfl := Option.some.inj isValue
                omega
            | free =>
                rw [ownersAfter_free]
                rw [count_free] at isValue
                split at isValue
                · nomatch isValue
                · obtain rfl := Option.some.inj isValue
                  omega

/-- Frees count a counter down and end with it. -/
theorem run_frees (frees : Nat) {value : Nat} (positive : 0 < value) :
    run limit (some value) (List.replicate frees .free) =
      if frees < value then some (value - frees) else none := by
  induction frees generalizing value with
  | zero => rw [if_pos positive]; rfl
  | succ frees ih =>
      rw [List.replicate_succ, run_cons, count_free]
      by_cases last : value ≤ 1
      · rw [if_pos last, run_none, if_neg (by omega)]
      · rw [if_neg last, ih (by omega)]
        by_cases more : frees + 1 < value
        · rw [if_pos (by omega), if_pos more]
          congr 1
          omega
        · rw [if_neg (by omega), if_neg more]

/-- The object lives exactly until its last owner frees it if and only if the owners never were
too many for the counter. -/
theorem lives_until_last_iff (two : 2 ≤ limit) (enough : owners < limit)
    (owned : Owned owners ops) :
    (∀ frees ≤ ownersAfter owners ops,
      (run limit (some owners) (ops ++ List.replicate frees .free)).isSome ↔
        frees < ownersAfter owners ops) ↔ Fits limit owners ops := by
  obtain ⟨exact, lags⟩ := run_tracks enough owned
  have positive := owned.positive
  constructor
  · intro lives
    by_contra overflow
    have behind := lags overflow
    have alive := (lives 0 (Nat.zero_le _)).mpr positive
    rw [List.replicate_zero, List.append_nil] at alive
    obtain ⟨value, isValue⟩ := Option.isSome_iff_exists.mp alive
    have lower := behind value isValue
    -- the counter runs out before the owners do
    have early := (lives (max 1 value) (by omega)).mpr (by omega)
    rw [run_append, isValue] at early
    cases value with
    | zero => exact absurd early (by simp [run, count])
    | succ value =>
        rw [run_frees _ (Nat.succ_pos value), if_neg (by omega)] at early
        nomatch early
  · intro fits frees _
    rw [run_append, exact fits, run_frees frees positive]
    by_cases more : frees < ownersAfter owners ops
    · simp [more]
    · simp [more]

end Laws

end WchCh56x.Support.SharedCount
