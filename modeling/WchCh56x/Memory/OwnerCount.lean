import WchCh56x.Memory.Borrowing
import WchCh56x.Support.SharedCount

/-!
# The owners of a shared RAMX buffer

The reference counters of an allocation are bytes, one for each of its blocks,
and all of them count its owners in the same way.
-/

namespace WchCh56x.Memory

open Support Support.CountedLoop Support.FirstFit Support.SharedCount

/-- A call with the start address of the allocation in block `start`. -/
def ownerCall (config : PoolConfig) (start : Nat) (pool : RamxPool) : OwnerOp → Option RamxPool
  | .take => ramxTakeOwnership pool (config.addressOf start)
  | .free => ramxPoolFree pool (config.addressOf start)

/-- The blocks of the allocation are marked, and no allocation hands out any of them. -/
structure Live (config : PoolConfig) (pool : RamxPool) (own : Interval) : Prop where
  marked : ∀ index, own.Covers index →
    ∃ length, 0 < length ∧ pool.blocks[index]? = some length
  kept : ∀ numBlocks ret after,
    ramxPoolAllocBlocks config pool numBlocks = some (ret, after) → ret ≠ 0 →
      ∃ first, ret = config.addressOf first ∧
        (first + u8 numBlocks ≤ own.start ∨ own.finish ≤ first)

def Gone (pool : RamxPool) (own : Interval) : Prop :=
  ∀ index, own.Covers index → pool.blocks[index]? = some 0

/-- After the calls `ops` the allocation is live, and further frees end it with the last owner's
and not earlier. -/
def SurvivesUntilLast (config : PoolConfig) (pool : RamxPool) (own : Interval)
    (ops : List OwnerOp) : Prop :=
  ∀ frees ≤ ownersAfter own.owners ops, ∃ after,
    (ops ++ List.replicate frees OwnerOp.free).foldlM (ownerCall config own.start) pool = some after ∧
      (frees < ownersAfter own.owners ops → Live config after own) ∧
      (frees = ownersAfter own.owners ops → Gone after own)

/-! ## The bytes count as one counter -/

/-- The blocks and the counters of the allocation, as one counter tells them. -/
structure CountedBy (config : PoolConfig) (own : Interval) (pool : RamxPool)
    (counter : Option Nat) : Prop where
  laidOut : pool.LaidOut config
  inside : own.finish ≤ config.blockNum
  nonempty : 0 < own.length
  blocks : ∀ index, own.Covers index →
    pool.blocks[index]? = some (if counter.isSome then own.length else 0)
  counters : ∀ value, counter = some value → value < 256 ∧ ∀ index, own.Covers index →
    pool.blocksReferenceCounter[index]? = some value

section Counted

variable {config : PoolConfig} {own : Interval} {pool : RamxPool} {counter : Option Nat}

theorem CountedBy.start (counted : CountedBy config own pool counter) : own.Covers own.start := by
  have positive := counted.nonempty
  exact ⟨Nat.le_refl _, by unfold Interval.finish; omega⟩

theorem CountedBy.start_lt (counted : CountedBy config own pool counter) :
    own.start < config.blockNum :=
  Nat.lt_of_lt_of_le counted.start.2 counted.inside

theorem CountedBy.live {value : Nat} (counted : CountedBy config own pool (some value)) :
    Live config pool own := by
  refine ⟨fun index covers => ⟨own.length, counted.nonempty, counted.blocks index covers⟩, ?_⟩
  intro numBlocks ret after allocated nonNull
  rw [ramxPoolAllocBlocks_eq counted.laidOut] at allocated
  cases search : freeRun pool.blocks (u8 numBlocks) with
  | none =>
      rw [search] at allocated
      obtain rfl : 0 = ret := congrArg Prod.fst (Option.some.inj allocated)
      exact absurd rfl nonNull
  | some first =>
      rw [search] at allocated
      obtain ⟨positive, ⟨_, zeroes⟩, _⟩ := freeRun_eq_some_iff.mp search
      refine ⟨first, (congrArg Prod.fst (Option.some.inj allocated)).symm, ?_⟩
      by_contra overlap
      -- the larger of the two starts would be free and marked
      have nonempty := counted.nonempty
      unfold Interval.finish at overlap
      have zero := zeroes (max first own.start - first) (by omega)
      rw [Nat.add_sub_cancel' (Nat.le_max_left _ _), counted.blocks (max first own.start)
        ⟨Nat.le_max_right _ _, by unfold Interval.finish; omega⟩, Option.some.injEq] at zero
      exact absurd zero (Nat.ne_of_gt nonempty)

theorem CountedBy.gone (counted : CountedBy config own pool none) : Gone pool own :=
  counted.blocks

theorem Live.not_gone (live : Live config pool own) (nonempty : 0 < own.length) :
    ¬ Gone pool own := by
  intro gone
  have covers : own.Covers own.start := ⟨Nat.le_refl _, by unfold Interval.finish; omega⟩
  obtain ⟨length, positive, marked⟩ := live.marked own.start covers
  rw [gone own.start covers, Option.some.injEq] at marked
  omega

/-- A take adds one to all counters of the allocation, modulo 256. -/
theorem CountedBy.take (counted : CountedBy config own pool counter) :
    ∃ after, ownerCall config own.start pool .take = some after ∧
      CountedBy config own after (count 256 counter .take) := by
  have marked := counted.blocks own.start counted.start
  have walk := ramxTakeOwnership_eq counted.laidOut counted.start_lt config.blockSize_pos marked
  rw [Nat.add_zero] at walk
  cases counter with
  | none => exact ⟨pool, walk, counted⟩
  | some value =>
      have ends : own.start + own.length ≤ config.blockNum := counted.inside
      have uniform := (counted.counters value rfl).2
      refine ⟨_, walk.trans (takeBlocks_spec pool own.start own.length value
        (by rwa [counted.laidOut.countersLength])
        fun i before => uniform _ ⟨Nat.le_add_right _ _, Nat.add_lt_add_left before _⟩),
        counted.laidOut.recount _ _ _, counted.inside, counted.nonempty, counted.blocks, ?_⟩
      rintro _ ⟨rfl⟩
      refine ⟨Nat.mod_lt _ (by decide), fun index covers => ?_⟩
      exact overwrite_get_inside _ (by
        rw [counted.laidOut.countersLength]
        exact Nat.lt_of_lt_of_le covers.2 ends) covers

/-- A free takes one off all counters of the allocation, or frees all its blocks. -/
theorem CountedBy.free (counted : CountedBy config own pool counter) :
    ∃ after, ownerCall config own.start pool .free = some after ∧
      CountedBy config own after (count 256 counter .free) := by
  have marked := counted.blocks own.start counted.start
  have walk := ramxPoolFree_eq counted.laidOut counted.start_lt config.blockSize_pos marked
  have ends : own.start + own.length ≤ config.blockNum := counted.inside
  have laidOut := counted.laidOut
  rw [Nat.add_zero] at walk
  cases counter with
  | none => exact ⟨_, walk, ⟨laidOut.base, laidOut.unit, laidOut.length, laidOut.countersLength⟩,
      counted.inside, counted.nonempty, counted.blocks, fun value none => nomatch none⟩
  | some value =>
      obtain ⟨small, uniform⟩ := counted.counters value rfl
      have each : ∀ i < own.length,
          pool.blocksReferenceCounter[own.start + i]? = some value := fun i before =>
        uniform _ ⟨Nat.le_add_right _ _, Nat.add_lt_add_left before _⟩
      rw [count_free]
      by_cases last : value ≤ 1
      · rw [if_pos last]
        refine ⟨_, walk.trans (congrArg _ (freeBlocks_last_spec pool own.start own.length
          (by rwa [laidOut.length]) fun i before => ⟨value, last, each i before⟩)),
          ⟨laidOut.base, laidOut.unit, (overwrite_length ..).trans laidOut.length,
            laidOut.countersLength⟩, counted.inside, counted.nonempty, fun index covers => ?_,
          fun value none => nomatch none⟩
        exact overwrite_get_inside _ (by
          rw [laidOut.length]
          exact Nat.lt_of_lt_of_le covers.2 ends) covers
      · rw [if_neg last]
        refine ⟨_, walk.trans (congrArg _ (freeBlocks_shared_spec pool own.start own.length value
          (by rwa [laidOut.countersLength]) (Nat.not_le.mp last) each)),
          ⟨laidOut.base, laidOut.unit, laidOut.length,
            (overwrite_length ..).trans laidOut.countersLength⟩, counted.inside,
          counted.nonempty, counted.blocks, ?_⟩
        rintro _ ⟨rfl⟩
        refine ⟨by omega, fun index covers => ?_⟩
        have back : u8 (value + 255) = value - 1 := by
          unfold u8
          omega
        dsimp only
        rw [overwrite_get_inside _ (by
          rw [laidOut.countersLength]
          exact Nat.lt_of_lt_of_le covers.2 ends) covers, back]

/-- Any calls on the start address act on the bytes as on one counter. -/
theorem CountedBy.run (ops : List OwnerOp) (counted : CountedBy config own pool counter) :
    ∃ after, ops.foldlM (ownerCall config own.start) pool = some after ∧
      CountedBy config own after (SharedCount.run 256 counter ops) := by
  induction ops generalizing pool counter with
  | nil => exact ⟨pool, rfl, counted⟩
  | cons op rest ih =>
      obtain ⟨next, called, countedNext⟩ : ∃ next,
          ownerCall config own.start pool op = some next ∧
            CountedBy config own next (count 256 counter op) := by
        cases op with
        | take => exact counted.take
        | free => exact counted.free
      obtain ⟨after, others, countedAfter⟩ := ih countedNext
      refine ⟨after, ?_, countedAfter⟩
      rw [List.foldlM_cons, called]
      exact others

end Counted

theorem RamxPool.Accounts.countedBy {config : PoolConfig} {pool : RamxPool} {ledger : Ledger}
    (accounts : pool.Accounts config ledger) {own : Interval} (member : own ∈ ledger) :
    CountedBy config own pool (some own.owners) where
  laidOut := accounts.laidOut
  inside := accounts.valid.inside own member
  nonempty := accounts.valid.nonempty own member
  blocks := accounts.live own member
  counters := by
    rintro _ ⟨rfl⟩
    exact ⟨Nat.lt_succ_of_le (accounts.owners_le own member), accounts.counted own member⟩

/-- In every reachable state and for every order of takes and frees in which somebody always owns
the allocation, it survives until its last owner frees it if and only if it never has more than
255 owners. -/
theorem survives_until_last_iff {config : PoolConfig} {pool : RamxPool} {ledger : Ledger}
    (reachable : RamxReachable config pool ledger) {own : Interval} (member : own ∈ ledger)
    {ops : List OwnerOp} (owned : Owned own.owners ops) :
    SurvivesUntilLast config pool own ops ↔ Fits 256 own.owners ops := by
  have accounts := reachable.accounts
  have most := accounts.owners_le own member
  have nonempty := accounts.valid.nonempty own member
  rw [← lives_until_last_iff (by decide) (Nat.lt_succ_of_le most) owned]
  refine forall_congr' fun frees => imp_congr_right fun few => ?_
  obtain ⟨after, calls, counted⟩ :=
    (accounts.countedBy member).run (ops ++ List.replicate frees OwnerOp.free)
  rw [calls]
  simp only [Option.some.injEq, exists_eq_left']
  cases counter : SharedCount.run 256 (some own.owners) (ops ++ List.replicate frees OwnerOp.free) with
  | none =>
      rw [counter] at counted
      have gone := counted.gone
      constructor
      · rintro ⟨live, _⟩
        simpa using fun more => (live more).not_gone nonempty gone
      · intro exactly
        exact ⟨fun more => absurd (exactly.mpr more) (by simp), fun _ => gone⟩
  | some value =>
      rw [counter] at counted
      have live := counted.live
      constructor
      · rintro ⟨_, gone⟩
        have notLast : frees ≠ ownersAfter own.owners ops := fun last =>
          live.not_gone nonempty (gone last)
        simpa using Nat.lt_of_le_of_ne few notLast
      · intro exactly
        exact ⟨fun _ => live, fun last => absurd (exactly.mp rfl) (by omega)⟩

/-- Two takes and a free of a fresh allocation of two blocks. -/
theorem two_takes_survive_iff :
    SurvivesUntilLast fourBlocks twoBlocksUsed ⟨0, 2, 1⟩ [.take, .take, .free] ↔
      Fits 256 1 [.take, .take, .free] :=
  survives_until_last_iff twoBlocksUsed_reachable (List.mem_cons_self ..)
    (show Owned 1 [.take, .take, .free] by decide)

def manyTakes : List OwnerOp := List.replicate 255 OwnerOp.take ++ [.free]

theorem run_manyTakes : SharedCount.run 256 (some 1) manyTakes = none := by decide +kernel

theorem ownersAfter_manyTakes : ownersAfter 1 manyTakes = 255 := by decide +kernel

theorem owned_manyTakes : Owned 1 manyTakes := owned_takes_free (by decide) (by decide)

/-- The counters of a fresh allocation wrap at its 256th owner, and the next free ends the
allocation although 255 owners are left. -/
theorem free_with_owners_left :
    RamxReachable fourBlocks twoBlocksUsed [⟨0, 2, 1⟩] ∧ Owned 1 manyTakes ∧
      ownersAfter 1 manyTakes = 255 ∧
      (∃ after, manyTakes.foldlM (ownerCall fourBlocks 0) twoBlocksUsed = some after ∧
        Gone after ⟨0, 2, 1⟩) ∧
      ¬ SurvivesUntilLast fourBlocks twoBlocksUsed ⟨0, 2, 1⟩ manyTakes := by
  obtain ⟨after, calls, counted⟩ := (twoBlocksUsed_reachable.accounts.countedBy
    (List.mem_cons_self ..)).run manyTakes
  dsimp only at calls counted
  rw [run_manyTakes] at counted
  refine ⟨twoBlocksUsed_reachable, owned_manyTakes, ownersAfter_manyTakes,
    ⟨after, calls, counted.gone⟩, ?_⟩
  intro survives
  obtain ⟨other, otherCalls, live, _⟩ := survives 0 (Nat.zero_le _)
  dsimp only at otherCalls live
  rw [List.replicate_zero, List.append_nil, calls] at otherCalls
  obtain rfl := Option.some.inj otherCalls
  rw [ownersAfter_manyTakes] at live
  exact (live (by decide)).not_gone (by decide) counted.gone

end WchCh56x.Memory
