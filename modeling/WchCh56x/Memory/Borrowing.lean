import WchCh56x.Memory.RamxLedger

/-!
# Borrowing a buffer through an address inside it

`ramx_take_ownership` and `ramx_pool_free` walk as many blocks as the allocation
has, from the block that the address is in.
-/

namespace WchCh56x.Memory

open Support Support.CountedLoop

/-- Taking ownership through `ptr` and freeing it again changes nothing, and in between only the
counters of the allocation `own` differ. -/
def BorrowIsNeutral (pool : RamxPool) (ledger : Ledger) (own : Interval) (ptr : Nat) : Prop :=
  ∃ taken freed, ramxTakeOwnership pool ptr = some taken ∧ ramxPoolFree taken ptr = some freed ∧
    (taken.blocks = pool.blocks ∧ taken.blocksUsed = pool.blocksUsed ∧
      ∀ index, ¬ own.Covers index →
        taken.blocksReferenceCounter[index]? = pool.blocksReferenceCounter[index]?) ∧
    freed.blocks = pool.blocks ∧ freed.blocksUsed = pool.blocksUsed ∧
      ∀ interval ∈ ledger, ∀ index, interval.Covers index →
        freed.blocksReferenceCounter[index]? = pool.blocksReferenceCounter[index]?

/-- A turn of the loop of `ramx_take_ownership` adds one to the counter it is at. -/
theorem takeBlock_counter {pool after : RamxPool} {block i : Nat}
    (taken : takeBlock block pool i = some after) :
    (∃ counter, pool.blocksReferenceCounter[block + i]? = some counter ∧
      after.blocksReferenceCounter[block + i]? = some (u8 (counter + 1))) ∧
    ∀ index, index ≠ block + i →
      after.blocksReferenceCounter[index]? = pool.blocksReferenceCounter[index]? := by
  unfold takeBlock at taken
  obtain ⟨counter, isCounter, stored⟩ := Option.bind_eq_some_iff.mp taken
  obtain ⟨counters, isCounters, same⟩ := Option.bind_eq_some_iff.mp stored
  rw [← Option.some.inj same]
  unfold storeAt at isCounters
  split at isCounters
  next inside =>
    rw [← Option.some.inj isCounters]
    refine ⟨⟨counter, isCounter, List.getElem?_set_self inside⟩, fun index away => ?_⟩
    exact List.getElem?_set_ne (Ne.symm away)
  next => nomatch isCounters

/-- The whole loop adds one to every counter that it passes, and stays inside the array. -/
theorem takeBlocks_counter {pool after : RamxPool} {block count : Nat}
    (taken : (List.range count).foldlM (takeBlock block) pool = some after) (index : Nat) :
    (block ≤ index ∧ index < block + count → ∃ counter,
      pool.blocksReferenceCounter[index]? = some counter ∧
      after.blocksReferenceCounter[index]? = some (u8 (counter + 1))) ∧
    (¬ (block ≤ index ∧ index < block + count) →
      after.blocksReferenceCounter[index]? = pool.blocksReferenceCounter[index]?) := by
  induction count generalizing after with
  | zero =>
      obtain rfl := Option.some.inj taken
      exact ⟨fun inside => by omega, fun _ => rfl⟩
  | succ count ih =>
      rw [List.range_succ, List.foldlM_append] at taken
      obtain ⟨middle, before, last⟩ := Option.bind_eq_some_iff.mp taken
      rw [List.foldlM_cons] at last
      obtain ⟨next, turn, same⟩ := Option.bind_eq_some_iff.mp last
      obtain rfl := Option.some.inj same
      obtain ⟨passed, others⟩ := ih before
      obtain ⟨⟨counter, isCounter, counted⟩, away⟩ := takeBlock_counter turn
      by_cases here : index = block + count
      · subst here
        rw [others (by omega)] at isCounter
        exact ⟨fun _ => ⟨counter, isCounter, counted⟩, fun outside => by omega⟩
      · rw [away index here]
        exact ⟨fun inside => passed (by omega), fun outside => others (by omega)⟩

theorem u8_succ_ne (counter : Nat) : u8 (counter + 1) ≠ counter := by
  unfold u8
  omega

section Borrow

variable {config : PoolConfig} {pool : RamxPool} {ledger : Ledger} {own : Interval} {ptr : Nat}

/-- An address in the run of an allocation is in one of its blocks. -/
theorem exists_block_of_mem_run (inside : ptr ∈ config.run own.start own.length) :
    ∃ block offset, own.Covers block ∧ offset < config.blockSize ∧
      ptr = config.addressOf block + offset := by
  obtain ⟨low, high⟩ := inside
  rw [config.addressOf_add] at high
  have positive := config.blockSize_pos
  have split := Nat.div_add_mod (ptr - config.addressOf own.start) config.blockSize
  have fewer : (ptr - config.addressOf own.start) / config.blockSize < own.length :=
    Nat.div_lt_of_lt_mul (by omega)
  refine ⟨own.start + (ptr - config.addressOf own.start) / config.blockSize,
    (ptr - config.addressOf own.start) % config.blockSize, ⟨Nat.le_add_right _ _, ?_⟩,
    Nat.mod_lt _ positive, ?_⟩
  · unfold Interval.finish
    omega
  · rw [config.addressOf_add]
    omega

theorem RamxPool.LaidOut.recount (laidOut : pool.LaidOut config) (start count value : Nat) :
    RamxPool.LaidOut config
      { pool with
        blocksReferenceCounter := overwrite pool.blocksReferenceCounter start count value } :=
  ⟨laidOut.base, laidOut.unit, laidOut.length,
    (overwrite_length ..).trans laidOut.countersLength⟩

/-- The run of blocks from `own.start` on with another counter. -/
theorem overwrite_restore {counters : List Nat} {start count middle owners : Nat}
    (uniform : ∀ index, start ≤ index → index < start + count → counters[index]? = some owners) :
    overwrite (overwrite counters start count middle) start count owners = counters := by
  apply List.ext_getElem?
  intro index
  by_cases covered : start ≤ index ∧ index < start + count
  · have there := uniform index covered.1 covered.2
    have inside := (List.getElem?_eq_some_iff.mp there).1
    rw [overwrite_get_inside _ (by simpa using inside) covered, there]
  · rw [overwrite_get_outside _ _ covered, overwrite_get_outside _ _ covered]

/-- Through the first block, with room for one more owner, borrowing is neutral. -/
theorem borrow_of_first_block (accounts : pool.Accounts config ledger) (member : own ∈ ledger)
    (room : own.owners < 255) {offset : Nat} (within : offset < config.blockSize) :
    BorrowIsNeutral pool ledger own (config.addressOf own.start + offset) := by
  have start := accounts.start_lt member
  have marked := accounts.live own member _ (accounts.valid.covers_start member)
  have owned := accounts.valid.owned own member
  have fits : own.start + own.length ≤ pool.blocksReferenceCounter.length := by
    rw [accounts.countersLength]
    exact accounts.valid.inside own member
  have uniform : ∀ i < own.length,
      pool.blocksReferenceCounter[own.start + i]? = some own.owners := by
    intro i before
    exact accounts.counted own member _ ⟨Nat.le_add_right _ _, Nat.add_lt_add_left before _⟩
  have more : u8 (own.owners + 1) = own.owners + 1 := u8_of_lt (by omega)
  have back : u8 (own.owners + 1 + 255) = own.owners := by
    unfold u8
    omega
  have taken := takeBlocks_spec pool own.start own.length own.owners fits uniform
  rw [← ramxTakeOwnership_eq accounts.laidOut start within marked, more] at taken
  -- with two owners or more, the free only counts down
  have freed := freeBlocks_shared_spec
    { pool with
      blocksReferenceCounter :=
        overwrite pool.blocksReferenceCounter own.start own.length (own.owners + 1) }
    own.start own.length (own.owners + 1) (by simpa using fits) (by omega)
    (by
      intro i before
      exact overwrite_get_inside _ (by omega) ⟨Nat.le_add_right _ _, Nat.add_lt_add_left before _⟩)
  rw [back] at freed
  refine ⟨_, { pool with
      blocksReferenceCounter := overwrite (overwrite pool.blocksReferenceCounter own.start
        own.length (own.owners + 1)) own.start own.length own.owners
      blocksUsed := u8 (pool.blocksUsed + 256 - 0) }, taken, ?_, ⟨rfl, rfl, ?_⟩, ?_⟩
  · rw [ramxPoolFree_eq (accounts.laidOut.recount _ _ _) start within marked, freed]
    rfl
  · intro index outside
    exact overwrite_get_outside _ _ outside
  · refine ⟨rfl, accounts.used_unchanged, fun interval _ index _ => ?_⟩
    dsimp only
    rw [overwrite_restore]
    intro index low high
    exact accounts.counted own member index ⟨low, high⟩

/-- Behind the first block the walk leaves the allocation and counts up a block after it. -/
theorem first_block_of_borrow (accounts : pool.Accounts config ledger) (member : own ∈ ledger)
    {block offset : Nat} (covers : own.Covers block) (within : offset < config.blockSize)
    (neutral : BorrowIsNeutral pool ledger own (config.addressOf block + offset)) :
    block = own.start := by
  by_contra behind
  obtain ⟨taken, _, took, _, ⟨_, _, others⟩, _⟩ := neutral
  obtain ⟨low, high⟩ := covers
  have ends := accounts.valid.inside own member
  rw [ramxTakeOwnership_eq accounts.laidOut (by omega) within
    (accounts.live own member block ⟨low, high⟩)] at took
  have walked : block ≤ own.finish ∧ own.finish < block + own.length := by
    unfold Interval.finish at high ⊢
    omega
  obtain ⟨counter, isCounter, counted⟩ := (takeBlocks_counter took own.finish).1 walked
  rw [others own.finish fun inside => Nat.lt_irrefl _ inside.2, isCounter, Option.some.injEq]
    at counted
  exact u8_succ_ne counter counted.symm

/-- A counter at its maximum wraps to zero, and the free releases the blocks. -/
theorem room_of_borrow (accounts : pool.Accounts config ledger) (member : own ∈ ledger)
    {offset : Nat} (within : offset < config.blockSize)
    (neutral : BorrowIsNeutral pool ledger own (config.addressOf own.start + offset)) :
    own.owners < 255 := by
  by_contra full
  have most := accounts.owners_le own member
  have owners : own.owners = 255 := by omega
  obtain ⟨taken, freed, took, free, ⟨sameBlocks, _, _⟩, unchanged, _⟩ := neutral
  have start := accounts.start_lt member
  have positive := accounts.valid.nonempty own member
  have covered := accounts.valid.covers_start member
  have marked := accounts.live own member _ covered
  have ends : own.start + own.length ≤ config.blockNum := accounts.valid.inside own member
  have uniform : ∀ i < own.length,
      pool.blocksReferenceCounter[own.start + i]? = some own.owners := by
    intro i before
    exact accounts.counted own member _ ⟨Nat.le_add_right _ _, Nat.add_lt_add_left before _⟩
  rw [ramxTakeOwnership_eq accounts.laidOut start within marked,
    takeBlocks_spec pool own.start own.length own.owners (by rwa [accounts.countersLength]) uniform,
    owners] at took
  obtain rfl := Option.some.inj took
  rw [ramxPoolFree_eq (accounts.laidOut.recount _ _ _) start within marked,
    freeBlocks_last_spec _ own.start own.length (by rwa [accounts.blocksLength]) (by
      intro i before
      exact ⟨0, Nat.zero_le _, overwrite_get_inside _ (by rw [accounts.countersLength]; omega)
        ⟨Nat.le_add_right _ _, Nat.add_lt_add_left before _⟩⟩)] at free
  obtain rfl := Option.some.inj free
  have cleared := congrArg (fun blocks => blocks[own.start]?) unchanged
  dsimp only at cleared
  rw [overwrite_get_inside _ (by rwa [accounts.blocksLength]) ⟨Nat.le_refl _, by omega⟩, marked,
    Option.some.injEq] at cleared
  omega

end Borrow

/-- Every address in a live allocation is accepted, and in every reachable state borrowing through
it is neutral exactly if it is in the first block and the counter has room. -/
theorem borrow_is_neutral_iff {config : PoolConfig} {pool : RamxPool} {ledger : Ledger}
    (reachable : RamxReachable config pool ledger) {own : Interval} (member : own ∈ ledger)
    {ptr : Nat} (inside : ptr ∈ config.run own.start own.length) :
    ramxAddressInPool pool ptr = true ∧
      (BorrowIsNeutral pool ledger own ptr ↔
        ptr < config.addressOf (own.start + 1) ∧ own.owners < 255) := by
  have accounts := reachable.accounts
  have ends : own.start + own.length ≤ config.blockNum := accounts.valid.inside own member
  obtain ⟨block, offset, covers, within, rfl⟩ := exists_block_of_mem_run inside
  have before : block < config.blockNum := Nat.lt_of_lt_of_le covers.2 ends
  refine ⟨?_, ?_⟩
  · have last : config.blockSize * (block + 1) ≤ config.blockNum * config.blockSize := by
      rw [Nat.mul_comm config.blockNum]
      exact Nat.mul_le_mul_left _ before
    rw [Nat.mul_add, Nat.mul_one] at last
    simp only [ramxAddressInPool, accounts.base, accounts.ending, decide_eq_true_eq,
      PoolConfig.addressOf]
    omega
  · constructor
    · intro neutral
      obtain rfl := first_block_of_borrow accounts member covers within neutral
      refine ⟨?_, room_of_borrow accounts member within neutral⟩
      rw [config.addressOf_add, Nat.mul_one]
      omega
    · rintro ⟨first, room⟩
      have same : block = own.start := by
        by_contra behind
        obtain ⟨low, _⟩ := covers
        have later : config.addressOf (own.start + 1) ≤ config.addressOf block :=
          Nat.add_le_add_left (Nat.mul_le_mul_left _ (by omega)) _
        omega
      subst same
      exact borrow_of_first_block accounts member room within

def twoBlocksUsed : RamxPool := ⟨4096, 4160, 16, 4, 2, [2, 2, 0, 0], [1, 1, 0, 0]⟩

theorem twoBlocksUsed_reachable : RamxReachable fourBlocks twoBlocksUsed [⟨0, 2, 1⟩] :=
  RamxReachable.call (.allocBlocks 2) .init trivial
    (show RamxOp.perform _ _ _ = some (4096, _) by decide)

/-- Borrowing through the sixth byte of the first block. -/
theorem borrow_sixth_byte :
    ramxAddressInPool twoBlocksUsed 4101 = true ∧
      (BorrowIsNeutral twoBlocksUsed [⟨0, 2, 1⟩] ⟨0, 2, 1⟩ 4101 ↔
        4101 < fourBlocks.addressOf (0 + 1) ∧ 1 < 255) :=
  borrow_is_neutral_iff twoBlocksUsed_reachable (List.mem_cons_self ..)
    ⟨by decide, by decide⟩

/-- Borrowing through the second block counts up the free block after the allocation, and frees
that block once more. -/
theorem borrow_second_block :
    RamxReachable fourBlocks twoBlocksUsed [⟨0, 2, 1⟩] ∧ 4112 ∈ fourBlocks.run 0 2 ∧
      (ramxTakeOwnership twoBlocksUsed 4112).map RamxPool.blocksReferenceCounter =
        some [1, 2, 1, 0] ∧
      ((ramxTakeOwnership twoBlocksUsed 4112).bind fun taken =>
        (ramxPoolFree taken 4112).map RamxPool.blocksUsed) = some 1 ∧
      ¬ BorrowIsNeutral twoBlocksUsed [⟨0, 2, 1⟩] ⟨0, 2, 1⟩ 4112 := by
  refine ⟨twoBlocksUsed_reachable, ⟨by decide, by decide⟩, by decide, by decide, ?_⟩
  rintro ⟨taken, freed, took, free, _, _, used, _⟩
  obtain rfl := Option.some.inj took
  obtain rfl := Option.some.inj free
  exact absurd used (by decide)

end WchCh56x.Memory
