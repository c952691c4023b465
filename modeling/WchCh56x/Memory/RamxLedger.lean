import WchCh56x.Memory.BlockSearch
import WchCh56x.Support.IntervalLedger

/-!
# The RAMX pool accounts for its live allocations

The two byte arrays of the pool are tied to a ledger of live allocations: which
runs of blocks are handed out and how many owners each run has.
-/

namespace WchCh56x.Memory

open Support Support.CountedLoop

/-- The pool is in the state that the ledger of live allocations describes. -/
structure RamxPool.Accounts (config : PoolConfig) (pool : RamxPool) (ledger : Ledger) :
    Prop where
  valid : Ledger.Valid config.blockNum ledger
  base : pool.pool = config.buffer
  ending : pool.endPool = config.buffer + config.blockNum * config.blockSize
  unit : pool.blockSize = config.blockSize
  size : pool.poolSize = config.blockNum
  blocksLength : pool.blocks.length = config.blockNum
  countersLength : pool.blocksReferenceCounter.length = config.blockNum
  live : ∀ interval ∈ ledger, ∀ index, interval.Covers index →
    pool.blocks[index]? = some interval.length
  counted : ∀ interval ∈ ledger, ∀ index, interval.Covers index →
    pool.blocksReferenceCounter[index]? = some interval.owners
  idle : ∀ index < config.blockNum, ledger.Free index → pool.blocks[index]? = some 0
  used : pool.blocksUsed = ledger.total
  owners_le : ∀ interval ∈ ledger, interval.owners ≤ 255

/-! ## The loops -/

theorem takeBlocks_spec (pool : RamxPool) (block numBlocks owners : Nat)
    (countersFit : block + numBlocks ≤ pool.blocksReferenceCounter.length)
    (uniform : ∀ i < numBlocks, pool.blocksReferenceCounter[block + i]? = some owners) :
    (List.range numBlocks).foldlM (takeBlock block) pool =
      some { pool with
        blocksReferenceCounter :=
          overwrite pool.blocksReferenceCounter block numBlocks (u8 (owners + 1)) } := by
  have loop := foldlM_range (takeBlock block)
    (fun count => { pool with
      blocksReferenceCounter :=
        overwrite pool.blocksReferenceCounter block count (u8 (owners + 1)) })
    numBlocks (by
      intro i before
      unfold takeBlock
      dsimp only
      rw [overwrite_get _ _ _ _ (by omega), if_neg (by omega), uniform i before]
      dsimp only [Option.bind_eq_bind, Option.bind_some]
      rw [storeAt_overwrite (by omega)]
      rfl)
  simpa using loop

theorem freeBlocks_last_spec (pool : RamxPool) (block numBlocks : Nat)
    (blocksFit : block + numBlocks ≤ pool.blocks.length)
    (unshared : ∀ i < numBlocks, ∃ owners ≤ 1,
      pool.blocksReferenceCounter[block + i]? = some owners) :
    (List.range numBlocks).foldlM (freeBlock block) (pool, 0) =
      some ({ pool with blocks := overwrite pool.blocks block numBlocks 0 }, u8 numBlocks) := by
  have loop := foldlM_range (freeBlock block)
    (fun count => ({ pool with blocks := overwrite pool.blocks block count 0 }, u8 count))
    numBlocks (by
      intro i before
      obtain ⟨owners, last, counted⟩ := unshared i before
      unfold freeBlock
      dsimp only
      rw [counted]
      dsimp only [Option.bind_eq_bind, Option.bind_some]
      rw [if_pos last, storeAt_overwrite (by omega)]
      simp [u8])
  simpa [u8] using loop

theorem freeBlocks_shared_spec (pool : RamxPool) (block numBlocks owners : Nat)
    (countersFit : block + numBlocks ≤ pool.blocksReferenceCounter.length)
    (several : 1 < owners)
    (uniform : ∀ i < numBlocks, pool.blocksReferenceCounter[block + i]? = some owners) :
    (List.range numBlocks).foldlM (freeBlock block) (pool, 0) =
      some ({ pool with
        blocksReferenceCounter :=
          overwrite pool.blocksReferenceCounter block numBlocks (u8 (owners + 255)) }, 0) := by
  have loop := foldlM_range (freeBlock block)
    (fun count => ({ pool with
      blocksReferenceCounter :=
        overwrite pool.blocksReferenceCounter block count (u8 (owners + 255)) }, 0))
    numBlocks (by
      intro i before
      unfold freeBlock
      dsimp only
      rw [overwrite_get _ _ _ _ (by omega), if_neg (by omega), uniform i before]
      dsimp only [Option.bind_eq_bind, Option.bind_some]
      rw [if_neg (by omega), storeAt_overwrite (by omega)]
      rfl)
  simpa using loop

/-! ## The operations -/

namespace RamxPool.Accounts

variable {config : PoolConfig} {pool : RamxPool} {ledger : Ledger}

theorem laidOut (accounts : pool.Accounts config ledger) : pool.LaidOut config :=
  ⟨accounts.base, accounts.unit, accounts.blocksLength, accounts.countersLength⟩

theorem total_lt (accounts : pool.Accounts config ledger) : ledger.total < 256 := by
  have total := accounts.valid.total_le
  have small := config.blockNum_le
  omega

theorem start_lt (accounts : pool.Accounts config ledger) {interval : Interval}
    (member : interval ∈ ledger) : interval.start < config.blockNum := by
  have positive := accounts.valid.nonempty interval member
  have inside := accounts.valid.inside interval member
  unfold Interval.finish at inside
  omega

/-- A block is free exactly when its length entry is zero. -/
theorem free_iff (accounts : pool.Accounts config ledger) {index : Nat}
    (inside : index < config.blockNum) :
    ledger.Free index ↔ pool.blocks[index]? = some 0 := by
  constructor
  · exact accounts.idle index inside
  · intro zero interval member covers
    have length := accounts.live interval member index covers
    have positive := accounts.valid.nonempty interval member
    rw [zero, Option.some.injEq] at length
    omega

theorem init (config : PoolConfig) : (ramxPoolInit config).Accounts config [] where
  valid := Ledger.Valid.nil _
  base := rfl
  ending := rfl
  unit := rfl
  size := u8_of_lt (Nat.lt_succ_of_le config.blockNum_le)
  blocksLength := by simp [ramxPoolInit]
  countersLength := by simp [ramxPoolInit]
  live := by simp
  counted := by simp
  idle := by
    intro index inside _
    simp [ramxPoolInit, inside]
  used := rfl
  owners_le := by simp

/-- The pool after an allocation that found the free run at `start`. -/
theorem grant (accounts : pool.Accounts config ledger) {start length : Nat}
    (positive : 0 < length) (inside : start + length ≤ config.blockNum)
    (free : ∀ index, start ≤ index → index < start + length → ledger.Free index) :
    RamxPool.Accounts config
      { pool with
        blocks := overwrite pool.blocks start length length
        blocksReferenceCounter := overwrite pool.blocksReferenceCounter start length 1
        blocksUsed := u8 (pool.blocksUsed + length) }
      (ledger.grant start length) := by
  have valid := accounts.valid.grant positive inside free
  have total : (ledger.grant start length).total = length + ledger.total :=
    Ledger.total_cons _ _
  -- an index that an old allocation covers is outside the new run
  have outside {interval : Interval} (member : interval ∈ ledger) {index : Nat}
      (covers : interval.Covers index) : ¬ (start ≤ index ∧ index < start + length) := by
    rintro ⟨low, high⟩
    exact free index low high interval member covers
  refine ⟨valid, accounts.base, accounts.ending, accounts.unit, accounts.size, ?_, ?_, ?_, ?_, ?_,
    ?_, ?_⟩
  · simp [accounts.blocksLength]
  · simp [accounts.countersLength]
  · refine List.forall_mem_cons.mpr ⟨?_, ?_⟩
    · rintro index ⟨low, high⟩
      dsimp only [Interval.finish] at low high
      exact overwrite_get_inside _ (by rw [accounts.blocksLength]; omega) ⟨low, high⟩
    · intro interval member index covers
      rw [overwrite_get_outside _ _ (outside member covers)]
      exact accounts.live interval member index covers
  · refine List.forall_mem_cons.mpr ⟨?_, ?_⟩
    · rintro index ⟨low, high⟩
      dsimp only [Interval.finish] at low high
      exact overwrite_get_inside _ (by rw [accounts.countersLength]; omega) ⟨low, high⟩
    · intro interval member index covers
      rw [overwrite_get_outside _ _ (outside member covers)]
      exact accounts.counted interval member index covers
  · intro index within unused
    obtain ⟨notNew, notOld⟩ := List.forall_mem_cons.mp unused
    rw [overwrite_get_outside _ _ notNew]
    exact accounts.idle index within notOld
  · have small := valid.total_le
    have bound := config.blockNum_le
    rw [total] at small ⊢
    dsimp only
    rw [accounts.used, u8_of_lt (by omega), Nat.add_comm]
  · exact List.forall_mem_cons.mpr ⟨Nat.le_add_left 1 254, accounts.owners_le⟩

/-- The pool after one more owner took the allocation at `interval`. -/
theorem share (accounts : pool.Accounts config ledger) {interval : Interval}
    (member : interval ∈ ledger) (room : interval.owners < 255) :
    RamxPool.Accounts config
      { pool with
        blocksReferenceCounter := overwrite pool.blocksReferenceCounter interval.start
          interval.length (u8 (interval.owners + 1)) }
      (ledger.share interval.start) := by
  have count : u8 (interval.owners + 1) = interval.owners + 1 := u8_of_lt (by omega)
  refine ⟨accounts.valid.share _, accounts.base, accounts.ending, accounts.unit, accounts.size,
    accounts.blocksLength, ?_, ?_, ?_, ?_, ?_, ?_⟩
  · simp [accounts.countersLength]
  · intro shared sharedMember index covers
    obtain ⟨source, sourceMember, rfl⟩ := Ledger.mem_share.mp sharedMember
    split at covers <;> split <;> exact accounts.live source sourceMember index covers
  · intro shared sharedMember index covers
    obtain ⟨source, sourceMember, rfl⟩ := Ledger.mem_share.mp sharedMember
    have sourceCovers : source.Covers index := by
      split at covers <;> exact covers
    have within := Nat.lt_of_lt_of_le sourceCovers.2 (accounts.valid.inside source sourceMember)
    by_cases here : source.start = interval.start
    · obtain rfl := accounts.valid.unique_start sourceMember member here
      rw [if_pos rfl, overwrite_get_inside _ (by rwa [accounts.countersLength]) sourceCovers,
        count]
    · rw [if_neg here, overwrite_get_outside]
      · exact accounts.counted source sourceMember index sourceCovers
      · intro inside
        exact here (congrArg Interval.start
          (accounts.valid.unique sourceMember member sourceCovers inside))
  · intro index within unused
    refine accounts.idle index within ?_
    intro source sourceMember covers
    refine unused _ (Ledger.mem_share.mpr ⟨source, sourceMember, rfl⟩) ?_
    split <;> exact covers
  · rw [Ledger.total_share]
    exact accounts.used
  · intro shared sharedMember
    obtain ⟨source, sourceMember, rfl⟩ := Ledger.mem_share.mp sharedMember
    split
    next here =>
      obtain rfl := accounts.valid.unique_start sourceMember member here
      exact room
    next => exact accounts.owners_le source sourceMember

/-- The pool after the last owner freed the allocation at `interval`. -/
theorem releaseLast (accounts : pool.Accounts config ledger) {interval : Interval}
    (member : interval ∈ ledger) (last : interval.owners = 1) :
    RamxPool.Accounts config
      { pool with
        blocks := overwrite pool.blocks interval.start interval.length 0
        blocksUsed := u8 (pool.blocksUsed + 256 - u8 interval.length) }
      (ledger.release interval.start) := by
  have total := accounts.valid.total_release_last member last
  have small := accounts.total_lt
  -- the intervals that stay are the others, unchanged
  have stays {kept : Interval} (keptMember : kept ∈ ledger.release interval.start) :
      kept ∈ ledger ∧ kept.start ≠ interval.start := by
    obtain ⟨source, sourceMember, ⟨away, rfl⟩ | ⟨here, several, rfl⟩⟩ :=
      Ledger.mem_release.mp keptMember
    · exact ⟨sourceMember, away⟩
    · obtain rfl := accounts.valid.unique_start sourceMember member here
      omega
  refine ⟨accounts.valid.release _, accounts.base, accounts.ending, accounts.unit, accounts.size,
    ?_, accounts.countersLength, ?_, ?_, ?_, ?_, ?_⟩
  · simp [accounts.blocksLength]
  · intro kept keptMember index covers
    obtain ⟨keptOld, away⟩ := stays keptMember
    rw [overwrite_get_outside]
    · exact accounts.live kept keptOld index covers
    · intro inside
      exact away (congrArg Interval.start (accounts.valid.unique keptOld member covers inside))
  · intro kept keptMember index covers
    exact accounts.counted kept (stays keptMember).1 index covers
  · intro index within unused
    by_cases inside : interval.Covers index
    · exact overwrite_get_inside _ (by rwa [accounts.blocksLength]) inside
    · rw [overwrite_get_outside _ _ inside]
      refine accounts.idle index within ?_
      intro source sourceMember covers
      by_cases here : source.start = interval.start
      · obtain rfl := accounts.valid.unique_start sourceMember member here
        exact inside covers
      · exact unused source (Ledger.mem_release.mpr ⟨source, sourceMember, .inl ⟨here, rfl⟩⟩)
          covers
  · dsimp only
    rw [accounts.used, u8_of_lt (show interval.length < 256 by omega), u8]
    omega
  · intro kept keptMember
    exact accounts.owners_le kept (stays keptMember).1

/-- The pool after one of several owners freed the allocation at `interval`. -/
theorem releaseShared (accounts : pool.Accounts config ledger) {interval : Interval}
    (member : interval ∈ ledger) (several : 1 < interval.owners) :
    RamxPool.Accounts config
      { pool with
        blocksReferenceCounter := overwrite pool.blocksReferenceCounter interval.start
          interval.length (u8 (interval.owners + 255)) }
      (ledger.release interval.start) := by
  have most := accounts.owners_le interval member
  have count : u8 (interval.owners + 255) = interval.owners - 1 := by
    unfold u8
    omega
  -- every interval that stays comes from an interval with the same blocks
  have source {kept : Interval} (keptMember : kept ∈ ledger.release interval.start) :
      ∃ old ∈ ledger, kept.start = old.start ∧ kept.length = old.length ∧
        kept.owners = if old.start = interval.start then old.owners - 1 else old.owners := by
    obtain ⟨old, oldMember, ⟨away, rfl⟩ | ⟨here, _, rfl⟩⟩ := Ledger.mem_release.mp keptMember
    · exact ⟨old, oldMember, rfl, rfl, (if_neg away).symm⟩
    · exact ⟨old, oldMember, rfl, rfl, (if_pos here).symm⟩
  have covers_old {kept old : Interval} {index : Nat} (covers : kept.Covers index)
      (start : kept.start = old.start) (length : kept.length = old.length) :
      old.Covers index := by
    unfold Interval.Covers Interval.finish at covers ⊢
    rwa [← start, ← length]
  refine ⟨accounts.valid.release _, accounts.base, accounts.ending, accounts.unit, accounts.size,
    accounts.blocksLength, ?_, ?_, ?_, ?_, ?_, ?_⟩
  · simp [accounts.countersLength]
  · intro kept keptMember index covers
    obtain ⟨old, oldMember, start, length, _⟩ := source keptMember
    rw [length]
    exact accounts.live old oldMember index (covers_old covers start length)
  · intro kept keptMember index covers
    obtain ⟨old, oldMember, start, length, owners⟩ := source keptMember
    have oldCovers := covers_old covers start length
    have within := Nat.lt_of_lt_of_le oldCovers.2 (accounts.valid.inside old oldMember)
    rw [owners]
    by_cases here : old.start = interval.start
    · obtain rfl := accounts.valid.unique_start oldMember member here
      rw [if_pos rfl, overwrite_get_inside _ (by rwa [accounts.countersLength]) oldCovers, count]
    · rw [if_neg here, overwrite_get_outside]
      · exact accounts.counted old oldMember index oldCovers
      · intro inside
        exact here (congrArg Interval.start
          (accounts.valid.unique oldMember member oldCovers inside))
  · intro index within unused
    refine accounts.idle index within ?_
    intro old oldMember covers
    by_cases here : old.start = interval.start
    · obtain rfl := accounts.valid.unique_start oldMember member here
      exact unused _ (Ledger.mem_release.mpr ⟨old, oldMember, .inr ⟨rfl, several, rfl⟩⟩) covers
    · exact unused old (Ledger.mem_release.mpr ⟨old, oldMember, .inl ⟨here, rfl⟩⟩) covers
  · rw [accounts.valid.total_release_shared member several]
    exact accounts.used
  · intro kept keptMember
    obtain ⟨old, oldMember, _, _, owners⟩ := source keptMember
    have bound := accounts.owners_le old oldMember
    rw [owners]
    split <;> omega

/-- A free that frees no block leaves the number of used blocks. -/
theorem used_unchanged (accounts : pool.Accounts config ledger) :
    u8 (pool.blocksUsed + 256 - 0) = pool.blocksUsed := by
  have small := accounts.total_lt
  rw [accounts.used, u8]
  omega

end RamxPool.Accounts

def PoolConfig.FreeRun (config : PoolConfig) (ledger : Ledger) (start length : Nat) : Prop :=
  0 < length ∧ start + length ≤ config.blockNum ∧
    ∀ index, start ≤ index → index < start + length → ledger.Free index

theorem RamxPool.Accounts.freeRun_iff {config : PoolConfig} {pool : RamxPool} {ledger : Ledger}
    (accounts : pool.Accounts config ledger) (start length : Nat) :
    config.FreeRun ledger start length ↔
      0 < length ∧ start + length ≤ config.blockNum ∧
        ∀ j < length, pool.blocks[start + j]? = some 0 := by
  unfold PoolConfig.FreeRun
  refine and_congr_right fun _ => and_congr_right fun inside => ?_
  constructor
  · intro free j before
    exact (accounts.free_iff (by omega)).mp (free _ (by omega) (by omega))
  · intro zeroes index low high
    refine (accounts.free_iff (by omega)).mpr ?_
    have zero := zeroes (index - start) (by omega)
    rwa [Nat.add_sub_cancel' low] at zero

section Operations

variable {config : PoolConfig} {pool : RamxPool} {ledger : Ledger}

/-- An allocation takes a free run, and returns `NULL` only if there is none. -/
theorem ramxPoolAllocBlocks_spec (accounts : pool.Accounts config ledger) (numBlocks : Nat) :
    ∃ ret after, ramxPoolAllocBlocks config pool numBlocks = some (ret, after) ∧
      ((ret = 0 ∧ after = pool ∧ ∀ start, ¬ config.FreeRun ledger start (u8 numBlocks)) ∨
        ∃ start, ret = config.addressOf start ∧ config.FreeRun ledger start (u8 numBlocks) ∧
          after.Accounts config (ledger.grant start (u8 numBlocks))) := by
  rw [ramxPoolAllocBlocks_eq accounts.laidOut]
  generalize u8 numBlocks = length
  cases search : freeRun pool.blocks length with
  | none =>
      refine ⟨0, pool, rfl, .inl ⟨rfl, rfl, fun start run => ?_⟩⟩
      obtain ⟨positive, inside, zeroes⟩ := (accounts.freeRun_iff start length).mp run
      rcases freeRun_eq_none_iff.mp search with zero | none
      · omega
      · exact none start ⟨by rwa [accounts.blocksLength], zeroes⟩
  | some start =>
      obtain ⟨positive, fits, _⟩ := freeRun_eq_some_iff.mp search
      have inside := fits.1
      rw [accounts.blocksLength] at inside
      have run := (accounts.freeRun_iff start length).mpr ⟨positive, inside, fits.2⟩
      exact ⟨_, _, rfl, .inr ⟨start, rfl, run, accounts.grant positive inside run.2.2⟩⟩

theorem ramxTakeOwnership_live (accounts : pool.Accounts config ledger) {interval : Interval}
    (member : interval ∈ ledger) (room : interval.owners < 255) :
    ∃ after, ramxTakeOwnership pool (config.addressOf interval.start) = some after ∧
      after.Accounts config (ledger.share interval.start) := by
  have inside := accounts.valid.inside interval member
  have marked := accounts.live interval member _ (accounts.valid.covers_start member)
  have calls := ramxTakeOwnership_eq accounts.laidOut (accounts.start_lt member) config.blockSize_pos
    marked
  refine ⟨_, calls.trans ?_, accounts.share member room⟩
  refine takeBlocks_spec pool interval.start interval.length interval.owners ?_ ?_
  · rw [accounts.countersLength]
    exact inside
  · intro i before
    exact accounts.counted interval member _
      ⟨Nat.le_add_right _ _, Nat.add_lt_add_left before _⟩

theorem ramxTakeOwnership_released (accounts : pool.Accounts config ledger) {block : Nat}
    (inside : block < config.blockNum) (free : ledger.Free block) :
    ramxTakeOwnership pool (config.addressOf block) = some pool :=
  ramxTakeOwnership_eq accounts.laidOut inside config.blockSize_pos (accounts.idle block inside free)

/-- A free by one of the owners of a live allocation. -/
theorem ramxPoolFree_live (accounts : pool.Accounts config ledger) {interval : Interval}
    (member : interval ∈ ledger) :
    ∃ after, ramxPoolFree pool (config.addressOf interval.start) = some after ∧
      after.Accounts config (ledger.release interval.start) ∧
      ∀ index, interval.Covers index →
        (after.blocks[index]? = some 0 ↔ interval.owners = 1) := by
  have inside := accounts.valid.inside interval member
  have positive := accounts.valid.nonempty interval member
  have owned := accounts.valid.owned interval member
  have uniform : ∀ i < interval.length,
      pool.blocksReferenceCounter[interval.start + i]? = some interval.owners := by
    intro i before
    exact accounts.counted interval member _
      ⟨Nat.le_add_right _ _, Nat.add_lt_add_left before _⟩
  have marked := accounts.live interval member _ (accounts.valid.covers_start member)
  have calls := ramxPoolFree_eq accounts.laidOut (accounts.start_lt member) config.blockSize_pos marked
  rw [Nat.add_zero] at calls
  rw [calls]
  by_cases last : interval.owners = 1
  · rw [freeBlocks_last_spec pool interval.start interval.length
      (by rw [accounts.blocksLength]; exact inside)
      fun i before => ⟨interval.owners, last.le, uniform i before⟩]
    refine ⟨_, rfl, accounts.releaseLast member last, ?_⟩
    intro index covers
    have within := Nat.lt_of_lt_of_le covers.2 inside
    rw [overwrite_get_inside _ (by rwa [accounts.blocksLength]) covers]
    simp [last]
  · rw [freeBlocks_shared_spec pool interval.start interval.length interval.owners
      (by rw [accounts.countersLength]; exact inside) (by omega) uniform, Option.map_some]
    dsimp only
    rw [accounts.used_unchanged]
    refine ⟨_, rfl, accounts.releaseShared member (by omega), ?_⟩
    intro index covers
    dsimp only
    rw [accounts.live interval member index covers]
    constructor
    · intro zero
      rw [Option.some.injEq] at zero
      omega
    · intro single
      exact absurd single last

theorem ramxPoolFree_released (accounts : pool.Accounts config ledger) {block : Nat}
    (inside : block < config.blockNum) (free : ledger.Free block) :
    ramxPoolFree pool (config.addressOf block) = some pool := by
  have calls := ramxPoolFree_eq accounts.laidOut inside config.blockSize_pos
    (accounts.idle block inside free)
  have kept : some { pool with blocksUsed := u8 (pool.blocksUsed + 256 - 0) } = some pool := by
    rw [accounts.used_unchanged]
  exact calls.trans kept

end Operations

/-! ## Runs of the allocator -/

inductive RamxOp where
  | allocBlocks (numBlocks : Nat)
  | takeOwnership (ptr : Nat)
  | free (ptr : Nat)
  deriving DecidableEq, Repr

namespace RamxOp

/-- One call: the pointer that it returns, if it returns one, and the pool after it. -/
def perform (config : PoolConfig) (pool : RamxPool) : RamxOp → Option (Nat × RamxPool)
  | allocBlocks numBlocks => ramxPoolAllocBlocks config pool numBlocks
  | takeOwnership ptr => (ramxTakeOwnership pool ptr).map fun after => (0, after)
  | free ptr => (ramxPoolFree pool ptr).map fun after => (0, after)

def blockOf (config : PoolConfig) (ptr : Nat) : Nat := (ptr - config.buffer) / config.blockSize

/-- The live allocations after a call that returned `ret`. -/
def record (config : PoolConfig) (ledger : Ledger) (ret : Nat) : RamxOp → Ledger
  | allocBlocks numBlocks =>
      if ret = 0 then ledger else ledger.grant (blockOf config ret) (u8 numBlocks)
  | takeOwnership ptr => if ptr = 0 then ledger else ledger.share (blockOf config ptr)
  | free ptr => if ptr = 0 then ledger else ledger.release (blockOf config ptr)

/-- The start of a block that no live allocation occupies. -/
def Released (config : PoolConfig) (ledger : Ledger) (ptr : Nat) : Prop :=
  ∃ block < config.blockNum, ptr = config.addressOf block ∧ ledger.Free block

/-- The pointers a caller may pass: `NULL`, the start of a live allocation, or the start of
an allocation that is already released. -/
def Admissible (config : PoolConfig) (ledger : Ledger) : RamxOp → Prop
  | allocBlocks _ => True
  | takeOwnership ptr =>
      ptr = 0 ∨ (∃ interval ∈ ledger, ptr = config.addressOf interval.start ∧
        interval.owners < 255) ∨ Released config ledger ptr
  | free ptr =>
      ptr = 0 ∨ (∃ interval ∈ ledger, ptr = config.addressOf interval.start) ∨
        Released config ledger ptr

theorem blockOf_addressOf (config : PoolConfig) (block : Nat) :
    blockOf config (config.addressOf block) = block := by
  unfold blockOf PoolConfig.addressOf
  rw [Nat.add_sub_cancel_left, Nat.mul_div_cancel_left _ config.blockSize_pos]

end RamxOp

inductive RamxReachable (config : PoolConfig) : RamxPool → Ledger → Prop where
  | init : RamxReachable config (ramxPoolInit config) []
  | call {pool after : RamxPool} {ledger : Ledger} {ret : Nat} (op : RamxOp) :
      RamxReachable config pool ledger → op.Admissible config ledger →
      op.perform config pool = some (ret, after) →
      RamxReachable config after (op.record config ledger ret)

section Run

variable {config : PoolConfig} {pool : RamxPool} {ledger : Ledger}

theorem Ledger.Free.absent {block bound : Nat} (valid : Ledger.Valid bound ledger)
    (free : ledger.Free block) : ∀ interval ∈ ledger, interval.start ≠ block := by
  rintro interval member rfl
  exact free interval member (valid.covers_start member)

/-- One admissible call stays inside the arrays and keeps the accounts. -/
theorem RamxOp.perform_spec (accounts : pool.Accounts config ledger) (op : RamxOp)
    (admissible : op.Admissible config ledger) :
    ∃ ret after, op.perform config pool = some (ret, after) ∧
      after.Accounts config (op.record config ledger ret) := by
  cases op with
  | allocBlocks numBlocks =>
      obtain ⟨ret, after, call, ⟨rfl, rfl, _⟩ | ⟨start, rfl, _, granted⟩⟩ :=
        ramxPoolAllocBlocks_spec accounts numBlocks
      · exact ⟨0, after, call, by simpa [record] using accounts⟩
      · refine ⟨_, after, call, ?_⟩
        rw [record, if_neg (config.addressOf_ne_zero start), blockOf_addressOf]
        exact granted
  | takeOwnership ptr =>
      rcases admissible with rfl | ⟨interval, member, rfl, room⟩ | ⟨block, inside, rfl, free⟩
      · exact ⟨0, pool, rfl, accounts⟩
      · obtain ⟨after, call, shared⟩ := ramxTakeOwnership_live accounts member room
        refine ⟨0, after, by rw [perform, call]; rfl, ?_⟩
        rw [record, if_neg (config.addressOf_ne_zero _), blockOf_addressOf]
        exact shared
      · refine ⟨0, pool, by rw [perform, ramxTakeOwnership_released accounts inside free]; rfl, ?_⟩
        rw [record, if_neg (config.addressOf_ne_zero _), blockOf_addressOf,
          Ledger.share_absent (Ledger.Free.absent accounts.valid free)]
        exact accounts
  | free ptr =>
      rcases admissible with rfl | ⟨interval, member, rfl⟩ | ⟨block, inside, rfl, free⟩
      · exact ⟨0, pool, rfl, accounts⟩
      · obtain ⟨after, call, released, _⟩ := ramxPoolFree_live accounts member
        refine ⟨0, after, by rw [perform, call]; rfl, ?_⟩
        rw [record, if_neg (config.addressOf_ne_zero _), blockOf_addressOf]
        exact released
      · refine ⟨0, pool, by rw [perform, ramxPoolFree_released accounts inside free]; rfl, ?_⟩
        rw [record, if_neg (config.addressOf_ne_zero _), blockOf_addressOf,
          Ledger.release_absent (Ledger.Free.absent accounts.valid free)]
        exact accounts

theorem RamxReachable.accounts (reachable : RamxReachable config pool ledger) :
    pool.Accounts config ledger := by
  induction reachable with
  | init => exact RamxPool.Accounts.init config
  | call op _ admissible performed ih =>
      obtain ⟨_, _, call, accounts⟩ := op.perform_spec ih admissible
      rw [performed, Option.some.injEq, Prod.mk.injEq] at call
      obtain ⟨rfl, rfl⟩ := call
      exact accounts

theorem RamxPool.Accounts.stats (accounts : pool.Accounts config ledger) :
    ramxPoolStatsFree pool + ramxPoolStatsUsed pool = config.blockNum := by
  have total := accounts.valid.total_le
  have small := config.blockNum_le
  unfold ramxPoolStatsFree ramxPoolStatsUsed
  rw [accounts.size, accounts.used, u8]
  omega

/-- After any admissible calls the live allocations are apart, the block lengths, the
reference counters and the number of used blocks are exactly theirs, no further call leaves
the arrays, and a run becomes free exactly when its last owner frees it. -/
theorem ramx_accounts_for_live_allocations (reachable : RamxReachable config pool ledger) :
    pool.Accounts config ledger ∧
      ramxPoolStatsFree pool + ramxPoolStatsUsed pool = config.blockNum ∧
      (∀ op : RamxOp, op.Admissible config ledger →
        ∃ ret after, op.perform config pool = some (ret, after)) ∧
      ∀ interval ∈ ledger, ∃ after,
        ramxPoolFree pool (config.addressOf interval.start) = some after ∧
        ∀ index, interval.Covers index →
          (after.blocks[index]? = some 0 ↔ interval.owners = 1) := by
  have accounts := reachable.accounts
  refine ⟨accounts, accounts.stats, ?_, ?_⟩
  · intro op admissible
    obtain ⟨ret, after, call, _⟩ := op.perform_spec accounts admissible
    exact ⟨ret, after, call⟩
  · intro interval member
    obtain ⟨after, call, _, exactly⟩ := ramxPoolFree_live accounts member
    exact ⟨after, call, exactly⟩

end Run

/-- Two of the four blocks allocated once and taken once more. -/
theorem ramx_accounts_for_two_owners :
    RamxPool.Accounts fourBlocks ⟨4096, 4160, 16, 4, 2, [2, 2, 0, 0], [2, 2, 0, 0]⟩ [⟨0, 2, 2⟩] ∧
      ramxPoolStatsFree ⟨4096, 4160, 16, 4, 2, [2, 2, 0, 0], [2, 2, 0, 0]⟩ +
        ramxPoolStatsUsed ⟨4096, 4160, 16, 4, 2, [2, 2, 0, 0], [2, 2, 0, 0]⟩ = 4 := by
  have allocated : RamxReachable fourBlocks
      ⟨4096, 4160, 16, 4, 2, [2, 2, 0, 0], [1, 1, 0, 0]⟩ [⟨0, 2, 1⟩] :=
    RamxReachable.call (.allocBlocks 2) .init trivial
      (show RamxOp.perform _ _ _ = some (4096, _) by decide)
  have shared : RamxReachable fourBlocks
      ⟨4096, 4160, 16, 4, 2, [2, 2, 0, 0], [2, 2, 0, 0]⟩ [⟨0, 2, 2⟩] :=
    RamxReachable.call (.takeOwnership 4096) allocated
      (.inr (.inl ⟨⟨0, 2, 1⟩, List.mem_cons_self .., rfl, by decide⟩))
      (show RamxOp.perform _ _ _ = some (0, _) by decide)
  obtain ⟨accounts, stats, _⟩ := ramx_accounts_for_live_allocations shared
  exact ⟨accounts, stats⟩

end WchCh56x.Memory
