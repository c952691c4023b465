import Mathlib.Order.Interval.Set.Basic
import WchCh56x.Memory.PoolAlloc
import WchCh56x.Memory.RamxAlloc
import WchCh56x.Support.CountedLoop
import WchCh56x.Support.FirstFit

/-!
# The search of the two block allocators

Both allocators look for the lowest run of zero bytes in `blocks`, whatever the
other bytes are, and mark exactly that run.
-/

namespace WchCh56x.Memory

open Support.CountedLoop Support.FirstFit

def PoolConfig.addressOf (config : PoolConfig) (block : Nat) : Nat :=
  config.buffer + config.blockSize * block

theorem PoolConfig.addressOf_ne_zero (config : PoolConfig) (block : Nat) :
    config.addressOf block ≠ 0 :=
  Nat.ne_of_gt (Nat.add_pos_left config.buffer_pos _)

theorem PoolConfig.addressOf_lt (config : PoolConfig) {block : Nat}
    (inside : block < config.blockNum) : config.addressOf block < 4294967296 := by
  have ending := config.buffer_end
  have offset : config.blockSize * block ≤ config.blockNum * config.blockSize := by
    rw [Nat.mul_comm config.blockNum]
    exact Nat.mul_le_mul_left _ inside.le
  unfold PoolConfig.addressOf
  omega

theorem PoolConfig.addressOf_injective (config : PoolConfig) {first second : Nat}
    (same : config.addressOf first = config.addressOf second) : first = second :=
  Nat.eq_of_mul_eq_mul_left config.blockSize_pos (Nat.add_left_cancel same)

/-- The addresses of `count` blocks from `start` on. -/
def PoolConfig.run (config : PoolConfig) (start count : Nat) : Set Nat :=
  Set.Ico (config.addressOf start) (config.addressOf (start + count))

theorem PoolConfig.addressOf_add (config : PoolConfig) (start count : Nat) :
    config.addressOf (start + count) = config.addressOf start + config.blockSize * count := by
  unfold PoolConfig.addressOf
  rw [Nat.mul_add, Nat.add_assoc]

/-- What `pool_init` and the type of `ram_pool` fix; the bytes of `blocks` are arbitrary. -/
structure RamPool.LaidOut (config : PoolConfig) (pool : RamPool) : Prop where
  base : pool.pool = config.buffer
  unit : pool.blockSize = config.blockSize
  length : pool.blocks.length = config.blockNum

/-- What `ramx_pool_init` and the type of `ramx_pool` fix. -/
structure RamxPool.LaidOut (config : PoolConfig) (pool : RamxPool) : Prop where
  base : pool.pool = config.buffer
  unit : pool.blockSize = config.blockSize
  length : pool.blocks.length = config.blockNum
  countersLength : pool.blocksReferenceCounter.length = config.blockNum

theorem poolInit_laidOut (config : PoolConfig) : (poolInit config).LaidOut config :=
  ⟨rfl, rfl, List.length_replicate ..⟩

theorem ramxPoolInit_laidOut (config : PoolConfig) : (ramxPoolInit config).LaidOut config :=
  ⟨rfl, rfl, List.length_replicate .., List.length_replicate ..⟩

section Addresses

variable {config : PoolConfig} {pool : RamxPool}

/-- The block index of any address in a block. -/
theorem RamxPool.LaidOut.blockIndex_eq (laidOut : pool.LaidOut config) {block offset : Nat}
    (inside : block < config.blockNum) (within : offset < config.blockSize) :
    blockIndex pool (config.addressOf block + offset) = block := by
  have ending := config.buffer_end
  have small := config.blockNum_le
  have last : config.blockSize * (block + 1) ≤ config.blockNum * config.blockSize := by
    rw [Nat.mul_comm config.blockNum]
    exact Nat.mul_le_mul_left _ inside
  rw [Nat.mul_add, Nat.mul_one] at last
  unfold blockIndex PoolConfig.addressOf
  rw [laidOut.base, laidOut.unit]
  have narrow : u32 (config.buffer + config.blockSize * block + offset + 4294967296 -
      config.buffer) = offset + config.blockSize * block := by
    rw [u32]
    omega
  rw [narrow, Nat.add_mul_div_left _ _ config.blockSize_pos, Nat.div_eq_of_lt within, Nat.zero_add]
  exact u8_of_lt (by omega)

theorem RamxPool.LaidOut.blockIndex_addressOf (laidOut : pool.LaidOut config) {block : Nat}
    (inside : block < config.blockNum) : blockIndex pool (config.addressOf block) = block :=
  laidOut.blockIndex_eq inside config.blockSize_pos

/-- Both operations go by the block of the address. -/
theorem ramxTakeOwnership_eq (laidOut : pool.LaidOut config) {block offset numBlocks : Nat}
    (inside : block < config.blockNum) (within : offset < config.blockSize)
    (marked : pool.blocks[block]? = some numBlocks) :
    ramxTakeOwnership pool (config.addressOf block + offset) =
      (List.range numBlocks).foldlM (takeBlock block) pool := by
  have nonNull := config.addressOf_ne_zero block
  unfold ramxTakeOwnership
  rw [if_neg (by omega)]
  dsimp only
  rw [laidOut.blockIndex_eq inside within, marked]
  rfl

theorem ramxPoolFree_eq (laidOut : pool.LaidOut config) {block offset numBlocks : Nat}
    (inside : block < config.blockNum) (within : offset < config.blockSize)
    (marked : pool.blocks[block]? = some numBlocks) :
    ramxPoolFree pool (config.addressOf block + offset) =
      ((List.range numBlocks).foldlM (freeBlock block) (pool, 0)).map fun state =>
        { state.1 with blocksUsed := u8 (state.1.blocksUsed + 256 - state.2) } := by
  have nonNull := config.addressOf_ne_zero block
  unfold ramxPoolFree
  rw [if_neg (by omega)]
  dsimp only
  rw [laidOut.blockIndex_eq inside within, marked]
  exact Option.map_eq_bind.symm

end Addresses

def RamPool.mark (pool : RamPool) (start count : Nat) : RamPool :=
  { pool with
    blocks := overwrite pool.blocks start count count
    blocksUsed := u8 (pool.blocksUsed + count) }

/-- The pool with `count` blocks from `start` on marked as one allocation of one owner. -/
def RamxPool.mark (pool : RamxPool) (start count : Nat) : RamxPool :=
  { pool with
    blocks := overwrite pool.blocks start count count
    blocksReferenceCounter := overwrite pool.blocksReferenceCounter start count 1
    blocksUsed := u8 (pool.blocksUsed + count) }

/-! ## The loops -/

theorem storeAt_overwrite {array : List Nat} {start count value : Nat}
    (inside : start + count < array.length) :
    storeAt (overwrite array start count value) (start + count) value =
      some (overwrite array start (count + 1) value) := by
  rw [storeAt, if_pos (by simpa using inside), overwrite_set_next]

/-- The loops of `alloc.c` that store one value into the blocks of a run. -/
theorem storeBlocks_spec (blocks : List Nat) (start count value : Nat)
    (fits : start + count ≤ blocks.length) :
    (List.range count).foldlM (fun blocks j => storeAt blocks (start + j) value) blocks =
      some (overwrite blocks start count value) := by
  have loop := foldlM_range (fun blocks j => storeAt blocks (start + j) value)
    (fun count => overwrite blocks start count value) count
    fun j before => storeAt_overwrite (by omega)
  simpa using loop

theorem markBlocks_spec (pool : RamxPool) (i numBlocks : Nat)
    (blocksFit : i + numBlocks ≤ pool.blocks.length)
    (countersFit : i + numBlocks ≤ pool.blocksReferenceCounter.length) :
    (List.range numBlocks).foldlM (markBlock i numBlocks) pool =
      some { pool with
        blocks := overwrite pool.blocks i numBlocks numBlocks
        blocksReferenceCounter := overwrite pool.blocksReferenceCounter i numBlocks 1 } := by
  have loop := foldlM_range (markBlock i numBlocks)
    (fun count => { pool with
      blocks := overwrite pool.blocks i count numBlocks
      blocksReferenceCounter := overwrite pool.blocksReferenceCounter i count 1 })
    numBlocks (by
      intro j before
      unfold markBlock
      dsimp only
      rw [storeAt_overwrite (by omega), storeAt_overwrite (by omega)]
      rfl)
  simpa using loop

/-- The inner search loop ends with `space_found` set exactly when it met no used block. -/
theorem searchBehind_spec (blocks : List Nat) (i : Nat) (offsets : List Nat) (spaceFound : Nat)
    (inside : ∀ j ∈ offsets, i + j < blocks.length) (started : offsets = [] → spaceFound = 1) :
    ∃ found, searchBehind blocks i offsets spaceFound = some found ∧
      (found = 1 ↔ ∀ j ∈ offsets, blocks[i + j]? = some 0) := by
  induction offsets generalizing spaceFound with
  | nil => exact ⟨spaceFound, rfl, by simp [started rfl]⟩
  | cons j rest ih =>
      obtain ⟨head, tail⟩ := List.forall_mem_cons.mp inside
      unfold searchBehind
      rw [List.getElem?_eq_getElem head]
      dsimp only [Option.bind_eq_bind, Option.bind_some]
      by_cases used : blocks[i + j] = 0
      · rw [if_neg (by simpa using used)]
        obtain ⟨found, search, exactly⟩ := ih 1 tail fun _ => rfl
        refine ⟨found, search, ?_⟩
        rw [exactly, List.forall_mem_cons, List.getElem?_eq_getElem head]
        simp [used]
      · rw [if_pos used]
        refine ⟨0, rfl, ?_⟩
        rw [List.forall_mem_cons, List.getElem?_eq_getElem head]
        simp [used]

/-- After a free first block the inner loop decides whether the candidate fits. -/
theorem searchBehind_fits {blocks : List Nat} {numBlocks i spaceFound : Nat}
    (positive : 0 < numBlocks) (inside : i + numBlocks ≤ blocks.length)
    (free : blocks[i]? = some 0) (started : numBlocks = 1 → spaceFound = 1) :
    ∃ found, searchBehind blocks i (List.range' 1 (numBlocks - 1)) spaceFound = some found ∧
      (found = 1 ↔ FitsAt 0 blocks numBlocks i) := by
  obtain ⟨found, search, exactly⟩ := searchBehind_spec blocks i (List.range' 1 (numBlocks - 1))
    spaceFound
    (by
      intro j member
      have behind := List.mem_range'_1.mp member
      omega)
    (by
      intro empty
      have none := List.range'_eq_nil_iff.mp empty
      exact started (by omega))
  refine ⟨found, search, exactly.trans ⟨?_, ?_⟩⟩
  · intro behind
    refine ⟨inside, fun j before => ?_⟩
    cases j with
    | zero => exact free
    | succ j => exact behind (j + 1) (List.mem_range'_1.mpr (by omega))
  · rintro ⟨_, zeroes⟩ j member
    have before := List.mem_range'_1.mp member
    exact zeroes j (by omega)

/-- The flag `space_found` never lets the search miss or invent a run: a single block is only
asked for with the flag still set, and for more blocks the inner loop sets it anew. -/
theorem searchSpace_eq (blocks : List Nat) {numBlocks : Nat} (positive : 0 < numBlocks)
    (candidates : List Nat) (inside : ∀ i ∈ candidates, i + numBlocks ≤ blocks.length) :
    searchSpace blocks numBlocks candidates 1 =
      some (candidates.find? fun i => FitsAt 0 blocks numBlocks i) := by
  refine @scan_eq_find? Nat (searchSpace blocks numBlocks)
    (fun i => i + numBlocks ≤ blocks.length) (FitsAt 0 blocks numBlocks) _
    (fun spaceFound => numBlocks = 1 → spaceFound = 1) (fun _ => rfl) ?_ ?_ candidates
    inside 1 fun _ => rfl
  · intro i rest spaceFound inside started fits
    have free : blocks[i]? = some 0 := fits.2 0 positive
    obtain ⟨found, search, exactly⟩ := searchBehind_fits positive inside free started
    rw [searchSpace]
    rw [free]
    dsimp only [Option.bind_eq_bind, Option.bind_some]
    rw [if_pos rfl, search]
    exact if_pos (exactly.mpr fits)
  · intro i rest spaceFound inside started blocked
    have here : i < blocks.length := by omega
    rw [searchSpace]
    rw [List.getElem?_eq_getElem here]
    dsimp only [Option.bind_eq_bind, Option.bind_some]
    by_cases free : blocks[i] = 0
    · have isFree : blocks[i]? = some 0 := by rw [List.getElem?_eq_getElem here, free]
      obtain ⟨found, search, exactly⟩ := searchBehind_fits positive inside isFree started
      refine ⟨found, ?_, ?_⟩
      · -- a single free block would have fitted
        rintro rfl
        refine absurd ⟨inside, fun j before => ?_⟩ blocked
        obtain rfl : j = 0 := by omega
        exact isFree
      · rw [if_pos free, search]
        exact if_neg (mt exactly.mp blocked)
    · exact ⟨spaceFound, started, if_neg free⟩

/-! ## The allocations -/

/-- The lowest run of `count` free blocks; there is none of no blocks. -/
def freeRun (blocks : List Nat) (count : Nat) : Option Nat :=
  if count = 0 then none else firstFit 0 blocks count

theorem freeRun_eq_some_iff {blocks : List Nat} {count start : Nat} :
    freeRun blocks count = some start ↔
      0 < count ∧ IsLeast {start | FitsAt 0 blocks count start} start := by
  unfold freeRun
  split
  next zero => simp [zero]
  next positive => simp [firstFit_eq_some_iff, Nat.pos_of_ne_zero positive]

theorem freeRun_eq_none_iff {blocks : List Nat} {count : Nat} :
    freeRun blocks count = none ↔ count = 0 ∨ ∀ start, ¬ FitsAt 0 blocks count start := by
  unfold freeRun
  split
  next zero => simp [zero]
  next positive => simp [firstFit_eq_none_iff, positive]

/-- The three ways through an allocation, as one search for a run. -/
theorem freeRun_cases {Pool : Type} {config : PoolConfig} {blocks : List Nat}
    (length : blocks.length = config.blockNum) (count : Nat) (pool : Pool)
    (found : Nat → Option (Nat × Pool)) :
    (if count = 0 then some (0, pool)
      else if count > config.blockNum then some (0, pool)
      else (searchSpace blocks count (List.range (config.blockNum - count + 1)) 1).bind fun
        | none => some (0, pool)
        | some start => found start) =
      match freeRun blocks count with
      | none => some (0, pool)
      | some start => found start := by
  by_cases zero : count = 0
  · rw [if_pos zero, freeRun, if_pos zero]
  rw [if_neg zero]
  by_cases many : count > config.blockNum
  · have none : freeRun blocks count = none := by
      refine freeRun_eq_none_iff.mpr (.inr fun start fits => ?_)
      have inside := fits.1
      omega
    rw [if_pos many, none]
  have fits := Nat.not_lt.mp many
  rw [if_neg many, searchSpace_eq blocks (Nat.pos_of_ne_zero zero) _ ?_, freeRun, if_neg zero,
    firstFit, length, show config.blockNum + 1 - count = config.blockNum - count + 1 by omega]
  · rfl
  · intro start member
    have before := List.mem_range.mp member
    omega

/-- The run that is found lies in the pool, and its address fits a pointer. -/
theorem found_inside {config : PoolConfig} {blocks : List Nat}
    (length : blocks.length = config.blockNum) {count start : Nat}
    (search : freeRun blocks count = some start) :
    start + count ≤ blocks.length ∧
      u32 (config.buffer + config.blockSize * start) = config.addressOf start := by
  obtain ⟨positive, fits, _⟩ := freeRun_eq_some_iff.mp search
  have inside := fits.1
  exact ⟨inside, u32_of_lt (config.addressOf_lt (by rw [← length]; omega))⟩

theorem poolAllocBlocks_eq {config : PoolConfig} {pool : RamPool} (laidOut : pool.LaidOut config)
    (numBlocks : Nat) :
    poolAllocBlocks config pool numBlocks =
      match freeRun pool.blocks (u8 numBlocks) with
      | none => some (0, pool)
      | some start => some (config.addressOf start, pool.mark start (u8 numBlocks)) := by
  refine (freeRun_cases laidOut.length (u8 numBlocks) pool
    fun start => poolMark pool start (u8 numBlocks)).trans ?_
  cases search : freeRun pool.blocks (u8 numBlocks) with
  | none => rfl
  | some start =>
      obtain ⟨inside, inSpace⟩ := found_inside laidOut.length search
      have address : u32 (pool.pool + pool.blockSize * start) = config.addressOf start := by
        rw [laidOut.base, laidOut.unit]
        exact inSpace
      dsimp only
      unfold poolMark
      rw [storeBlocks_spec _ _ _ _ inside]
      exact congrArg (fun ret => some (ret, _)) address

theorem ramxPoolAllocBlocks_eq {config : PoolConfig} {pool : RamxPool}
    (laidOut : pool.LaidOut config) (numBlocks : Nat) :
    ramxPoolAllocBlocks config pool numBlocks =
      match freeRun pool.blocks (u8 numBlocks) with
      | none => some (0, pool)
      | some start => some (config.addressOf start, pool.mark start (u8 numBlocks)) := by
  refine (freeRun_cases laidOut.length (u8 numBlocks) pool fun start => do
    let pool ← (List.range (u8 numBlocks)).foldlM (markBlock start (u8 numBlocks)) pool
    return (u32 (pool.pool + pool.blockSize * start),
      { pool with blocksUsed := u8 (pool.blocksUsed + u8 numBlocks) })).trans ?_
  cases search : freeRun pool.blocks (u8 numBlocks) with
  | none => rfl
  | some start =>
      obtain ⟨inside, inSpace⟩ := found_inside laidOut.length search
      have address : u32 (pool.pool + pool.blockSize * start) = config.addressOf start := by
        rw [laidOut.base, laidOut.unit]
        exact inSpace
      dsimp only
      rw [markBlocks_spec _ _ _ inside
        (by rw [laidOut.countersLength, ← laidOut.length]; exact inside)]
      exact congrArg (fun ret => some (ret, _)) address

/-- `ret` and `after` are what complete first fit gives for `count` of these blocks. -/
structure FirstFitOutcome {Pool : Type} (config : PoolConfig) (blocks : List Nat) (count : Nat)
    (before : Pool) (marked : Nat → Pool) (ret : Nat) (after : Pool) : Prop where
  null_iff : ret = 0 ↔ count = 0 ∨ ∀ start, ¬ FitsAt 0 blocks count start
  unchanged : ret = 0 → after = before
  lowest : ret ≠ 0 → ∃ start, IsLeast {start | FitsAt 0 blocks count start} start ∧
    ret = config.addressOf start ∧ after = marked start

theorem firstFitOutcome_of_freeRun {Pool : Type} (config : PoolConfig) (blocks : List Nat)
    (count : Nat) (before : Pool) (marked : Nat → Pool) :
    ∃ ret after, (match freeRun blocks count with
        | none => some (0, before)
        | some start => some (config.addressOf start, marked start)) = some (ret, after) ∧
      FirstFitOutcome config blocks count before marked ret after := by
  cases search : freeRun blocks count with
  | none =>
      have none := freeRun_eq_none_iff.mp search
      exact ⟨0, before, rfl, by simpa using none, fun _ => rfl, fun found => absurd rfl found⟩
  | some start =>
      have found : ¬ (count = 0 ∨ ∀ start, ¬ FitsAt 0 blocks count start) := by
        rw [← freeRun_eq_none_iff, search]
        exact Option.some_ne_none start
      have nonNull := config.addressOf_ne_zero start
      refine ⟨config.addressOf start, marked start, rfl, ?_, ?_, ?_⟩
      · exact iff_of_false nonNull found
      · intro null
        exact absurd null nonNull
      · intro _
        exact ⟨start, (freeRun_eq_some_iff.mp search).2, rfl, rfl⟩

/-- Whatever the blocks hold, both allocators take the lowest run of free blocks, mark it and
nothing else, and return `NULL` exactly when no blocks are asked for or no run fits. -/
theorem alloc_blocks_is_complete_first_fit {ramConfig ramxConfig : PoolConfig} {ram : RamPool}
    {ramx : RamxPool} (ramLaidOut : ram.LaidOut ramConfig) (ramxLaidOut : ramx.LaidOut ramxConfig)
    (numBlocks : Nat) :
    (∃ ret after, poolAllocBlocks ramConfig ram numBlocks = some (ret, after) ∧
      FirstFitOutcome ramConfig ram.blocks (u8 numBlocks) ram
        (fun start => ram.mark start (u8 numBlocks)) ret after) ∧
    ∃ ret after, ramxPoolAllocBlocks ramxConfig ramx numBlocks = some (ret, after) ∧
      FirstFitOutcome ramxConfig ramx.blocks (u8 numBlocks) ramx
        (fun start => ramx.mark start (u8 numBlocks)) ret after := by
  rw [poolAllocBlocks_eq ramLaidOut, ramxPoolAllocBlocks_eq ramxLaidOut]
  exact ⟨firstFitOutcome_of_freeRun _ _ _ ram fun start => ram.mark start (u8 numBlocks),
    firstFitOutcome_of_freeRun _ _ _ ramx fun start => ramx.mark start (u8 numBlocks)⟩

/-- Two blocks from pools whose second block is used. -/
theorem two_of_four_blocks_first_fit :
    (∃ ret after,
      poolAllocBlocks fourBlocks ⟨4096, 16, 4, 1, [0, 1, 0, 0]⟩ 2 = some (ret, after) ∧
      FirstFitOutcome fourBlocks [0, 1, 0, 0] 2 ⟨4096, 16, 4, 1, [0, 1, 0, 0]⟩
        (fun start => RamPool.mark ⟨4096, 16, 4, 1, [0, 1, 0, 0]⟩ start 2) ret after) ∧
    ∃ ret after, ramxPoolAllocBlocks fourBlocks
        ⟨4096, 4160, 16, 4, 1, [0, 1, 0, 0], [0, 1, 0, 0]⟩ 2 = some (ret, after) ∧
      FirstFitOutcome fourBlocks [0, 1, 0, 0] 2
        ⟨4096, 4160, 16, 4, 1, [0, 1, 0, 0], [0, 1, 0, 0]⟩
        (fun start => RamxPool.mark ⟨4096, 4160, 16, 4, 1, [0, 1, 0, 0], [0, 1, 0, 0]⟩ start 2)
        ret after :=
  alloc_blocks_is_complete_first_fit ⟨rfl, rfl, rfl⟩ ⟨rfl, rfl, rfl, rfl⟩ 2

end WchCh56x.Memory
