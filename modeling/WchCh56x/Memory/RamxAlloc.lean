import WchCh56x.CTypes

/-!
# The block allocator of `memory/ramx_alloc.h`

Pointers are addresses and `0` is `NULL`.  The two byte arrays are checked at
every access: `none` is an index outside the array.
-/

namespace WchCh56x.Memory

/-- `POOL_BLOCK_SIZE`, `POOL_BLOCK_NUM` and the address of `ramx_pool_buf`. -/
structure PoolConfig where
  blockSize : Nat
  blockNum : Nat
  buffer : Nat
  blockSize_pos : 0 < blockSize
  blockNum_le : blockNum ≤ 255
  buffer_pos : 0 < buffer
  buffer_end : buffer + blockNum * blockSize < 4294967296

def fourBlocks : PoolConfig := ⟨16, 4, 4096, by decide, by decide, by decide, by decide⟩

/-- `pool_t` -/
structure RamxPool where
  pool : Nat
  endPool : Nat
  blockSize : Nat
  poolSize : Nat
  blocksUsed : Nat
  blocks : List Nat
  blocksReferenceCounter : List Nat
  deriving DecidableEq, Repr

/-- Store into an array. -/
def storeAt (array : List Nat) (index value : Nat) : Option (List Nat) :=
  if index < array.length then some (array.set index value) else none

def ramxPoolInit (config : PoolConfig) : RamxPool where
  pool := config.buffer
  endPool := config.buffer + config.blockNum * config.blockSize
  blockSize := config.blockSize
  poolSize := u8 config.blockNum
  blocksUsed := 0
  blocks := List.replicate config.blockNum 0
  blocksReferenceCounter := List.replicate config.blockNum 0

def ramxAddressInPool (pool : RamxPool) (ptr : Nat) : Bool :=
  ptr < pool.endPool ∧ ptr ≥ pool.pool

def ramxPoolStatsFree (pool : RamxPool) : Nat := u8 (pool.poolSize + 256 - pool.blocksUsed)

def ramxPoolStatsUsed (pool : RamxPool) : Nat := pool.blocksUsed

/-- The loop over `j` that looks at the blocks behind block `i`: the value of
`space_found` after it. -/
def searchBehind (blocks : List Nat) (i : Nat) : List Nat → Nat → Option Nat
  | [], spaceFound => some spaceFound
  | j :: rest, _ => do
      let block ← blocks[i + j]?
      if block ≠ 0 then
        return 0
      else
        searchBehind blocks i rest 1

/-- The loop over `i`: the block where `num_blocks` free blocks begin. -/
def searchSpace (blocks : List Nat) (numBlocks : Nat) : List Nat → Nat → Option (Option Nat)
  | [], _ => some none
  | i :: rest, spaceFound => do
      let block ← blocks[i]?
      if block = 0 then
        let spaceFound ← searchBehind blocks i (List.range' 1 (numBlocks - 1)) spaceFound
        if spaceFound = 1 then
          return some i
        else
          searchSpace blocks numBlocks rest spaceFound
      else
        searchSpace blocks numBlocks rest spaceFound

/-- One turn of the loop that marks the blocks of a new run. -/
def markBlock (i numBlocks : Nat) (pool : RamxPool) (j : Nat) : Option RamxPool := do
  let blocks ← storeAt pool.blocks (i + j) numBlocks
  let counters ← storeAt pool.blocksReferenceCounter (i + j) 1
  return { pool with blocks := blocks, blocksReferenceCounter := counters }

/-- `ramx_pool_alloc_blocks`: the pointer it returns and the pool. -/
def ramxPoolAllocBlocks (config : PoolConfig) (pool : RamxPool) (numBlocks : Nat) :
    Option (Nat × RamxPool) :=
  let numBlocks := u8 numBlocks
  if numBlocks = 0 then
    some (0, pool)
  else if numBlocks > config.blockNum then
    some (0, pool)
  else do
    match ← searchSpace pool.blocks numBlocks (List.range (config.blockNum - numBlocks + 1)) 1 with
    | none => return (0, pool)
    | some i =>
        let pool ← (List.range numBlocks).foldlM (markBlock i numBlocks) pool
        return (u32 (pool.pool + pool.blockSize * i),
          { pool with blocksUsed := u8 (pool.blocksUsed + numBlocks) })

/-- `blocks_needed` of `ramx_pool_alloc_bytes`. -/
def blocksNeeded (config : PoolConfig) (numBytes : Nat) : Nat :=
  u8 (u32 (numBytes + config.blockSize - 1) / config.blockSize)

def ramxPoolAllocBytes (config : PoolConfig) (pool : RamxPool) (numBytes : Nat) :
    Option (Nat × RamxPool) :=
  ramxPoolAllocBlocks config pool (blocksNeeded config numBytes)

def blockIndex (pool : RamxPool) (ptr : Nat) : Nat :=
  u8 (u32 (ptr + 4294967296 - pool.pool) / pool.blockSize)

/-- One turn of the loop of `ramx_take_ownership`. -/
def takeBlock (block : Nat) (pool : RamxPool) (i : Nat) : Option RamxPool := do
  let counter ← pool.blocksReferenceCounter[block + i]?
  let counters ← storeAt pool.blocksReferenceCounter (block + i) (u8 (counter + 1))
  return { pool with blocksReferenceCounter := counters }

def ramxTakeOwnership (pool : RamxPool) (ptr : Nat) : Option RamxPool :=
  if ptr = 0 then
    some pool
  else do
    let block := blockIndex pool ptr
    let numBlocks ← pool.blocks[block]?
    (List.range numBlocks).foldlM (takeBlock block) pool

/-- One turn of the loop of `ramx_pool_free`; the second component is `num_freed`. -/
def freeBlock (block : Nat) (state : RamxPool × Nat) (i : Nat) : Option (RamxPool × Nat) := do
  let (pool, numFreed) := state
  let counter ← pool.blocksReferenceCounter[block + i]?
  if counter ≤ 1 then
    let blocks ← storeAt pool.blocks (block + i) 0
    return ({ pool with blocks := blocks }, u8 (numFreed + 1))
  else
    let counters ← storeAt pool.blocksReferenceCounter (block + i) (u8 (counter + 255))
    return ({ pool with blocksReferenceCounter := counters }, numFreed)

def ramxPoolFree (pool : RamxPool) (ptr : Nat) : Option RamxPool :=
  if ptr = 0 then
    some pool
  else do
    let block := blockIndex pool ptr
    let numBlocks ← pool.blocks[block]?
    let (pool, numFreed) ← (List.range numBlocks).foldlM (freeBlock block) (pool, 0)
    return { pool with blocksUsed := u8 (pool.blocksUsed + 256 - numFreed) }

example : (ramxPoolAllocBlocks ⟨16, 4, 4096, by decide, by decide, by decide, by decide⟩
    (ramxPoolInit ⟨16, 4, 4096, by decide, by decide, by decide, by decide⟩) 3).map
      (fun outcome => (outcome.1, outcome.2.blocks, outcome.2.blocksReferenceCounter)) =
    some (4096, [3, 3, 3, 0], [1, 1, 1, 0]) := by decide

end WchCh56x.Memory
