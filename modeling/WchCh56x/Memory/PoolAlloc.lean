import WchCh56x.Memory.RamxAlloc

/-!
# The block allocator of `memory/alloc.c`

The allocator of `memory/ramx_alloc.h` without owners: it searches its blocks in
the same way.
-/

namespace WchCh56x.Memory

/-- `pool_t` of `memory/alloc.h`, the type of `ram_pool`. -/
structure RamPool where
  pool : Nat
  blockSize : Nat
  poolSize : Nat
  blocksUsed : Nat
  blocks : List Nat
  deriving DecidableEq, Repr

/-- `pool_init`; `config` gives `POOL_BLOCK_SIZE`, `POOL_BLOCK_NUM` and the address of `pool_buf`. -/
def poolInit (config : PoolConfig) : RamPool where
  pool := config.buffer
  blockSize := config.blockSize
  poolSize := u8 config.blockNum
  blocksUsed := 0
  blocks := List.replicate config.blockNum 0

/-- The block where `pool_alloc_blocks` finds its run. -/
def poolSearch (config : PoolConfig) (pool : RamPool) (numBlocks : Nat) : Option (Option Nat) :=
  searchSpace pool.blocks numBlocks (List.range (config.blockNum - numBlocks + 1)) 1

/-- The run from block `i` on is marked. -/
def poolMark (pool : RamPool) (i numBlocks : Nat) : Option (Nat × RamPool) := do
  let blocks ← (List.range numBlocks).foldlM (fun blocks j => storeAt blocks (i + j) numBlocks)
    pool.blocks
  return (u32 (pool.pool + pool.blockSize * i),
    { pool with blocks := blocks, blocksUsed := u8 (pool.blocksUsed + numBlocks) })

def poolAllocBlocks (config : PoolConfig) (pool : RamPool) (numBlocks : Nat) :
    Option (Nat × RamPool) :=
  let numBlocks := u8 numBlocks
  if numBlocks = 0 then
    some (0, pool)
  else if numBlocks > config.blockNum then
    some (0, pool)
  else do
    match ← poolSearch config pool numBlocks with
    | none => return (0, pool)
    | some i => poolMark pool i numBlocks

def poolAllocBytes (config : PoolConfig) (pool : RamPool) (numBytes : Nat) :
    Option (Nat × RamPool) :=
  poolAllocBlocks config pool (u32 (numBytes + config.blockSize - 1) / config.blockSize)

/-- The blocks of the allocation at `ptr` are marked as free. -/
def poolRelease (pool : RamPool) (ptr : Nat) : Option RamPool := do
  let block := u8 (u32 (ptr + 4294967296 - pool.pool) / pool.blockSize)
  let numBlocks ← pool.blocks[block]?
  let blocks ← (List.range numBlocks).foldlM (fun blocks i => storeAt blocks (block + i) 0)
    pool.blocks
  return { pool with blocks := blocks, blocksUsed := u8 (pool.blocksUsed + 256 - numBlocks) }

def poolFree (pool : RamPool) (ptr : Nat) : Option RamPool :=
  if ptr = 0 then some pool else poolRelease pool ptr

end WchCh56x.Memory
