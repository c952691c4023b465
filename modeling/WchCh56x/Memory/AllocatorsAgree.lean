import WchCh56x.Memory.RamxLedger
import WchCh56x.Support.Runs

/-!
# The two block allocators agree

`memory/alloc.c` frees a whole run and subtracts its recorded length, and
`memory/ramx_alloc.h` frees block by block under its reference counters.  As long
as nobody takes ownership no counter passes 1, and both do the same.
-/

namespace WchCh56x.Memory

open Support.Runs Support.CountedLoop

/-- A call on both allocators; pointers are given as offsets from the pools and `none` is `NULL`. -/
inductive BlockOp where
  | allocBlocks (numBlocks : Nat)
  | allocBytes (numBytes : Nat)
  | free (offset : Option Nat)
  deriving DecidableEq, Repr

structure TwoPools where
  ram : PoolConfig
  ramx : PoolConfig
  sameNum : ramx.blockNum = ram.blockNum
  sameSize : ramx.blockSize = ram.blockSize

def pointerAt (base : Nat) : Option Nat → Nat
  | none => 0
  | some offset => base + offset

namespace BlockOp

/-- A call on the allocator of `memory/alloc.c`. -/
def onRam (config : PoolConfig) (pool : RamPool) : BlockOp → Option (Nat × RamPool)
  | allocBlocks numBlocks => poolAllocBlocks config pool numBlocks
  | allocBytes numBytes => poolAllocBytes config pool numBytes
  | free offset => (poolFree pool (pointerAt config.buffer offset)).map fun after => (0, after)

def onRamx (config : PoolConfig) (pool : RamxPool) : BlockOp → Option (Nat × RamxPool)
  | allocBlocks numBlocks => ramxPoolAllocBlocks config pool numBlocks
  | allocBytes numBytes => ramxPoolAllocBytes config pool numBytes
  | free offset => (ramxPoolFree pool (pointerAt config.buffer offset)).map fun after => (0, after)

end BlockOp

structure AllocatorPair where
  ram : RamPool
  ramx : RamxPool
  ramRet : Nat
  ramxRet : Nat
  deriving DecidableEq, Repr

namespace AllocatorPair

variable (two : TwoPools)

def start : AllocatorPair := ⟨poolInit two.ram, ramxPoolInit two.ramx, 0, 0⟩

def step (pair : AllocatorPair) (op : BlockOp) : Option AllocatorPair := do
  let (ramRet, ram) ← op.onRam two.ram pair.ram
  let (ramxRet, ramx) ← op.onRamx two.ramx pair.ramx
  return ⟨ram, ramx, ramRet, ramxRet⟩

/-- A pointer into the pool whose recorded run ends inside the pool. -/
def Admissible (pair : AllocatorPair) : BlockOp → Prop
  | .allocBlocks _ | .allocBytes _ | .free none => True
  | .free (some offset) =>
      offset < two.ram.blockNum * two.ram.blockSize ∧
        offset / two.ram.blockSize + pair.ram.blocks.getD (offset / two.ram.blockSize) 0 ≤
          two.ram.blockNum

instance (pair : AllocatorPair) : (op : BlockOp) → Decidable (pair.Admissible two op)
  | .allocBlocks _ | .allocBytes _ | .free none => inferInstanceAs (Decidable True)
  | .free (some _) => inferInstanceAs (Decidable (_ ∧ _))

def SameOffset (pair : AllocatorPair) : Prop :=
  (pair.ramRet = 0 ∧ pair.ramxRet = 0) ∨
    ∃ offset, pair.ramRet = two.ram.buffer + offset ∧ pair.ramxRet = two.ramx.buffer + offset

structure Agree (pair : AllocatorPair) : Prop where
  returned : pair.SameOffset two
  blocks : pair.ramx.blocks = pair.ram.blocks
  used : pair.ramx.blocksUsed = pair.ram.blocksUsed

end AllocatorPair

/-! ## The simulation -/

/-- The pools have the same blocks, and no block has two owners. -/
structure Simulates (two : TwoPools) (ram : RamPool) (ramx : RamxPool) : Prop where
  ramBase : ram.pool = two.ram.buffer
  ramxBase : ramx.pool = two.ramx.buffer
  ramUnit : ram.blockSize = two.ram.blockSize
  ramxUnit : ramx.blockSize = two.ramx.blockSize
  blocks : ramx.blocks = ram.blocks
  used : ramx.blocksUsed = ram.blocksUsed
  length : ram.blocks.length = two.ram.blockNum
  countersLength : ramx.blocksReferenceCounter.length = two.ram.blockNum
  small : ∀ i length : Nat, ram.blocks[i]? = some length → length < 256
  unshared : ∀ i owners : Nat, ramx.blocksReferenceCounter[i]? = some owners → owners ≤ 1

section Simulation

variable {two : TwoPools} {ram : RamPool} {ramx : RamxPool}

theorem Simulates.ramLaidOut (simulates : Simulates two ram ramx) : ram.LaidOut two.ram :=
  ⟨simulates.ramBase, simulates.ramUnit, simulates.length⟩

theorem Simulates.ramxLaidOut (simulates : Simulates two ram ramx) : ramx.LaidOut two.ramx :=
  ⟨simulates.ramxBase, simulates.ramxUnit,
    by rw [simulates.blocks, simulates.length, two.sameNum],
    by rw [simulates.countersLength, two.sameNum]⟩

theorem simulates_start (two : TwoPools) :
    Simulates two (poolInit two.ram) (ramxPoolInit two.ramx) where
  ramBase := rfl
  ramxBase := rfl
  ramUnit := rfl
  ramxUnit := rfl
  blocks := congrArg (fun count => List.replicate count 0) two.sameNum
  used := rfl
  length := List.length_replicate ..
  countersLength := (List.length_replicate ..).trans two.sameNum
  small := by
    intro i length isLength
    have zero := List.eq_of_mem_replicate (List.mem_of_getElem? isLength)
    omega
  unshared := by
    intro i owners isOwners
    have zero := List.eq_of_mem_replicate (List.mem_of_getElem? isOwners)
    omega

/-- An entry of a partly overwritten array has a property that the new and the old entries have. -/
theorem overwrite_all {property : Nat → Prop} {array : List Nat} {start count value : Nat}
    (new : property value) (old : ∀ i entry : Nat, array[i]? = some entry → property entry)
    (i entry : Nat) (isEntry : (overwrite array start count value)[i]? = some entry) :
    property entry := by
  by_cases covered : start ≤ i ∧ i < start + count
  · have inside : i < array.length := by
      have within := (List.getElem?_eq_some_iff.mp isEntry).1
      simpa using within
    rw [overwrite_get_inside _ inside covered] at isEntry
    obtain rfl := Option.some.inj isEntry
    exact new
  · rw [overwrite_get_outside _ _ covered] at isEntry
    exact old i entry isEntry

theorem Simulates.mark (simulates : Simulates two ram ramx) (start : Nat) {length : Nat}
    (small : length < 256) :
    Simulates two
      { ram with
        blocks := overwrite ram.blocks start length length
        blocksUsed := u8 (ram.blocksUsed + length) }
      { ramx with
        blocks := overwrite ramx.blocks start length length
        blocksReferenceCounter := overwrite ramx.blocksReferenceCounter start length 1
        blocksUsed := u8 (ramx.blocksUsed + length) } where
  ramBase := simulates.ramBase
  ramxBase := simulates.ramxBase
  ramUnit := simulates.ramUnit
  ramxUnit := simulates.ramxUnit
  blocks := congrArg (fun blocks => overwrite blocks start length length) simulates.blocks
  used := congrArg (fun used => u8 (used + length)) simulates.used
  length := (overwrite_length ..).trans simulates.length
  countersLength := (overwrite_length ..).trans simulates.countersLength
  small := overwrite_all small simulates.small
  unshared := overwrite_all (le_refl 1) simulates.unshared

theorem Simulates.unmark (simulates : Simulates two ram ramx) (start length : Nat) :
    Simulates two
      { ram with
        blocks := overwrite ram.blocks start length 0
        blocksUsed := u8 (ram.blocksUsed + 256 - length) }
      { ramx with
        blocks := overwrite ramx.blocks start length 0
        blocksUsed := u8 (ramx.blocksUsed + 256 - length) } where
  ramBase := simulates.ramBase
  ramxBase := simulates.ramxBase
  ramUnit := simulates.ramUnit
  ramxUnit := simulates.ramxUnit
  blocks := congrArg (fun blocks => overwrite blocks start length 0) simulates.blocks
  used := congrArg (fun used => u8 (used + 256 - length)) simulates.used
  length := (overwrite_length ..).trans simulates.length
  countersLength := simulates.countersLength
  small := overwrite_all (by decide) simulates.small
  unshared := simulates.unshared

/-! ## Allocation -/

/-- Both searches look at the same blocks. -/
theorem Simulates.alloc (simulates : Simulates two ram ramx) (numBlocks : Nat) :
    ∃ ramRet ramAfter ramxRet ramxAfter,
      poolAllocBlocks two.ram ram numBlocks = some (ramRet, ramAfter) ∧
      ramxPoolAllocBlocks two.ramx ramx numBlocks = some (ramxRet, ramxAfter) ∧
      AllocatorPair.SameOffset two ⟨ramAfter, ramxAfter, ramRet, ramxRet⟩ ∧
      Simulates two ramAfter ramxAfter := by
  rw [poolAllocBlocks_eq simulates.ramLaidOut, ramxPoolAllocBlocks_eq simulates.ramxLaidOut,
    simulates.blocks]
  have small : u8 numBlocks < 256 := Nat.mod_lt _ (by decide)
  generalize u8 numBlocks = length at small
  cases freeRun ram.blocks length with
  | none => exact ⟨0, ram, 0, ramx, rfl, rfl, .inl ⟨rfl, rfl⟩, simulates⟩
  | some start =>
      refine ⟨two.ram.addressOf start, _, two.ramx.addressOf start, _, rfl, rfl,
        .inr ⟨two.ram.blockSize * start, rfl, ?_⟩, simulates.mark start small⟩
      rw [← two.sameSize]
      rfl

/-! ## Free -/

/-- The block index that both frees compute. -/
theorem block_of_offset (config : PoolConfig) {offset : Nat}
    (inside : offset < config.blockNum * config.blockSize) :
    u8 (u32 (config.buffer + offset + 4294967296 - config.buffer) / config.blockSize) =
      offset / config.blockSize := by
  have ending := config.buffer_end
  have small := config.blockNum_le
  have wide : config.buffer + offset + 4294967296 - config.buffer = offset + 4294967296 := by omega
  have narrow : u32 (offset + 4294967296) = offset := by
    rw [u32, Nat.add_mod_right, Nat.mod_eq_of_lt (by omega)]
  have block : offset / config.blockSize < config.blockNum := Nat.div_lt_of_lt_mul (by
    rw [Nat.mul_comm]
    exact inside)
  rw [wide, narrow]
  exact u8_of_lt (by omega)

theorem Simulates.free (simulates : Simulates two ram ramx) {offset : Nat}
    (inside : offset < two.ram.blockNum * two.ram.blockSize)
    (fits : offset / two.ram.blockSize + ram.blocks.getD (offset / two.ram.blockSize) 0 ≤
      two.ram.blockNum) :
    ∃ ramAfter ramxAfter, poolFree ram (two.ram.buffer + offset) = some ramAfter ∧
      ramxPoolFree ramx (two.ramx.buffer + offset) = some ramxAfter ∧
      Simulates two ramAfter ramxAfter := by
  have ramNotNull : two.ram.buffer + offset ≠ 0 :=
    Nat.ne_of_gt (Nat.add_pos_left two.ram.buffer_pos offset)
  have ramxNotNull : two.ramx.buffer + offset ≠ 0 :=
    Nat.ne_of_gt (Nat.add_pos_left two.ramx.buffer_pos offset)
  have ramBlock : u8 (u32 (two.ram.buffer + offset + 4294967296 - ram.pool) / ram.blockSize) =
      offset / two.ram.blockSize := by
    rw [simulates.ramBase, simulates.ramUnit]
    exact block_of_offset two.ram inside
  have ramxBlock : blockIndex ramx (two.ramx.buffer + offset) = offset / two.ram.blockSize := by
    rw [blockIndex, simulates.ramxBase, simulates.ramxUnit, ← two.sameSize]
    exact block_of_offset two.ramx (by rwa [two.sameNum, two.sameSize])
  have here : offset / two.ram.blockSize < ram.blocks.length := by
    rw [simulates.length]
    exact Nat.div_lt_of_lt_mul (Nat.mul_comm _ _ ▸ inside)
  generalize offset / two.ram.blockSize = block at ramBlock ramxBlock here fits
  have recorded : ram.blocks[block]? = some ram.blocks[block] := List.getElem?_eq_getElem here
  have isLength : ram.blocks.getD block 0 = ram.blocks[block] := by
    rw [List.getD_eq_getElem?_getD, recorded]
    rfl
  have small : ram.blocks[block] < 256 := simulates.small block _ recorded
  rw [isLength] at fits
  generalize ram.blocks[block] = length at recorded fits small
  have cleared := simulates.unmark block length
  refine ⟨_, _, ?_, ?_, cleared⟩
  · unfold poolFree poolRelease
    rw [if_neg ramNotNull]
    dsimp only
    rw [ramBlock, recorded]
    dsimp only [Option.bind_eq_bind, Option.bind_some]
    rw [storeBlocks_spec _ _ _ _ (simulates.length.symm ▸ fits)]
    rfl
  · unfold ramxPoolFree
    rw [if_neg ramxNotNull]
    dsimp only
    rw [ramxBlock, simulates.blocks, recorded]
    dsimp only [Option.bind_eq_bind, Option.bind_some]
    -- without a second owner every block of the run is freed
    rw [freeBlocks_last_spec ramx block length
      (by rw [simulates.blocks, simulates.length]; exact fits) ?_]
    · dsimp only [Option.bind_some]
      rw [simulates.blocks, u8_of_lt small]
      rfl
    · intro i before
      have counter : block + i < ramx.blocksReferenceCounter.length := by
        rw [simulates.countersLength]
        omega
      have counted := List.getElem?_eq_getElem counter
      exact ⟨_, simulates.unshared _ _ counted, counted⟩

end Simulation

/-! ## Runs -/

namespace AllocatorPair

variable {two : TwoPools}

theorem step_simulates {pair : AllocatorPair} (simulates : Simulates two pair.ram pair.ramx)
    {op : BlockOp} (admissible : pair.Admissible two op) :
    ∃ next, pair.step two op = some next ∧ next.SameOffset two ∧
      Simulates two next.ram next.ramx := by
  have allocated (numBlocks : Nat) := simulates.alloc numBlocks
  cases op with
  | allocBlocks numBlocks =>
      obtain ⟨ramRet, ram, ramxRet, ramx, ramCall, ramxCall, same, after⟩ := allocated numBlocks
      refine ⟨⟨ram, ramx, ramRet, ramxRet⟩, ?_, same, after⟩
      rw [step, BlockOp.onRam, ramCall, BlockOp.onRamx, ramxCall]
      rfl
  | allocBytes numBytes =>
      obtain ⟨ramRet, ram, ramxRet, ramx, ramCall, ramxCall, same, after⟩ :=
        allocated (u32 (numBytes + two.ram.blockSize - 1) / two.ram.blockSize)
      -- `ramx_pool_alloc_bytes` cuts the number of blocks to a byte before the call
      have cut (count : Nat) :
          ramxPoolAllocBlocks two.ramx pair.ramx (u8 count) =
            ramxPoolAllocBlocks two.ramx pair.ramx count := by
        unfold ramxPoolAllocBlocks
        rw [u8_of_lt (show u8 count < 256 from Nat.mod_lt _ (by decide))]
      refine ⟨⟨ram, ramx, ramRet, ramxRet⟩, ?_, same, after⟩
      rw [step, BlockOp.onRam, poolAllocBytes, ramCall, BlockOp.onRamx, ramxPoolAllocBytes,
        blocksNeeded, cut, two.sameSize, ramxCall]
      rfl
  | free pointer =>
      cases pointer with
      | none => exact ⟨⟨pair.ram, pair.ramx, 0, 0⟩, rfl, .inl ⟨rfl, rfl⟩, simulates⟩
      | some offset =>
          obtain ⟨ram, ramx, ramCall, ramxCall, after⟩ :=
            simulates.free admissible.1 admissible.2
          refine ⟨⟨ram, ramx, 0, 0⟩, ?_, .inl ⟨rfl, rfl⟩, after⟩
          rw [step, BlockOp.onRam, pointerAt, ramCall, BlockOp.onRamx, pointerAt, ramxCall]
          rfl

/-- Over every run of the same calls both allocators return the same offsets and keep the same
blocks and the same number of used blocks, whatever pointers into the pool are freed. -/
theorem allocators_agree (two : TwoPools) {ops : List BlockOp}
    (every : EveryStep (step two) (Admissible two) (start two) ops) :
    Always (step two) (Agree two) (start two) ops := by
  have run := @always_of_everyStep _ _ (step two)
    (fun pair => pair.SameOffset two ∧ Simulates two pair.ram pair.ramx) (Admissible two)
    (fun _ _ holds admissible => step_simulates holds.2 admissible) (start two) ops
    ⟨.inl ⟨rfl, rfl⟩, simulates_start two⟩ every
  exact run.imp fun pair holds => ⟨holds.1, holds.2.blocks, holds.2.used⟩

def fourBlockPools : TwoPools where
  ram := fourBlocks
  ramx := ⟨16, 4, 8192, fourBlocks.blockSize_pos, fourBlocks.blockNum_le, by decide, by decide⟩
  sameNum := rfl
  sameSize := rfl

/-- A run with a free inside an allocation and a second free of its start. -/
theorem four_block_pools_agree :
    Always (step fourBlockPools) (Agree fourBlockPools) (start fourBlockPools)
      [.allocBlocks 2, .allocBytes 17, .free (some 20), .free (some 0), .free none,
        .allocBytes 40] :=
  allocators_agree fourBlockPools (by decide)

end AllocatorPair

end WchCh56x.Memory
