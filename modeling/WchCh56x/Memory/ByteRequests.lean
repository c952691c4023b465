import Mathlib.Algebra.Order.Floor.Div
import WchCh56x.Memory.BlockSearch

/-!
# Requests in bytes

Both allocators round a number of bytes up to blocks in 32 bits and keep the
low byte of the result.
-/

namespace WchCh56x.Memory

open Support.CountedLoop Support.FirstFit

def PoolConfig.blocksFor (config : PoolConfig) (numBytes : Nat) : Nat :=
  numBytes ⌈/⌉ config.blockSize

section BlocksFor

variable {config : PoolConfig} {numBytes : Nat}

theorem PoolConfig.bytes_le (config : PoolConfig) (numBytes : Nat) :
    numBytes ≤ config.blockSize * config.blocksFor numBytes :=
  le_smul_ceilDiv config.blockSize_pos

theorem PoolConfig.blocksFor_pos (config : PoolConfig) (some : 0 < numBytes) :
    0 < config.blocksFor numBytes := by
  by_contra none
  have enough := config.bytes_le numBytes
  rw [Nat.eq_zero_of_not_pos none] at enough
  omega

/-- What is left of the number of blocks when the sum wraps around. -/
theorem wrapped_div {numBytes blockSize : Nat} (bounded : numBytes < 4294967296)
    (wraps : ¬ numBytes + blockSize - 1 < 4294967296) :
    u32 (numBytes + blockSize - 1) / blockSize = 0 := by
  apply Nat.div_eq_of_lt
  unfold u32
  omega

/-- The number of blocks that both allocators compute. -/
theorem blocksNeeded_eq (bounded : numBytes < 4294967296) :
    blocksNeeded config numBytes =
      if numBytes + config.blockSize - 1 < 4294967296 then config.blocksFor numBytes % 256
      else 0 := by
  unfold blocksNeeded
  split
  next exact => rw [u32_of_lt exact, PoolConfig.blocksFor, Nat.ceilDiv_eq_add_pred_div, u8]
  next wraps => rw [wrapped_div bounded wraps, u8]

/-- Where the number of blocks fits into its byte, they are enough for the bytes asked for. -/
theorem blocksNeeded_covers (config : PoolConfig) {numBytes : Nat} (small : numBytes < 65536)
    (fits : numBytes ≤ 255 * config.blockSize)
    (some : 0 < blocksNeeded config numBytes) :
    numBytes ≤ blocksNeeded config numBytes * config.blockSize := by
  have few : config.blocksFor numBytes ≤ 255 :=
    (ceilDiv_le_iff_le_mul config.blockSize_pos).mpr (by rwa [Nat.mul_comm])
  rw [blocksNeeded_eq (by omega)] at some ⊢
  split at some
  next exact =>
    rw [if_pos exact, Nat.mod_eq_of_lt (by omega), Nat.mul_comm]
    exact config.bytes_le numBytes
  next _ => nomatch some

theorem count_le_of_fitsAt {blocks : List Nat} {count start : Nat}
    (length : blocks.length = config.blockNum) (fits : FitsAt 0 blocks count start) :
    count ≤ 255 := by
  have small := config.blockNum_le
  have inside := fits.1
  omega

end BlocksFor

/-- The answer `ret` to a request for `numBytes` bytes: a run of exactly the blocks that hold
them, free before and marked now, or `NULL` because there is no such run. -/
def Covers (config : PoolConfig) (before : List Nat) (numBytes ret : Nat) (after : List Nat) :
    Prop :=
  let needed := config.blocksFor numBytes
  (ret ≠ 0 → ∃ start, ret = config.addressOf start ∧ FitsAt 0 before needed start ∧
    after = overwrite before start needed needed ∧ numBytes ≤ config.blockSize * needed) ∧
  (0 < numBytes → ret = 0 → ∀ start, ¬ FitsAt 0 before needed start)

/-- Without wrap-around the blocks fit into their byte or the low byte of their number finds no
run; with it, no run would have been found anyway. -/
def CountsRight (config : PoolConfig) (blocks : List Nat) (numBytes : Nat) : Prop :=
  let needed := config.blocksFor numBytes
  if numBytes + config.blockSize - 1 < 4294967296 then
    needed ≤ 255 ∨ freeRun blocks (needed % 256) = none
  else
    freeRun blocks needed = none

structure SearchOutcome (config : PoolConfig) (before : List Nat) (count ret : Nat)
    (after : List Nat) : Prop where
  none : freeRun before count = none → ret = 0
  some : ∀ start, freeRun before count = some start →
    ret = config.addressOf start ∧ after = overwrite before start count count

section Outcome

variable {config : PoolConfig} {before after : List Nat} {count numBytes ret : Nat}

/-- The right number of blocks covers the bytes. -/
theorem SearchOutcome.covers
    (outcome : SearchOutcome config before (config.blocksFor numBytes) ret after) :
    Covers config before numBytes ret after := by
  refine ⟨fun nonNull => ?_, fun some null => ?_⟩
  · cases search : freeRun before (config.blocksFor numBytes) with
    | none => exact absurd (outcome.none search) nonNull
    | some start =>
        obtain ⟨address, marked⟩ := outcome.some start search
        obtain ⟨_, fits, _⟩ := freeRun_eq_some_iff.mp search
        exact ⟨start, address, fits, marked, config.bytes_le numBytes⟩
  · cases search : freeRun before (config.blocksFor numBytes) with
    | none =>
        rcases freeRun_eq_none_iff.mp search with zero | none
        · exact absurd zero (Nat.ne_of_gt (config.blocksFor_pos some))
        · exact none
    | some start =>
        obtain ⟨address, _⟩ := outcome.some start search
        exact absurd (address.symm.trans null) (config.addressOf_ne_zero start)

/-- `NULL` covers a request that no run of blocks could have served. -/
theorem covers_null (none : freeRun before (config.blocksFor numBytes) = none) :
    Covers config before numBytes 0 after := by
  refine ⟨fun nonNull => absurd rfl nonNull, fun some _ => ?_⟩
  rcases freeRun_eq_none_iff.mp none with zero | noRun
  · exact absurd zero (Nat.ne_of_gt (config.blocksFor_pos some))
  · exact noRun

/-- The request is covered exactly when the count that reached the search is the right one in
effect. -/
theorem SearchOutcome.covers_iff (length : before.length = config.blockNum)
    (bounded : numBytes < 4294967296)
    (outcome : SearchOutcome config before (blocksNeeded config numBytes) ret after) :
    Covers config before numBytes ret after ↔ CountsRight config before numBytes := by
  have computed := @blocksNeeded_eq config numBytes bounded
  unfold CountsRight
  dsimp only
  by_cases exact : numBytes + config.blockSize - 1 < 4294967296
  · rw [if_pos exact] at computed ⊢
    by_cases small : config.blocksFor numBytes ≤ 255
    · rw [computed, Nat.mod_eq_of_lt (Nat.lt_succ_of_le small)] at outcome
      exact iff_of_true outcome.covers (.inl small)
    · rw [computed] at outcome
      have tooMany : ∀ start, ¬ FitsAt 0 before (config.blocksFor numBytes) start :=
        fun start fits => small (count_le_of_fitsAt length fits)
      constructor
      · rintro ⟨run, _⟩
        cases search : freeRun before (config.blocksFor numBytes % 256) with
        | none => exact .inr rfl
        | some start =>
            obtain ⟨address, _⟩ := outcome.some start search
            obtain ⟨_, _, fits, _⟩ := run (address ▸ config.addressOf_ne_zero start)
            exact absurd fits (tooMany _)
      · rintro (few | none)
        · exact absurd few small
        · rw [outcome.none none]
          exact covers_null (freeRun_eq_none_iff.mpr (.inr tooMany))
  · rw [if_neg exact] at computed ⊢
    rw [computed] at outcome
    have null : ret = 0 := outcome.none rfl
    subst null
    constructor
    · rintro ⟨_, missing⟩
      rw [freeRun_eq_none_iff]
      by_cases some : 0 < numBytes
      · exact .inr (missing some rfl)
      · left
        rw [Nat.eq_zero_of_not_pos some, PoolConfig.blocksFor, zero_ceilDiv]
    · exact covers_null

end Outcome

theorem poolAllocBytes_eq {config : PoolConfig} {pool : RamPool} (laidOut : pool.LaidOut config)
    (numBytes : Nat) :
    poolAllocBytes config pool numBytes =
      match freeRun pool.blocks (blocksNeeded config numBytes) with
      | none => some (0, pool)
      | some start => some (config.addressOf start, pool.mark start (blocksNeeded config numBytes)) :=
  poolAllocBlocks_eq laidOut _

theorem ramxPoolAllocBytes_eq {config : PoolConfig} {pool : RamxPool}
    (laidOut : pool.LaidOut config) (numBytes : Nat) :
    ramxPoolAllocBytes config pool numBytes =
      match freeRun pool.blocks (blocksNeeded config numBytes) with
      | none => some (0, pool)
      | some start =>
          some (config.addressOf start, pool.mark start (blocksNeeded config numBytes)) := by
  have cut : u8 (blocksNeeded config numBytes) = blocksNeeded config numBytes :=
    u8_of_lt (Nat.mod_lt _ (by decide))
  have found := ramxPoolAllocBlocks_eq laidOut (blocksNeeded config numBytes)
  rwa [cut] at found

/-- The result of either allocator as an outcome of the search. -/
theorem searchOutcome_of_freeRun {Pool : Type} (config : PoolConfig) {before : List Nat}
    {count : Nat} {pool : Pool} {mark : Nat → Pool} {blocks : Pool → List Nat}
    (marked : ∀ start, blocks (mark start) = overwrite before start count count) :
    ∃ ret after, (match freeRun before count with
        | none => some (0, pool)
        | some start => some (config.addressOf start, mark start)) = some (ret, after) ∧
      SearchOutcome config before count ret (blocks after) := by
  cases search : freeRun before count with
  | none => exact ⟨0, pool, rfl, fun _ => rfl, fun start found => by simp [search] at found⟩
  | some start =>
      refine ⟨_, _, rfl, fun none => by simp [search] at none, fun other found => ?_⟩
      obtain rfl := Option.some.inj (search.symm.trans found)
      exact ⟨rfl, marked start⟩

theorem poolAllocBytes_outcome {config : PoolConfig} {pool : RamPool}
    (laidOut : pool.LaidOut config) (numBytes : Nat) :
    ∃ ret after, poolAllocBytes config pool numBytes = some (ret, after) ∧
      SearchOutcome config pool.blocks (blocksNeeded config numBytes) ret after.blocks := by
  rw [poolAllocBytes_eq laidOut]
  exact searchOutcome_of_freeRun config fun _ => rfl

theorem ramxPoolAllocBytes_outcome {config : PoolConfig} {pool : RamxPool}
    (laidOut : pool.LaidOut config) (numBytes : Nat) :
    ∃ ret after, ramxPoolAllocBytes config pool numBytes = some (ret, after) ∧
      SearchOutcome config pool.blocks (blocksNeeded config numBytes) ret after.blocks := by
  rw [ramxPoolAllocBytes_eq laidOut]
  exact searchOutcome_of_freeRun config fun _ => rfl

/-- For every request in 32 bits and whatever the blocks hold, both allocators cover the bytes
asked for exactly when the number of blocks survives its two narrowings in effect. -/
theorem alloc_bytes_covers_iff {ramConfig ramxConfig : PoolConfig} {ram : RamPool}
    {ramx : RamxPool} (ramLaidOut : ram.LaidOut ramConfig) (ramxLaidOut : ramx.LaidOut ramxConfig)
    (numBytes : U32) :
    (∃ ret after, poolAllocBytes ramConfig ram numBytes.toNat = some (ret, after) ∧
      (Covers ramConfig ram.blocks numBytes.toNat ret after.blocks ↔
        CountsRight ramConfig ram.blocks numBytes.toNat)) ∧
    ∃ ret after, ramxPoolAllocBytes ramxConfig ramx numBytes.toNat = some (ret, after) ∧
      (Covers ramxConfig ramx.blocks numBytes.toNat ret after.blocks ↔
        CountsRight ramxConfig ramx.blocks numBytes.toNat) := by
  obtain ⟨ret, after, call, outcome⟩ := poolAllocBytes_outcome ramLaidOut numBytes.toNat
  obtain ⟨ramxRet, ramxAfter, ramxCall, ramxOutcome⟩ :=
    ramxPoolAllocBytes_outcome ramxLaidOut numBytes.toNat
  exact ⟨⟨ret, after, call, outcome.covers_iff ramLaidOut.length numBytes.isLt⟩,
    ramxRet, ramxAfter, ramxCall, ramxOutcome.covers_iff ramxLaidOut.length numBytes.isLt⟩

/-- Forty bytes from two fresh pools of four blocks of sixteen bytes. -/
theorem forty_bytes_cover_iff :
    (∃ ret after, poolAllocBytes fourBlocks (poolInit fourBlocks) 40 = some (ret, after) ∧
      (Covers fourBlocks (poolInit fourBlocks).blocks 40 ret after.blocks ↔
        CountsRight fourBlocks (poolInit fourBlocks).blocks 40)) ∧
    ∃ ret after, ramxPoolAllocBytes fourBlocks (ramxPoolInit fourBlocks) 40 =
        some (ret, after) ∧
      (Covers fourBlocks (ramxPoolInit fourBlocks).blocks 40 ret after.blocks ↔
        CountsRight fourBlocks (ramxPoolInit fourBlocks).blocks 40) :=
  alloc_bytes_covers_iff (poolInit_laidOut fourBlocks) (ramxPoolInit_laidOut fourBlocks) 40

/-- A request for 4097 bytes from a pool of 64 succeeds with one block. -/
theorem large_request_gets_one_block :
    (∃ after, poolAllocBytes fourBlocks (poolInit fourBlocks) 4097 = some (4096, after) ∧
      after.blocks = [1, 0, 0, 0] ∧
      ¬ Covers fourBlocks (poolInit fourBlocks).blocks 4097 4096 after.blocks) ∧
    ∃ after, ramxPoolAllocBytes fourBlocks (ramxPoolInit fourBlocks) 4097 = some (4096, after) ∧
      after.blocks = [1, 0, 0, 0] ∧
      ¬ Covers fourBlocks (ramxPoolInit fourBlocks).blocks 4097 4096 after.blocks := by
  have uncovered (after : List Nat) : ¬ Covers fourBlocks [0, 0, 0, 0] 4097 4096 after := by
    rintro ⟨run, _⟩
    obtain ⟨start, _, fits, _⟩ := run (by decide)
    have few := @count_le_of_fitsAt fourBlocks _ _ _ rfl fits
    exact absurd few (by decide)
  exact ⟨⟨_, rfl, rfl, uncovered _⟩, _, rfl, rfl, uncovered _⟩

end WchCh56x.Memory
