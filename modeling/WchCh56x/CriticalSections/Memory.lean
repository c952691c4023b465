import WchCh56x.Memory.Fifo
import WchCh56x.Memory.Pool
import WchCh56x.Memory.PoolAlloc
import WchCh56x.Support.CriticalSection

/-!
# The critical sections of the memory functions

The functions of `memory/` with their `ENTER_CRITICAL` and `EXIT_CRITICAL`, each
with every return it has.  Without the sections they compute what the functions
without them compute.
-/

namespace WchCh56x.CriticalSections

open Support Guarded

variable {State Result : Type}

def inSection (compute : State → Option (Result × State)) : Guarded State Result := do
  enter
  let result ← lift compute
  exit
  return result

theorem inSection_balanced (compute : State → Option (Result × State)) :
    Balanced (inSection compute) :=
  Balanced.section (Closing.after (.lift compute) fun result => .return result)

theorem inSection_computes (compute : State → Option (Result × State)) :
    Computes (inSection compute) compute := by
  intro critical state
  cases outcome : compute state <;> simp [inSection, outcome]

/-- A message to the log, if there is one: the log functions enter and leave a section. -/
def logIf (logs : Bool) : Guarded State Unit := if logs then inSection fun state => some ((), state) else pure ()

theorem logIf_balanced (logs : Bool) : Balanced (logIf logs : Guarded State Unit) := by
  cases logs with
  | false => exact Balanced.pure ()
  | true => exact inSection_balanced _

/-! ## `memory/fifo.h` -/

section Fifo

open Memory (HydraFifo)

def fifoReadN (n : Nat) : Guarded HydraFifo (Nat × List U8) :=
  inSection fun fifo => (Memory.fifoReadN fifo n).map fun (countRead, bytes, fifo) =>
    ((countRead, bytes), fifo)

def fifoRead : Guarded HydraFifo (Nat × List U8) :=
  inSection fun fifo => (Memory.fifoRead fifo).map fun (countRead, bytes, fifo) =>
    ((countRead, bytes), fifo)

def fifoPeekN (n : Nat) : Guarded HydraFifo (Nat × List U8) :=
  inSection fun fifo => (Memory.fifoPeekN fifo n).map fun outcome => (outcome, fifo)

def fifoWrite (source : List U8) (n : Nat) : Guarded HydraFifo Nat :=
  inSection fun fifo => Memory.fifoWrite fifo source n

def fifoClean : Guarded HydraFifo Unit :=
  inSection fun fifo => (Memory.fifoClean fifo).map fun fifo => ((), fifo)

end Fifo

/-! ## `memory/pool.h` -/

section HydraPool

open Memory (HydraPool searchMember)

def hydraPoolGet (logs : Bool) : Guarded HydraPool Nat := do
  enter
  match ← lift fun pool =>
      (searchMember pool.poolManager (List.range pool.size)).map fun found => (found, pool) with
  | some i => do
      let ret ← lift fun pool =>
        some (u32 (pool.poolMembers + i * pool.typeSize),
          { pool with poolManager := pool.poolManager.set i true })
      exit
      return ret
  | none => do
      logIf logs
      exit
      return 0

def hydraPoolFree (ptr : Nat) : Guarded HydraPool Unit := do
  let i ← lift fun pool =>
    some (u16 (u32 (ptr + 4294967296 - pool.poolMembers) / pool.typeSize), pool)
  enter
  let inUse ← lift fun pool =>
    if i ≥ pool.size then some (false, pool)
    else pool.poolManager[i]?.map fun inUse => (inUse, pool)
  if inUse = false then do
    exit
    return ()
  else do
    lift fun pool => some ((), { pool with poolManager := pool.poolManager.set i false })
    exit
    return ()

def hydraPoolClean : Guarded HydraPool Unit :=
  inSection fun pool => some ((), Memory.hydraPoolClean pool)

theorem hydraPoolGet_balanced (logs : Bool) : Balanced (hydraPoolGet logs) := by
  refine .section (.after (.lift _) fun found => ?_)
  cases found with
  | some i => exact .after (.lift _) fun ret => .return ret
  | none => exact .after (logIf_balanced logs) fun _ => .return 0

theorem hydraPoolFree_balanced (ptr : Nat) : Balanced (hydraPoolFree ptr) := by
  refine .bind (.lift _) fun i => .section (.after (.lift _) fun inUse => ?_)
  exact ends_ite (Closing.return ()) (Closing.after (.lift _) fun _ => .return ())

theorem hydraPoolGet_computes (logs : Bool) :
    Computes (hydraPoolGet logs) Memory.hydraPoolGet := by
  intro critical pool
  unfold Memory.hydraPoolGet
  cases search : searchMember pool.poolManager (List.range pool.size) with
  | none => simp [hydraPoolGet, search]
  | some found =>
      cases found with
      | none => cases logs <;> simp [hydraPoolGet, search, logIf, inSection]
      | some i => simp [hydraPoolGet, search]

theorem hydraPoolFree_computes (ptr : Nat) :
    Computes (hydraPoolFree ptr) fun pool =>
      (Memory.hydraPoolFree pool ptr).map fun pool => ((), pool) := by
  intro critical pool
  unfold Memory.hydraPoolFree
  dsimp only
  split
  · rename_i outside
    simp [hydraPoolFree, outside]
  · rename_i inside
    cases used : pool.poolManager[u16 (u32 (ptr + 4294967296 - pool.poolMembers) / pool.typeSize)]? with
    | none => simp [hydraPoolFree, inside, used]
    | some inUse => cases inUse <;> simp [hydraPoolFree, inside, used]

end HydraPool

/-! ## `memory/ramx_alloc.h` -/

section RamxPool

open Memory (PoolConfig RamxPool searchSpace markBlock)

variable (config : PoolConfig) (logs : Bool)

def ramxPoolAllocBlocks (numBlocks : Nat) : Guarded RamxPool Nat := do
  enter
  if u8 numBlocks = 0 then do
    exit
    return 0
  else if u8 numBlocks > config.blockNum then do
    exit
    return 0
  else do
    match ← lift fun pool => (searchSpace pool.blocks (u8 numBlocks)
        (List.range (config.blockNum - u8 numBlocks + 1)) 1).map fun found => (found, pool) with
    | some i => do
        let ret ← lift fun pool => ((List.range (u8 numBlocks)).foldlM
          (markBlock i (u8 numBlocks)) pool).map fun pool =>
            (u32 (pool.pool + pool.blockSize * i),
              { pool with blocksUsed := u8 (pool.blocksUsed + u8 numBlocks) })
        exit
        return ret
    | none => do
        exit
        return 0

def ramxPoolAllocBytes (numBytes : Nat) : Guarded RamxPool Nat := do
  logIf logs
  ramxPoolAllocBlocks config (Memory.blocksNeeded config numBytes)

def ramxTakeOwnership (ptr : Nat) : Guarded RamxPool Unit := do
  enter
  logIf logs
  if ptr = 0 then do
    exit
    return ()
  else do
    lift fun pool => (Memory.ramxTakeOwnership pool ptr).map fun pool => ((), pool)
    exit
    return ()

def ramxPoolFree (ptr : Nat) : Guarded RamxPool Unit := do
  enter
  logIf logs
  if ptr = 0 then do
    exit
    return ()
  else do
    lift fun pool => (Memory.ramxPoolFree pool ptr).map fun pool => ((), pool)
    exit
    return ()

theorem ramxPoolAllocBlocks_balanced (numBlocks : Nat) :
    Balanced (ramxPoolAllocBlocks config numBlocks) := by
  refine .section (ends_ite (Closing.return 0) (ends_ite (Closing.return 0) ?_))
  refine Closing.after (.lift _) fun found => ?_
  cases found with
  | some i => exact .after (.lift _) fun ret => .return ret
  | none => exact .return 0

theorem ramxPoolAllocBytes_balanced (numBytes : Nat) :
    Balanced (ramxPoolAllocBytes config logs numBytes) :=
  Balanced.bind (logIf_balanced logs) fun _ => ramxPoolAllocBlocks_balanced config _

theorem ramxTakeOwnership_balanced (ptr : Nat) : Balanced (ramxTakeOwnership logs ptr) :=
  Balanced.section (Closing.after (logIf_balanced logs) fun _ =>
    ends_ite (Closing.return ()) (Closing.after (.lift _) fun _ => .return ()))

theorem ramxPoolFree_balanced (ptr : Nat) : Balanced (ramxPoolFree logs ptr) :=
  Balanced.section (Closing.after (logIf_balanced logs) fun _ =>
    ends_ite (Closing.return ()) (Closing.after (.lift _) fun _ => .return ()))

theorem ramxPoolAllocBlocks_computes (numBlocks : Nat) :
    Computes (ramxPoolAllocBlocks config numBlocks) fun pool =>
      Memory.ramxPoolAllocBlocks config pool numBlocks := by
  intro critical pool
  unfold Memory.ramxPoolAllocBlocks
  dsimp only
  split
  · rename_i none
    simp [ramxPoolAllocBlocks, none]
  split
  · rename_i some tooMany
    simp [ramxPoolAllocBlocks, some, tooMany]
  rename_i some fits
  cases search : searchSpace pool.blocks (u8 numBlocks)
      (List.range (config.blockNum - u8 numBlocks + 1)) 1 with
  | none => simp [ramxPoolAllocBlocks, some, fits, search]
  | some found =>
      cases found with
      | none => simp [ramxPoolAllocBlocks, some, fits, search]
      | some i =>
          cases marked : (List.range (u8 numBlocks)).foldlM (markBlock i (u8 numBlocks)) pool
          all_goals simp [ramxPoolAllocBlocks, some, fits, search, marked]

theorem ramxPoolAllocBytes_computes (numBytes : Nat) :
    Computes (ramxPoolAllocBytes config logs numBytes) fun pool =>
      Memory.ramxPoolAllocBytes config pool numBytes := by
  intro critical pool
  cases logs with
  | false => exact ramxPoolAllocBlocks_computes config _ critical pool
  | true => exact ramxPoolAllocBlocks_computes config _ critical.enter.exit pool

theorem ramxTakeOwnership_computes (ptr : Nat) :
    Computes (ramxTakeOwnership logs ptr) fun pool =>
      (Memory.ramxTakeOwnership pool ptr).map fun pool => ((), pool) := by
  intro critical pool
  by_cases null : ptr = 0
  · subst null
    cases logs <;> simp [ramxTakeOwnership, Memory.ramxTakeOwnership, logIf, inSection]
  · cases taken : Memory.ramxTakeOwnership pool ptr
    all_goals cases logs <;> simp [ramxTakeOwnership, null, taken, logIf, inSection]

theorem ramxPoolFree_computes (ptr : Nat) :
    Computes (ramxPoolFree logs ptr) fun pool =>
      (Memory.ramxPoolFree pool ptr).map fun pool => ((), pool) := by
  intro critical pool
  by_cases null : ptr = 0
  · subst null
    cases logs <;> simp [ramxPoolFree, Memory.ramxPoolFree, logIf, inSection]
  · cases freed : Memory.ramxPoolFree pool ptr
    all_goals cases logs <;> simp [ramxPoolFree, null, freed, logIf, inSection]

end RamxPool

/-! ## `memory/alloc.c` -/

section RamPool

open Memory (PoolConfig RamPool poolSearch poolMark poolRelease)

variable (config : PoolConfig)

def poolInit : Guarded RamPool Unit := inSection fun _ => some ((), Memory.poolInit config)

def poolAllocBlocks (numBlocks : Nat) : Guarded RamPool Nat := do
  enter
  if u8 numBlocks = 0 then do
    exit
    return 0
  else if u8 numBlocks > config.blockNum then do
    exit
    return 0
  else do
    match ← lift fun pool =>
        (poolSearch config pool (u8 numBlocks)).map fun found => (found, pool) with
    | some i => do
        let ret ← lift fun pool => poolMark pool i (u8 numBlocks)
        exit
        return ret
    | none => do
        exit
        return 0

def poolAllocBytes (numBytes : Nat) : Guarded RamPool Nat :=
  poolAllocBlocks config (u32 (numBytes + config.blockSize - 1) / config.blockSize)

def poolFree (ptr : Nat) : Guarded RamPool Unit := do
  enter
  if ptr = 0 then do
    exit
    return ()
  else do
    lift fun pool => (poolRelease pool ptr).map fun pool => ((), pool)
    exit
    return ()

theorem poolAllocBlocks_balanced (numBlocks : Nat) :
    Balanced (poolAllocBlocks config numBlocks) := by
  refine .section (ends_ite (Closing.return 0) (ends_ite (Closing.return 0) ?_))
  refine Closing.after (.lift _) fun found => ?_
  cases found with
  | some i => exact .after (.lift _) fun ret => .return ret
  | none => exact .return 0

theorem poolFree_balanced (ptr : Nat) : Balanced (poolFree ptr) :=
  Balanced.section (ends_ite (Closing.return ()) (Closing.after (.lift _) fun _ => .return ()))

theorem poolAllocBlocks_computes (numBlocks : Nat) :
    Computes (poolAllocBlocks config numBlocks) fun pool =>
      Memory.poolAllocBlocks config pool numBlocks := by
  intro critical pool
  unfold Memory.poolAllocBlocks
  dsimp only
  split
  · rename_i none
    simp [poolAllocBlocks, none]
  split
  · rename_i some tooMany
    simp [poolAllocBlocks, some, tooMany]
  rename_i some fits
  cases search : poolSearch config pool (u8 numBlocks) with
  | none => simp [poolAllocBlocks, some, fits, search]
  | some found =>
      cases found with
      | none => simp [poolAllocBlocks, some, fits, search]
      | some i =>
          cases marked : poolMark pool i (u8 numBlocks)
          all_goals simp [poolAllocBlocks, some, fits, search, marked]

theorem poolFree_computes (ptr : Nat) :
    Computes (poolFree ptr) fun pool => (Memory.poolFree pool ptr).map fun pool => ((), pool) := by
  intro critical pool
  unfold Memory.poolFree
  by_cases null : ptr = 0
  · simp [poolFree, null]
  · cases released : poolRelease pool ptr <;> simp [poolFree, null, released]

end RamPool

end WchCh56x.CriticalSections
