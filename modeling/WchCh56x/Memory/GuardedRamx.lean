import WchCh56x.Memory.RamxLedger
import WchCh56x.Support.Preemption

/-!
# The RAMX pool with its critical sections

The main program and interrupt handlers of any depth allocate runs of blocks, take
ownership of them and free them.  Each call goes on one turn of its loops at a time,
and interrupts come wherever they are enabled.
-/

namespace WchCh56x.Memory

open Support Support.Preemption

/-- A call between two of its steps, with the variables of the loop it is in. -/
inductive RamxFrame where
  | allocBlocks (numBlocks : Nat)
  | search (numBlocks i spaceFound : Nat)
  | behind (numBlocks i j spaceFound : Nat)
  | mark (numBlocks i j : Nat)
  | takeOwnership (ptr : Nat)
  | take (blockIndex numBlocks i : Nat)
  | free (ptr : Nat)
  | release (blockIndex numBlocks i numFreed : Nat)

namespace RamxFrame

def start : RamxOp → RamxFrame
  | .allocBlocks numBlocks => .allocBlocks numBlocks
  | .takeOwnership ptr => .takeOwnership ptr
  | .free ptr => .free ptr

variable (config : PoolConfig)

/-- The next step of a call; only `ramx_pool_alloc_blocks` has a result. -/
def advance (pool : RamxPool) : RamxFrame → Option (RamxPool × (RamxFrame ⊕ Nat))
  | .allocBlocks numBlocks =>
      let numBlocks := u8 numBlocks
      some (pool,
        if numBlocks = 0 then .inr 0
        else if numBlocks > config.blockNum then .inr 0
        else .inl (.search numBlocks 0 1))
  | .search numBlocks i spaceFound =>
      if i ≤ config.blockNum - numBlocks then do
        let block ← pool.blocks[i]?
        return (pool, .inl
          (if block = 0 then .behind numBlocks i 1 spaceFound
            else .search numBlocks (i + 1) spaceFound))
      else
        some (pool, .inr 0)
  | .behind numBlocks i j spaceFound =>
      if j < numBlocks then do
        let block ← pool.blocks[i + j]?
        return (pool, .inl
          (if block ≠ 0 then .search numBlocks (i + 1) 0 else .behind numBlocks i (j + 1) 1))
      else
        some (pool, .inl
          (if spaceFound = 1 then .mark numBlocks i 0 else .search numBlocks (i + 1) spaceFound))
  | .mark numBlocks i j =>
      if j < numBlocks then do
        let pool ← markBlock i numBlocks pool j
        return (pool, .inl (.mark numBlocks i (j + 1)))
      else
        some ({ pool with blocksUsed := u8 (pool.blocksUsed + numBlocks) },
          .inr (u32 (pool.pool + pool.blockSize * i)))
  | .takeOwnership ptr =>
      if ptr = 0 then
        some (pool, .inr 0)
      else do
        let numBlocks ← pool.blocks[blockIndex pool ptr]?
        return (pool, .inl (.take (blockIndex pool ptr) numBlocks 0))
  | .take block numBlocks i =>
      if i < numBlocks then do
        let pool ← takeBlock block pool i
        return (pool, .inl (.take block numBlocks (i + 1)))
      else
        some (pool, .inr 0)
  | .free ptr =>
      if ptr = 0 then
        some (pool, .inr 0)
      else do
        let numBlocks ← pool.blocks[blockIndex pool ptr]?
        return (pool, .inl (.release (blockIndex pool ptr) numBlocks 0 0))
  | .release block numBlocks i numFreed =>
      if i < numBlocks then do
        let (pool, numFreed) ← freeBlock block (pool, numFreed) i
        return (pool, .inl (.release block numBlocks (i + 1) numFreed))
      else
        some ({ pool with blocksUsed := u8 (pool.blocksUsed + 256 - numFreed) }, .inr 0)

def machine : Machine RamxPool RamxOp RamxFrame Nat := ⟨start, advance config⟩

/-! ## What a call still does -/

def restMark (pool : RamxPool) (numBlocks i j : Nat) : Option (Nat × RamxPool) := do
  let pool ← (List.range' j (numBlocks - j)).foldlM (markBlock i numBlocks) pool
  return (u32 (pool.pool + pool.blockSize * i),
    { pool with blocksUsed := u8 (pool.blocksUsed + numBlocks) })

def restSearch (pool : RamxPool) (numBlocks i spaceFound : Nat) : Option (Nat × RamxPool) := do
  match ← searchSpace pool.blocks numBlocks
      (List.range' i (config.blockNum - numBlocks + 1 - i)) spaceFound with
  | none => return (0, pool)
  | some i => restMark pool numBlocks i 0

/-- The rest of an uninterrupted call. -/
def rest (pool : RamxPool) : RamxFrame → Option (Nat × RamxPool)
  | .allocBlocks numBlocks => ramxPoolAllocBlocks config pool numBlocks
  | .search numBlocks i spaceFound => restSearch config pool numBlocks i spaceFound
  | .behind numBlocks i j spaceFound => do
      let spaceFound ←
        searchBehind pool.blocks i (List.range' j (numBlocks - j)) spaceFound
      if spaceFound = 1 then
        restMark pool numBlocks i 0
      else
        restSearch config pool numBlocks (i + 1) spaceFound
  | .mark numBlocks i j => restMark pool numBlocks i j
  | .takeOwnership ptr => (ramxTakeOwnership pool ptr).map fun after => (0, after)
  | .take block numBlocks i =>
      ((List.range' i (numBlocks - i)).foldlM (takeBlock block) pool).map fun after => (0, after)
  | .free ptr => (ramxPoolFree pool ptr).map fun after => (0, after)
  | .release block numBlocks i numFreed => do
      let (pool, numFreed) ←
        (List.range' i (numBlocks - i)).foldlM (freeBlock block) (pool, numFreed)
      return (0, { pool with blocksUsed := u8 (pool.blocksUsed + 256 - numFreed) })

theorem range'_of_lt {i count : Nat} (inside : i < count) :
    List.range' i (count - i) = i :: List.range' (i + 1) (count - (i + 1)) := by
  have more : count - i = count - (i + 1) + 1 := by omega
  rw [more, List.range'_succ]

theorem range'_of_ge {i count : Nat} (outside : count ≤ i) : List.range' i (count - i) = [] := by
  rw [Nat.sub_eq_zero_of_le outside]
  rfl

theorem restMark_of_lt {pool : RamxPool} {numBlocks i j : Nat} (inside : j < numBlocks) :
    restMark pool numBlocks i j =
      (markBlock i numBlocks pool j).bind fun pool => restMark pool numBlocks i (j + 1) := by
  unfold restMark
  rw [range'_of_lt inside, List.foldlM_cons, Option.bind_eq_bind, Option.bind_eq_bind,
    Option.bind_assoc]

/-- A step and the rest of the call after it are the rest of the call. -/
def Unfolds (frame : RamxFrame) : Prop :=
  ∀ pool, rest config pool frame = (advance config pool frame).bind fun outcome =>
    outcome.2.elim (rest config outcome.1) fun ret => some (ret, outcome.1)

theorem unfolds_allocBlocks (numBlocks : Nat) : Unfolds config (.allocBlocks numBlocks) := by
  intro pool
  rw [rest, advance, ramxPoolAllocBlocks]
  split
  · rfl
  · split
    · rfl
    · simp only [List.range_eq_range']
      rfl

theorem unfolds_search (numBlocks i spaceFound : Nat) :
    Unfolds config (.search numBlocks i spaceFound) := by
  intro pool
  rw [rest, advance]
  unfold restSearch
  split
  · next inside =>
      rw [range'_of_lt (Nat.lt_succ_of_le inside), searchSpace]
      cases loaded : pool.blocks[i]? with
      | none => rfl
      | some block =>
          by_cases free : block = 0
          · subst free
            simp only [Option.bind_eq_bind, Option.bind_some, if_true]
            change _ = rest config pool (.behind numBlocks i 1 spaceFound)
            rw [rest]
            cases searchBehind pool.blocks i (List.range' 1 (numBlocks - 1)) spaceFound with
            | none => rfl
            | some found =>
                by_cases fits : found = 1
                · subst fits
                  rfl
                · simp only [Option.bind_eq_bind, Option.bind_some, if_neg fits]
                  rfl
          · simp only [Option.bind_eq_bind, Option.bind_some, if_neg free]
            rfl
  · next outside =>
      rw [range'_of_ge (by omega)]
      rfl

theorem unfolds_behind (numBlocks i j spaceFound : Nat) :
    Unfolds config (.behind numBlocks i j spaceFound) := by
  intro pool
  rw [rest, advance]
  split
  · next inside =>
      rw [range'_of_lt inside, searchBehind]
      cases pool.blocks[i + j]? with
      | none => rfl
      | some block =>
          by_cases used : block ≠ 0
          · simp only [Option.bind_eq_bind, Option.bind_some, if_pos used]
            rfl
          · simp only [Option.bind_eq_bind, Option.bind_some, if_neg used]
            rfl
  · next outside =>
      rw [range'_of_ge (Nat.le_of_not_lt outside), searchBehind]
      by_cases found : spaceFound = 1
      · simp only [Option.bind_eq_bind, Option.bind_some, if_pos found]
        rfl
      · simp only [Option.bind_eq_bind, Option.bind_some, if_neg found]
        rfl

theorem unfolds_mark (numBlocks i j : Nat) : Unfolds config (.mark numBlocks i j) := by
  intro pool
  rw [rest, advance]
  split
  · next inside =>
      rw [restMark_of_lt inside]
      cases markBlock i numBlocks pool j with
      | none => rfl
      | some marked => rfl
  · next outside =>
      unfold restMark
      rw [range'_of_ge (Nat.le_of_not_lt outside)]
      rfl

theorem unfolds_takeOwnership (ptr : Nat) : Unfolds config (.takeOwnership ptr) := by
  intro pool
  rw [rest, advance, ramxTakeOwnership]
  split
  · rfl
  · dsimp only
    cases pool.blocks[blockIndex pool ptr]? with
    | none => rfl
    | some numBlocks =>
        simp only [List.range_eq_range']
        rfl

theorem unfolds_take (block numBlocks i : Nat) : Unfolds config (.take block numBlocks i) := by
  intro pool
  rw [rest, advance]
  split
  · next inside =>
      rw [range'_of_lt inside, List.foldlM_cons]
      cases takeBlock block pool i with
      | none => rfl
      | some taken => rfl
  · next outside =>
      rw [range'_of_ge (Nat.le_of_not_lt outside)]
      rfl

theorem unfolds_free (ptr : Nat) : Unfolds config (.free ptr) := by
  intro pool
  rw [rest, advance, ramxPoolFree]
  split
  · rfl
  · dsimp only
    cases pool.blocks[blockIndex pool ptr]? with
    | none => rfl
    | some numBlocks =>
        simp only [List.range_eq_range', Option.bind_eq_bind, Option.bind_some, Option.map_bind]
        rfl

theorem unfolds_release (block numBlocks i numFreed : Nat) :
    Unfolds config (.release block numBlocks i numFreed) := by
  intro pool
  rw [rest, advance]
  split
  · next inside =>
      rw [range'_of_lt inside, List.foldlM_cons]
      cases freeBlock block (pool, numFreed) i with
      | none => rfl
      | some freed => rfl
  · next outside =>
      rw [range'_of_ge (Nat.le_of_not_lt outside)]
      rfl

theorem computes : Computes (machine config) (rest config) := by
  intro pool frame
  cases frame with
  | allocBlocks numBlocks => exact unfolds_allocBlocks config numBlocks pool
  | search numBlocks i spaceFound => exact unfolds_search config numBlocks i spaceFound pool
  | behind numBlocks i j spaceFound => exact unfolds_behind config numBlocks i j spaceFound pool
  | mark numBlocks i j => exact unfolds_mark config numBlocks i j pool
  | takeOwnership ptr => exact unfolds_takeOwnership config ptr pool
  | take block numBlocks i => exact unfolds_take config block numBlocks i pool
  | free ptr => exact unfolds_free config ptr pool
  | release block numBlocks i numFreed => exact unfolds_release config block numBlocks i numFreed pool

theorem rest_start (pool : RamxPool) (op : RamxOp) :
    rest config pool (start op) = op.perform config pool := by
  cases op with
  | allocBlocks numBlocks => rfl
  | takeOwnership ptr => rfl
  | free ptr => rfl

end RamxFrame

/-! ## The calls of the main program and of the handlers -/

variable (config : PoolConfig)

def ledgerAfter (calls : List (RamxOp × Nat)) : Ledger :=
  calls.foldl (fun ledger call => call.1.record config ledger call.2) []

/-- The callers pass `NULL`, a live allocation or one that is already released. -/
def PassesOwn (calls : List (RamxOp × Nat)) (op : RamxOp) : Prop :=
  op.Admissible config (ledgerAfter config calls)

instance (ledger : Ledger) (ptr : Nat) : Decidable (RamxOp.Released config ledger ptr) :=
  inferInstanceAs (Decidable (∃ block < _, _ ∧ ∀ interval ∈ ledger, ¬ (_ ∧ _)))

instance (calls : List (RamxOp × Nat)) : (op : RamxOp) → Decidable (PassesOwn config calls op)
  | .allocBlocks _ => inferInstanceAs (Decidable True)
  | .takeOwnership _ => inferInstanceAs (Decidable (_ ∨ (∃ interval ∈ _, _) ∨ RamxOp.Released _ _ _))
  | .free _ => inferInstanceAs (Decidable (_ ∨ (∃ interval ∈ _, _) ∨ RamxOp.Released _ _ _))

theorem ledgerAfter_append (calls : List (RamxOp × Nat)) (op : RamxOp) (ret : Nat) :
    ledgerAfter config (calls ++ [(op, ret)]) =
      op.record config (ledgerAfter config calls) ret := by
  unfold ledgerAfter
  rw [List.foldl_append]
  rfl

theorem accounts_keeps :
    Keeps (RamxFrame.machine config) (PassesOwn config)
      fun calls pool => pool.Accounts config (ledgerAfter config calls) where
  advances := by
    intro calls before op pool frame accounts admissible within
    obtain ⟨ret, after, performed, _⟩ := op.perform_spec accounts admissible
    have whole := (RamxFrame.rest_start config before op).trans performed
    exact (RamxFrame.computes config).advances whole within
  returns := by
    intro calls before op after ret accounts admissible returns
    have performed := (RamxFrame.computes config).returns returns
    rw [show (RamxFrame.machine config).start op = RamxFrame.start op from rfl,
      RamxFrame.rest_start] at performed
    obtain ⟨_, _, call, kept⟩ := op.perform_spec accounts admissible
    obtain ⟨rfl, rfl⟩ := Prod.mk.inj (Option.some.inj (performed.symm.trans call))
    rw [ledgerAfter_append]
    exact kept

/-- The calls that have returned left live allocations that are apart and have as many owners as
took them; outside of all calls the pool records exactly these and counts their blocks. -/
structure KeepsAccounts (core : Core RamxPool RamxOp RamxFrame Nat) : Prop where
  apart : Ledger.Valid config.blockNum (ledgerAfter config core.returned)
  recorded : core.Outside → core.shared.Accounts config (ledgerAfter config core.returned)
  counted : core.Outside →
    ramxPoolStatsFree core.shared + ramxPoolStatsUsed core.shared = config.blockNum
  enabled : core.critical.interruptsEnabled = true ↔ core.Outside

/-- With its critical sections the RAMX pool can be shared by the main program and nested interrupt
handlers: wherever interrupts come, no block has two allocations, no owner is lost or counted
twice, and no call leaves the two arrays. -/
theorem protected_ramx_keeps_accounts {acts : List (Act RamxOp)}
    (every : Runs.EveryStep (Core.step (RamxFrame.machine config))
      (Core.Admits (PassesOwn config)) (Core.initial (ramxPoolInit config)) acts) :
    Runs.Always (Core.step (RamxFrame.machine config)) (KeepsAccounts config)
      (Core.initial (ramxPoolInit config)) acts := by
  refine (always_atomic (accounts_keeps config) (RamxPool.Accounts.init config) every).imp ?_
  rintro core ⟨before, accounts, stands⟩
  refine ⟨accounts.valid, fun outside => stands.shared_eq outside ▸ accounts,
    fun outside => stands.shared_eq outside ▸ accounts.stats, stands.enabled_iff⟩

/-- The main program gets two blocks while an interrupt waits; the handler takes them too, and the
main program frees its share. -/
theorem two_blocks_shared_with_a_handler :
    Runs.Always (Core.step (RamxFrame.machine fourBlocks)) (KeepsAccounts fourBlocks)
      (Core.initial (ramxPoolInit fourBlocks))
      [.call (.allocBlocks 2), .advance, .interrupt, .advance, .advance, .advance, .advance,
        .advance, .advance, .interrupt, .call (.takeOwnership 4096), .advance, .interrupt, .advance,
        .advance, .advance, .leave, .call (.free 4096), .advance, .advance, .advance, .advance] :=
  protected_ramx_keeps_accounts fourBlocks (by decide)

end WchCh56x.Memory
