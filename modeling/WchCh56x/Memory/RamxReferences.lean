import WchCh56x.Memory.RamxLedger

/-!
# References into the RAMX pool

The owners of the live allocations, as the list of the pointers that somebody
holds: one entry for each ownership, `NULL` entries count for nothing.
-/

namespace WchCh56x.Memory

open Support

/-- The pool's owners are exactly the pointers in `refs`. -/
def RamxPool.OwnedBy (config : PoolConfig) (pool : RamxPool) (refs : List Nat) : Prop :=
  ∃ ledger, pool.Accounts config ledger ∧
    (∀ ptr ∈ refs, ptr ≠ 0 → ∃ interval ∈ ledger, ptr = config.addressOf interval.start) ∧
    ∀ interval ∈ ledger, interval.owners = refs.count (config.addressOf interval.start)

/-- One more owner fits into the counter of the block. -/
def RamxPool.Shareable (pool : RamxPool) (ptr : Nat) : Prop :=
  ∃ count < 255, pool.blocksReferenceCounter[blockIndex pool ptr]? = some count

def RamxPool.HasRun (config : PoolConfig) (pool : RamxPool) (numBlocks : Nat) : Prop :=
  0 < numBlocks ∧ ∃ start, start + numBlocks ≤ config.blockNum ∧
    ∀ j < numBlocks, pool.blocks[start + j]? = some 0

namespace RamxPool.OwnedBy

variable {config : PoolConfig} {pool : RamxPool} {refs : List Nat}

theorem perm {others : List Nat} (owned : pool.OwnedBy config refs) (same : refs.Perm others) :
    pool.OwnedBy config others := by
  obtain ⟨ledger, accounts, live, exactly⟩ := owned
  refine ⟨ledger, accounts, ?_, ?_⟩
  · intro ptr member
    exact live ptr (same.mem_iff.mpr member)
  · intro interval member
    rw [exactly interval member, same.count_eq]

theorem null_cons : pool.OwnedBy config (0 :: refs) ↔ pool.OwnedBy config refs := by
  refine exists_congr fun ledger => and_congr_right fun _ => and_congr ?_ ?_
  · rw [List.forall_mem_cons]
    simp
  · refine forall_congr' fun interval => imp_congr_right fun _ => ?_
    rw [List.count_cons_of_ne (config.addressOf_ne_zero _).symm]

theorem nil (config : PoolConfig) : (ramxPoolInit config).OwnedBy config [] :=
  ⟨[], RamxPool.Accounts.init config, by simp, by simp⟩

theorem null_outside (owned : pool.OwnedBy config refs) : ¬ ramxAddressInPool pool 0 := by
  obtain ⟨ledger, accounts, _, _⟩ := owned
  have start := config.buffer_pos
  simp only [ramxAddressInPool, accounts.base, decide_eq_true_eq]
  omega

/-- A new allocation adds its pointer to the references. -/
theorem allocBlocks (owned : pool.OwnedBy config refs) (numBlocks : Nat) :
    ∃ ret after, ramxPoolAllocBlocks config pool numBlocks = some (ret, after) ∧
      after.OwnedBy config (ret :: refs) ∧ (ret ≠ 0 → ret ∉ refs) ∧
      (ret = 0 ↔ ¬ pool.HasRun config (u8 numBlocks)) := by
  obtain ⟨ledger, accounts, live, exactly⟩ := owned
  obtain ⟨ret, after, call, ⟨rfl, rfl, none⟩ | ⟨start, rfl, run, granted⟩⟩ :=
    ramxPoolAllocBlocks_spec accounts numBlocks
  · refine ⟨0, after, call, null_cons.mpr ⟨ledger, accounts, live, exactly⟩, by simp, ?_⟩
    simp only [true_iff]
    rintro ⟨positive, start, inside, zeroes⟩
    exact none start ((accounts.freeRun_iff _ _).mpr ⟨positive, inside, zeroes⟩)
  · -- the start of the new run was free, so no reference pointed to it
    have fresh : config.addressOf start ∉ refs := by
      intro member
      obtain ⟨interval, intervalMember, same⟩ := live _ member (config.addressOf_ne_zero _)
      obtain rfl := config.addressOf_injective same
      exact run.2.2 interval.start (Nat.le_refl _) (by have := run.1; omega) interval
        intervalMember (accounts.valid.covers_start intervalMember)
    refine ⟨_, after, call, ⟨_, granted, ?_, ?_⟩, fun _ => fresh, ?_⟩
    · intro ptr member nonNull
      rcases List.mem_cons.mp member with rfl | old
      · exact ⟨_, List.mem_cons_self .., rfl⟩
      · obtain ⟨interval, intervalMember, same⟩ := live ptr old nonNull
        exact ⟨interval, List.mem_cons_of_mem _ intervalMember, same⟩
    · refine List.forall_mem_cons.mpr ⟨?_, ?_⟩
      · simp [List.count_eq_zero_of_not_mem fresh]
      · intro interval member
        have away : config.addressOf start ≠ config.addressOf interval.start := by
          intro same
          obtain rfl := config.addressOf_injective same
          exact run.2.2 interval.start (Nat.le_refl _) (by have := run.1; omega) interval
            member (accounts.valid.covers_start member)
        rw [List.count_cons_of_ne away]
        exact exactly interval member
    · obtain ⟨positive, inside, zeroes⟩ := (accounts.freeRun_iff _ _).mp run
      simp only [config.addressOf_ne_zero, false_iff, not_not]
      exact ⟨positive, start, inside, zeroes⟩

theorem allocBytes (owned : pool.OwnedBy config refs) (numBytes : Nat) :
    ∃ ret after, ramxPoolAllocBytes config pool numBytes = some (ret, after) ∧
      after.OwnedBy config (ret :: refs) ∧ (ret ≠ 0 → ret ∉ refs) ∧
      (ret = 0 ↔ ¬ pool.HasRun config (blocksNeeded config numBytes)) := by
  have same : u8 (blocksNeeded config numBytes) = blocksNeeded config numBytes :=
    u8_of_lt (Nat.mod_lt _ (by decide))
  have allocated := owned.allocBlocks (blocksNeeded config numBytes)
  rwa [same] at allocated

/-- Taking ownership adds the pointer once more. -/
theorem takeOwnership (owned : pool.OwnedBy config refs) {ptr : Nat} (member : ptr ∈ refs)
    (shareable : pool.Shareable ptr) :
    ∃ after, ramxTakeOwnership pool ptr = some after ∧ after.OwnedBy config (ptr :: refs) := by
  by_cases null : ptr = 0
  · subst null
    exact ⟨pool, rfl, null_cons.mpr owned⟩
  obtain ⟨ledger, accounts, live, exactly⟩ := owned
  obtain ⟨interval, intervalMember, rfl⟩ := live ptr member null
  have room : interval.owners < 255 := by
    obtain ⟨count, small, counter⟩ := shareable
    rw [accounts.laidOut.blockIndex_addressOf (accounts.start_lt intervalMember),
      accounts.counted interval intervalMember _ (accounts.valid.covers_start intervalMember),
      Option.some.injEq] at counter
    rwa [counter]
  obtain ⟨after, call, shared⟩ := ramxTakeOwnership_live accounts intervalMember room
  refine ⟨after, call, _, shared, ?_, ?_⟩
  · intro ptr ptrMember nonNull
    have old : ptr ∈ refs := by
      rcases List.mem_cons.mp ptrMember with rfl | old
      · exact member
      · exact old
    obtain ⟨other, otherMember, rfl⟩ := live ptr old nonNull
    refine ⟨_, Ledger.mem_share.mpr ⟨other, otherMember, rfl⟩, ?_⟩
    split <;> rfl
  · intro next nextMember
    obtain ⟨other, otherMember, rfl⟩ := Ledger.mem_share.mp nextMember
    by_cases here : other.start = interval.start
    · rw [if_pos here, exactly other otherMember, here, List.count_cons_self]
    · have away : config.addressOf interval.start ≠ config.addressOf other.start :=
        fun same => here (config.addressOf_injective same).symm
      rw [if_neg here, exactly other otherMember, List.count_cons_of_ne away]

/-- A free takes one entry out of the references. -/
theorem free {ptr : Nat} (owned : pool.OwnedBy config (ptr :: refs)) :
    ∃ after, ramxPoolFree pool ptr = some after ∧ after.OwnedBy config refs := by
  by_cases null : ptr = 0
  · subst null
    exact ⟨pool, rfl, null_cons.mp owned⟩
  obtain ⟨ledger, accounts, live, exactly⟩ := owned
  obtain ⟨interval, intervalMember, rfl⟩ := live ptr (List.mem_cons_self ..) null
  obtain ⟨after, call, released, _⟩ := ramxPoolFree_live accounts intervalMember
  have owners := exactly interval intervalMember
  rw [List.count_cons_self] at owners
  refine ⟨after, call, _, released, ?_, ?_⟩
  · intro other otherMember nonNull
    obtain ⟨source, sourceMember, rfl⟩ := live other (List.mem_cons_of_mem _ otherMember) nonNull
    by_cases here : source.start = interval.start
    · obtain rfl := accounts.valid.unique_start sourceMember intervalMember here
      have several : 1 < source.owners := by
        have held := List.count_pos_iff.mpr otherMember
        omega
      exact ⟨_, Ledger.mem_release.mpr ⟨source, sourceMember, .inr ⟨rfl, several, rfl⟩⟩, rfl⟩
    · exact ⟨source, Ledger.mem_release.mpr ⟨source, sourceMember, .inl ⟨here, rfl⟩⟩, rfl⟩
  · intro next nextMember
    obtain ⟨source, sourceMember, ⟨away, rfl⟩ | ⟨here, _, rfl⟩⟩ :=
      Ledger.mem_release.mp nextMember
    · have other : config.addressOf interval.start ≠ config.addressOf source.start :=
        fun same => away (config.addressOf_injective same).symm
      rw [exactly source sourceMember, List.count_cons_of_ne other]
    · obtain rfl := accounts.valid.unique_start sourceMember intervalMember here
      dsimp only
      omega

end RamxPool.OwnedBy

/-! ## The blocks of an allocation -/

/-- `ptr` points to the first of the `length` blocks that are marked as one allocation. -/
structure RamxPool.Extent (config : PoolConfig) (pool : RamxPool) (ptr start length : Nat) :
    Prop where
  address : ptr = config.addressOf start
  nonempty : 0 < length
  inside : start + length ≤ config.blockNum
  marked : ∀ j < length, pool.blocks[start + j]? = some length

/-- `ptr` points to marked blocks, and no allocation hands out any of them. -/
def RamxPool.InUse (config : PoolConfig) (pool : RamxPool) (ptr : Nat) : Prop :=
  ∃ start length, pool.Extent config ptr start length ∧
    ∀ numBlocks ret after, ramxPoolAllocBlocks config pool numBlocks = some (ret, after) →
      ret ≠ 0 → ∃ first, ret = config.addressOf first ∧
        (first + u8 numBlocks ≤ start ∨ start + length ≤ first)

/-- A block that was marked keeps its mark or loses it. -/
def RamxPool.KeepsMarks (pool after : RamxPool) : Prop :=
  ∀ index length : Nat, 0 < length → pool.blocks[index]? = some length →
    after.blocks[index]? = some length ∨ after.blocks[index]? = some 0

def RamxPool.SoleOwner (config : PoolConfig) (pool : RamxPool) (ptr : Nat) : Prop :=
  ∃ refs, pool.OwnedBy config refs ∧ refs.count ptr = 1

theorem RamxPool.KeepsMarks.of_blocks {pool after : RamxPool}
    (same : after.blocks = pool.blocks) : pool.KeepsMarks after := by
  intro index length positive marked
  rw [same]
  exact .inl marked

theorem RamxPool.Extent.of_interval {config : PoolConfig} {pool : RamxPool} {ledger : Ledger}
    (accounts : pool.Accounts config ledger) {interval : Interval} (member : interval ∈ ledger) :
    pool.Extent config (config.addressOf interval.start) interval.start interval.length where
  address := rfl
  nonempty := accounts.valid.nonempty interval member
  inside := accounts.valid.inside interval member
  marked := fun _ before => accounts.live interval member _
    ⟨Nat.le_add_right _ _, Nat.add_lt_add_left before _⟩

theorem ramxTakeOwnership_blocks {pool after : RamxPool} {ptr : Nat}
    (taken : ramxTakeOwnership pool ptr = some after) : after.blocks = pool.blocks := by
  have blocks (block : Nat) (indices : List Nat) :
      ∀ {before taken : RamxPool}, indices.foldlM (takeBlock block) before = some taken →
        taken.blocks = before.blocks := by
    induction indices with
    | nil =>
        rintro before taken ⟨rfl⟩
        rfl
    | cons i rest ih =>
        intro before taken folded
        rw [List.foldlM_cons] at folded
        obtain ⟨middle, one, others⟩ := Option.bind_eq_some_iff.mp folded
        obtain ⟨_, _, stored⟩ := Option.bind_eq_some_iff.mp one
        obtain ⟨_, _, same⟩ := Option.bind_eq_some_iff.mp stored
        rw [ih others, ← Option.some.inj same]
  unfold ramxTakeOwnership at taken
  split at taken
  · rw [← Option.some.inj taken]
  · obtain ⟨_, _, folded⟩ := Option.bind_eq_some_iff.mp taken
    exact blocks _ _ folded

/-- A free only takes marks away. -/
theorem ramxPoolFree_blocks {pool after : RamxPool} {ptr : Nat}
    (freed : ramxPoolFree pool ptr = some after) (index : Nat) :
    after.blocks[index]? = pool.blocks[index]? ∨ after.blocks[index]? = some 0 := by
  have blocks (block : Nat) (indices : List Nat) :
      ∀ {before left : RamxPool × Nat}, indices.foldlM (freeBlock block) before = some left →
        left.1.blocks[index]? = before.1.blocks[index]? ∨ left.1.blocks[index]? = some 0 := by
    induction indices with
    | nil =>
        rintro before left ⟨rfl⟩
        exact .inl rfl
    | cons i rest ih =>
        intro before left folded
        rw [List.foldlM_cons] at folded
        obtain ⟨middle, one, others⟩ := Option.bind_eq_some_iff.mp folded
        have first : middle.1.blocks[index]? = before.1.blocks[index]? ∨
            middle.1.blocks[index]? = some 0 := by
          obtain ⟨_, _, counted⟩ := Option.bind_eq_some_iff.mp one
          split at counted
          · obtain ⟨blocks, stored, same⟩ := Option.bind_eq_some_iff.mp counted
            rw [← Option.some.inj same]
            unfold storeAt at stored
            split at stored
            · rename_i inside
              rw [← Option.some.inj stored]
              by_cases here : block + i = index
              · rw [here, List.getElem?_set_self (here ▸ inside)]
                exact .inr rfl
              · exact .inl (List.getElem?_set_ne here)
            · nomatch stored
          · obtain ⟨_, _, same⟩ := Option.bind_eq_some_iff.mp counted
            rw [← Option.some.inj same]
            exact .inl rfl
        rcases ih others with kept | cleared
        · rw [kept]
          exact first
        · exact .inr cleared
  unfold ramxPoolFree at freed
  split at freed
  · rw [← Option.some.inj freed]
    exact .inl rfl
  · obtain ⟨_, _, folded⟩ := Option.bind_eq_some_iff.mp freed
    obtain ⟨_, folded, same⟩ := Option.bind_eq_some_iff.mp folded
    rw [← Option.some.inj same]
    exact blocks _ _ folded

namespace RamxPool.OwnedBy

variable {config : PoolConfig} {pool : RamxPool} {refs : List Nat}

theorem extent (owned : pool.OwnedBy config refs) {ptr : Nat} (member : ptr ∈ refs)
    (nonNull : ptr ≠ 0) : ∃ start length, pool.Extent config ptr start length := by
  obtain ⟨ledger, accounts, live, _⟩ := owned
  obtain ⟨interval, intervalMember, rfl⟩ := live ptr member nonNull
  exact ⟨_, _, Extent.of_interval accounts intervalMember⟩

/-- A run of free blocks is apart from every allocation. -/
theorem inUse (owned : pool.OwnedBy config refs) {ptr : Nat} (member : ptr ∈ refs)
    (nonNull : ptr ≠ 0) : pool.InUse config ptr := by
  obtain ⟨ledger, accounts, live, _⟩ := owned
  obtain ⟨interval, intervalMember, rfl⟩ := live ptr member nonNull
  refine ⟨_, _, Extent.of_interval accounts intervalMember, ?_⟩
  intro numBlocks ret after allocated granted
  obtain ⟨ret', after', call, ⟨rfl, _, _⟩ | ⟨start, rfl, run, _⟩⟩ :=
    ramxPoolAllocBlocks_spec accounts numBlocks
  · exact absurd (congrArg Prod.fst (Option.some.inj (allocated.symm.trans call))) granted
  · refine ⟨start, congrArg Prod.fst (Option.some.inj (allocated.symm.trans call)), ?_⟩
    by_contra overlap
    have nonempty := accounts.valid.nonempty interval intervalMember
    refine run.2.2 (max start interval.start) (by omega) (by have := run.1; omega) interval
      intervalMember ⟨by omega, ?_⟩
    rw [Interval.finish]
    have := run.1
    omega

/-- The counters of the pool tell how many owners a pointer has. -/
theorem count_eq {others : List Nat} (owned : pool.OwnedBy config refs)
    (otherwise : pool.OwnedBy config others) {ptr : Nat} (member : ptr ∈ refs)
    (otherMember : ptr ∈ others) (nonNull : ptr ≠ 0) : refs.count ptr = others.count ptr := by
  obtain ⟨ledger, accounts, live, exactly⟩ := owned
  obtain ⟨ledger', accounts', live', exactly'⟩ := otherwise
  obtain ⟨interval, intervalMember, rfl⟩ := live ptr member nonNull
  obtain ⟨interval', intervalMember', same⟩ := live' _ otherMember nonNull
  have start := config.addressOf_injective same
  have counter := accounts.counted interval intervalMember _
    (accounts.valid.covers_start intervalMember)
  have counter' := accounts'.counted interval' intervalMember' _
    (accounts'.valid.covers_start intervalMember')
  rw [← start, counter] at counter'
  rw [← exactly interval intervalMember, Option.some.inj counter',
    exactly' interval' intervalMember', same]

/-- A new allocation is marked as one of the size asked for, and no mark is lost. -/
theorem allocBlocks_marks (owned : pool.OwnedBy config refs) {numBlocks ret : Nat}
    {after : RamxPool} (allocated : ramxPoolAllocBlocks config pool numBlocks = some (ret, after)) :
    pool.KeepsMarks after ∧
      (ret ≠ 0 → ∃ start, after.Extent config ret start (u8 numBlocks)) := by
  obtain ⟨ledger, accounts, _, _⟩ := owned
  obtain ⟨ret', after', call, outcome⟩ := ramxPoolAllocBlocks_spec accounts numBlocks
  obtain ⟨rfl, rfl⟩ := Prod.mk.inj (Option.some.inj (allocated.symm.trans call))
  rcases outcome with ⟨rfl, rfl, _⟩ | ⟨start, rfl, run, granted⟩
  · exact ⟨.of_blocks rfl, fun nonNull => absurd rfl nonNull⟩
  · refine ⟨?_, fun _ => ⟨start, Extent.of_interval granted (List.mem_cons_self ..)⟩⟩
    intro index length positive marked
    -- a marked block is in an interval of the ledger, and that stays in it
    have covered : ¬ ledger.Free index := by
      intro free
      by_cases inside : index < config.blockNum
      · rw [accounts.idle index inside free] at marked
        have := Option.some.inj marked
        omega
      · rw [List.getElem?_eq_none (by rw [accounts.blocksLength]; omega)] at marked
        nomatch marked
    obtain ⟨interval, member, covers⟩ : ∃ interval ∈ ledger, interval.Covers index := by
      simpa [Ledger.Free] using covered
    rw [accounts.live interval member index covers] at marked
    rw [granted.live interval (List.mem_cons_of_mem _ member) index covers]
    exact .inl marked

theorem allocBytes_marks (owned : pool.OwnedBy config refs) {numBytes ret : Nat}
    {after : RamxPool} (allocated : ramxPoolAllocBytes config pool numBytes = some (ret, after)) :
    pool.KeepsMarks after ∧
      (ret ≠ 0 → ∃ start, after.Extent config ret start (blocksNeeded config numBytes)) := by
  have same : u8 (blocksNeeded config numBytes) = blocksNeeded config numBytes :=
    u8_of_lt (Nat.mod_lt _ (by decide))
  have marks := owned.allocBlocks_marks allocated
  rwa [same] at marks

end RamxPool.OwnedBy

theorem RamxPool.SoleOwner.count {config : PoolConfig} {pool : RamxPool} {ptr : Nat}
    (sole : pool.SoleOwner config ptr) {refs : List Nat} (owned : pool.OwnedBy config refs)
    (member : ptr ∈ refs) (nonNull : ptr ≠ 0) : refs.count ptr = 1 := by
  obtain ⟨others, otherwise, once⟩ := sole
  rw [owned.count_eq otherwise member (List.count_pos_iff.mp (by omega)) nonNull, once]

/-- What is still owned has the blocks it had. -/
theorem RamxPool.Extent.kept {config : PoolConfig} {pool after : RamxPool} {refs : List Nat}
    {ptr start length : Nat} (extent : pool.Extent config ptr start length)
    (keeps : pool.KeepsMarks after) (owned : after.OwnedBy config refs) (member : ptr ∈ refs) :
    after.Extent config ptr start length := by
  have nonNull : ptr ≠ 0 := extent.address ▸ config.addressOf_ne_zero start
  obtain ⟨start', length', extent'⟩ := owned.extent member nonNull
  obtain rfl := config.addressOf_injective (extent.address.symm.trans extent'.address)
  have before := extent.marked 0 extent.nonempty
  have behind := extent'.marked 0 extent'.nonempty
  have positive := extent'.nonempty
  rcases keeps _ _ extent.nonempty before with same | cleared
  · obtain rfl := Option.some.inj (same.symm.trans behind)
    exact extent'
  · have := Option.some.inj (cleared.symm.trans behind)
    omega

/-- `ptr` is the start of a live allocation of `length` blocks. -/
def RamxPool.Allocation (config : PoolConfig) (pool : RamxPool) (ptr length : Nat) : Prop :=
  ∃ ledger, pool.Accounts config ledger ∧ ∃ interval ∈ ledger,
    ptr = config.addressOf interval.start ∧ length = interval.length

theorem RamxPool.Allocation.nonNull {config : PoolConfig} {pool : RamxPool} {ptr length : Nat}
    (allocation : pool.Allocation config ptr length) : ptr ≠ 0 := by
  obtain ⟨_, _, interval, _, rfl, _⟩ := allocation
  exact config.addressOf_ne_zero interval.start

theorem RamxPool.Allocation.length_le {config : PoolConfig} {pool : RamxPool} {ptr length : Nat}
    (allocation : pool.Allocation config ptr length) : length ≤ 255 := by
  obtain ⟨_, accounts, interval, member, _, rfl⟩ := allocation
  have inside := accounts.valid.inside interval member
  have small := config.blockNum_le
  unfold Interval.finish at inside
  omega

/-- The marks of what is owned tell the size of the allocation. -/
theorem RamxPool.Extent.allocation {config : PoolConfig} {pool : RamxPool} {refs : List Nat}
    {ptr start length : Nat} (extent : pool.Extent config ptr start length)
    (owned : pool.OwnedBy config refs) (member : ptr ∈ refs) :
    pool.Allocation config ptr length := by
  obtain ⟨ledger, accounts, live, _⟩ := owned
  have nonNull : ptr ≠ 0 := extent.address ▸ config.addressOf_ne_zero start
  obtain ⟨interval, intervalMember, same⟩ := live ptr member nonNull
  refine ⟨ledger, accounts, interval, intervalMember, same, ?_⟩
  have start_eq := config.addressOf_injective (extent.address.symm.trans same)
  have marked := extent.marked 0 extent.nonempty
  have marked' := accounts.live interval intervalMember _
    (accounts.valid.covers_start intervalMember)
  rw [Nat.add_zero, start_eq, marked'] at marked
  exact (Option.some.inj marked).symm

end WchCh56x.Memory
