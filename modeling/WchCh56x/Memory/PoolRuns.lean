import WchCh56x.Memory.Pool
import WchCh56x.Support.Runs

/-!
# Runs of the object pool

The members that are handed out and not given back are recorded beside the pool.
They are pairwise different, and the next one is always the free member of lowest
index.
-/

namespace WchCh56x.Memory

open Support.Runs

inductive PoolOp where
  | get
  | free (ptr : Nat)
  | clean
  deriving DecidableEq, Repr

structure PoolSession where
  pool : HydraPool
  held : List Nat
  deriving DecidableEq, Repr

namespace PoolSession

def step (session : PoolSession) : PoolOp → Option PoolSession
  | .get => do
      let (ret, pool) ← hydraPoolGet session.pool
      return { pool := pool, held := if ret = 0 then session.held else ret :: session.held }
  | .free ptr => do
      let pool ← hydraPoolFree session.pool ptr
      return { pool := pool, held := session.held.erase ptr }
  | .clean => some { pool := hydraPoolClean session.pool, held := [] }

def Admissible (session : PoolSession) : PoolOp → Prop
  | .get | .clean => True
  | .free ptr => ptr ∈ session.held

instance (session : PoolSession) : (op : PoolOp) → Decidable (session.Admissible op)
  | .get | .clean => inferInstanceAs (Decidable True)
  | .free _ => inferInstanceAs (Decidable (_ ∈ _))

end PoolSession

structure PoolLayout where
  poolMembers : Nat
  size : Nat
  typeSize : Nat
  size_pos : 0 < size
  size_lt : size < 65536
  typeSize_pos : 0 < typeSize
  /-- The member array is an object in the address space. -/
  members_pos : 0 < poolMembers
  members_end : poolMembers + size * typeSize < 4294967296

namespace PoolLayout

variable (layout : PoolLayout)

def member (i : Nat) : Nat := layout.poolMembers + i * layout.typeSize

def start : PoolSession where
  pool := hydraPoolDef layout.poolMembers layout.size layout.typeSize
  held := []

/-- `hydra_pool_get` returns the free member of lowest index, or `NULL` if none is free. -/
def HandsOutLowest (session : PoolSession) : Prop :=
  ∃ ret after, hydraPoolGet session.pool = some (ret, after) ∧
    (ret = 0 ↔ ∀ i < layout.size, layout.member i ∈ session.held) ∧
    (ret ≠ 0 → ∃ i < layout.size, ret = layout.member i ∧ layout.member i ∉ session.held ∧
      ∀ j < i, layout.member j ∈ session.held)

/-- The members held are apart and are exactly those marked as in use. -/
structure KeepsApart (session : PoolSession) : Prop where
  distinct : session.held.Pairwise fun left right =>
    ∀ i j, left = layout.member i → right = layout.member j → i ≠ j
  inside : ∀ ptr ∈ session.held, ∃ i < layout.size, ptr = layout.member i ∧
    (i + 1) * layout.typeSize ≤ layout.size * layout.typeSize
  marked : ∀ i < layout.size,
    session.pool.poolManager[i]? = some (decide (layout.member i ∈ session.held))
  lowest : layout.HandsOutLowest session

/-! ## The search for a free member -/

/-- What the search skips is in use. -/
theorem searchMember_skips {poolManager : List Bool} {candidates : List Nat} {i : Nat}
    (ordered : candidates.Pairwise (· < ·))
    (search : searchMember poolManager candidates = some (some i)) :
    ∀ j ∈ candidates, j < i → poolManager[j]? = some true := by
  induction candidates with
  | nil => cases search
  | cons first rest ih =>
      obtain ⟨below, restOrdered⟩ := List.pairwise_cons.mp ordered
      unfold searchMember at search
      cases inUse : poolManager[first]? with
      | none =>
          rw [inUse] at search
          cases search
      | some used =>
          rw [inUse] at search
          dsimp only [Option.bind_eq_bind, Option.bind_some] at search
          cases used with
          | false =>
              obtain rfl : first = i := by simpa using search
              intro j member before
              rcases List.mem_cons.mp member with rfl | later
              · exact absurd before (Nat.lt_irrefl j)
              · exact absurd before (Nat.lt_asymm (below j later))
          | true =>
              intro j member before
              rcases List.mem_cons.mp member with rfl | later
              · exact inUse
              · exact ih restOrdered search j later before

end PoolLayout

/-- A valid pool either has no free member or hands out the first of them. -/
theorem hydraPoolGet_first {pool : HydraPool} (valid : pool.Valid) :
    (¬pool.HasFree ∧ hydraPoolGet pool = some (0, pool)) ∨
      ∃ i < pool.size, pool.poolManager[i]? = some false ∧
        (∀ j < i, pool.poolManager[j]? = some true) ∧
        hydraPoolGet pool =
          some (pool.member i, { pool with poolManager := pool.poolManager.set i true }) := by
  obtain ⟨found, search, taken, missed⟩ := searchMember_spec pool.poolManager
    (List.range pool.size) (by intro i member; rw [valid.length]; exact List.mem_range.mp member)
  unfold hydraPoolGet
  rw [search]
  dsimp only [Option.bind_eq_bind, Option.bind_some]
  cases found with
  | none =>
      refine .inl ⟨?_, rfl⟩
      rintro ⟨i, inside, free⟩
      have used := missed rfl i (List.mem_range.mpr inside)
      exact Bool.false_ne_true (Option.some.inj (free.symm.trans used))
  | some i =>
      obtain ⟨candidate, free⟩ := taken i rfl
      have inside := List.mem_range.mp candidate
      have narrow : u32 (pool.poolMembers + i * pool.typeSize) = pool.member i :=
        u32_of_lt (valid.member_lt inside)
      have skipped := PoolLayout.searchMember_skips List.pairwise_lt_range search
      refine .inr ⟨i, inside, free, fun j before => ?_, ?_⟩
      · exact skipped j (List.mem_range.mpr (before.trans inside)) before
      · exact congrArg (fun ret => some (ret, _)) narrow

namespace PoolLayout

/-! ## One call -/

/-- The pool lies where it was defined and knows who holds its members. -/
structure Holds (layout : PoolLayout) (session : PoolSession) : Prop where
  owned : session.pool.OwnedBy session.held
  poolMembers : session.pool.poolMembers = layout.poolMembers
  size : session.pool.size = layout.size
  typeSize : session.pool.typeSize = layout.typeSize

variable {layout : PoolLayout} {session : PoolSession}

theorem holds_start (layout : PoolLayout) : layout.Holds layout.start where
  owned := {
    valid := {
      length := (List.length_replicate ..).trans (u16_of_lt layout.size_lt).symm
      size_lt := (u16_of_lt layout.size_lt).trans_lt layout.size_lt
      typeSize_pos := layout.typeSize_pos
      members_pos := layout.members_pos
      members_end := by
        change _ + u16 layout.size * _ < _
        rw [u16_of_lt layout.size_lt]
        exact layout.members_end }
    distinct := List.nodup_nil
    used_iff := by
      intro ptr
      constructor
      · rintro ⟨i, _, _, used⟩
        have isFalse := List.eq_of_mem_replicate (List.mem_of_getElem? used)
        exact absurd isFalse.symm Bool.false_ne_true
      · intro held
        exact absurd held List.not_mem_nil }
  poolMembers := rfl
  size := u16_of_lt layout.size_lt
  typeSize := rfl

theorem Holds.member_eq (holds : layout.Holds session) (i : Nat) :
    session.pool.member i = layout.member i := by
  rw [HydraPool.member, holds.poolMembers, holds.typeSize, member]

theorem member_injective (layout : PoolLayout) {i j : Nat} (same : layout.member i = layout.member j) :
    i = j :=
  Nat.eq_of_mul_eq_mul_right layout.typeSize_pos (Nat.add_left_cancel same)

theorem Holds.mem_held_iff (holds : layout.Holds session) {i : Nat} (inside : i < layout.size) :
    layout.member i ∈ session.held ↔ session.pool.poolManager[i]? = some true := by
  rw [← holds.owned.used_iff]
  constructor
  · rintro ⟨j, _, same, used⟩
    rw [holds.member_eq] at same
    rwa [layout.member_injective same]
  · intro used
    exact ⟨i, holds.size.symm ▸ inside, (holds.member_eq i).symm, used⟩

theorem Holds.marked (holds : layout.Holds session) {i : Nat} (inside : i < layout.size) :
    session.pool.poolManager[i]? = some (decide (layout.member i ∈ session.held)) := by
  have within : i < session.pool.poolManager.length := by
    rw [holds.owned.valid.length, holds.size]
    exact inside
  have isHeld := holds.mem_held_iff inside
  rw [List.getElem?_eq_getElem within, Option.some.injEq] at isHeld ⊢
  exact Bool.eq_iff_iff.mpr (isHeld.symm.trans decide_eq_true_iff.symm)

theorem Holds.handsOutLowest (holds : layout.Holds session) : layout.HandsOutLowest session := by
  obtain ⟨full, call⟩ | ⟨i, inside, free, before, call⟩ := hydraPoolGet_first holds.owned.valid
  · refine ⟨0, session.pool, call, ⟨fun _ i within => ?_, fun _ => rfl⟩, fun some => absurd rfl some⟩
    by_contra notHeld
    have marked := holds.marked within
    rw [decide_eq_false notHeld] at marked
    exact full ⟨i, holds.size.symm ▸ within, marked⟩
  · rw [holds.size] at inside
    have notHeld : layout.member i ∉ session.held := by
      rw [holds.mem_held_iff inside, free]
      exact fun same => Bool.false_ne_true (Option.some.inj same)
    have notNull : session.pool.member i ≠ 0 := holds.owned.valid.member_ne_zero i
    refine ⟨_, _, call, ⟨fun null => absurd null notNull, fun all => absurd (all i inside) notHeld⟩,
      fun _ => ⟨i, inside, holds.member_eq i, notHeld, fun j earlier => ?_⟩⟩
    exact (holds.mem_held_iff (earlier.trans inside)).mpr (before j earlier)

theorem Holds.keepsApart (holds : layout.Holds session) : layout.KeepsApart session where
  distinct := by
    refine holds.owned.distinct.imp fun apart i j left right same => apart ?_
    rw [left, right, same]
  inside := by
    intro ptr held
    obtain ⟨i, inside, isMember, _⟩ := (holds.owned.used_iff ptr).mpr held
    rw [holds.size] at inside
    exact ⟨i, inside, isMember.trans (holds.member_eq i), Nat.mul_le_mul_right _ inside⟩
  marked _ inside := holds.marked inside
  lowest := holds.handsOutLowest

theorem hydraPoolFree_layout {pool after : HydraPool} {ptr : Nat}
    (call : hydraPoolFree pool ptr = some after) :
    after.poolMembers = pool.poolMembers ∧ after.size = pool.size ∧
      after.typeSize = pool.typeSize := by
  unfold hydraPoolFree at call
  dsimp only at call
  split at call
  · obtain rfl := Option.some.inj call
    exact ⟨rfl, rfl, rfl⟩
  · obtain ⟨inUse, _, chosen⟩ := Option.bind_eq_some_iff.mp call
    split at chosen
    · obtain rfl := Option.some.inj chosen
      exact ⟨rfl, rfl, rfl⟩
    · obtain rfl := Option.some.inj chosen
      exact ⟨rfl, rfl, rfl⟩

theorem Holds.step_get (holds : layout.Holds session) :
    ∃ next, session.step .get = some next ∧ layout.Holds next := by
  obtain ⟨ret, after, call, ⟨rfl, rfl, _⟩ | ⟨notNull, _, _, owned⟩⟩ := holds.owned.get
  · refine ⟨session, ?_, holds⟩
    rw [PoolSession.step, call]
    rfl
  · have stepped : session.step .get = some { pool := after, held := ret :: session.held } := by
      rw [PoolSession.step, call]
      dsimp only [Option.bind_eq_bind, Option.bind_some]
      rw [if_neg notNull]
      rfl
    have kept : after.poolMembers = session.pool.poolMembers ∧ after.size = session.pool.size ∧
        after.typeSize = session.pool.typeSize := by
      obtain ⟨_, full⟩ | ⟨i, _, _, _, first⟩ := hydraPoolGet_first holds.owned.valid
      · obtain ⟨isNull, _⟩ := Prod.mk.inj (Option.some.inj (call.symm.trans full))
        exact absurd isNull notNull
      · obtain ⟨_, rfl⟩ := Prod.mk.inj (Option.some.inj (call.symm.trans first))
        exact ⟨rfl, rfl, rfl⟩
    obtain ⟨poolMembers, size, typeSize⟩ := kept
    exact ⟨_, stepped, owned, poolMembers.trans holds.poolMembers, size.trans holds.size,
      typeSize.trans holds.typeSize⟩

theorem Holds.step_free (holds : layout.Holds session) {ptr : Nat} (isHeld : ptr ∈ session.held) :
    ∃ next, session.step (.free ptr) = some next ∧ layout.Holds next := by
  have first := holds.owned.perm (List.perm_cons_erase isHeld)
  obtain ⟨after, call, owned⟩ := first.free
  obtain ⟨poolMembers, size, typeSize⟩ := hydraPoolFree_layout call
  refine ⟨{ pool := after, held := session.held.erase ptr }, ?_, owned,
    poolMembers.trans holds.poolMembers, size.trans holds.size, typeSize.trans holds.typeSize⟩
  rw [PoolSession.step, call]
  rfl

theorem Holds.step_clean (holds : layout.Holds session) :
    ∃ next, session.step .clean = some next ∧ layout.Holds next :=
  ⟨_, rfl, .clean holds.owned.valid, holds.poolMembers, holds.size, holds.typeSize⟩

/-! ## Runs -/

/-- Over every run of calls the members held are pairwise different members of the pool, exactly
they are marked, and the next member is the free one of lowest index. -/
theorem pool_never_hands_out_twice (layout : PoolLayout) {ops : List PoolOp}
    (every : EveryStep PoolSession.step PoolSession.Admissible layout.start ops) :
    Always PoolSession.step layout.KeepsApart layout.start ops := by
  refine Always.imp (fun _ holds => Holds.keepsApart holds)
    (always_of_everyStep (fun session op holds admissible => ?_) layout.holds_start every)
  cases op with
  | get => exact holds.step_get
  | free ptr => exact holds.step_free admissible
  | clean => exact holds.step_clean

def twentyMembers : PoolLayout where
  poolMembers := 0x20021000
  size := 20
  typeSize := 2
  size_pos := by decide
  size_lt := by decide
  typeSize_pos := by decide
  members_pos := by decide
  members_end := by decide

theorem twenty_members_apart :
    Always PoolSession.step twentyMembers.KeepsApart twentyMembers.start
      [.get, .get, .free 0x20021000, .get, .clean] :=
  twentyMembers.pool_never_hands_out_twice (by decide)

end PoolLayout

end WchCh56x.Memory
