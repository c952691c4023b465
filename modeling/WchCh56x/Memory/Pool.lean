import WchCh56x.CTypes

/-!
# The object pool of `memory/pool.h`

`poolMembers` is the address of the member array.  `none` is an access to
`poolManager` outside of it.
-/

namespace WchCh56x.Memory

/-- `hydra_pool_t` -/
structure HydraPool where
  poolMembers : Nat
  poolManager : List Bool
  size : Nat
  typeSize : Nat
  deriving DecidableEq, Repr

/-- `HYDRA_POOL_DEF(_name, _type, _size)` with the members at `poolMembers`. -/
def hydraPoolDef (poolMembers size typeSize : Nat) : HydraPool where
  poolMembers := poolMembers
  poolManager := List.replicate size false
  size := u16 size
  typeSize := typeSize

/-- The loop of `hydra_pool_get`. -/
def searchMember (poolManager : List Bool) : List Nat → Option (Option Nat)
  | [] => some none
  | i :: rest => do
      let inUse ← poolManager[i]?
      if inUse then
        searchMember poolManager rest
      else
        return some i

/-- `hydra_pool_get`: the pointer it returns and the pool. -/
def hydraPoolGet (pool : HydraPool) : Option (Nat × HydraPool) := do
  match ← searchMember pool.poolManager (List.range pool.size) with
  | some i =>
      return (u32 (pool.poolMembers + i * pool.typeSize),
        { pool with poolManager := pool.poolManager.set i true })
  | none => return (0, pool)

def hydraPoolFree (pool : HydraPool) (ptr : Nat) : Option HydraPool :=
  let i := u16 (u32 (ptr + 4294967296 - pool.poolMembers) / pool.typeSize)
  if i ≥ pool.size then
    some pool
  else do
    let inUse ← pool.poolManager[i]?
    if inUse then
      return { pool with poolManager := pool.poolManager.set i false }
    else
      return pool

def hydraPoolClean (pool : HydraPool) : HydraPool :=
  { pool with poolManager := List.replicate pool.size false }

namespace HydraPool

/-- A pool as its definition lays it out. -/
structure Valid (pool : HydraPool) : Prop where
  length : pool.poolManager.length = pool.size
  size_lt : pool.size < 65536
  typeSize_pos : 0 < pool.typeSize
  members_pos : 0 < pool.poolMembers
  members_end : pool.poolMembers + pool.size * pool.typeSize < 4294967296

def member (pool : HydraPool) (i : Nat) : Nat := pool.poolMembers + i * pool.typeSize

def Used (pool : HydraPool) (ptr : Nat) : Prop :=
  ∃ i < pool.size, ptr = pool.member i ∧ pool.poolManager[i]? = some true

def HasFree (pool : HydraPool) : Prop := ∃ i < pool.size, pool.poolManager[i]? = some false

section Valid

variable {pool : HydraPool}

theorem Valid.member_injective (valid : pool.Valid) {i j : Nat}
    (same : pool.member i = pool.member j) : i = j :=
  Nat.eq_of_mul_eq_mul_right valid.typeSize_pos (Nat.add_left_cancel same)

theorem Valid.member_ne_zero (valid : pool.Valid) (i : Nat) : pool.member i ≠ 0 :=
  Nat.ne_of_gt (Nat.add_pos_left valid.members_pos _)

theorem Valid.member_lt (valid : pool.Valid) {i : Nat} (inside : i < pool.size) :
    pool.member i < 4294967296 := by
  have ending := valid.members_end
  have offset : i * pool.typeSize ≤ pool.size * pool.typeSize :=
    Nat.mul_le_mul_right _ inside.le
  unfold member
  omega

theorem Valid.set (valid : pool.Valid) (i : Nat) (inUse : Bool) :
    Valid { pool with poolManager := pool.poolManager.set i inUse } :=
  ⟨by simpa using valid.length, valid.size_lt, valid.typeSize_pos, valid.members_pos,
    valid.members_end⟩

theorem Valid.clean (valid : pool.Valid) : (hydraPoolClean pool).Valid :=
  ⟨by simp [hydraPoolClean], valid.size_lt, valid.typeSize_pos, valid.members_pos,
    valid.members_end⟩

theorem not_used_clean (pool : HydraPool) (ptr : Nat) : ¬ (hydraPoolClean pool).Used ptr := by
  rintro ⟨i, inside, _, used⟩
  have inside : i < pool.size := inside
  simp [hydraPoolClean, inside] at used

theorem used_set (valid : pool.Valid) {i : Nat} (inside : i < pool.size) (inUse : Bool)
    (ptr : Nat) :
    Used { pool with poolManager := pool.poolManager.set i inUse } ptr ↔
      if ptr = pool.member i then inUse = true else pool.Used ptr := by
  by_cases here : ptr = pool.member i
  · rw [if_pos here]
    constructor
    · rintro ⟨j, _, same, used⟩
      obtain rfl := valid.member_injective (here.symm.trans same)
      simpa [List.getElem?_set, valid.length, inside] using used
    · rintro rfl
      exact ⟨i, inside, here, by simp [valid.length, inside]⟩
  · rw [if_neg here]
    apply exists_congr
    intro j
    apply and_congr_right
    intro _
    apply and_congr_right
    rintro rfl
    have away : i ≠ j := by
      rintro rfl
      exact here rfl
    simp [List.getElem?_set_ne away]

end Valid

end HydraPool

section Operations

variable {pool : HydraPool}

/-- The search stops at the first member that is not in use. -/
theorem searchMember_spec (poolManager : List Bool) (candidates : List Nat)
    (inside : ∀ i ∈ candidates, i < poolManager.length) :
    ∃ found, searchMember poolManager candidates = some found ∧
      (∀ i, found = some i → i ∈ candidates ∧ poolManager[i]? = some false) ∧
      (found = none → ∀ i ∈ candidates, poolManager[i]? = some true) := by
  induction candidates with
  | nil => exact ⟨none, rfl, by simp, by simp⟩
  | cons i rest ih =>
      obtain ⟨head, tail⟩ := List.forall_mem_cons.mp inside
      obtain ⟨found, search, taken, missed⟩ := ih tail
      unfold searchMember
      rw [List.getElem?_eq_getElem head]
      dsimp only [Option.bind_eq_bind, Option.bind_some]
      cases inUse : poolManager[i] with
      | false =>
          refine ⟨some i, rfl, ?_, by simp⟩
          rintro j ⟨rfl⟩
          exact ⟨List.mem_cons_self .., by rw [List.getElem?_eq_getElem head, inUse]⟩
      | true =>
          refine ⟨found, search, ?_, ?_⟩
          · intro j foundHere
            exact ⟨List.mem_cons_of_mem _ (taken j foundHere).1, (taken j foundHere).2⟩
          · intro foundNone
            refine List.forall_mem_cons.mpr ⟨?_, missed foundNone⟩
            rw [List.getElem?_eq_getElem head, inUse]

/-- `hydra_pool_get` hands out a member that was not in use, or `NULL` if there is none. -/
theorem hydraPoolGet_spec (valid : pool.Valid) :
    ∃ ret after, hydraPoolGet pool = some (ret, after) ∧ after.Valid ∧
      ((ret = 0 ∧ after = pool ∧ ¬ pool.HasFree) ∨
        (ret ≠ 0 ∧ pool.HasFree ∧ ¬ pool.Used ret ∧
          ∀ ptr, after.Used ptr ↔ pool.Used ptr ∨ ptr = ret)) := by
  obtain ⟨found, search, taken, missed⟩ := searchMember_spec pool.poolManager
    (List.range pool.size) (by intro i member; rw [valid.length]; exact List.mem_range.mp member)
  unfold hydraPoolGet
  rw [search]
  dsimp only [Option.bind_eq_bind, Option.bind_some]
  cases found with
  | none =>
      refine ⟨0, pool, rfl, valid, .inl ⟨rfl, rfl, ?_⟩⟩
      rintro ⟨i, inside, free⟩
      have used := missed rfl i (List.mem_range.mpr inside)
      rw [free] at used
      cases used
  | some i =>
      obtain ⟨candidate, free⟩ := taken i rfl
      have inside := List.mem_range.mp candidate
      have narrow : u32 (pool.poolMembers + i * pool.typeSize) = pool.member i :=
        u32_of_lt (valid.member_lt inside)
      have unused : ¬ pool.Used (pool.member i) := by
        rintro ⟨j, _, same, used⟩
        rw [← valid.member_injective same, free] at used
        cases used
      refine ⟨pool.member i, _, congrArg (fun ret => some (ret, _)) narrow, valid.set i true,
        .inr ⟨valid.member_ne_zero i, ⟨i, inside, free⟩, unused, ?_⟩⟩
      intro ptr
      rw [HydraPool.used_set valid inside]
      by_cases here : ptr = pool.member i
      · simp [here]
      · simp [here]

/-- `hydra_pool_free` takes back a member that is in use. -/
theorem hydraPoolFree_spec (valid : pool.Valid) {ptr : Nat} (used : pool.Used ptr) :
    ∃ after, hydraPoolFree pool ptr = some after ∧ after.Valid ∧
      ∀ other, after.Used other ↔ pool.Used other ∧ other ≠ ptr := by
  obtain ⟨i, inside, rfl, inUse⟩ := used
  have small := valid.member_lt inside
  have index : u16 (u32 (pool.member i + 4294967296 - pool.poolMembers) / pool.typeSize) = i := by
    have ending := valid.members_end
    have offset : i * pool.typeSize ≤ pool.size * pool.typeSize :=
      Nat.mul_le_mul_right _ inside.le
    have wide : pool.member i + 4294967296 - pool.poolMembers =
        i * pool.typeSize + 4294967296 := by
      unfold HydraPool.member
      omega
    have narrow : u32 (i * pool.typeSize + 4294967296) = i * pool.typeSize := by
      rw [u32, Nat.add_mod_right, Nat.mod_eq_of_lt (by omega)]
    rw [wide, narrow, Nat.mul_div_cancel _ valid.typeSize_pos]
    exact u16_of_lt (Nat.lt_trans inside valid.size_lt)
  unfold hydraPoolFree
  dsimp only
  rw [index, if_neg (Nat.not_le.mpr inside), inUse]
  refine ⟨_, rfl, valid.set i false, ?_⟩
  intro other
  rw [HydraPool.used_set valid inside]
  by_cases here : other = pool.member i
  · simp [here]
  · simp [here]

/-- Exactly the members in `ptrs` are handed out. -/
structure HydraPool.OwnedBy (pool : HydraPool) (ptrs : List Nat) : Prop where
  valid : pool.Valid
  distinct : ptrs.Nodup
  used_iff : ∀ ptr, pool.Used ptr ↔ ptr ∈ ptrs

theorem HydraPool.OwnedBy.perm {ptrs others : List Nat} (owned : pool.OwnedBy ptrs)
    (same : ptrs.Perm others) : pool.OwnedBy others :=
  ⟨owned.valid, same.nodup_iff.mp owned.distinct, fun ptr => by
    rw [owned.used_iff, same.mem_iff]⟩

theorem HydraPool.OwnedBy.clean (valid : pool.Valid) : (hydraPoolClean pool).OwnedBy [] :=
  ⟨valid.clean, List.nodup_nil, fun ptr => by simpa using HydraPool.not_used_clean pool ptr⟩

theorem HydraPool.OwnedBy.get {ptrs : List Nat} (owned : pool.OwnedBy ptrs) :
    ∃ ret after, hydraPoolGet pool = some (ret, after) ∧
      ((ret = 0 ∧ after = pool ∧ ¬ pool.HasFree) ∨
        (ret ≠ 0 ∧ pool.HasFree ∧ ret ∉ ptrs ∧ after.OwnedBy (ret :: ptrs))) := by
  obtain ⟨ret, after, call, valid, none | ⟨nonNull, free, unused, used⟩⟩ :=
    hydraPoolGet_spec owned.valid
  · exact ⟨ret, after, call, .inl none⟩
  · have fresh : ret ∉ ptrs := mt (owned.used_iff ret).mpr unused
    refine ⟨ret, after, call, .inr ⟨nonNull, free, fresh, valid, ?_, ?_⟩⟩
    · exact List.nodup_cons.mpr ⟨fresh, owned.distinct⟩
    · intro ptr
      rw [used, owned.used_iff, List.mem_cons, or_comm]

theorem HydraPool.OwnedBy.free {ptr : Nat} {ptrs : List Nat} (owned : pool.OwnedBy (ptr :: ptrs)) :
    ∃ after, hydraPoolFree pool ptr = some after ∧ after.OwnedBy ptrs := by
  have used : pool.Used ptr := (owned.used_iff ptr).mpr (List.mem_cons_self ..)
  obtain ⟨after, call, valid, usedAfter⟩ := hydraPoolFree_spec owned.valid used
  obtain ⟨fresh, distinct⟩ := List.nodup_cons.mp owned.distinct
  refine ⟨after, call, valid, distinct, ?_⟩
  intro other
  rw [usedAfter, owned.used_iff, List.mem_cons]
  constructor
  · rintro ⟨rfl | member, away⟩
    · exact absurd rfl away
    · exact member
  · intro member
    exact ⟨.inr member, fun same => fresh (same ▸ member)⟩

end Operations

end WchCh56x.Memory
