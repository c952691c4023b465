import WchCh56x.Memory.Pool

/-!
# Pointers that are not of the pool

`hydra_pool_free` turns any pointer into an index of 16 bits before it looks
whether the index is one of the pool.
-/

namespace WchCh56x.Memory

namespace HydraPool

def Outside (pool : HydraPool) (ptr : Nat) : Prop :=
  ptr < pool.poolMembers ∨ pool.poolMembers + pool.size * pool.typeSize ≤ ptr

/-- How far the pointer is above the member array, around the end of the address space. -/
def distance (pool : HydraPool) (ptr : Nat) : Nat :=
  (ptr + 4294967296 - pool.poolMembers) % 4294967296

/-- The pointer is a positive multiple of 65536 elements above a member in use, or into the
element there. -/
def Aliases (pool : HydraPool) (ptr : Nat) : Prop :=
  ∃ i turns, i < pool.size ∧ pool.poolManager[i]? = some true ∧ 0 < turns ∧
    (i + 65536 * turns) * pool.typeSize ≤ pool.distance ptr ∧
    pool.distance ptr < (i + 65536 * turns + 1) * pool.typeSize

variable {pool : HydraPool} {ptr : Nat}

/-- Around the end of the address space, a pointer outside is behind the last member. -/
theorem Valid.le_distance (valid : pool.Valid) (bounded : ptr < 4294967296)
    (outside : pool.Outside ptr) : pool.size * pool.typeSize ≤ pool.distance ptr := by
  have ending := valid.members_end
  unfold distance
  rcases outside with below | above <;> omega

/-- The element that a pointer outside is in has an index that the pool does not have. -/
theorem Valid.size_le_element (valid : pool.Valid) (bounded : ptr < 4294967296)
    (outside : pool.Outside ptr) : pool.size ≤ pool.distance ptr / pool.typeSize :=
  (Nat.le_div_iff_mul_le valid.typeSize_pos).mpr (valid.le_distance bounded outside)

/-- The element of an alias, cut to 16 bits, is the member. -/
theorem aliases_iff (valid : pool.Valid) (bounded : ptr < 4294967296)
    (outside : pool.Outside ptr) :
    pool.Aliases ptr ↔ u16 (pool.distance ptr / pool.typeSize) < pool.size ∧
      pool.poolManager[u16 (pool.distance ptr / pool.typeSize)]? = some true := by
  have small := valid.size_lt
  have far := valid.size_le_element bounded outside
  have element (index : Nat) : pool.distance ptr / pool.typeSize = index ↔
      index * pool.typeSize ≤ pool.distance ptr ∧
        pool.distance ptr < (index + 1) * pool.typeSize := by
    rw [Nat.div_eq_iff valid.typeSize_pos, Nat.add_mul, Nat.one_mul]
    have positive := valid.typeSize_pos
    omega
  constructor
  · rintro ⟨i, turns, inside, inUse, _, low, high⟩
    have narrow : u16 (pool.distance ptr / pool.typeSize) = i := by
      rw [(element _).mpr ⟨low, high⟩, u16]
      omega
    rw [narrow]
    exact ⟨inside, inUse⟩
  · rintro ⟨inside, inUse⟩
    unfold u16 at inside inUse
    have split := Nat.mod_add_div (pool.distance ptr / pool.typeSize) 65536
    obtain ⟨low, high⟩ := (element _).mp split.symm
    refine ⟨_, _, inside, inUse, ?_, low, high⟩
    -- the element is not the member itself, which is not outside
    omega

end HydraPool

/-- What `hydra_pool_free` does with any pointer, by the element that the pointer is in. -/
theorem hydraPoolFree_unchanged_iff {pool : HydraPool} (valid : pool.Valid) (ptr : Nat) :
    hydraPoolFree pool ptr = some pool ↔
      ¬ (u16 (pool.distance ptr / pool.typeSize) < pool.size ∧
        pool.poolManager[u16 (pool.distance ptr / pool.typeSize)]? = some true) := by
  unfold hydraPoolFree
  dsimp only
  rw [u32, ← HydraPool.distance]
  generalize u16 (pool.distance ptr / pool.typeSize) = i
  by_cases foreign : i ≥ pool.size
  · rw [if_pos foreign]
    simp [Nat.not_lt.mpr foreign]
  have inside : i < pool.poolManager.length := by
    rw [valid.length]
    omega
  rw [if_neg foreign, List.getElem?_eq_getElem inside]
  dsimp only [Option.bind_eq_bind, Option.bind_some]
  cases inUse : pool.poolManager[i] with
  | false => simp
  | true =>
      have cleared : pool.poolManager.set i false ≠ pool.poolManager := by
        intro same
        have there := congrArg (fun manager => manager[i]?) same
        rw [List.getElem?_set_self inside, List.getElem?_eq_getElem inside, inUse] at there
        cases there
      refine iff_of_false ?_ (not_not.mpr ⟨Nat.not_le.mp foreign, rfl⟩)
      intro same
      exact cleared (congrArg HydraPool.poolManager (Option.some.inj same))

/-- For every pool and every pointer outside its members, `hydra_pool_free` changes nothing exactly
if the pointer is not 65536 elements, or a multiple of that, above a member in use. -/
theorem free_ignores_foreign_iff {pool : HydraPool} (valid : pool.Valid) (ptr : U32)
    (outside : pool.Outside ptr.toNat) :
    hydraPoolFree pool ptr.toNat = some pool ↔ ¬ pool.Aliases ptr.toNat := by
  rw [hydraPoolFree_unchanged_iff valid, HydraPool.aliases_iff valid ptr.isLt outside]

/-- `NULL` and a pool of three words, four bytes above a multiple of 2^18. -/
theorem free_ignores_null_iff :
    hydraPoolFree ⟨536870916, [true, false, true], 3, 4⟩ 0 =
        some ⟨536870916, [true, false, true], 3, 4⟩ ↔
      ¬ HydraPool.Aliases ⟨536870916, [true, false, true], 3, 4⟩ 0 :=
  free_ignores_foreign_iff ⟨rfl, by decide, by decide, by decide, by decide⟩ 0
    (.inl (by decide))

/-- `NULL` takes back the first member of a pool of words at a multiple of 2^18. -/
theorem free_null_frees_a_member :
    HydraPool.Valid ⟨536870912, [true, false, true], 3, 4⟩ ∧
      HydraPool.Outside ⟨536870912, [true, false, true], 3, 4⟩ 0 ∧
      hydraPoolFree ⟨536870912, [true, false, true], 3, 4⟩ 0 =
        some ⟨536870912, [false, false, true], 3, 4⟩ ∧
      hydraPoolFree ⟨536870912, [true, false, true], 3, 4⟩ 0 ≠
        some ⟨536870912, [true, false, true], 3, 4⟩ :=
  ⟨⟨rfl, by decide, by decide, by decide, by decide⟩, .inl (by decide), by decide, by decide⟩

end WchCh56x.Memory
