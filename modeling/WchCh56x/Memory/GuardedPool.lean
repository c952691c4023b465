import WchCh56x.Memory.PoolRuns
import WchCh56x.Support.Preemption

/-!
# The object pool with its critical sections

The main program and interrupt handlers of any depth get and give back members.
Each call goes on step by step, and interrupts come wherever they are enabled.
-/

namespace WchCh56x.Memory

open Support Support.Preemption

/-- A call between two of its steps; `i` is the loop variable or the index of the member. -/
inductive PoolFrame where
  | search (i : Nat)
  | found (i : Nat)
  | release (ptr : Nat)
  | marked (i : Nat)
  | clean (i : Nat)

namespace PoolFrame

def start : PoolOp → PoolFrame
  | .get => .search 0
  | .free ptr => .release ptr
  | .clean => .clean 0

/-- The next step of a call; only `hydra_pool_get` has a result. -/
def advance (pool : HydraPool) : PoolFrame → Option (HydraPool × (PoolFrame ⊕ Nat))
  | .search i =>
      if i < pool.size then do
        let inUse ← pool.poolManager[i]?
        return (pool, .inl (if inUse then .search (i + 1) else .found i))
      else
        some (pool, .inr 0)
  | .found i =>
      some ({ pool with poolManager := pool.poolManager.set i true },
        .inr (u32 (pool.poolMembers + i * pool.typeSize)))
  | .release ptr =>
      let i := u16 (u32 (ptr + 4294967296 - pool.poolMembers) / pool.typeSize)
      if i ≥ pool.size then
        some (pool, .inr 0)
      else do
        let inUse ← pool.poolManager[i]?
        return (pool, if inUse then .inl (.marked i) else .inr 0)
  | .marked i => some ({ pool with poolManager := pool.poolManager.set i false }, .inr 0)
  | .clean i =>
      if i < pool.size then
        some ({ pool with poolManager := pool.poolManager.set i false }, .inl (.clean (i + 1)))
      else
        some (pool, .inr 0)

def machine : Machine HydraPool PoolOp PoolFrame Nat := ⟨start, advance⟩

def At (before : HydraPool) : PoolOp → HydraPool → PoolFrame → Prop
  | .get, pool, .search i =>
      pool = before ∧ i ≤ before.size ∧ ∀ j < i, before.poolManager[j]? = some true
  | .get, pool, .found i =>
      pool = before ∧ i < before.size ∧ before.poolManager[i]? = some false ∧
        ∀ j < i, before.poolManager[j]? = some true
  | .free ptr, pool, .release other => other = ptr ∧ pool = before
  | .free ptr, pool, .marked i =>
      i = u16 (u32 (ptr + 4294967296 - before.poolMembers) / before.typeSize) ∧ pool = before ∧
        i < before.size ∧ before.poolManager[i]? = some true
  | .clean, pool, .clean i =>
      i ≤ before.size ∧ pool = { before with
        poolManager := List.replicate i false ++ before.poolManager.drop i }
  | _, _, _ => False

variable {before pool : HydraPool} {op : PoolOp} {frame : PoolFrame}

section

variable {after : HydraPool} {next : PoolFrame}
  (advanced : advance pool frame = some (after, .inl next))
include advanced

theorem At.step_get (place : At before .get pool frame) : At before .get after next := by
  cases frame with
  | search i =>
      obtain ⟨rfl, le, used⟩ := place
      rw [advance] at advanced
      split at advanced
      · next inside =>
          obtain ⟨inUse, marked, same⟩ := Option.bind_eq_some_iff.mp advanced
          obtain ⟨rfl, next_eq⟩ := Prod.mk.inj (Option.some.inj same)
          obtain rfl := Sum.inl.inj next_eq
          cases inUse with
          | false => exact ⟨rfl, inside, marked, used⟩
          | true =>
              refine ⟨rfl, inside, fun j before => ?_⟩
              rcases Nat.lt_succ_iff_lt_or_eq.mp before with below | rfl
              · exact used j below
              · exact marked
      · nomatch (Prod.mk.inj (Option.some.inj advanced)).2
  | found i => nomatch (Prod.mk.inj (Option.some.inj advanced)).2
  | release ptr => exact place.elim
  | marked i => exact place.elim
  | clean i => exact place.elim

theorem At.step_free {ptr : Nat} (place : At before (.free ptr) pool frame) :
    At before (.free ptr) after next := by
  cases frame with
  | release other =>
      obtain ⟨rfl, rfl⟩ := place
      rw [advance] at advanced
      split at advanced
      · nomatch (Prod.mk.inj (Option.some.inj advanced)).2
      · next inside =>
          obtain ⟨inUse, marked, same⟩ := Option.bind_eq_some_iff.mp advanced
          obtain ⟨rfl, next_eq⟩ := Prod.mk.inj (Option.some.inj same)
          cases inUse with
          | false => nomatch next_eq
          | true =>
              obtain rfl := Sum.inl.inj next_eq
              exact ⟨rfl, rfl, Nat.lt_of_not_le inside, marked⟩
  | marked i => nomatch (Prod.mk.inj (Option.some.inj advanced)).2
  | search i => exact place.elim
  | found i => exact place.elim
  | clean i => exact place.elim

theorem At.step_clean (valid : before.Valid) (place : At before .clean pool frame) :
    At before .clean after next := by
  cases frame with
  | clean i =>
      obtain ⟨le, rfl⟩ := place
      rw [advance] at advanced
      dsimp only at advanced
      split at advanced
      · next inside =>
          obtain ⟨rfl, next_eq⟩ := Prod.mk.inj (Option.some.inj advanced)
          obtain rfl := Sum.inl.inj next_eq
          refine ⟨inside, ?_⟩
          have length : i < before.poolManager.length := by rw [valid.length]; exact inside
          rw [List.set_append_right _ _ (by rw [List.length_replicate]),
            List.length_replicate, Nat.sub_self, List.drop_eq_getElem_cons length,
            List.set_cons_zero, List.replicate_succ', List.append_assoc]
          rfl
      · nomatch (Prod.mk.inj (Option.some.inj advanced)).2
  | search i => exact place.elim
  | found i => exact place.elim
  | release ptr => exact place.elim
  | marked i => exact place.elim

end

theorem at_of_within (valid : before.Valid) (within : Within machine before op pool frame) :
    At before op pool frame := by
  induction within with
  | start =>
      cases op with
      | get => exact ⟨rfl, Nat.zero_le _, fun j before => absurd before (Nat.not_lt_zero j)⟩
      | free ptr => exact ⟨rfl, rfl⟩
      | clean => exact ⟨Nat.zero_le _, rfl⟩
  | step _ advanced place =>
      cases op with
      | get => exact place.step_get advanced
      | free ptr => exact place.step_free advanced
      | clean => exact place.step_clean advanced valid

/-- A call goes on to its end. -/
theorem advances (valid : before.Valid) (within : Within machine before op pool frame) :
    ∃ outcome, advance pool frame = some outcome := by
  have place := at_of_within valid within
  have found {i : Nat} (inside : i < before.size) : ∃ inUse, before.poolManager[i]? = some inUse :=
    ⟨_, List.getElem?_eq_getElem (valid.length.symm ▸ inside)⟩
  cases frame with
  | found i => exact ⟨_, rfl⟩
  | marked i => exact ⟨_, rfl⟩
  | clean i =>
      rw [advance]
      split
      · exact ⟨_, rfl⟩
      · exact ⟨_, rfl⟩
  | search i =>
      cases op with
      | free ptr => exact place.elim
      | clean => exact place.elim
      | get =>
          obtain ⟨rfl, _⟩ := place
          rw [advance]
          split
          · next inside =>
              obtain ⟨inUse, marked⟩ := found inside
              exact ⟨_, by rw [marked]; rfl⟩
          · exact ⟨_, rfl⟩
  | release ptr =>
      cases op with
      | get => exact place.elim
      | clean => exact place.elim
      | free other =>
          obtain ⟨rfl, rfl⟩ := place
          rw [advance]
          split
          · exact ⟨_, rfl⟩
          · next inside =>
              obtain ⟨inUse, marked⟩ := found (Nat.lt_of_not_le inside)
              exact ⟨_, by rw [marked]; rfl⟩

/-- What `hydra_pool_get` returns without interruption. -/
theorem get_of_returns (valid : before.Valid) {after : HydraPool} {ret : Nat}
    (returns : Returns machine before .get after ret) : hydraPoolGet before = some (ret, after) := by
  obtain ⟨pool, frame, within, advanced⟩ := returns
  have place := at_of_within valid within
  change advance pool frame = some (after, .inr ret) at advanced
  cases frame with
  | release ptr => exact place.elim
  | marked i => exact place.elim
  | clean i => exact place.elim
  | search i =>
      obtain ⟨rfl, le, used⟩ := place
      rw [advance] at advanced
      split at advanced
      · obtain ⟨inUse, _, same⟩ := Option.bind_eq_some_iff.mp advanced
        nomatch (Prod.mk.inj (Option.some.inj same)).2
      · next outside =>
          obtain ⟨rfl, same⟩ := Prod.mk.inj (Option.some.inj advanced)
          obtain rfl := Sum.inr.inj same
          obtain ⟨_, none⟩ | ⟨j, inside, free, _⟩ := hydraPoolGet_first valid
          · exact none
          · have taken := used j (by omega)
            exact absurd (Option.some.inj (free.symm.trans taken)) Bool.false_ne_true
  | found i =>
      obtain ⟨rfl, inside, free, used⟩ := place
      obtain ⟨rfl, same⟩ := Prod.mk.inj (Option.some.inj advanced)
      obtain rfl := Sum.inr.inj same
      have narrow : u32 (pool.poolMembers + i * pool.typeSize) = pool.member i :=
        u32_of_lt (valid.member_lt inside)
      obtain ⟨none, _⟩ | ⟨j, _, freeThere, usedBelow, got⟩ := hydraPoolGet_first valid
      · exact absurd ⟨i, inside, free⟩ none
      · -- both are the first free member
        have same : i = j := by
          rcases Nat.lt_trichotomy i j with below | same | above
          · exact absurd (Option.some.inj (free.symm.trans (usedBelow i below))) Bool.false_ne_true
          · exact same
          · exact absurd (Option.some.inj (freeThere.symm.trans (used j above))) Bool.false_ne_true
        rw [narrow, same]
        exact got

theorem free_of_returns (valid : before.Valid) {after : HydraPool} {ptr ret : Nat}
    (returns : Returns machine before (.free ptr) after ret) :
    hydraPoolFree before ptr = some after := by
  obtain ⟨pool, frame, within, advanced⟩ := returns
  have place := at_of_within valid within
  change advance pool frame = some (after, .inr ret) at advanced
  unfold hydraPoolFree
  dsimp only
  cases frame with
  | search i => exact place.elim
  | found i => exact place.elim
  | clean i => exact place.elim
  | release other =>
      obtain ⟨rfl, rfl⟩ := place
      rw [advance] at advanced
      split at advanced
      · next outside =>
          obtain ⟨rfl, _⟩ := Prod.mk.inj (Option.some.inj advanced)
          exact if_pos outside
      · next inside =>
          obtain ⟨inUse, marked, same⟩ := Option.bind_eq_some_iff.mp advanced
          obtain ⟨rfl, outcome⟩ := Prod.mk.inj (Option.some.inj same)
          rw [if_neg inside, marked]
          cases inUse with
          | true => nomatch outcome
          | false => rfl
  | marked i =>
      obtain ⟨rfl, rfl, inside, marked⟩ := place
      obtain ⟨rfl, _⟩ := Prod.mk.inj (Option.some.inj advanced)
      rw [if_neg (Nat.not_le.mpr inside), marked]
      rfl

theorem clean_of_returns (valid : before.Valid) {after : HydraPool} {ret : Nat}
    (returns : Returns machine before .clean after ret) : after = hydraPoolClean before := by
  obtain ⟨pool, frame, within, advanced⟩ := returns
  have place := at_of_within valid within
  change advance pool frame = some (after, .inr ret) at advanced
  cases frame with
  | search i => exact place.elim
  | found i => exact place.elim
  | release ptr => exact place.elim
  | marked i => exact place.elim
  | clean i =>
      obtain ⟨le, rfl⟩ := place
      rw [advance] at advanced
      dsimp only at advanced
      split at advanced
      · nomatch (Prod.mk.inj (Option.some.inj advanced)).2
      · next outside =>
          obtain ⟨rfl, _⟩ := Prod.mk.inj (Option.some.inj advanced)
          have all : i = before.size := by omega
          rw [hydraPoolClean, all, List.drop_of_length_le valid.length.le, List.append_nil]

end PoolFrame

namespace PoolLayout

def heldAfter (held : List Nat) (call : PoolOp × Nat) : List Nat :=
  match call.1 with
  | .get => if call.2 = 0 then held else call.2 :: held
  | .free ptr => held.erase ptr
  | .clean => []

/-- The members that the calls have handed out and not taken back. -/
def heldBy (calls : List (PoolOp × Nat)) : List Nat := calls.foldl heldAfter []

def GivesBack (calls : List (PoolOp × Nat)) : PoolOp → Prop
  | .get | .clean => True
  | .free ptr => ptr ∈ heldBy calls

instance (calls : List (PoolOp × Nat)) : (op : PoolOp) → Decidable (GivesBack calls op)
  | .get | .clean => inferInstanceAs (Decidable True)
  | .free _ => inferInstanceAs (Decidable (_ ∈ _))

theorem holds_keeps (layout : PoolLayout) :
    Keeps PoolFrame.machine GivesBack fun calls pool => layout.Holds ⟨pool, heldBy calls⟩ where
  advances := fun _ _ _ _ _ holds _ within => PoolFrame.advances holds.owned.valid within
  returns := by
    intro calls before op after ret holds given returns
    have valid := holds.owned.valid
    have after_eq : heldBy (calls ++ [(op, ret)]) = heldAfter (heldBy calls) (op, ret) :=
      List.foldl_append ..
    rw [after_eq]
    cases op with
    | get =>
        obtain ⟨next, stepped, holdsNext⟩ := holds.step_get
        rw [PoolSession.step, PoolFrame.get_of_returns valid returns] at stepped
        obtain rfl := Option.some.inj stepped
        exact holdsNext
    | free ptr =>
        obtain ⟨next, stepped, holdsNext⟩ := holds.step_free given
        rw [PoolSession.step, PoolFrame.free_of_returns valid returns] at stepped
        obtain rfl := Option.some.inj stepped
        exact holdsNext
    | clean =>
        obtain ⟨next, stepped, holdsNext⟩ := holds.step_clean
        obtain rfl := Option.some.inj stepped
        rw [PoolFrame.clean_of_returns valid returns]
        exact holdsNext

/-- The members that the calls which have returned left in somebody's hands are apart, and outside
of all calls exactly they are marked and the next one handed out is the first of the others. -/
def HandsOutOnce (layout : PoolLayout) (core : Core HydraPool PoolOp PoolFrame Nat) : Prop :=
  ∃ pool, layout.KeepsApart ⟨pool, heldBy core.returned⟩ ∧ (core.Outside → core.shared = pool)

/-- With its critical sections the pool can be used by the main program and by nested interrupt
handlers: wherever interrupts come, no member is handed out while somebody holds it. -/
theorem protected_pool_hands_out_once (layout : PoolLayout) {acts : List (Act PoolOp)}
    (every : Runs.EveryStep (Core.step PoolFrame.machine) (Core.Admits GivesBack)
      (Core.initial layout.start.pool) acts) :
    Runs.Always (Core.step PoolFrame.machine) layout.HandsOutOnce
      (Core.initial layout.start.pool) acts := by
  refine (always_atomic layout.holds_keeps layout.holds_start every).imp ?_
  rintro core ⟨before, holds, stands⟩
  exact ⟨before, holds.keepsApart, fun outside => stands.shared_eq outside⟩

/-- An interrupt that comes during the search waits; then the handler gets the second member and
gives it back. -/
theorem second_member_to_a_handler :
    Runs.Always (Core.step PoolFrame.machine) twentyMembers.HandsOutOnce
      (Core.initial twentyMembers.start.pool)
      [.call .get, .interrupt, .advance, .advance, .interrupt, .call .get, .advance, .advance,
        .advance, .call (.free 0x20021002), .advance, .advance, .leave] :=
  twentyMembers.protected_pool_hands_out_once (by decide)

end PoolLayout

end WchCh56x.Memory
