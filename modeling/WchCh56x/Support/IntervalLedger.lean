import Mathlib.Tactic

/-!
# Ledgers of disjoint shared intervals

An account of which index intervals are handed out and how many owners each
has.  An interval is granted with one owner, gains owners by sharing and leaves
the account when its last owner releases it.
-/

namespace WchCh56x.Support

structure Interval where
  start : Nat
  length : Nat
  owners : Nat
  deriving DecidableEq, Repr

namespace Interval

def finish (interval : Interval) : Nat := interval.start + interval.length

def Covers (interval : Interval) (index : Nat) : Prop :=
  interval.start ≤ index ∧ index < interval.finish

/-- Two intervals do not overlap. -/
def Apart (first second : Interval) : Prop :=
  first.finish ≤ second.start ∨ second.finish ≤ first.start

theorem Apart.symm {first second : Interval} (apart : first.Apart second) :
    second.Apart first := Or.symm apart

instance : Std.Symm Apart := ⟨fun _ _ => Apart.symm⟩

theorem Apart.not_covers {first second : Interval} (apart : first.Apart second) {index : Nat}
    (inside : first.Covers index) : ¬ second.Covers index := by
  intro other
  obtain ⟨low, high⟩ := inside
  obtain ⟨otherLow, otherHigh⟩ := other
  rcases apart with below | above <;> omega

end Interval

/-- The intervals handed out, with their owner counts. -/
abbrev Ledger := List Interval

namespace Ledger

/-- A ledger over `bound` indices: the intervals are nonempty, inside and apart,
and each has an owner. -/
structure Valid (bound : Nat) (ledger : Ledger) : Prop where
  apart : ledger.Pairwise Interval.Apart
  nonempty : ∀ interval ∈ ledger, 0 < interval.length
  inside : ∀ interval ∈ ledger, interval.finish ≤ bound
  owned : ∀ interval ∈ ledger, 0 < interval.owners

def Free (ledger : Ledger) (index : Nat) : Prop :=
  ∀ interval ∈ ledger, ¬ interval.Covers index

def total (ledger : Ledger) : Nat := (ledger.map Interval.length).sum

def grant (ledger : Ledger) (start length : Nat) : Ledger := ⟨start, length, 1⟩ :: ledger

/-- One more owner for the interval that starts at `start`. -/
def share (ledger : Ledger) (start : Nat) : Ledger :=
  ledger.map fun interval =>
    if interval.start = start then { interval with owners := interval.owners + 1 } else interval

/-- One owner less for the interval that starts at `start`; without owners it leaves. -/
def release (ledger : Ledger) (start : Nat) : Ledger :=
  ledger.filterMap fun interval =>
    if interval.start = start then
      if interval.owners ≤ 1 then none
      else some { interval with owners := interval.owners - 1 }
    else some interval

theorem Valid.nil (bound : Nat) : Valid bound [] :=
  ⟨.nil, by simp, by simp, by simp⟩

theorem mem_share {ledger : Ledger} {start : Nat} {shared : Interval} :
    shared ∈ ledger.share start ↔ ∃ interval ∈ ledger,
      (if interval.start = start then { interval with owners := interval.owners + 1 }
        else interval) = shared :=
  List.mem_map

theorem mem_release {ledger : Ledger} {start : Nat} {kept : Interval} :
    kept ∈ ledger.release start ↔ ∃ interval ∈ ledger,
      (interval.start ≠ start ∧ interval = kept) ∨
        (interval.start = start ∧ 1 < interval.owners ∧
          { interval with owners := interval.owners - 1 } = kept) := by
  simp only [release, List.mem_filterMap]
  apply exists_congr
  intro interval
  apply and_congr_right
  intro _
  by_cases here : interval.start = start
  · by_cases last : interval.owners ≤ 1
    · simp [here, last]
    · simp [here, last, Nat.not_le.mp last]
  · simp [here]

theorem total_append (before after : Ledger) :
    total (before ++ after) = total before + total after := by
  simp [total]

theorem total_cons (interval : Interval) (rest : Ledger) :
    total (interval :: rest) = interval.length + total rest := by
  simp [total]

theorem release_append (before after : Ledger) (start : Nat) :
    release (before ++ after) start = release before start ++ release after start :=
  List.filterMap_append

theorem total_share (ledger : Ledger) (start : Nat) :
    (ledger.share start).total = ledger.total := by
  unfold total share
  rw [List.map_map]
  congr 1
  apply List.map_congr_left
  intro interval _
  simp only [Function.comp_apply]
  split <;> rfl

section Absent

variable {ledger : Ledger} {start : Nat}

theorem share_absent (absent : ∀ interval ∈ ledger, interval.start ≠ start) :
    ledger.share start = ledger := by
  unfold share
  have kept : ∀ interval ∈ ledger, (if interval.start = start then
      { interval with owners := interval.owners + 1 } else interval) = id interval := by
    intro interval member
    simp [absent interval member]
  rw [List.map_congr_left kept, List.map_id]

theorem release_absent (absent : ∀ interval ∈ ledger, interval.start ≠ start) :
    ledger.release start = ledger := by
  unfold release
  have kept : ∀ interval ∈ ledger, (if interval.start = start then
      if interval.owners ≤ 1 then none
      else some { interval with owners := interval.owners - 1 }
    else some interval) = some interval := by
    intro interval member
    simp [absent interval member]
  rw [List.filterMap_congr kept, List.filterMap_some]

end Absent

section Valid

variable {bound : Nat} {ledger : Ledger}

theorem Valid.tail {interval : Interval} (valid : Valid bound (interval :: ledger)) :
    Valid bound ledger :=
  ⟨valid.apart.of_cons, fun other member => valid.nonempty other (List.mem_cons_of_mem _ member),
    fun other member => valid.inside other (List.mem_cons_of_mem _ member),
    fun other member => valid.owned other (List.mem_cons_of_mem _ member)⟩

theorem Valid.covers_start (valid : Valid bound ledger) {interval : Interval}
    (member : interval ∈ ledger) : interval.Covers interval.start := by
  have positive := valid.nonempty interval member
  exact ⟨Nat.le_refl _, by unfold Interval.finish; omega⟩

/-- An index is covered by at most one interval. -/
theorem Valid.unique (valid : Valid bound ledger) {first second : Interval} {index : Nat}
    (firstMember : first ∈ ledger) (secondMember : second ∈ ledger)
    (firstCovers : first.Covers index) (secondCovers : second.Covers index) :
    first = second := by
  by_contra different
  have apart : first.Apart second :=
    valid.apart.forall firstMember secondMember different
  exact apart.not_covers firstCovers secondCovers

theorem Valid.unique_start (valid : Valid bound ledger) {first second : Interval}
    (firstMember : first ∈ ledger) (secondMember : second ∈ ledger)
    (same : first.start = second.start) : first = second :=
  valid.unique firstMember secondMember (valid.covers_start firstMember)
    (same ▸ valid.covers_start secondMember)

/-- The one interval with a given start splits the ledger. -/
theorem Valid.split (valid : Valid bound ledger) {interval : Interval}
    (member : interval ∈ ledger) :
    ∃ before after, ledger = before ++ interval :: after ∧
      (∀ other ∈ before, other.start ≠ interval.start) ∧
      (∀ other ∈ after, other.start ≠ interval.start) := by
  obtain ⟨before, after, rfl⟩ := List.append_of_mem member
  have apart := List.pairwise_append.mp valid.apart
  have positive := valid.nonempty interval member
  refine ⟨before, after, rfl, ?_, ?_⟩
  · intro other otherMember same
    have positiveOther := valid.nonempty other (List.mem_append_left _ otherMember)
    have separate := apart.2.2 other otherMember interval (List.mem_cons_self ..)
    simp only [Interval.Apart, Interval.finish] at separate
    omega
  · intro other otherMember same
    have positiveOther := valid.nonempty other
      (List.mem_append_right _ (List.mem_cons_of_mem _ otherMember))
    have separate := (List.pairwise_cons.mp apart.2.1).1 other otherMember
    simp only [Interval.Apart, Interval.finish] at separate
    omega

theorem Valid.grant (valid : Valid bound ledger) {start length : Nat} (positive : 0 < length)
    (inside : start + length ≤ bound)
    (free : ∀ index, start ≤ index → index < start + length → Free ledger index) :
    Valid bound (ledger.grant start length) := by
  refine ⟨List.pairwise_cons.mpr ⟨?_, valid.apart⟩, ?_, ?_, ?_⟩
  · intro other member
    have otherPositive := valid.nonempty other member
    by_contra overlapping
    simp only [Interval.Apart, Interval.finish, not_or, Nat.not_le] at overlapping
    -- the larger of the two starts lies in both intervals
    have notCovered := free (max start other.start) (by omega) (by omega) other member
    exact notCovered ⟨by omega, by unfold Interval.finish; omega⟩
  · simpa [Ledger.grant, positive] using valid.nonempty
  · simpa [Ledger.grant, Interval.finish, inside] using valid.inside
  · simpa [Ledger.grant] using valid.owned

theorem Valid.share (valid : Valid bound ledger) (start : Nat) :
    Valid bound (ledger.share start) := by
  refine ⟨?_, ?_, ?_, ?_⟩
  · refine List.pairwise_map.mpr (valid.apart.imp ?_)
    intro first second apart
    split <;> split <;> exact apart
  all_goals
    intro shared sharedMember
    obtain ⟨interval, member, rfl⟩ := mem_share.mp sharedMember
  · split <;> exact valid.nonempty interval member
  · split <;> exact valid.inside interval member
  · split
    · exact Nat.succ_pos _
    · exact valid.owned interval member

theorem release_apart {first second kept keptSecond : Interval} {start : Nat}
    (apart : first.Apart second) (firstKept : kept ∈ Ledger.release [first] start)
    (secondKept : keptSecond ∈ Ledger.release [second] start) : kept.Apart keptSecond := by
  obtain ⟨source, member, ⟨_, rfl⟩ | ⟨_, _, rfl⟩⟩ := mem_release.mp firstKept <;>
    obtain rfl := List.mem_singleton.mp member <;>
    obtain ⟨other, otherMember, ⟨_, rfl⟩ | ⟨_, _, rfl⟩⟩ := mem_release.mp secondKept <;>
    obtain rfl := List.mem_singleton.mp otherMember <;>
    exact apart

theorem Valid.release (valid : Valid bound ledger) (start : Nat) :
    Valid bound (ledger.release start) := by
  refine ⟨?_, ?_, ?_, ?_⟩
  · refine List.pairwise_filterMap.mpr (valid.apart.imp ?_)
    intro first second apart kept keptFirst keptSecond keptOther
    exact release_apart apart (List.mem_filterMap.mpr ⟨first, List.mem_cons_self .., keptFirst⟩)
      (List.mem_filterMap.mpr ⟨second, List.mem_cons_self .., keptOther⟩)
  all_goals
    intro kept keptMember
    obtain ⟨interval, member, ⟨_, rfl⟩ | ⟨_, several, rfl⟩⟩ := mem_release.mp keptMember
  · exact valid.nonempty interval member
  · exact valid.nonempty interval member
  · exact valid.inside interval member
  · exact valid.inside interval member
  · exact valid.owned interval member
  · exact Nat.sub_pos_of_lt several

/-- Releasing below the last owner keeps the total. -/
theorem Valid.total_release_shared (valid : Valid bound ledger) {interval : Interval}
    (member : interval ∈ ledger) (several : 1 < interval.owners) :
    (ledger.release interval.start).total = ledger.total := by
  obtain ⟨before, after, rfl, absentBefore, absentAfter⟩ := valid.split member
  have kept : Ledger.release [interval] interval.start =
      [{ interval with owners := interval.owners - 1 }] := by
    simp [Ledger.release, Nat.not_le.mpr several]
  rw [show before ++ interval :: after = before ++ ([interval] ++ after) from rfl,
    release_append, release_append, release_absent absentBefore, release_absent absentAfter, kept]
  simp [total_append, total_cons]

/-- The release by the last owner takes the whole length out of the total. -/
theorem Valid.total_release_last (valid : Valid bound ledger) {interval : Interval}
    (member : interval ∈ ledger) (last : interval.owners = 1) :
    (ledger.release interval.start).total + interval.length = ledger.total := by
  obtain ⟨before, after, rfl, absentBefore, absentAfter⟩ := valid.split member
  have gone : Ledger.release [interval] interval.start = [] := by
    simp [Ledger.release, last]
  rw [show before ++ interval :: after = before ++ ([interval] ++ after) from rfl,
    release_append, release_append, release_absent absentBefore, release_absent absentAfter, gone]
  simp only [List.nil_append, List.singleton_append, total_append, total_cons]
  omega

def covered : Ledger → Finset Nat
  | [] => ∅
  | interval :: rest => Finset.Ico interval.start interval.finish ∪ covered rest

theorem mem_covered {ledger : Ledger} {index : Nat} :
    index ∈ covered ledger ↔ ∃ interval ∈ ledger, interval.Covers index := by
  induction ledger with
  | nil => simp [covered]
  | cons interval rest ih => simp [covered, ih, Interval.Covers]

theorem Valid.card_covered (valid : Valid bound ledger) : (covered ledger).card = total ledger := by
  induction ledger with
  | nil => rfl
  | cons interval rest ih =>
      have disjoint : Disjoint (Finset.Ico interval.start interval.finish) (covered rest) := by
        rw [Finset.disjoint_left]
        intro index here there
        obtain ⟨other, member, covers⟩ := mem_covered.mp there
        have apart := (List.pairwise_cons.mp valid.apart).1 other member
        exact apart.not_covers (Finset.mem_Ico.mp here) covers
      rw [covered, Finset.card_union_of_disjoint disjoint, ih valid.tail, Nat.card_Ico, total_cons]
      unfold Interval.finish
      omega

theorem Valid.total_le (valid : Valid bound ledger) : total ledger ≤ bound := by
  have inside : covered ledger ⊆ Finset.range bound := by
    intro index member
    obtain ⟨interval, intervalMember, covers⟩ := mem_covered.mp member
    exact Finset.mem_range.mpr (Nat.lt_of_lt_of_le covers.2 (valid.inside interval intervalMember))
  rw [← valid.card_covered]
  simpa using Finset.card_le_card inside

end Valid

end Ledger

end WchCh56x.Support
