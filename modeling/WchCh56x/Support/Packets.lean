import Mathlib.Tactic

/-!
# Buffers in packets

A buffer goes out in packets of one size and a last one with the rest.  An empty
buffer is one empty packet.  A sender has its packets one after the other, until it
has none.
-/

namespace WchCh56x.Support.Packets

variable {packetSize : Nat} (size : Nat)

variable (packetSize) in
def packetCount : Nat := max 1 ((size + packetSize - 1) / packetSize)

variable (packetSize) in
def packetLength (index : Nat) : Nat := min packetSize (size - index * packetSize)

variable (packetSize) in
theorem packetCount_pos : 0 < packetCount packetSize size := le_max_left 1 _

section Count

variable (positive : 0 < packetSize)
include positive

variable {size} in
theorem lt_packetCount_iff {index : Nat} (later : index ≠ 0) :
    index < packetCount packetSize size ↔ index * packetSize < size := by
  rw [packetCount, lt_max_iff, Nat.lt_div_iff_mul_lt positive]
  constructor
  · rintro (first | inside)
    · omega
    · omega
  · intro inside
    right
    omega

theorem size_le_packetCount_mul : size ≤ packetCount packetSize size * packetSize := by
  apply Nat.le_of_not_lt
  intro inside
  have later := (packetCount_pos packetSize size).ne'
  exact absurd ((lt_packetCount_iff positive later).mpr inside) (Nat.lt_irrefl _)

variable {size} in
theorem packetCount_le {bound : Nat} (room : 0 < bound) (fits : size ≤ packetSize * bound) :
    packetCount packetSize size ≤ bound := by
  apply Nat.le_of_not_lt
  intro more
  have inside := (lt_packetCount_iff positive room.ne').mp more
  rw [Nat.mul_comm] at inside
  exact absurd fits (Nat.not_le.mpr inside)

/-- The full packets, and one more unless they are the whole buffer. -/
theorem packetCount_eq :
    packetCount packetSize size =
      size / packetSize + if 0 < size / packetSize ∧ size % packetSize = 0 then 0 else 1 := by
  have division := Nat.div_add_mod' size packetSize
  have rest_lt := Nat.mod_lt size positive
  apply le_antisymm
  · split
    · next whole =>
        refine packetCount_le positive whole.1 ?_
        rw [Nat.add_zero, Nat.mul_comm]
        omega
    · refine packetCount_le positive (Nat.succ_pos _) ?_
      rw [Nat.mul_comm, Nat.succ_mul]
      omega
  · split
    · next whole =>
        apply Nat.le_of_not_lt
        intro fewer
        have outside := size_le_packetCount_mul size positive
        have step := Nat.mul_le_mul_right packetSize fewer
        rw [Nat.add_zero, Nat.succ_mul] at step
        omega
    · next notWhole =>
        by_cases short : size / packetSize = 0
        · rw [short]
          exact packetCount_pos packetSize size
        · refine (lt_packetCount_iff positive short).mpr ?_
          have rest : size % packetSize ≠ 0 := fun none =>
            notWhole ⟨Nat.pos_of_ne_zero short, none⟩
          omega

end Count

/-- If the buffer is one packet or whole packets, all packets are as long as the first one. -/
theorem packetLength_of_even {packetSize size index : Nat} (positive : 0 < packetSize)
    (even : size ≤ packetSize ∨ packetSize ∣ size) (inside : index < packetCount packetSize size) :
    packetLength packetSize size index = min size packetSize := by
  unfold packetLength
  by_cases first : index = 0
  · rw [first, Nat.zero_mul, Nat.sub_zero, Nat.min_comm]
  have within := (lt_packetCount_iff positive first).mp inside
  rcases even with short | ⟨count, rfl⟩
  · have packets := Nat.le_mul_of_pos_left packetSize (Nat.pos_of_ne_zero first)
    omega
  · rw [Nat.mul_comm packetSize count] at within ⊢
    have next := Nat.mul_le_mul_right packetSize (Nat.lt_of_mul_lt_mul_right within)
    rw [Nat.succ_mul] at next
    omega

/-- What the first packets hold. -/
theorem sum_packetLength (packetSize size sent : Nat) :
    ((List.range sent).map (packetLength packetSize size)).sum = min size (sent * packetSize) := by
  induction sent with
  | zero => simp
  | succ sent ih =>
      rw [List.range_succ, List.map_append, List.sum_append, ih, Nat.succ_mul]
      simp only [List.map_cons, List.map_nil, List.sum_cons, List.sum_nil, packetLength]
      omega

/-- The first packets hold the first bytes, in order. -/
theorem flatten_packets {α : Type} (packetSize size : Nat) (bytes : Nat → α) (sent : Nat) :
    ((List.range sent).map fun index => (List.range (packetLength packetSize size index)).map
      fun offset => bytes (index * packetSize + offset)).flatten =
      (List.range (min size (sent * packetSize))).map bytes := by
  induction sent with
  | zero => rw [Nat.zero_mul, Nat.min_zero, List.range_zero, List.map_nil, List.flatten_nil, List.map_nil]
  | succ sent ih =>
      rw [List.range_succ, List.map_append, List.flatten_append, ih, List.map_singleton,
        List.flatten_singleton, Nat.succ_mul, packetLength]
      by_cases more : sent * packetSize ≤ size
      · have next : min size (sent * packetSize + packetSize) =
            sent * packetSize + min packetSize (size - sent * packetSize) := by omega
        rw [Nat.min_eq_right more, next, List.range_add, List.map_append, List.map_map]
        rfl
      · have all : size ≤ sent * packetSize := Nat.le_of_not_le more
        rw [Nat.sub_eq_zero_of_le all, Nat.min_zero, List.range_zero, List.map_nil,
          List.append_nil, Nat.min_eq_left all, Nat.min_eq_left (all.trans (Nat.le_add_right _ _))]

/-! ## Senders -/

section Sender

variable {α : Type} (armed : Nat → Option (List α))

/-- The sender has the first packets. -/
def Sends (packets : Nat) : Prop := ∀ index < packets, (armed index).isSome

/-- What the first packets hold. -/
def payload (packets : Nat) : List α :=
  (List.range packets).flatMap fun index => (armed index).getD []

/-- The packets hold no more than `bound` altogether. -/
def SendsWithin (bound : Nat) : Prop :=
  ∀ packets, Sends armed packets → (payload armed packets).length ≤ bound

/-- The packets hold `bytes` altogether. -/
structure Delivers (bytes : List α) : Prop where
  complete : ∃ packets, Sends armed packets ∧ payload armed packets = bytes
  nothingElse : ∀ packets, Sends armed packets → payload armed packets <+: bytes

variable {armed}

theorem length_payload {lengths : Nat → Nat} {packets : Nat}
    (packet : ∀ index < packets, ((armed index).getD []).length = lengths index) :
    (payload armed packets).length = ((List.range packets).map lengths).sum := by
  unfold payload
  rw [List.length_flatMap]
  exact congrArg List.sum (List.map_congr_left fun index inside =>
    packet index (List.mem_range.mp inside))

theorem sendsWithin_of_none (none : armed 0 = none) (bound : Nat) : SendsWithin armed bound := by
  intro packets sends
  cases packets with
  | zero => exact Nat.zero_le bound
  | succ packets =>
      have some := sends 0 (Nat.succ_pos packets)
      rw [none] at some
      cases some

/-- A sender of the packets of one buffer delivers the buffer. -/
theorem delivers_of_packets {size : Nat} {bytes : Nat → α}
    (packet : ∀ packets, Sends armed packets → ∀ index < packets, armed index =
      some ((List.range (packetLength packetSize size index)).map fun offset =>
        bytes (index * packetSize + offset)))
    (all : ∃ packets, Sends armed packets ∧ size ≤ packets * packetSize) :
    Delivers armed ((List.range size).map bytes) := by
  have held {packets : Nat} (sends : Sends armed packets) : payload armed packets =
      (List.range (min size (packets * packetSize))).map bytes := by
    rw [← flatten_packets packetSize size bytes packets, payload, List.flatMap_def]
    refine congrArg List.flatten (List.map_congr_left fun index inside => ?_)
    rw [packet packets sends index (List.mem_range.mp inside), Option.getD_some]
  obtain ⟨packets, sends, whole⟩ := all
  refine ⟨⟨packets, sends, ?_⟩, fun packets sends => ?_⟩
  · rw [held sends, Nat.min_eq_left whole]
  · rw [held sends, Nat.min_comm, ← List.take_range]
    exact (List.take_prefix _ _).map bytes

end Sender

end WchCh56x.Support.Packets
