import WchCh56x.Memory.Fifo

/-!
# The copies of the FIFO

`_fifo_read_n` and `_fifo_write_n` copy the elements up to the end of the array and then those
from its start, and store the length of each `memcpy` in a `uint16_t`.
-/

namespace WchCh56x.Memory

open Support.RingBuffer

/-! ## The copies of a call -/

/-- A `memcpy` between the array and the caller's buffer: its place in both, the elements it is
for, and its length. -/
structure FifoCopy where
  arrayOffset : Nat
  callerOffset : Nat
  count : Nat
  bytes : Nat
  deriving DecidableEq, Repr

def fifoCopy (fifo : HydraFifo) (slot callerOffset count : Nat) : FifoCopy :=
  ⟨slot * fifo.typeSize, callerOffset, count, u16 (count * fifo.typeSize)⟩

def fifoReadNCopies (fifo : HydraFifo) (n rdIdx wrIdx : Nat) : List FifoCopy :=
  if rdIdx = wrIdx ∨ n > fifoGetCount rdIdx wrIdx fifo.size then
    []
  else if wrIdx > rdIdx then
    [fifoCopy fifo (rdIdx + 1) 0 (u16 (min n (wrIdx - rdIdx)))]
  else
    let linearCount := u16 (min n (fifo.size - 1 - rdIdx))
    let linear := fifoCopy fifo (rdIdx + 1) 0 linearCount
    if n > linearCount then
      [linear, fifoCopy fifo 0 linear.bytes (u16 (min (wrIdx + 1) (n - linearCount)))]
    else
      [linear]

def fifoWriteNCopies (fifo : HydraFifo) (n rdIdx wrIdx : Nat) : List FifoCopy :=
  let freeSpace := fifoGetFreeSpace rdIdx wrIdx fifo.size
  if freeSpace < n then
    []
  else if rdIdx > wrIdx then
    [fifoCopy fifo (wrIdx + 1) 0 (u16 (min freeSpace n))]
  else
    let linearCount := u16 (min (fifo.size - 1 - wrIdx) n)
    let linear := fifoCopy fifo (wrIdx + 1) 0 linearCount
    if n > linearCount then
      [linear, fifoCopy fifo 0 linear.bytes (u16 (min rdIdx (n - linearCount)))]
    else
      [linear]

def copiedCount (copies : List FifoCopy) : Nat :=
  u16 (copies.map FifoCopy.count).sum

def copiedBytes (copies : List FifoCopy) : Nat :=
  (copies.map FifoCopy.bytes).sum

def copiesFrom (array : List U8) : List FifoCopy → Option (List U8)
  | [] => some []
  | copy :: rest => do
      let first ← memcpyFrom array copy.arrayOffset copy.bytes
      let others ← copiesFrom array rest
      return first ++ others

def copiesInto (source array : List U8) : List FifoCopy → Option (List U8)
  | [] => some array
  | copy :: rest => do
      let data ← memcpyFrom source copy.callerOffset copy.bytes
      let array ← memcpyInto array copy.arrayOffset data
      copiesInto source array rest

theorem u16_u16 (value : Nat) : u16 (u16 value) = u16 value :=
  Nat.mod_mod value 65536

/-- `_fifo_read_n` makes these copies and no others, and returns their elements. -/
theorem fifoReadNAt_eq_copies (fifo : HydraFifo) (n rdIdx wrIdx : Nat) :
    fifoReadNAt fifo n rdIdx wrIdx =
      (copiesFrom fifo.buffer (fifoReadNCopies fifo n rdIdx wrIdx)).map fun bytes =>
        (copiedCount (fifoReadNCopies fifo n rdIdx wrIdx), bytes) := by
  unfold fifoReadNAt fifoReadNCopies
  dsimp only
  split
  · rfl
  split
  · simp [copiesFrom, copiedCount, fifoCopy, u16_u16, Option.map_eq_bind]
  split
  · simp [copiesFrom, copiedCount, fifoCopy, Option.map_eq_bind,
      Option.bind_assoc]
  · simp [copiesFrom, copiedCount, fifoCopy, u16_u16, Option.map_eq_bind]

/-- `_fifo_write_n` makes these copies and no others, and returns their elements. -/
theorem fifoWriteNAt_eq_copies (fifo : HydraFifo) (source : List U8) (n rdIdx wrIdx : Nat) :
    fifoWriteNAt fifo source n rdIdx wrIdx =
      (copiesInto source fifo.buffer (fifoWriteNCopies fifo n rdIdx wrIdx)).map fun buffer =>
        (copiedCount (fifoWriteNCopies fifo n rdIdx wrIdx), buffer) := by
  unfold fifoWriteNAt fifoWriteNCopies
  dsimp only
  split
  · rfl
  split
  · simp [copiesInto, copiedCount, fifoCopy, u16_u16, Option.map_eq_bind,
      Option.bind_assoc]
  split
  · simp [copiesInto, copiedCount, fifoCopy, Option.map_eq_bind,
      Option.bind_assoc]
  · simp [copiesInto, copiedCount, fifoCopy, u16_u16, Option.map_eq_bind,
      Option.bind_assoc]

/-! ## The two parts of a transfer -/

structure HydraFifo.InRange (fifo : HydraFifo) : Prop where
  sizeFits : fifo.size < 65536
  length : fifo.buffer.length = fifo.size * fifo.typeSize
  rdIdx_lt : fifo.rdIdx < fifo.size
  wrIdx_lt : fifo.wrIdx < fifo.size

/-- How many of `n` elements behind an index lie before the end of the array. -/
def linearPart (fifo : HydraFifo) (index n : Nat) : Nat :=
  min n (fifo.size - 1 - index)

/-- Neither part has 64 KiB. -/
def PartsFit (fifo : HydraFifo) (index n : Nat) : Prop :=
  linearPart fifo index n * fifo.typeSize < 65536 ∧
    (n - linearPart fifo index n) * fifo.typeSize < 65536

instance (fifo : HydraFifo) (index n : Nat) : Decidable (PartsFit fifo index n) :=
  inferInstanceAs (Decidable (_ ∧ _))

/-- The copies of a transfer that is not refused. -/
def slotCopies (fifo : HydraFifo) (index n : Nat) : List FifoCopy :=
  let linear := fifoCopy fifo (index + 1) 0 (linearPart fifo index n)
  if n > linearPart fifo index n then
    [linear, fifoCopy fifo 0 linear.bytes (n - linearPart fifo index n)]
  else
    [linear]

variable {fifo : HydraFifo} {index n : Nat}

theorem linearPart_le : linearPart fifo index n ≤ n :=
  Nat.min_le_left ..

/-- No part of an empty transfer is too long. -/
theorem partsFit_zero : PartsFit fifo index 0 := by
  simp [PartsFit, linearPart]

/-- A transfer of less than 64 KiB has no part that is too long. -/
theorem partsFit_of_lt (small : n * fifo.typeSize < 65536) : PartsFit fifo index n := by
  have linear : linearPart fifo index n * fifo.typeSize ≤ n * fifo.typeSize :=
    Nat.mul_le_mul_right _ linearPart_le
  have wrap : (n - linearPart fifo index n) * fifo.typeSize ≤ n * fifo.typeSize :=
    Nat.mul_le_mul_right _ (Nat.sub_le _ _)
  exact ⟨by omega, by omega⟩

theorem bytes_le (slot callerOffset count : Nat) :
    (fifoCopy fifo slot callerOffset count).bytes ≤ count * fifo.typeSize :=
  u16_le _

theorem bytes_eq_iff (slot callerOffset count : Nat) :
    (fifoCopy fifo slot callerOffset count).bytes = count * fifo.typeSize ↔
      count * fifo.typeSize < 65536 :=
  u16_eq_self_iff

theorem parts_add : linearPart fifo index n * fifo.typeSize +
    (n - linearPart fifo index n) * fifo.typeSize = n * fifo.typeSize := by
  rw [← Nat.add_mul, Nat.add_sub_cancel' linearPart_le]

theorem copiedCount_slotCopies (small : n < 65536) : copiedCount (slotCopies fifo index n) = n := by
  have least : linearPart fifo index n ≤ n := linearPart_le
  unfold slotCopies copiedCount
  dsimp only
  split
  · simp only [List.map_cons, List.map_nil, List.sum_cons, List.sum_nil, fifoCopy]
    rw [Nat.add_zero, Nat.add_sub_cancel' least, u16_of_lt small]
  · simp only [List.map_cons, List.map_nil, List.sum_cons, List.sum_nil, fifoCopy]
    rw [Nat.add_zero, u16_of_lt (by omega)]
    omega

/-- All bytes move exactly if both parts fit. -/
theorem slotCopies_whole_iff :
    (copiedBytes (slotCopies fifo index n) = n * fifo.typeSize ∧
        ∀ copy ∈ slotCopies fifo index n, copy.bytes = copy.count * fifo.typeSize) ↔
      PartsFit fifo index n := by
  have both := @parts_add fifo index n
  unfold slotCopies PartsFit copiedBytes
  dsimp only
  split
  · simp only [List.map_cons, List.map_nil, List.sum_cons, List.sum_nil, List.forall_mem_cons,
      Nat.add_zero]
    constructor
    · rintro ⟨_, linear, wrap, _⟩
      exact ⟨(bytes_eq_iff ..).mp linear, (bytes_eq_iff ..).mp wrap⟩
    · rintro ⟨linear, wrap⟩
      have linearBytes := (bytes_eq_iff (index + 1) 0 _).mpr linear
      have wrapBytes (callerOffset : Nat) := (bytes_eq_iff 0 callerOffset _).mpr wrap
      refine ⟨?_, linearBytes, wrapBytes _, by simp⟩
      rw [linearBytes, wrapBytes, both]
  · have all : linearPart fifo index n = n := by
      have least : linearPart fifo index n ≤ n := linearPart_le
      omega
    simp only [List.map_cons, List.map_nil, List.sum_cons, List.sum_nil, List.forall_mem_cons,
      Nat.add_zero, all, Nat.sub_self, Nat.zero_mul]
    constructor
    · rintro ⟨linear, _⟩
      exact ⟨(bytes_eq_iff ..).mp linear, by omega⟩
    · rintro ⟨linear, _⟩
      have linearBytes := (bytes_eq_iff (index + 1) 0 _).mpr linear
      exact ⟨linearBytes, linearBytes, by simp⟩

/-- The copies stay in the array and in the `n` elements of the caller. -/
theorem slotCopies_inside (inArray : index < fifo.size) (enough : n ≤ fifo.size)
    {copy : FifoCopy} (isCopy : copy ∈ slotCopies fifo index n) :
    copy.arrayOffset + copy.bytes ≤ fifo.size * fifo.typeSize ∧
      copy.callerOffset + copy.bytes ≤ n * fifo.typeSize := by
  have both := @parts_add fifo index n
  have least : linearPart fifo index n ≤ n := linearPart_le
  have room : linearPart fifo index n ≤ fifo.size - 1 - index := Nat.min_le_right ..
  have linearBytes := @bytes_le fifo (index + 1) 0 (linearPart fifo index n)
  have linear : (index + 1) * fifo.typeSize + linearPart fifo index n * fifo.typeSize ≤
      fifo.size * fifo.typeSize := by
    rw [← Nat.add_mul]
    exact Nat.mul_le_mul_right _ (by omega)
  have wrap : (n - linearPart fifo index n) * fifo.typeSize ≤ fifo.size * fifo.typeSize :=
    Nat.mul_le_mul_right _ (by omega)
  have wrapBytes (callerOffset : Nat) :=
    @bytes_le fifo 0 callerOffset (n - linearPart fifo index n)
  have inLinear : (fifoCopy fifo (index + 1) 0 (linearPart fifo index n)).arrayOffset +
      (fifoCopy fifo (index + 1) 0 (linearPart fifo index n)).bytes ≤
        fifo.size * fifo.typeSize := le_trans (Nat.add_le_add_left linearBytes _) linear
  unfold slotCopies at isCopy
  dsimp only at isCopy
  split at isCopy
  · rcases List.mem_pair.mp isCopy with rfl | rfl
    · refine ⟨inLinear, ?_⟩
      change 0 + _ ≤ _
      omega
    · have wrapped := wrapBytes (fifoCopy fifo (index + 1) 0 (linearPart fifo index n)).bytes
      refine ⟨?_, ?_⟩
      · change 0 * fifo.typeSize + _ ≤ _
        omega
      · change (fifoCopy fifo (index + 1) 0 (linearPart fifo index n)).bytes + _ ≤ _
        omega
  · obtain rfl := List.mem_singleton.mp isCopy
    refine ⟨inLinear, ?_⟩
    change 0 + _ ≤ _
    omega

/-! ## What the copies do when they stay inside -/

theorem copiesFrom_isSome {array : List U8} {copies : List FifoCopy}
    (inside : ∀ copy ∈ copies, copy.arrayOffset + copy.bytes ≤ array.length) :
    ∃ bytes, copiesFrom array copies = some bytes := by
  induction copies with
  | nil => exact ⟨[], rfl⟩
  | cons copy rest ih =>
      rw [List.forall_mem_cons] at inside
      obtain ⟨others, copied⟩ := ih inside.2
      rw [copiesFrom, memcpyFrom, if_pos inside.1, copied]
      exact ⟨_, rfl⟩

theorem copiesInto_cons {source array next data : List U8} {copy : FifoCopy}
    {rest : List FifoCopy}
    (read : memcpyFrom source copy.callerOffset copy.bytes = some data)
    (stored : memcpyInto array copy.arrayOffset data = some next) :
    copiesInto source array (copy :: rest) = copiesInto source next rest := by
  rw [copiesInto, read]
  dsimp only [Option.bind_eq_bind, Option.bind_some]
  rw [stored]
  rfl

theorem copiesInto_isSome {source array : List U8} {copies : List FifoCopy}
    (inside : ∀ copy ∈ copies, copy.arrayOffset + copy.bytes ≤ array.length ∧
      copy.callerOffset + copy.bytes ≤ source.length) :
    ∃ buffer, copiesInto source array copies = some buffer ∧ buffer.length = array.length := by
  induction copies generalizing array with
  | nil => exact ⟨array, rfl, rfl⟩
  | cons copy rest ih =>
      rw [List.forall_mem_cons] at inside
      obtain ⟨⟨inArray, inSource⟩, others⟩ := inside
      have length : ((source.drop copy.callerOffset).take copy.bytes).length = copy.bytes := by
        rw [List.length_take, List.length_drop]
        omega
      have room : copy.arrayOffset + ((source.drop copy.callerOffset).take copy.bytes).length ≤
          array.length := by omega
      have same := splice_length room
      obtain ⟨buffer, copied, bufferLength⟩ := @ih
        (splice array copy.arrayOffset ((source.drop copy.callerOffset).take copy.bytes))
        (by rwa [same])
      refine ⟨buffer, ?_, bufferLength.trans same⟩
      exact (copiesInto_cons (if_pos inSource) (if_pos room)).trans copied

namespace HydraFifo.InRange

/-- `_fifo_read_n` copies the elements behind the read index. -/
theorem readNCopies (inRange : fifo.InRange) (served : n ≤ fifoCount fifo)
    (nonEmpty : fifo.rdIdx ≠ fifo.wrIdx) :
    fifoReadNCopies fifo n fifo.rdIdx fifo.wrIdx = slotCopies fifo fifo.rdIdx n := by
  obtain ⟨fits, _, rd, wr⟩ := inRange
  unfold fifoCount fifoGetCount at served
  unfold fifoReadNCopies slotCopies
  rw [if_neg (by unfold fifoGetCount; omega)]
  dsimp only
  by_cases straight : fifo.wrIdx > fifo.rdIdx
  · rw [if_pos (by omega), u16_of_lt (by omega)] at served
    have all : linearPart fifo fifo.rdIdx n = n := Nat.min_eq_left (by omega)
    rw [if_pos straight, Nat.min_eq_left served, u16_of_lt (by omega), all,
      if_neg (Nat.lt_irrefl n)]
  · rw [if_neg (by omega), u16_of_lt (by omega)] at served
    have part : u16 (min n (fifo.size - 1 - fifo.rdIdx)) = linearPart fifo fifo.rdIdx n :=
      u16_of_lt (by omega)
    rw [if_neg straight, part]
    have rest : n - linearPart fifo fifo.rdIdx n ≤ fifo.wrIdx + 1 := by
      unfold linearPart
      omega
    rw [Nat.min_eq_right rest, u16_of_lt (show n - linearPart fifo fifo.rdIdx n < 65536 by omega)]

/-- `_fifo_write_n` copies to the elements behind the write index. -/
theorem writeNCopies (inRange : fifo.InRange)
    (served : n ≤ fifoGetFreeSpace fifo.rdIdx fifo.wrIdx fifo.size) :
    fifoWriteNCopies fifo n fifo.rdIdx fifo.wrIdx = slotCopies fifo fifo.wrIdx n := by
  obtain ⟨fits, _, rd, wr⟩ := inRange
  unfold fifoWriteNCopies slotCopies
  dsimp only
  rw [if_neg (by omega)]
  by_cases straight : fifo.rdIdx > fifo.wrIdx
  · have least : min (fifoGetFreeSpace fifo.rdIdx fifo.wrIdx fifo.size) n = n :=
      Nat.min_eq_right served
    unfold fifoGetFreeSpace at served
    rw [if_pos straight, u16_of_lt (by omega)] at served
    have all : linearPart fifo fifo.wrIdx n = n := Nat.min_eq_left (by omega)
    rw [if_pos straight, least, u16_of_lt (by omega), all, if_neg (Nat.lt_irrefl n)]
  · unfold fifoGetFreeSpace at served
    rw [if_neg straight, u16_of_lt (by omega)] at served
    have part : u16 (min (fifo.size - 1 - fifo.wrIdx) n) = linearPart fifo fifo.wrIdx n := by
      rw [u16_of_lt (by omega), Nat.min_comm]
      rfl
    rw [if_neg straight, part]
    have rest : n - linearPart fifo fifo.wrIdx n ≤ fifo.rdIdx := by
      unfold linearPart
      omega
    rw [Nat.min_eq_right rest, u16_of_lt (show n - linearPart fifo fifo.wrIdx n < 65536 by omega)]

theorem count_lt (inRange : fifo.InRange) : fifoCount fifo < fifo.size := by
  obtain ⟨fits, _, rd, wr⟩ := inRange
  unfold fifoCount fifoGetCount
  split
  · rw [u16_of_lt (by omega)]
    omega
  · rw [u16_of_lt (by omega)]
    omega

theorem freeSpace_lt (inRange : fifo.InRange) :
    fifoGetFreeSpace fifo.rdIdx fifo.wrIdx fifo.size < fifo.size := by
  obtain ⟨fits, _, rd, wr⟩ := inRange
  unfold fifoGetFreeSpace
  split
  · rw [u16_of_lt (by omega)]
    omega
  · rw [u16_of_lt (by omega)]
    omega

/-- `_fifo_read_n` returns `n` if it has that many elements. -/
theorem readNAt (inRange : fifo.InRange) (n : Nat) :
    ∃ bytes, fifoReadNAt fifo n fifo.rdIdx fifo.wrIdx =
      some (if n ≤ fifoCount fifo then n else 0, bytes) := by
  by_cases served : n ≤ fifoCount fifo
  case neg =>
    refine ⟨[], ?_⟩
    unfold fifoReadNAt
    rw [if_pos (.inr (Nat.lt_of_not_le served)), if_neg served]
  rw [if_pos served]
  by_cases empty : fifo.rdIdx = fifo.wrIdx
  · have none : n = 0 := by
      simpa [fifoCount, fifoGetCount, empty, u16] using served
    refine ⟨[], ?_⟩
    unfold fifoReadNAt
    rw [if_pos (.inl empty), none]
  · have small := inRange.count_lt
    have fits := inRange.sizeFits
    have copies := inRange.readNCopies served empty
    obtain ⟨bytes, copied⟩ := @copiesFrom_isSome fifo.buffer (slotCopies fifo fifo.rdIdx n)
      fun copy isCopy => by
        rw [inRange.length]
        exact (slotCopies_inside inRange.rdIdx_lt (by omega) isCopy).1
    refine ⟨bytes, ?_⟩
    rw [fifoReadNAt_eq_copies, copies, copied, copiedCount_slotCopies (by omega)]
    rfl

/-- `_fifo_write_n` returns `n` if there is room for that many elements. -/
theorem writeNAt (inRange : fifo.InRange) {source : List U8}
    (enough : n * fifo.typeSize ≤ source.length) :
    ∃ buffer, fifoWriteNAt fifo source n fifo.rdIdx fifo.wrIdx =
        some (if n ≤ fifoGetFreeSpace fifo.rdIdx fifo.wrIdx fifo.size then n else 0, buffer) ∧
      buffer.length = fifo.buffer.length := by
  by_cases served : n ≤ fifoGetFreeSpace fifo.rdIdx fifo.wrIdx fifo.size
  case neg =>
    refine ⟨fifo.buffer, ?_, rfl⟩
    unfold fifoWriteNAt
    dsimp only
    rw [if_pos (Nat.lt_of_not_le served), if_neg served]
  have small := inRange.freeSpace_lt
  have fits := inRange.sizeFits
  have copies := inRange.writeNCopies served
  obtain ⟨buffer, copied, length⟩ := @copiesInto_isSome source fifo.buffer
    (slotCopies fifo fifo.wrIdx n) fun copy isCopy => by
      obtain ⟨inArray, inSource⟩ := slotCopies_inside inRange.wrIdx_lt (by omega) isCopy
      exact ⟨inRange.length.symm ▸ inArray, inSource.trans enough⟩
  refine ⟨buffer, ?_, length⟩
  rw [if_pos served, fifoWriteNAt_eq_copies, copies, copied, copiedCount_slotCopies (by omega)]
  rfl

theorem advanceRead (inRange : fifo.InRange) (offset : Nat) :
    (fifoAdvanceRead fifo offset).InRange := by
  obtain ⟨fits, length, rd, wr⟩ := inRange
  have inside : (fifo.rdIdx + offset) % fifo.size < fifo.size := Nat.mod_lt _ (by omega)
  exact ⟨fits, length, lt_of_le_of_lt (u16_le _) inside, wr⟩

theorem advanceWrite (inRange : fifo.InRange) {buffer : List U8}
    (length : buffer.length = fifo.buffer.length) (offset : Nat) :
    (fifoAdvanceWrite { fifo with buffer := buffer } offset).InRange := by
  obtain ⟨fits, before, rd, wr⟩ := inRange
  have inside : (fifo.wrIdx + offset) % fifo.size < fifo.size := Nat.mod_lt _ (by omega)
  exact ⟨fits, length.trans before, rd, lt_of_le_of_lt (u16_le _) inside⟩

end HydraFifo.InRange

end WchCh56x.Memory
