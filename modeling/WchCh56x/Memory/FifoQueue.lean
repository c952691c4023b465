import WchCh56x.Memory.FifoCopies
import WchCh56x.Support.BoundedQueue

/-!
# The FIFO is a bounded queue

`Represents` ties the two indices, the gap slot and the bytes to a list of
elements.  Each operation has one lemma about it, and the refinement of whole
runs is assembled from those lemmas.
-/

namespace WchCh56x.Memory

open Support.RingBuffer
open Support

def HydraFifo.cells (fifo : HydraFifo) : Nat → List U8 :=
  slot fifo.buffer fifo.typeSize

/-- The FIFO holds `queue`, oldest element first. -/
structure HydraFifo.Represents (fifo : HydraFifo) (queue : List (List U8)) : Prop where
  sizeFits : fifo.size < 65536
  length : fifo.buffer.length = fifo.size * fifo.typeSize
  rdIdx_lt : fifo.rdIdx < fifo.size
  queue_lt : queue.length < fifo.size
  wrIdx_eq : fifo.wrIdx = (fifo.rdIdx + queue.length) % fifo.size
  contents : window fifo.cells fifo.size (fifo.rdIdx + 1) queue.length = queue

namespace HydraFifo.Represents

variable {fifo : HydraFifo} {queue : List (List U8)}

theorem wrIdx_lt (holds : fifo.Represents queue) : fifo.wrIdx < fifo.size := by
  rw [holds.wrIdx_eq]
  exact Nat.mod_lt _ (Nat.lt_of_le_of_lt (Nat.zero_le _) holds.rdIdx_lt)

theorem inRange (holds : fifo.Represents queue) : fifo.InRange :=
  ⟨holds.sizeFits, holds.length, holds.rdIdx_lt, holds.wrIdx_lt⟩

/-- Either the occupied slots do not pass the end of the array, or they do once. -/
theorem position (holds : fifo.Represents queue) :
    (fifo.rdIdx ≤ fifo.wrIdx ∧ fifo.wrIdx = fifo.rdIdx + queue.length) ∨
      (fifo.wrIdx < fifo.rdIdx ∧ fifo.wrIdx + fifo.size = fifo.rdIdx + queue.length) := by
  have rd := holds.rdIdx_lt
  have bound := holds.queue_lt
  have wr := holds.wrIdx_eq
  by_cases straight : fifo.rdIdx + queue.length < fifo.size
  · rw [Nat.mod_eq_of_lt straight] at wr
    exact .inl ⟨by omega, wr⟩
  · rw [Nat.mod_eq_sub_mod (by omega), Nat.mod_eq_of_lt (by omega)] at wr
    exact .inr ⟨by omega, by omega⟩

theorem width (holds : fifo.Represents queue) :
    ∀ element ∈ queue, element.length = fifo.typeSize := by
  intro element member
  rw [← holds.contents] at member
  obtain ⟨offset, _, rfl⟩ := List.mem_map.mp member
  exact slot_length holds.length
    (Nat.mod_lt _ (Nat.lt_of_le_of_lt (Nat.zero_le _) holds.rdIdx_lt))

theorem empty_iff (holds : fifo.Represents queue) :
    fifo.rdIdx = fifo.wrIdx ↔ queue.length = 0 := by
  have rd := holds.rdIdx_lt
  have bound := holds.queue_lt
  rcases holds.position with ⟨_, position⟩ | ⟨_, position⟩ <;> omega

/-- `_fifo_get_count` is the number of elements. -/
theorem getCount (holds : fifo.Represents queue) :
    fifoGetCount fifo.rdIdx fifo.wrIdx fifo.size = queue.length := by
  have rd := holds.rdIdx_lt
  have fits := holds.sizeFits
  have bound := holds.queue_lt
  unfold fifoGetCount
  rcases holds.position with ⟨order, position⟩ | ⟨order, position⟩
  · rw [if_pos order, u16_of_lt (by omega)]
    omega
  · rw [if_neg (by omega), u16_of_lt (by omega)]
    omega

/-- `_fifo_get_free_space` is the room left, one slot being the gap. -/
theorem getFreeSpace (holds : fifo.Represents queue) :
    fifoGetFreeSpace fifo.rdIdx fifo.wrIdx fifo.size = fifo.size - 1 - queue.length := by
  have rd := holds.rdIdx_lt
  have wr := holds.wrIdx_lt
  have fits := holds.sizeFits
  have bound := holds.queue_lt
  unfold fifoGetFreeSpace
  rcases holds.position with ⟨order, position⟩ | ⟨order, position⟩
  · rw [if_neg (by omega), u16_of_lt (by omega)]
    omega
  · rw [if_pos (by omega), u16_of_lt (by omega)]
    omega

end HydraFifo.Represents

/-! ## Reading -/

/-- A copy of whole slots inside the array reads exactly those slots. -/
theorem memcpyFrom_slots (fifo : HydraFifo)
    (length : fifo.buffer.length = fifo.size * fifo.typeSize) (first count : Nat)
    (fits : first + count ≤ fifo.size) :
    memcpyFrom fifo.buffer (first * fifo.typeSize) (count * fifo.typeSize) =
      some (segment fifo.cells first count).flatten := by
  have room : (first + count) * fifo.typeSize ≤ fifo.size * fifo.typeSize :=
    Nat.mul_le_mul_right _ fits
  rw [memcpyFrom, if_pos (by rw [length, ← Nat.add_mul]; exact room), take_drop_eq_slots]
  rfl

theorem memcpyFrom_fifoCopy {fifo : HydraFifo}
    (length : fifo.buffer.length = fifo.size * fifo.typeSize) {first count : Nat}
    (callerOffset : Nat) (fits : first + count ≤ fifo.size)
    (narrow : count * fifo.typeSize < 65536) :
    memcpyFrom fifo.buffer (fifoCopy fifo first callerOffset count).arrayOffset
        (fifoCopy fifo first callerOffset count).bytes =
      some (segment fifo.cells first count).flatten := by
  rw [(bytes_eq_iff first callerOffset count).mpr narrow]
  exact memcpyFrom_slots fifo length first count fits

/-- The copies of a read whose parts fit show the slots behind the index. -/
theorem copiesFrom_slotCopies {fifo : HydraFifo} {index n : Nat}
    (length : fifo.buffer.length = fifo.size * fifo.typeSize) (inArray : index < fifo.size)
    (enough : n ≤ fifo.size) (fit : PartsFit fifo index n) :
    copiesFrom fifo.buffer (slotCopies fifo index n) =
      some (window fifo.cells fifo.size (index + 1) n).flatten := by
  have parts := window_eq_parts fifo.cells n (show index + 1 ≤ fifo.size by omega) enough
  rw [show min n (fifo.size - (index + 1)) = linearPart fifo index n by
    rw [linearPart, Nat.sub_sub, Nat.add_comm]] at parts
  have room : linearPart fifo index n ≤ fifo.size - 1 - index := Nat.min_le_right ..
  have linear := memcpyFrom_fifoCopy length 0
    (show index + 1 + linearPart fifo index n ≤ fifo.size by omega) fit.1
  unfold slotCopies
  dsimp only
  split
  · have wrap := memcpyFrom_fifoCopy length
      (fifoCopy fifo (index + 1) 0 (linearPart fifo index n)).bytes
      (show 0 + (n - linearPart fifo index n) ≤ fifo.size by omega) fit.2
    simp only [copiesFrom, linear, wrap, Option.bind_eq_bind, Option.bind_some]
    rw [parts, List.flatten_append]
    simp
  · have all : n - linearPart fifo index n = 0 := by omega
    simp only [copiesFrom, linear, Option.bind_eq_bind, Option.bind_some]
    rw [parts, all, segment_zero, List.append_nil]
    simp

/-- `_fifo_read_n` shows the `n` oldest elements when there are that many. -/
theorem fifoReadNAt_spec {fifo : HydraFifo} {queue : List (List U8)}
    (holds : fifo.Represents queue) (n : Nat)
    (narrow : n ≤ queue.length → n * fifo.typeSize < 65536) :
    fifoReadNAt fifo n fifo.rdIdx fifo.wrIdx =
      some (if n ≤ queue.length then (n, (queue.take n).flatten) else (0, [])) := by
  have fits := holds.sizeFits
  have bound := holds.queue_lt
  by_cases enough : n ≤ queue.length
  case neg =>
    unfold fifoReadNAt
    rw [holds.getCount, if_pos (Or.inr (by omega)), if_neg enough]
  rw [if_pos enough]
  by_cases same : fifo.rdIdx = fifo.wrIdx
  · have none := holds.empty_iff.mp same
    have zero : n = 0 := by omega
    unfold fifoReadNAt
    rw [if_pos (Or.inl same), zero]
    simp
  have shown : queue.take n = window fifo.cells fifo.size (fifo.rdIdx + 1) n := by
    conv_lhs => rw [← holds.contents]
    exact window_take _ _ _ enough
  have copies := holds.inRange.readNCopies (n := n) (by rwa [fifoCount, holds.getCount]) same
  rw [fifoReadNAt_eq_copies, copies,
    copiesFrom_slotCopies holds.length holds.rdIdx_lt (by omega) (partsFit_of_lt (narrow enough)),
    copiedCount_slotCopies (by omega), shown]
  rfl

/-- Advancing the read index forgets the elements that were read. -/
theorem fifoAdvanceRead_spec {fifo : HydraFifo} {queue : List (List U8)}
    (holds : fifo.Represents queue) {n : Nat} (enough : n ≤ queue.length) :
    (fifoAdvanceRead fifo n).Represents (queue.drop n) := by
  have rd := holds.rdIdx_lt
  have fits := holds.sizeFits
  have bound := holds.queue_lt
  have inside : (fifo.rdIdx + n) % fifo.size < fifo.size := Nat.mod_lt _ (by omega)
  have advanced : (fifoAdvanceRead fifo n).rdIdx = (fifo.rdIdx + n) % fifo.size :=
    u16_of_lt (by omega)
  refine ⟨holds.sizeFits, holds.length, ?_, ?_, ?_, ?_⟩
  · rw [advanced]
    exact inside
  · rw [List.length_drop]
    exact Nat.lt_of_le_of_lt (Nat.sub_le _ _) bound
  · rw [advanced, List.length_drop]
    change fifo.wrIdx = ((fifo.rdIdx + n) % fifo.size + (queue.length - n)) % fifo.size
    rw [Nat.mod_add_mod, holds.wrIdx_eq]
    congr 1
    omega
  · rw [advanced, List.length_drop]
    change window fifo.cells fifo.size ((fifo.rdIdx + n) % fifo.size + 1)
      (queue.length - n) = queue.drop n
    conv_rhs => rw [← holds.contents]
    rw [window_drop _ _ _ enough, ← window_start_mod, Nat.mod_add_mod, window_start_mod]
    congr 1
    omega

/-- `fifo_read_n` removes and returns the `n` oldest elements, or nothing. -/
theorem fifoReadN_spec {fifo : HydraFifo} {queue : List (List U8)}
    (holds : fifo.Represents queue) (n : Nat)
    (narrow : n ≤ queue.length → n * fifo.typeSize < 65536) :
    ∃ after, fifoReadN fifo n =
        some (if n ≤ queue.length then (n, (queue.take n).flatten, after)
          else (0, [], after)) ∧
      after.Represents (if n ≤ queue.length then queue.drop n else queue) ∧
      after.size = fifo.size ∧ after.typeSize = fifo.typeSize := by
  unfold fifoReadN
  rw [fifoReadNAt_spec holds n narrow]
  by_cases enough : n ≤ queue.length
  · refine ⟨fifoAdvanceRead fifo n, ?_, ?_, rfl, rfl⟩
    · simp [enough]
    · simpa [enough] using fifoAdvanceRead_spec holds enough
  · refine ⟨fifoAdvanceRead fifo 0, ?_, ?_, rfl, rfl⟩
    · simp [enough]
    · simpa [enough] using fifoAdvanceRead_spec holds (Nat.zero_le _)

/-! ## Writing -/

theorem memcpyFrom_batch {batch : List (List U8)} {width : Nat} (first count : Nat)
    (widths : ∀ element ∈ batch, element.length = width)
    (fits : first + count ≤ batch.length) :
    memcpyFrom batch.flatten (first * width) (count * width) =
      some ((batch.drop first).take count).flatten := by
  have room : (first + count) * width ≤ batch.length * width := Nat.mul_le_mul_right _ fits
  rw [memcpyFrom, if_pos (by rw [flatten_length_of_width widths, ← Nat.add_mul]; exact room),
    take_drop_flatten widths fits]

/-- The FIFO holds `queue ++ batch` once the slots after the write index hold
`batch`, the occupied ones are as before and the write index is advanced. -/
theorem HydraFifo.Represents.append {fifo : HydraFifo} {queue batch : List (List U8)}
    (holds : fifo.Represents queue) {buffer : List U8}
    (length : buffer.length = fifo.buffer.length)
    (room : queue.length + batch.length < fifo.size)
    (fresh : ∀ (offset : Nat) (inside : offset < batch.length),
      slot buffer fifo.typeSize ((fifo.wrIdx + 1 + offset) % fifo.size) = batch[offset])
    (old : ∀ offset < queue.length,
      slot buffer fifo.typeSize ((fifo.rdIdx + 1 + offset) % fifo.size) =
        fifo.cells ((fifo.rdIdx + 1 + offset) % fifo.size)) :
    (fifoAdvanceWrite { fifo with buffer := buffer } batch.length).Represents
      (queue ++ batch) := by
  have rd := holds.rdIdx_lt
  have fits := holds.sizeFits
  have inside : (fifo.wrIdx + batch.length) % fifo.size < fifo.size := Nat.mod_lt _ (by omega)
  refine ⟨fits, length.trans holds.length, rd, ?_, ?_, ?_⟩
  · rw [List.length_append]
    exact room
  · change u16 ((fifo.wrIdx + batch.length) % fifo.size) =
      (fifo.rdIdx + (queue ++ batch).length) % fifo.size
    rw [u16_of_lt (by omega), holds.wrIdx_eq, Nat.mod_add_mod, List.length_append,
      Nat.add_assoc]
  · change window (slot buffer fifo.typeSize) fifo.size (fifo.rdIdx + 1)
      (queue ++ batch).length = queue ++ batch
    rw [List.length_append, window_write old]
    · exact congrArg (· ++ batch) holds.contents
    · intro offset within
      rw [← fresh offset within, holds.wrIdx_eq]
      congr 1
      rw [Nat.add_assoc _ 1 offset, Nat.mod_add_mod]
      congr 1
      omega

/-- A write that does not reach the end of the array is one copy. -/
theorem fifoWriteNAt_straight {fifo : HydraFifo} {queue batch : List (List U8)}
    (holds : fifo.Represents queue)
    (widths : ∀ element ∈ batch, element.length = fifo.typeSize)
    (room : queue.length + batch.length < fifo.size)
    (straight : fifo.wrIdx + batch.length < fifo.size) :
    ∃ buffer, memcpyInto fifo.buffer ((fifo.wrIdx + 1) * fifo.typeSize) batch.flatten =
        some buffer ∧
      (fifoAdvanceWrite { fifo with buffer := buffer } batch.length).Represents
        (queue ++ batch) := by
  have rd := holds.rdIdx_lt
  have wr := holds.wrIdx_lt
  have exactly := flatten_length_of_width widths
  have bytes : (fifo.wrIdx + 1) * fifo.typeSize + batch.flatten.length ≤
      fifo.buffer.length := by
    rw [exactly, holds.length, ← Nat.add_mul]
    exact Nat.mul_le_mul_right _ (by omega)
  refine ⟨_, if_pos bytes, holds.append (splice_length bytes) room ?_ ?_⟩
  · intro offset inside
    rw [Nat.mod_eq_of_lt (by omega)]
    exact slot_splice_inside widths bytes inside
  · intro offset inside
    -- an occupied slot lies before the write index or from the read index on
    rcases holds.position with ⟨order, position⟩ | ⟨order, position⟩
    · rw [Nat.mod_eq_of_lt (by omega)]
      exact slot_splice_below bytes (by omega)
    · by_cases wraps : fifo.rdIdx + 1 + offset < fifo.size
      · rw [Nat.mod_eq_of_lt wraps]
        exact slot_splice_above exactly bytes (by omega)
      · rw [Nat.mod_eq_sub_mod (by omega), Nat.mod_eq_of_lt (by omega)]
        exact slot_splice_below bytes (by omega)

/-- A write that reaches the end of the array is a copy up to it and a copy from slot zero. -/
theorem fifoWriteNAt_wrapped {fifo : HydraFifo} {queue first rest : List (List U8)}
    (holds : fifo.Represents queue)
    (widths : ∀ element ∈ first ++ rest, element.length = fifo.typeSize)
    (room : queue.length + (first ++ rest).length < fifo.size)
    (order : fifo.rdIdx ≤ fifo.wrIdx) (ending : fifo.wrIdx + 1 + first.length = fifo.size) :
    ∃ linear buffer,
      memcpyInto fifo.buffer ((fifo.wrIdx + 1) * fifo.typeSize) first.flatten = some linear ∧
      memcpyInto linear 0 rest.flatten = some buffer ∧
      (fifoAdvanceWrite { fifo with buffer := buffer } (first ++ rest).length).Represents
        (queue ++ (first ++ rest)) := by
  have rd := holds.rdIdx_lt
  have firstWidths : ∀ element ∈ first, element.length = fifo.typeSize :=
    fun element member => widths element (List.mem_append_left _ member)
  have restWidths : ∀ element ∈ rest, element.length = fifo.typeSize :=
    fun element member => widths element (List.mem_append_right _ member)
  have firstExactly := flatten_length_of_width firstWidths
  have restExactly := flatten_length_of_width restWidths
  have position : fifo.wrIdx = fifo.rdIdx + queue.length := by
    rcases holds.position with ⟨_, position⟩ | ⟨wrong, _⟩ <;> omega
  rw [List.length_append] at room
  have firstBytes : (fifo.wrIdx + 1) * fifo.typeSize + first.flatten.length ≤
      fifo.buffer.length := by
    rw [firstExactly, holds.length, ← Nat.add_mul, ending]
  have linearLength := splice_length firstBytes
  have restBytes : 0 * fifo.typeSize + rest.flatten.length ≤
      (splice fifo.buffer ((fifo.wrIdx + 1) * fifo.typeSize) first.flatten).length := by
    rw [linearLength, restExactly, holds.length, ← Nat.add_mul]
    exact Nat.mul_le_mul_right _ (by omega)
  have restInto : memcpyInto
      (splice fifo.buffer ((fifo.wrIdx + 1) * fifo.typeSize) first.flatten) 0 rest.flatten =
      some (splice (splice fifo.buffer ((fifo.wrIdx + 1) * fifo.typeSize) first.flatten)
        (0 * fifo.typeSize) rest.flatten) := by
    rw [Nat.zero_mul] at restBytes ⊢
    exact if_pos restBytes
  refine ⟨_, _, if_pos firstBytes, restInto, holds.append ?_ (by simpa using room) ?_ ?_⟩
  · rw [splice_length restBytes, linearLength]
  · intro offset inside
    rw [List.length_append] at inside
    by_cases linear : offset < first.length
    · rw [Nat.mod_eq_of_lt (by omega),
        slot_splice_above restExactly restBytes (by omega),
        slot_splice_inside firstWidths firstBytes linear, List.getElem_append_left linear]
    · rw [Nat.mod_eq_sub_mod (by omega), Nat.mod_eq_of_lt (by omega),
        List.getElem_append_right (by omega)]
      rw [show fifo.wrIdx + 1 + offset - fifo.size = 0 + (offset - first.length) by omega]
      exact slot_splice_inside restWidths restBytes (by omega)
  · intro offset inside
    rw [Nat.mod_eq_of_lt (by omega), slot_splice_above restExactly restBytes (by omega)]
    exact slot_splice_below firstBytes (by omega)

/-- The copies of a write whose parts fit append the batch. -/
theorem copiesInto_slotCopies {fifo : HydraFifo} {queue batch : List (List U8)}
    (holds : fifo.Represents queue)
    (widths : ∀ element ∈ batch, element.length = fifo.typeSize)
    (room : queue.length + batch.length < fifo.size)
    (fit : PartsFit fifo fifo.wrIdx batch.length) :
    ∃ buffer,
      copiesInto batch.flatten fifo.buffer (slotCopies fifo fifo.wrIdx batch.length) =
        some buffer ∧
      (fifoAdvanceWrite { fifo with buffer := buffer } batch.length).Represents
        (queue ++ batch) := by
  have rd := holds.rdIdx_lt
  have wr := holds.wrIdx_lt
  have linearBytes := (bytes_eq_iff (fifo.wrIdx + 1) 0 _).mpr fit.1
  unfold slotCopies
  dsimp only
  split
  · rename_i wraps
    have ending : linearPart fifo fifo.wrIdx batch.length = fifo.size - 1 - fifo.wrIdx := by
      unfold linearPart at wraps ⊢
      omega
    have position : fifo.wrIdx = fifo.rdIdx + queue.length := by
      rcases holds.position with ⟨_, position⟩ | ⟨wrong, _⟩ <;> omega
    have firstLength : (batch.take (fifo.size - 1 - fifo.wrIdx)).length =
        fifo.size - 1 - fifo.wrIdx := by
      rw [List.length_take]
      omega
    have split := List.take_append_drop (fifo.size - 1 - fifo.wrIdx) batch
    obtain ⟨first, buffer, copiedFirst, copiedRest, represents⟩ :=
      fifoWriteNAt_wrapped holds (show ∀ element ∈ batch.take (fifo.size - 1 - fifo.wrIdx) ++
          batch.drop (fifo.size - 1 - fifo.wrIdx), element.length = fifo.typeSize by rwa [split])
        (by rwa [split]) (by omega) (by rw [firstLength]; omega)
    rw [split] at represents
    have sourceFirst := memcpyFrom_batch 0 (fifo.size - 1 - fifo.wrIdx) widths (by omega)
    have sourceRest := memcpyFrom_batch (fifo.size - 1 - fifo.wrIdx)
      (batch.length - (fifo.size - 1 - fifo.wrIdx)) widths (by omega)
    rw [Nat.zero_mul, List.drop_zero] at sourceFirst
    rw [List.take_of_length_le (by rw [List.length_drop])] at sourceRest
    have restBytes := (bytes_eq_iff 0 (fifoCopy fifo (fifo.wrIdx + 1) 0
      (fifo.size - 1 - fifo.wrIdx)).bytes _).mpr fit.2
    rw [ending] at linearBytes restBytes ⊢
    refine ⟨buffer, ?_, represents⟩
    rw [← linearBytes, ← restBytes] at sourceRest
    rw [← linearBytes] at sourceFirst
    rw [← Nat.zero_mul fifo.typeSize] at copiedRest
    rw [copiesInto_cons sourceFirst copiedFirst]
    exact copiesInto_cons sourceRest copiedRest
  · rename_i straight
    have all : linearPart fifo fifo.wrIdx batch.length = batch.length := by
      have least : linearPart fifo fifo.wrIdx batch.length ≤ batch.length := linearPart_le
      omega
    have short : batch.length ≤ fifo.size - 1 - fifo.wrIdx := by
      unfold linearPart at all
      omega
    obtain ⟨buffer, copied, represents⟩ := fifoWriteNAt_straight holds widths room (by omega)
    have source := memcpyFrom_batch 0 batch.length widths (by omega)
    rw [Nat.zero_mul, List.drop_zero, List.take_length] at source
    rw [all] at linearBytes ⊢
    exact ⟨buffer, copiesInto_cons (linearBytes.symm ▸ source) copied, represents⟩

/-- `fifo_write` appends the whole batch when it fits, and otherwise nothing. -/
theorem fifoWrite_spec {fifo : HydraFifo} {queue batch : List (List U8)}
    (holds : fifo.Represents queue)
    (widths : ∀ element ∈ batch, element.length = fifo.typeSize)
    (narrow : queue.length + batch.length < fifo.size →
      batch.length * fifo.typeSize < 65536) :
    ∃ after, fifoWrite fifo batch.flatten batch.length =
        some (if queue.length + batch.length < fifo.size then batch.length else 0, after) ∧
      after.Represents
        (if queue.length + batch.length < fifo.size then queue ++ batch else queue) ∧
      after.size = fifo.size ∧ after.typeSize = fifo.typeSize := by
  have fits := holds.sizeFits
  have bound := holds.queue_lt
  by_cases room : queue.length + batch.length < fifo.size
  case neg =>
    unfold fifoWrite fifoWriteNAt
    dsimp only
    rw [holds.getFreeSpace, if_pos (by omega), if_neg room, if_neg room]
    refine ⟨_, rfl, ?_, rfl, rfl⟩
    have idle : (fifoAdvanceWrite fifo ([] : List (List U8)).length).Represents
        (queue ++ []) := holds.append rfl (by simpa using bound) (fun _ inside => absurd inside (by simp))
        (fun _ _ => rfl)
    simpa using idle
  rw [if_pos room, if_pos room]
  obtain ⟨buffer, copied, represents⟩ :=
    copiesInto_slotCopies holds widths room (partsFit_of_lt (narrow room))
  have copies := holds.inRange.writeNCopies (n := batch.length)
    (by rw [holds.getFreeSpace]; omega)
  refine ⟨_, ?_, represents, rfl, rfl⟩
  rw [fifoWrite, fifoWriteNAt_eq_copies, copies, copied, copiedCount_slotCopies (by omega)]
  rfl

/-- A batch that does not fit leaves the FIFO exactly as it was. -/
theorem fifoWrite_full {fifo : HydraFifo} {queue : List (List U8)} (holds : fifo.Represents queue)
    {n : Nat} (full : fifo.size ≤ queue.length + n) (source : List U8) :
    fifoWrite fifo source n = some (0, fifo) := by
  have wr := holds.wrIdx_lt
  have bound := holds.queue_lt
  have unmoved : fifoAdvanceWrite fifo 0 = fifo := by
    rw [fifoAdvanceWrite, Nat.add_zero, Nat.mod_eq_of_lt wr, u16_of_lt (wr.trans holds.sizeFits)]
  unfold fifoWrite fifoWriteNAt
  dsimp only
  rw [holds.getFreeSpace, if_pos (by omega)]
  exact congrArg (fun after => some (0, after)) unmoved

/-- `fifo_clean` empties the FIFO. -/
theorem fifoClean_spec {fifo : HydraFifo} {queue : List (List U8)}
    (holds : fifo.Represents queue) :
    ∃ after, fifoClean fifo = some after ∧ after.Represents [] ∧
      after.size = fifo.size ∧ after.typeSize = fifo.typeSize := by
  have rd := holds.rdIdx_lt
  have zeroes : 0 + (List.replicate (fifo.size * fifo.typeSize) (0 : U8)).length ≤
      fifo.buffer.length := by simp [holds.length]
  unfold fifoClean memcpyInto
  rw [if_pos zeroes]
  refine ⟨_, rfl, ⟨holds.sizeFits, ?_, Nat.lt_of_le_of_lt (Nat.zero_le _) rd,
    Nat.lt_of_le_of_lt (Nat.zero_le _) rd, ?_, rfl⟩, rfl, rfl⟩
  · exact (splice_length zeroes).trans holds.length
  · simp

/-! ## Runs -/

/-- What `HYDRA_FIFO_DEF` is instantiated with, when the array and every count
of its bytes fit sixteen bits. -/
structure Geometry where
  capacity : Nat
  typeSize : Nat
  capacity_pos : 1 ≤ capacity
  capacity_le : capacity ≤ 65534
  typeSize_pos : 1 ≤ typeSize
  bytes_le : (capacity + 1) * typeSize ≤ 65535

namespace Geometry

/-- One element of the type stored in the FIFO, as bytes. -/
abbrev Element (geometry : Geometry) : Type :=
  { bytes : List U8 // bytes.length = geometry.typeSize }

def bytes {geometry : Geometry} (batch : List geometry.Element) : List U8 :=
  (batch.map Subtype.val).flatten

/-- One call on the FIFO: its returned count and the bytes copied to the caller. -/
def serve (geometry : Geometry) (fifo : HydraFifo) :
    BoundedQueue.Request geometry.Element → Option ((Nat × List U8) × HydraFifo)
  | .write batch => do
      let (count, after) ← fifoWrite fifo (bytes batch) batch.length
      return ((count, []), after)
  | .read => do
      let (count, shown, after) ← fifoRead fifo
      return ((count, shown), after)
  | .readN n => do
      let (count, shown, after) ← fifoReadN fifo n
      return ((count, shown), after)
  | .peekN n => do
      let (count, shown) ← fifoPeekN fifo n
      return ((count, shown), fifo)
  | .count => some ((fifoCount fifo, []), fifo)
  | .clean => do
      let after ← fifoClean fifo
      return ((0, []), after)

def serveAll (geometry : Geometry) (fifo : HydraFifo) :
    List (BoundedQueue.Request geometry.Element) → Option (List (Nat × List U8) × HydraFifo)
  | [] => some ([], fifo)
  | request :: rest => do
      let (reply, next) ← geometry.serve fifo request
      let (replies, last) ← geometry.serveAll next rest
      return (reply :: replies, last)

/-- The bytes an abstract reply shows. -/
def encode {geometry : Geometry} (reply : BoundedQueue.Reply geometry.Element) :
    Nat × List U8 :=
  (reply.count, bytes reply.shown)

def Holds (geometry : Geometry) (fifo : HydraFifo) (queue : List geometry.Element) : Prop :=
  fifo.Represents (queue.map Subtype.val) ∧ fifo.size = geometry.capacity + 1 ∧
    fifo.typeSize = geometry.typeSize

variable {geometry : Geometry} {fifo : HydraFifo} {queue : List geometry.Element}

theorem Holds.narrow (holds : geometry.Holds fifo queue) {count : Nat}
    (within : count ≤ geometry.capacity) : count * fifo.typeSize < 65536 := by
  have product : count * fifo.typeSize ≤ (geometry.capacity + 1) * geometry.typeSize := by
    rw [holds.2.2]
    exact Nat.mul_le_mul_right _ (Nat.le_succ_of_le within)
  have bound := geometry.bytes_le
  omega

theorem Holds.length_le (holds : geometry.Holds fifo queue) :
    queue.length ≤ geometry.capacity := by
  have bound := holds.1.queue_lt
  rw [List.length_map, holds.2.1] at bound
  omega

theorem holds_initial (geometry : Geometry) :
    geometry.Holds (hydraFifoDef geometry.capacity geometry.typeSize) [] := by
  have bound := geometry.capacity_le
  have size : u16 (geometry.capacity + 1) = geometry.capacity + 1 := u16_of_lt (by omega)
  refine ⟨⟨?_, ?_, ?_, ?_, ?_, rfl⟩, size, rfl⟩ <;> simp [hydraFifoDef, size]
  omega

theorem fifoReadN_holds (holds : geometry.Holds fifo queue) (n : Nat) :
    ∃ after, fifoReadN fifo n =
        some (if n ≤ queue.length then (n, bytes (queue.take n), after)
          else (0, [], after)) ∧
      geometry.Holds after (if n ≤ queue.length then queue.drop n else queue) := by
  have length := holds.length_le
  obtain ⟨after, read, represents, size, width⟩ := fifoReadN_spec holds.1 n
    (fun enough => holds.narrow (by rw [List.length_map] at enough; omega))
  rw [List.length_map] at read represents
  refine ⟨after, ?_, ?_, size.trans holds.2.1, width.trans holds.2.2⟩
  · rw [read]
    simp [bytes, List.map_take]
  · split at represents <;> simpa [*, List.map_drop] using represents

theorem fifoWrite_holds (holds : geometry.Holds fifo queue) (batch : List geometry.Element) :
    ∃ after, fifoWrite fifo (bytes batch) batch.length =
        some (if queue.length + batch.length ≤ geometry.capacity then batch.length else 0,
          after) ∧
      geometry.Holds after
        (if queue.length + batch.length ≤ geometry.capacity then queue ++ batch else queue) := by
  have widths : ∀ element ∈ batch.map Subtype.val, element.length = fifo.typeSize := by
    intro element member
    obtain ⟨original, _, rfl⟩ := List.mem_map.mp member
    exact original.2.trans holds.2.2.symm
  obtain ⟨after, written, represents, size, width⟩ := fifoWrite_spec holds.1 widths
    (fun room => holds.narrow (by
      rw [List.length_map, List.length_map, holds.2.1] at room
      rw [List.length_map]
      omega))
  simp only [List.length_map, holds.2.1, Nat.lt_succ_iff] at written represents
  refine ⟨after, written, ?_, size.trans holds.2.1, width.trans holds.2.2⟩
  split at represents <;> simpa [*] using represents

/-- One call answers as the bounded queue does and keeps representing it. -/
theorem serve_step (holds : geometry.Holds fifo queue)
    (request : BoundedQueue.Request geometry.Element) :
    ∃ after,
      geometry.serve fifo request =
        some (encode (BoundedQueue.step geometry.capacity queue request).1, after) ∧
      geometry.Holds after (BoundedQueue.step geometry.capacity queue request).2 := by
  cases request with
  | write batch =>
      obtain ⟨after, written, next⟩ := fifoWrite_holds holds batch
      refine ⟨after, ?_, ?_⟩
      · simp only [serve, written, BoundedQueue.step]
        split <;> simp [encode, bytes]
      · simpa only [BoundedQueue.step, apply_ite Prod.snd] using next
  | read =>
      have count : fifoGetCount fifo.rdIdx fifo.wrIdx fifo.size = queue.length := by
        simpa using holds.1.getCount
      obtain ⟨after, read, next⟩ := fifoReadN_holds holds queue.length
      refine ⟨after, ?_, by simpa [BoundedQueue.step] using next⟩
      simp [serve, fifoRead, count, read, BoundedQueue.step, encode]
  | readN n =>
      obtain ⟨after, read, next⟩ := fifoReadN_holds holds n
      refine ⟨after, ?_, ?_⟩
      · simp only [serve, read, BoundedQueue.step]
        split <;> simp [encode, bytes]
      · simpa only [BoundedQueue.step, apply_ite Prod.snd] using next
  | peekN n =>
      have length := holds.length_le
      have peeked := fifoReadNAt_spec holds.1 n
        (fun enough => holds.narrow (by rw [List.length_map] at enough; omega))
      rw [List.length_map] at peeked
      refine ⟨fifo, ?_, ?_⟩
      · simp only [serve, fifoPeekN, peeked, BoundedQueue.step]
        split <;> simp [encode, bytes, List.map_take]
      · simp only [BoundedQueue.step]
        split <;> exact holds
  | count =>
      have count : fifoCount fifo = queue.length :=
        holds.1.getCount.trans (List.length_map _)
      exact ⟨fifo, by simp [serve, count, BoundedQueue.step, encode, bytes], holds⟩
  | clean =>
      obtain ⟨after, cleaned, represents, size, width⟩ := fifoClean_spec holds.1
      refine ⟨after, by simp [serve, cleaned, BoundedQueue.step, encode, bytes], ?_⟩
      exact ⟨represents, size.trans holds.2.1, width.trans holds.2.2⟩

theorem serveAll_holds (holds : geometry.Holds fifo queue)
    (requests : List (BoundedQueue.Request geometry.Element)) :
    ∃ after,
      geometry.serveAll fifo requests =
        some ((BoundedQueue.run geometry.capacity queue requests).1.map encode, after) ∧
      geometry.Holds after (BoundedQueue.run geometry.capacity queue requests).2 := by
  induction requests generalizing fifo queue with
  | nil => exact ⟨fifo, rfl, holds⟩
  | cons request rest ih =>
      obtain ⟨next, served, nextHolds⟩ := serve_step holds request
      obtain ⟨last, others, lastHolds⟩ := ih nextHolds
      refine ⟨last, ?_, lastHolds⟩
      simp [serveAll, served, others, BoundedQueue.run]

/-- A FIFO for two elements of two bytes. -/
def twoPairs : Geometry := ⟨2, 2, by decide, by decide, by decide, by decide⟩

def pair (first second : U8) : twoPairs.Element := ⟨[first, second], rfl⟩

end Geometry

/-- From the state `HYDRA_FIFO_DEF` builds, every run of calls gives the answers
of a bounded queue of the declared capacity, with no access outside the array. -/
theorem fifo_refines_boundedQueue (geometry : Geometry)
    (requests : List (BoundedQueue.Request geometry.Element)) :
    ∃ after,
      geometry.serveAll (hydraFifoDef geometry.capacity geometry.typeSize) requests =
        some ((BoundedQueue.run geometry.capacity [] requests).1.map Geometry.encode, after) ∧
      geometry.Holds after (BoundedQueue.run geometry.capacity [] requests).2 :=
  Geometry.serveAll_holds geometry.holds_initial requests

open WchCh56x.Memory.Geometry

/-- The third element does not fit before one is read, and then goes around the end of the
array. -/
theorem third_pair_waits :
    ∃ after,
      twoPairs.serveAll (hydraFifoDef 2 2)
          [.write [pair 1 2, pair 3 4], .write [pair 5 6], .readN 1, .write [pair 5 6],
            .readN 2] =
        some ([(2, []), (0, []), (1, [1, 2]), (1, []), (2, [3, 4, 5, 6])], after) ∧
      twoPairs.Holds after [] :=
  fifo_refines_boundedQueue twoPairs
    [.write [pair 1 2, pair 3 4], .write [pair 5 6], .readN 1, .write [pair 5 6], .readN 2]

end WchCh56x.Memory
