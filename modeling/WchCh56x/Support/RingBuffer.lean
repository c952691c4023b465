import Mathlib.Data.List.Basic
import Mathlib.Tactic

/-!
# Ring buffers of fixed-width slots

A buffer of bytes is cut into slots of one width, and the slots are visited
cyclically.  A window is the list of slots met when a number of steps is taken
from a start index; writing a flattened batch of elements replaces a segment of
slots and leaves the others alone.  Nothing here knows what the bytes are.
-/

namespace WchCh56x.Support.RingBuffer

variable {α : Type}

/-! ## Segments and windows of an indexed family of cells -/

/-- `count` consecutive cells from index `first` on, without wrapping. -/
def segment (cells : Nat → α) (first count : Nat) : List α :=
  (List.range count).map fun offset => cells (first + offset)

/-- `count` cells from index `start` on, in a ring of `size` cells. -/
def window (cells : Nat → α) (size start count : Nat) : List α :=
  (List.range count).map fun offset => cells ((start + offset) % size)

@[simp]
theorem segment_length (cells : Nat → α) (first count : Nat) :
    (segment cells first count).length = count := by
  simp [segment]

@[simp]
theorem window_length (cells : Nat → α) (size start count : Nat) :
    (window cells size start count).length = count := by
  simp [window]

@[simp]
theorem segment_zero (cells : Nat → α) (first : Nat) :
    segment cells first 0 = [] := rfl

theorem segment_succ (cells : Nat → α) (first count : Nat) :
    segment cells first (count + 1) = segment cells first count ++ [cells (first + count)] := by
  simp [segment, List.range_succ]

theorem window_append (cells : Nat → α) (size start first second : Nat) :
    window cells size start (first + second) =
      window cells size start first ++ window cells size (start + first) second := by
  simp [window, List.range_add, Function.comp_def, Nat.add_assoc]

theorem window_start_mod (cells : Nat → α) (size start count : Nat) :
    window cells size (start % size) count = window cells size start count := by
  simp [window]

theorem window_take (cells : Nat → α) (size start : Nat) {taken count : Nat}
    (within : taken ≤ count) :
    (window cells size start count).take taken = window cells size start taken := by
  obtain ⟨rest, rfl⟩ := Nat.exists_eq_add_of_le within
  rw [window_append]
  exact List.take_left' (window_length ..)

theorem window_drop (cells : Nat → α) (size start : Nat) {dropped count : Nat}
    (within : dropped ≤ count) :
    (window cells size start count).drop dropped =
      window cells size (start + dropped) (count - dropped) := by
  obtain ⟨rest, rfl⟩ := Nat.exists_eq_add_of_le within
  rw [window_append, Nat.add_sub_cancel_left]
  exact List.drop_left' (window_length ..)

theorem window_congr {first second : Nat → α} {size start count : Nat}
    (same : ∀ offset < count, first ((start + offset) % size) =
      second ((start + offset) % size)) :
    window first size start count = window second size start count := by
  apply List.map_congr_left
  intro offset member
  exact same offset (List.mem_range.mp member)

/-- A window that does not reach the end of the ring is a segment. -/
theorem window_eq_segment (cells : Nat → α) {size start count : Nat}
    (fits : start + count ≤ size) :
    window cells size start count = segment cells start count := by
  apply List.map_congr_left
  intro offset member
  have inside : start + offset < size := by
    have := List.mem_range.mp member
    omega
  rw [Nat.mod_eq_of_lt inside]

/-- A window that passes the end is the rest of the ring and a segment from index zero. -/
theorem window_eq_wrapped (cells : Nat → α) {size start : Nat} (wrapped : Nat)
    (inside : start ≤ size) (fits : wrapped ≤ size) :
    window cells size start (size - start + wrapped) =
      segment cells start (size - start) ++ segment cells 0 wrapped := by
  rw [window_append, window_eq_segment cells (by omega),
    show start + (size - start) = 0 + size by omega]
  congr 1
  have restart : window cells size (0 + size) wrapped = window cells size 0 wrapped := by
    rw [← window_start_mod cells size (0 + size), ← window_start_mod cells size 0,
      Nat.add_mod_right]
  rw [restart, window_eq_segment cells (by omega)]

/-- A window is what lies before the end of the ring and a segment from index zero. -/
theorem window_eq_parts (cells : Nat → α) {size start : Nat} (count : Nat)
    (inside : start ≤ size) (fits : count ≤ size) :
    window cells size start count =
      segment cells start (min count (size - start)) ++
        segment cells 0 (count - min count (size - start)) := by
  by_cases straight : start + count ≤ size
  · rw [Nat.min_eq_left (by omega), Nat.sub_self, segment_zero, List.append_nil]
    exact window_eq_segment cells straight
  · have wrapped := window_eq_wrapped cells (count - (size - start)) inside (by omega)
    rw [Nat.add_sub_cancel' (by omega)] at wrapped
    rw [Nat.min_eq_right (by omega), wrapped]

/-- Overwriting the cells after a window with a batch appends the batch to the window. -/
theorem window_write {before after : Nat → α} {size start count : Nat} {batch : List α}
    (old : ∀ offset < count, after ((start + offset) % size) =
      before ((start + offset) % size))
    (fresh : ∀ (offset : Nat) (inside : offset < batch.length),
      after ((start + count + offset) % size) = batch[offset]) :
    window after size start (count + batch.length) =
      window before size start count ++ batch := by
  rw [window_append, window_congr old]
  congr 1
  apply List.ext_getElem (by simp)
  intro offset _ inside
  simpa [window] using fresh offset inside

/-! ## Slots of a byte buffer -/

/-- Slot `index` of a buffer cut into slots of `width` bytes. -/
def slot (bytes : List α) (width index : Nat) : List α :=
  (bytes.drop (index * width)).take width

theorem slot_length {bytes : List α} {width index slots : Nat}
    (length : bytes.length = slots * width) (inside : index < slots) :
    (slot bytes width index).length = width := by
  have room : (index + 1) * width ≤ slots * width := Nat.mul_le_mul_right _ inside
  rw [Nat.succ_mul] at room
  simp only [slot, List.length_take, List.length_drop, length]
  omega

/-- The bytes of consecutive slots are the concatenation of the slots. -/
theorem take_drop_eq_slots (bytes : List α) (width first count : Nat) :
    (bytes.drop (first * width)).take (count * width) =
      (segment (slot bytes width) first count).flatten := by
  induction count with
  | zero => simp
  | succ count ih =>
      rw [segment_succ, List.flatten_append, ← ih, Nat.succ_mul, List.take_add,
        List.drop_drop]
      simp [slot, Nat.add_mul]

/-- Put `data` at `offset`, over the bytes that were there. -/
def splice (bytes : List α) (offset : Nat) (data : List α) : List α :=
  bytes.take offset ++ data ++ bytes.drop (offset + data.length)

theorem splice_length {bytes data : List α} {offset : Nat}
    (fits : offset + data.length ≤ bytes.length) :
    (splice bytes offset data).length = bytes.length := by
  simp only [splice, List.length_append, List.length_take, List.length_drop]
  omega

theorem flatten_length_of_width {batch : List (List α)} {width : Nat}
    (widths : ∀ element ∈ batch, element.length = width) :
    batch.flatten.length = batch.length * width := by
  induction batch with
  | nil => simp
  | cons element rest ih =>
      have head := widths element (by simp)
      have tail := ih fun other member => widths other (List.mem_cons_of_mem _ member)
      simp only [List.flatten_cons, List.length_append, head, tail, List.length_cons,
        Nat.succ_mul]
      omega

theorem flatten_slot {batch : List (List α)} {width : Nat}
    (widths : ∀ element ∈ batch, element.length = width) (index : Nat)
    (inside : index < batch.length) :
    slot batch.flatten width index = batch[index] := by
  induction batch generalizing index with
  | nil => cases inside
  | cons element rest ih =>
      have head : element.length = width := widths element (by simp)
      cases index with
      | zero => simp [slot, ← head]
      | succ index =>
          have tail := ih (fun other member => widths other (List.mem_cons_of_mem _ member))
            index (by simpa using inside)
          have skip : (element ++ rest.flatten).drop (index * width + width) =
              rest.flatten.drop (index * width) := by
            rw [Nat.add_comm, ← head, List.drop_append]
            simp
          simpa [slot, Nat.succ_mul, skip] using tail

/-- Whole elements cut out of a flattened batch. -/
theorem take_drop_flatten {batch : List (List α)} {width first count : Nat}
    (widths : ∀ element ∈ batch, element.length = width)
    (fits : first + count ≤ batch.length) :
    (batch.flatten.drop (first * width)).take (count * width) =
      ((batch.drop first).take count).flatten := by
  rw [take_drop_eq_slots]
  congr 1
  apply List.ext_getElem
  · simp only [segment_length, List.length_take, List.length_drop]
    omega
  · intro offset left right
    rw [segment_length] at left
    simpa [segment] using flatten_slot widths (first + offset) (by omega)

/-- A slot below a spliced batch is untouched. -/
theorem slot_splice_below {bytes data : List α} {width first index : Nat}
    (fits : first * width + data.length ≤ bytes.length) (below : index < first) :
    slot (splice bytes (first * width) data) width index = slot bytes width index := by
  have room : (index + 1) * width ≤ first * width := Nat.mul_le_mul_right _ below
  rw [Nat.succ_mul] at room
  have length : (bytes.take (first * width)).length = first * width := by
    simp only [List.length_take]
    omega
  unfold slot splice
  rw [List.append_assoc, List.drop_append_of_le_length (by omega),
    List.take_append_of_le_length (by rw [List.length_drop]; omega), List.drop_take,
    List.take_take, Nat.min_eq_left (by omega)]

/-- A slot above a spliced batch is untouched. -/
theorem slot_splice_above {bytes data : List α} {width first count index : Nat}
    (exactly : data.length = count * width)
    (fits : first * width + data.length ≤ bytes.length) (above : first + count ≤ index) :
    slot (splice bytes (first * width) data) width index = slot bytes width index := by
  have room : (first + count) * width ≤ index * width := Nat.mul_le_mul_right _ above
  rw [Nat.add_mul] at room
  have length : (bytes.take (first * width) ++ data).length =
      first * width + data.length := by
    simp only [List.length_append, List.length_take]
    omega
  unfold slot splice
  rw [List.drop_append, length, List.drop_of_length_le (by omega), List.nil_append,
    List.drop_drop]
  congr 2
  omega

/-- Inside a spliced batch each slot is the batch's element. -/
theorem slot_splice_inside {bytes : List α} {batch : List (List α)} {width first index : Nat}
    (widths : ∀ element ∈ batch, element.length = width)
    (fits : first * width + batch.flatten.length ≤ bytes.length)
    (inside : index < batch.length) :
    slot (splice bytes (first * width) batch.flatten) width (first + index) = batch[index] := by
  have exactly := flatten_length_of_width widths
  have room : (index + 1) * width ≤ batch.length * width := Nat.mul_le_mul_right _ inside
  rw [Nat.succ_mul] at room
  have length : (bytes.take (first * width)).length = first * width := by
    simp only [List.length_take]
    omega
  rw [← flatten_slot widths index inside]
  unfold slot splice
  rw [Nat.add_mul, List.append_assoc, List.drop_append, length,
    List.drop_of_length_le (by omega), List.nil_append, Nat.add_sub_cancel_left,
    List.drop_append_of_le_length (by omega),
    List.take_append_of_le_length (by rw [List.length_drop]; omega)]

end WchCh56x.Support.RingBuffer
