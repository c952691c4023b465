import WchCh56x.CTypes

/-!
# Bytes read back from memory

What a region holds after a store or a copy, inside and outside of what was
written.
-/

namespace WchCh56x

def bytesAt (memory : Nat → U8) (address size : Nat) : List U8 :=
  (List.range size).map fun offset => memory (address + offset)

section BytesAt

variable {memory other : Nat → U8} {address size : Nat}

@[simp] theorem bytesAt_length : (bytesAt memory address size).length = size := by
  simp [bytesAt]

theorem bytesAt_congr (same : ∀ offset < size, other (address + offset) = memory (address + offset)) :
    bytesAt other address size = bytesAt memory address size :=
  List.map_congr_left fun offset inRange => same offset (List.mem_range.mp inRange)

/-- The front of a region is a region. -/
theorem take_bytesAt {count : Nat} (inside : count ≤ size) :
    (bytesAt memory address size).take count = bytesAt memory address count := by
  rw [bytesAt, ← List.map_take, List.take_range, Nat.min_eq_left inside]
  rfl

/-- A part of a region is a region. -/
theorem take_drop_bytesAt {start count : Nat} (inside : start + count ≤ size) :
    ((bytesAt memory address size).drop start).take count = bytesAt memory (address + start) count := by
  obtain ⟨rest, rfl⟩ := Nat.exists_eq_add_of_le (Nat.le_of_add_right_le inside)
  have behind : (bytesAt memory address (start + rest)).drop start =
      bytesAt memory (address + start) rest := by
    rw [bytesAt, bytesAt, List.range_add, List.map_append, List.map_map]
    refine (List.drop_left' (by simp)).trans (List.map_congr_left fun offset _ => ?_)
    exact congrArg memory (Nat.add_assoc ..).symm
  rw [behind]
  exact take_bytesAt (by omega)

/-- The bytes behind the front of a region. -/
theorem take_append_bytesAt {count more : Nat} (inside : count + more ≤ size) :
    (bytesAt memory address size).take count ++ bytesAt memory (address + count) more =
      (bytesAt memory address size).take (count + more) := by
  rw [← take_drop_bytesAt inside, ← List.take_add]

theorem bytesAt_memcpyBytes (source : Nat) :
    bytesAt (memcpyBytes memory address source size) address size = bytesAt memory source size := by
  refine List.map_congr_left fun offset inRange => ?_
  have inside : address ≤ address + offset ∧ address + offset < address + size :=
    ⟨Nat.le_add_right _ _, Nat.add_lt_add_left (List.mem_range.mp inRange) _⟩
  rw [memcpyBytes, if_pos inside, Nat.add_sub_cancel_left]

theorem bytesAt_storeBytes {bytes : List U8} (inside : size ≤ bytes.length) :
    bytesAt (storeBytes memory address bytes) address size = bytes.take size := by
  rw [← take_bytesAt inside]
  exact congrArg (List.take size) (read_storeBytes memory address bytes)

theorem memcpyBytes_outside {destination source count : Nat}
    (outside : address < destination ∨ destination + count ≤ address) :
    memcpyBytes memory destination source count address = memory address :=
  if_neg (by omega)

theorem storeBytes_outside {destination : Nat} {bytes : List U8}
    (outside : address < destination ∨ destination + bytes.length ≤ address) :
    storeBytes memory destination bytes address = memory address :=
  if_neg (by omega)

end BytesAt

end WchCh56x
