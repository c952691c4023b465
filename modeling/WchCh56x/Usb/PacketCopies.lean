import WchCh56x.CTypes
import WchCh56x.Support.Packets

/-!
# Answers in copies

Both backends copy an answer to the buffer of endpoint 0, one packet after the
other.  Where the packets only move down or the answer lies below the buffer, no
copy reaches what has not been sent.
-/

namespace WchCh56x.Usb

open Support.Packets

section

variable (memory : Nat → U8) (destination source : Nat) {size : Nat}

theorem memcpyBytes_zero : memcpyBytes memory destination source 0 = memory := by
  funext address
  exact if_neg fun inside => absurd inside.2 (Nat.not_lt.mpr inside.1)

theorem memcpyBytes_inside {offset : Nat} (inside : offset < size) :
    memcpyBytes memory destination source size (destination + offset) =
      memory (source + offset) := by
  unfold memcpyBytes
  rw [if_pos ⟨Nat.le_add_right .., Nat.add_lt_add_left inside destination⟩,
    Nat.add_sub_cancel_left]

theorem memcpyBytes_outside {address : Nat}
    (outside : address < destination ∨ destination + size ≤ address) :
    memcpyBytes memory destination source size address = memory address := by
  refine if_neg fun inside => ?_
  rcases outside with before | behind
  · exact absurd inside.1 (Nat.not_le.mpr before)
  · exact absurd inside.2 (Nat.not_lt.mpr behind)

/-- A source in the address space is where the pointer says, unless nothing is copied. -/
theorem memcpyBytes_u32 (addressable : source + size ≤ 2 ^ 32) :
    memcpyBytes memory destination (u32 source) size =
      memcpyBytes memory destination source size := by
  cases size with
  | zero => rw [memcpyBytes_zero, memcpyBytes_zero]
  | succ size => rw [u32_of_lt (by omega)]

end

/-- The packets of `total` bytes at `head`, copied one after the other. -/
structure CopiesPackets (memory : Nat → Nat → U8) (base : Nat → U8)
    (buffer head packetSize total last : Nat) : Prop where
  first : memory 0 = memcpyBytes base buffer head (packetLength packetSize total 0)
  next : ∀ index < last, memory (index + 1) = memcpyBytes (memory index) buffer
    (head + (index + 1) * packetSize) (packetLength packetSize total (index + 1))
  apart : head + total ≤ buffer ∨ buffer ≤ head

namespace CopiesPackets

variable {memory : Nat → Nat → U8} {base : Nat → U8}
  {buffer head packetSize total last : Nat}
  (copies : CopiesPackets memory base buffer head packetSize total last)
include copies

/-- A copy leaves the rest of the answer alone. -/
theorem rest_kept (before : Nat → U8) {index address : Nat}
    (next : head + (index + 1) * packetSize ≤ address) (inside : address < head + total) :
    memcpyBytes before buffer (head + index * packetSize) (packetLength packetSize total index)
      address = before address := by
  refine memcpyBytes_outside _ _ _ ?_
  rw [Nat.succ_mul] at next
  unfold packetLength
  rcases copies.apart with above | below
  · left
    omega
  · right
    omega

theorem first_eq : memory 0 = memcpyBytes base buffer (head + 0 * packetSize)
    (packetLength packetSize total 0) := by
  rw [Nat.zero_mul]
  exact copies.first

/-- What has not been sent is still there. -/
theorem rest_eq {index : Nat} (within : index ≤ last) {address : Nat}
    (next : head + (index + 1) * packetSize ≤ address) (inside : address < head + total) :
    memory index address = base address := by
  induction index with
  | zero =>
      rw [copies.first_eq]
      exact copies.rest_kept base next inside
  | succ index ih =>
      rw [copies.next index within, copies.rest_kept (memory index) next inside]
      rw [Nat.succ_mul] at next
      exact ih (Nat.le_of_succ_le within) (by omega)

/-- The buffer has the next part of the answer. -/
theorem packet_eq {index : Nat} (within : index ≤ last) {offset : Nat}
    (inside : offset < packetLength packetSize total index) :
    memory index (buffer + offset) = base (head + (index * packetSize + offset)) := by
  cases index with
  | zero =>
      rw [copies.first_eq, memcpyBytes_inside _ _ _ inside, Nat.add_assoc]
  | succ index =>
      rw [copies.next index within, memcpyBytes_inside _ _ _ inside, Nat.add_assoc]
      unfold packetLength at inside
      exact copies.rest_eq (Nat.le_of_succ_le within) (by omega) (by omega)

end CopiesPackets

end WchCh56x.Usb
