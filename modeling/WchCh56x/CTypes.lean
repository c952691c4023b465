import Mathlib.Data.List.GetD
import Mathlib.Tactic

/-!
# Machine integers and bytes

Registers and fixed-width variables that are combined bit by bit are bit
vectors.  Counters and indices are natural numbers, and every place where the
source stores an `int` result into a narrower variable says so with one of the
conversions below.
-/

namespace WchCh56x

abbrev U8 := BitVec 8
abbrev U16 := BitVec 16
abbrev U32 := BitVec 32

def u8 (value : Nat) : Nat := value % 256

def u16 (value : Nat) : Nat := value % 65536

def u32 (value : Nat) : Nat := value % 4294967296

theorem u8_of_lt {value : Nat} (small : value < 256) : u8 value = value :=
  Nat.mod_eq_of_lt small

theorem u16_of_lt {value : Nat} (small : value < 65536) : u16 value = value :=
  Nat.mod_eq_of_lt small

theorem u32_of_lt {value : Nat} (small : value < 4294967296) : u32 value = value :=
  Nat.mod_eq_of_lt small

/-- Nothing is lost exactly if the value fits. -/
theorem u16_eq_self_iff {value : Nat} : u16 value = value ↔ value < 65536 := by
  unfold u16
  omega

theorem u16_le (value : Nat) : u16 value ≤ value :=
  Nat.mod_le value 65536

/-! ## Memory -/

/-- `memcpy` between regions that do not overlap. -/
def memcpyBytes (memory : Nat → U8) (destination source size : Nat) : Nat → U8 := fun address =>
  if destination ≤ address ∧ address < destination + size then
    memory (source + (address - destination))
  else
    memory address

def storeBytes (memory : Nat → U8) (destination : Nat) (bytes : List U8) : Nat → U8 :=
  fun address =>
    if destination ≤ address ∧ address < destination + bytes.length then
      bytes.getD (address - destination) 0
    else
      memory address

/-- Two stores one behind the other are one. -/
theorem storeBytes_append (memory : Nat → U8) (destination : Nat) (first second : List U8) :
    storeBytes (storeBytes memory destination first) (destination + first.length) second =
      storeBytes memory destination (first ++ second) := by
  funext address
  unfold storeBytes
  rw [List.length_append]
  by_cases inSecond : destination + first.length ≤ address ∧
      address < destination + first.length + second.length
  · have behind : first.length ≤ address - destination := by omega
    rw [if_pos inSecond, if_pos (by omega), List.getD_append_right _ _ _ _ behind, Nat.sub_sub]
  · rw [if_neg inSecond]
    by_cases inFirst : destination ≤ address ∧ address < destination + first.length
    · have inside : address - destination < first.length := by omega
      rw [if_pos inFirst, if_pos (by omega), List.getD_append _ _ _ _ inside]
    · rw [if_neg inFirst, if_neg (by omega)]

theorem storeBytes_nil (memory : Nat → U8) (destination : Nat) :
    storeBytes memory destination [] = memory := by
  funext address
  exact if_neg fun inside => absurd inside.2 (Nat.not_lt.mpr inside.1)

/-- What has been stored is in memory. -/
theorem read_storeBytes (memory : Nat → U8) (destination : Nat) (bytes : List U8) :
    ((List.range bytes.length).map fun offset =>
      storeBytes memory destination bytes (destination + offset)) = bytes := by
  refine List.ext_getElem (by simp) fun index inRange inBytes => ?_
  have inside : destination ≤ destination + index ∧
      destination + index < destination + bytes.length := by omega
  rw [List.getElem_map, List.getElem_range, storeBytes, if_pos inside, Nat.add_sub_cancel_left,
    List.getD_eq_getElem _ _ inBytes]

/-- A little-endian `uint16_t` in memory. -/
def readU16 (memory : Nat → U8) (address : Nat) : U16 :=
  memory (address + 1) ++ memory address

/-- A pointer of 32 bits in memory. -/
def readPtr (memory : Nat → U8) (address : Nat) : Nat :=
  (readU16 memory (address + 2) ++ readU16 memory address).toNat

end WchCh56x
