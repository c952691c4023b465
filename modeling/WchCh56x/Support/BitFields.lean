import Mathlib.Data.BitVec

/-!
# Fields of a machine word

A field is a run of bits, read with `extractLsb'`.  A value is written to it by
shifting it into place and combining the words with `|||`.
-/

namespace WchCh56x.Support.BitFields

variable {width size start len shift : Nat}

/-! ## Values shifted into place -/

/-- A field above the shift holds a field of the value. -/
theorem extract_shiftLeft (word : BitVec width) (inside : start + len ≤ width)
    (above : shift ≤ start) :
    (word <<< shift).extractLsb' start len = word.extractLsb' (start - shift) len := by
  ext i inRange
  have inWord : start + i < width := by omega
  have shifted : ¬start + i < shift := by omega
  rw [BitVec.getElem_extractLsb', BitVec.getElem_extractLsb', BitVec.getLsbD_shiftLeft,
    show start + i - shift = start - shift + i by omega]
  simp [inWord, shifted]

/-- A field below the shift is clear. -/
theorem extract_shiftLeft_below (word : BitVec width) (below : start + len ≤ shift) :
    (word <<< shift).extractLsb' start len = BitVec.ofNat len 0 := by
  ext i inRange
  have unshifted : start + i < shift := by omega
  rw [BitVec.getElem_extractLsb', BitVec.getLsbD_shiftLeft]
  simp [unshifted]

/-- Beyond its own bits, a value that was made wider is clear. -/
theorem extract_setWidth_above (value : BitVec size) (above : size ≤ start) :
    (value.setWidth width).extractLsb' start len = BitVec.ofNat len 0 := by
  ext i inRange
  have outside : size ≤ start + i := by omega
  rw [BitVec.getElem_extractLsb', BitVec.getLsbD_setWidth, BitVec.getLsbD_of_ge _ _ outside]
  simp

/-- A value in its own place. -/
theorem extract_placed (value : BitVec size) (inside : start + size ≤ width) :
    (value.setWidth width <<< start).extractLsb' start size = value := by
  have own : value.extractLsb' 0 size = value := BitVec.extractLsb'_eq_self
  rw [extract_shiftLeft _ inside le_rfl, Nat.sub_self,
    BitVec.extractLsb'_setWidth_of_le (by omega), own]

/-- A field above the place of a value is clear. -/
theorem extract_placed_above (value : BitVec size) (inside : start + len ≤ width)
    (above : shift + size ≤ start) :
    (value.setWidth width <<< shift).extractLsb' start len = BitVec.ofNat len 0 := by
  rw [extract_shiftLeft _ inside (by omega)]
  exact extract_setWidth_above value (by omega)

/-! ## The low and the high part of a word -/

def lowMask (width len : Nat) : BitVec width :=
  (BitVec.allOnes len).setWidth width

theorem and_lowMask (word : BitVec width) :
    word &&& lowMask width len = (word.setWidth len).setWidth width := by
  ext i inRange
  simp [lowMask, inRange, Bool.and_comm]

theorem toNat_and_lowMask (word : BitVec width) (inside : len ≤ width) :
    (word &&& lowMask width len).toNat = word.toNat % 2 ^ len := by
  rw [and_lowMask, BitVec.toNat_setWidth_of_le inside, BitVec.toNat_setWidth]

/-- A value shifted into the high part has nothing in the low part to clear. -/
theorem shiftLeft_and_not_lowMask (word : BitVec width) :
    (word <<< len) &&& ~~~lowMask width len = word <<< len := by
  ext i _
  simp only [BitVec.getElem_and, BitVec.getElem_not, BitVec.getElem_shiftLeft, lowMask,
    BitVec.getElem_setWidth, BitVec.getLsbD_allOnes]
  by_cases below : i < len
  · simp [below]
  · simp [below]

/-- The shift drops what the mask would clear. -/
theorem and_not_lowMask_shiftRight (word : BitVec width) :
    (word &&& ~~~lowMask width len) >>> len = word >>> len := by
  ext i _
  have above : ¬len + i < len := by omega
  simp only [BitVec.getElem_ushiftRight, BitVec.getLsbD_and, BitVec.getLsbD_not, lowMask,
    BitVec.getLsbD_setWidth, BitVec.getLsbD_allOnes, above, decide_false, Bool.and_false,
    Bool.not_false, Bool.and_true]
  by_cases inRange : len + i < width
  · simp [inRange]
  · simp [inRange, BitVec.getLsbD_of_ge _ _ (Nat.le_of_not_lt inRange)]

/-- Two parts put together add up. -/
theorem toNat_pack (low high : BitVec width) (inside : len ≤ width)
    (fits : high.toNat * 2 ^ len < 2 ^ width) :
    ((low &&& lowMask width len) ||| (high <<< len)).toNat =
      low.toNat % 2 ^ len + high.toNat * 2 ^ len := by
  rw [BitVec.toNat_or, toNat_and_lowMask low inside, BitVec.toNat_shiftLeft, Nat.shiftLeft_eq,
    Nat.mod_eq_of_lt fits, Nat.or_comm, Nat.mul_comm,
    ← Nat.two_pow_add_eq_or_of_lt (Nat.mod_lt _ (Nat.two_pow_pos len)), Nat.add_comm]

end WchCh56x.Support.BitFields
