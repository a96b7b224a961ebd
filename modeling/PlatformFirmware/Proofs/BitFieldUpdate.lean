import PlatformFirmware.BitField

namespace PlatformFirmware

namespace BitField

theorem getLsbD_put (field : BitField) {w : Nat} (word : BitVec w) (value : BitVec field.width)
    (k : Nat) :
    (field.put word value).getLsbD k =
      if field.start ≤ k ∧ k < field.start + field.width ∧ k < w then
        value.getLsbD (k - field.start)
      else word.getLsbD k := by
  simp only [put, mask, BitVec.getLsbD_or, BitVec.getLsbD_and, BitVec.getLsbD_not,
    BitVec.getLsbD_shiftLeft, BitVec.getLsbD_setWidth, BitVec.getLsbD_allOnes]
  by_cases hw : k < w
  · by_cases hlo : field.start ≤ k
    · by_cases hhi : k < field.start + field.width
      · have : k - field.start < field.width := by omega
        have : ¬k < field.start := by omega
        have : k - field.start < w := by omega
        simp [*]
      · have : ¬k - field.start < field.width := by omega
        have out : value.getLsbD (k - field.start) = false :=
          BitVec.getLsbD_of_ge _ _ (by omega)
        simp [*]
    · have : k < field.start := by omega
      simp [*]
  · have out : word.getLsbD k = false := BitVec.getLsbD_of_ge _ _ (by omega)
    simp [hw, out]

theorem getLsbD_get (field : BitField) {w : Nat} (word : BitVec w) (k : Nat) :
    (field.get word).getLsbD k = (decide (k < field.width) && word.getLsbD (field.start + k)) :=
  BitVec.getLsbD_extractLsb' _ _ _ _

theorem get_put (field : BitField) {w : Nat} (word : BitVec w) (value : BitVec field.width)
    (h : field.start + field.width ≤ w) : field.get (field.put word value) = value := by
  apply BitVec.eq_of_getLsbD_eq
  intro k hk
  rw [getLsbD_get, getLsbD_put, if_pos (by omega)]
  simp [hk]

theorem get_put_other {field other : BitField} {w : Nat} (word : BitVec w)
    (value : BitVec field.width)
    (h : field.start + field.width ≤ other.start ∨ other.start + other.width ≤ field.start) :
    other.get (field.put word value) = other.get word := by
  apply BitVec.eq_of_getLsbD_eq
  intro k hk
  rw [getLsbD_get, getLsbD_get, getLsbD_put, if_neg (by omega)]

theorem put_put (field : BitField) {w : Nat} (word : BitVec w)
    (first second : BitVec field.width) :
    field.put (field.put word first) second = field.put word second := by
  apply BitVec.eq_of_getLsbD_eq
  intro k hk
  rw [getLsbD_put, getLsbD_put, getLsbD_put]
  split <;> rfl

theorem put_get (field : BitField) {w : Nat} (word : BitVec w) :
    field.put word (field.get word) = word := by
  apply BitVec.eq_of_getLsbD_eq
  intro k hk
  rw [getLsbD_put]
  split
  next h =>
    have inside : k - field.start < field.width := by omega
    rw [getLsbD_get, Nat.add_sub_cancel' h.1]
    simp [inside]
  next => rfl

theorem fit?_toNat (field : BitField) (value : BitVec field.width) :
    field.fit? value.toNat = some value := by
  unfold fit?
  rw [BitVec.ofNat_toNat, BitVec.setWidth_eq]
  exact if_pos rfl

end BitField

end PlatformFirmware
