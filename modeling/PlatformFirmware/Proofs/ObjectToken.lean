import Mathlib.Data.Nat.Bitwise
import Mathlib.Tactic.SplitIfs
import PlatformFirmware.ObjectId

namespace PlatformFirmware

/-- Every object is listed at its number. -/
theorem StandardObject.number_all : ∀ i : Fin all.length, (all.get i).number.toNat = i := by decide

theorem StandardObject.ofNumber?_eq_some {number : UInt32} {object : StandardObject} :
    ofNumber? number = some object ↔ number = object.number := by
  constructor
  · intro h
    obtain ⟨place, listed⟩ := List.getElem?_eq_some_iff.mp h
    rw [← UInt32.toNat_inj, ← listed]
    exact (number_all ⟨number.toNat, place⟩).symm
  · rintro rfl
    cases object <;> rfl

theorem ArmObject.number_all : ∀ i : Fin all.length, (all.get i).number.toNat = i := by decide

theorem ArmObject.ofNumber?_eq_some {number : UInt32} {object : ArmObject} :
    ofNumber? number = some object ↔ number = object.number := by
  constructor
  · intro h
    obtain ⟨place, listed⟩ := List.getElem?_eq_some_iff.mp h
    rw [← UInt32.toNat_inj, ← listed]
    exact (number_all ⟨number.toNat, place⟩).symm
  · rintro rfl
    cases object <;> rfl

theorem ArmObject.number_injective : Function.Injective number := by
  intro object other same
  have read : ofNumber? other.number = some object := ofNumber?_eq_some.mpr same.symm
  exact Option.some.inj (read.symm.trans (ofNumber?_eq_some.mpr rfl))

theorem ObjectNamespace.ofNumber?_eq_some {number : UInt32} {space : ObjectNamespace} :
    ofNumber? number = some space ↔ number = space.number := by
  constructor
  · intro h
    unfold ofNumber? at h
    split_ifs at h <;> cases h <;> assumption
  · rintro rfl
    cases space <;> rfl

theorem ObjectNamespace.ofNumber?_eq_none {number : UInt32} :
    ofNumber? number = none ↔ ∀ space : ObjectNamespace, number ≠ space.number := by
  rw [Option.eq_none_iff_forall_ne_some]
  exact forall_congr' fun space => not_congr ofNumber?_eq_some

theorem ObjectId.namespaceNumber_toNat (id : ObjectId) :
    id.namespaceNumber.toNat = (id.value.toBitVec.extractLsb 31 28).toNat := by
  have small := id.value.toNat_lt
  rw [namespaceNumber, UInt32.toNat_and, UInt32.toNat_shiftRight, BitVec.extractLsb_toNat]
  exact Nat.and_two_pow_sub_one_eq_mod _ 4

theorem ObjectId.object_toNat (id : ObjectId) :
    id.object.toNat = (id.value.toBitVec.extractLsb 7 0).toNat := by
  rw [object, UInt32.toNat_and, BitVec.extractLsb_toNat]
  exact Nat.and_two_pow_sub_one_eq_mod _ 8

theorem ObjectId.object_arm (object : ArmObject) : (arm object).object = object.number := by
  cases object <;> rfl

theorem ObjectId.arm_injective : Function.Injective arm := by
  intro object other same
  apply ArmObject.number_injective
  rw [← object_arm, same, object_arm]

/-- A token holds the object above bit 16 and the place, counted from 1, below. -/
theorem referenceToken_toNat (object : ArmObject) {index : Nat} (small : index < 0xFFFF) :
    (referenceToken object (UInt64.ofNat index)).toNat =
      (ObjectId.arm object).value.toNat * 0x10000 + (index + 1) := by
  have number := (ObjectId.arm object).value.toNat_lt
  have place : (UInt64.ofNat index + 1).toNat = index + 1 := by
    rw [UInt64.toNat_add, UInt64.toNat_ofNat']
    change (index % 2 ^ 64 + 1) % 2 ^ 64 = index + 1
    omega
  have joined := Nat.two_pow_add_eq_or_of_lt (i := 16) (b := index + 1) (by omega)
    (ObjectId.arm object).value.toNat
  rw [referenceToken, UInt64.toNat_or, UInt64.toNat_shiftLeft, UInt32.toNat_toUInt64, place,
    Nat.shiftLeft_eq]
  change (ObjectId.arm object).value.toNat * 2 ^ 16 % 2 ^ 64 ||| (index + 1) = _
  rw [Nat.mod_eq_of_lt (by omega), Nat.mul_comm, ← joined]

theorem referenceToken_ne_null (object : ArmObject) {index : Nat} (small : index < 0xFFFF) :
    referenceToken object (UInt64.ofNat index) ≠ nullToken := by
  intro same
  have value := referenceToken_toNat object small
  rw [same] at value
  change 0 = _ at value
  omega

/-- The token of an element means that element and nothing else, as long as its place can be
counted in 16 bits. -/
theorem tokenIndex?_eq_some {object : ArmObject} {token : ObjectToken} {count index : Nat} :
    tokenIndex? object token count = some index ↔ index < 0xFFFF ∧ index < count ∧
      token = referenceToken object (UInt64.ofNat index) := by
  have place : (token &&& 0xFFFF).toNat = token.toNat % 0x10000 := by
    rw [UInt64.toNat_and]
    exact Nat.and_two_pow_sub_one_eq_mod token.toNat 16
  have tag : token >>> 16 = (ObjectId.arm object).value.toUInt64 ↔
      token.toNat / 0x10000 = (ObjectId.arm object).value.toNat := by
    rw [← UInt64.toNat_inj, UInt64.toNat_shiftRight, UInt32.toNat_toUInt64]
    change token.toNat >>> 16 = _ ↔ _
    rw [Nat.shiftRight_eq_div_pow]
  simp only [tokenIndex?, place, ne_eq, tag]
  constructor
  · intro h
    split at h
    next => cases h
    next valid =>
      cases Option.some.inj h
      have small : token.toNat % 0x10000 - 1 < 0xFFFF := by omega
      refine ⟨small, by omega, ?_⟩
      rw [← UInt64.toNat_inj, referenceToken_toNat object small]
      omega
  · rintro ⟨small, inside, rfl⟩
    rw [referenceToken_toNat object small, if_neg (by omega)]
    congr 1
    omega

theorem referenceToken?_eq (object : ArmObject) {index : Nat} (small : index < 0xFFFF) :
    referenceToken? object index = some (referenceToken object (UInt64.ofNat index)) :=
  if_pos (Nat.lt_trans (Nat.succ_lt_succ small) (by decide))

/-- Below 0xFFFF a place stays clear of the bits of the object. -/
theorem referenceToken_inj {object other : ArmObject} {index place : Nat} (small : index < 0xFFFF)
    (small' : place < 0xFFFF) :
    referenceToken object (UInt64.ofNat index) = referenceToken other (UInt64.ofNat place) ↔
      object = other ∧ index = place := by
  constructor
  · intro same
    have value := referenceToken_toNat object small
    rw [same, referenceToken_toNat other small'] at value
    -- Both places are below 2 ^ 16, so quotient and remainder of the token agree.
    have tag : (ObjectId.arm object).value = (ObjectId.arm other).value := by
      rw [← UInt32.toNat_inj]
      omega
    refine ⟨ObjectId.arm_injective (congrArg ObjectId.mk tag), ?_⟩
    rw [tag] at value
    omega
  · rintro ⟨rfl, rfl⟩
    rfl

/-- Making a token and reading it are inverse to each other. A token is read as the element it was
made of, in an array that has that element, and as none elsewhere; and what is read as an element
is the token of that element. So no two elements share a token, and none has the null token. -/
theorem tokens_read_back :
    (∀ (object other : ArmObject) (index count : Nat), index < 0xFFFF →
      ∃ token, referenceToken? other index = some token ∧ token ≠ nullToken ∧
        ∀ found, tokenIndex? object token count = some found ↔
          object = other ∧ found = index ∧ index < count) ∧
    (∀ (object : ArmObject) (token : ObjectToken) (count found : Nat),
      tokenIndex? object token count = some found →
        referenceToken? object found = some token ∧ found < 0xFFFF ∧ found < count) ∧
    (∀ (object other : ArmObject) (index place : Nat), index < 0xFFFF → place < 0xFFFF →
      referenceToken? object index = referenceToken? other place → object = other ∧ index = place) ∧
    ∀ (object other : ArmObject) (token : ObjectToken) (count size found place : Nat),
      tokenIndex? object token count = some found → tokenIndex? other token size = some place →
        object = other ∧ found = place := by
  refine ⟨fun object other index count small => ?_, fun object token count found read => ?_,
    fun object other index place small small' same => ?_,
    fun object other token count size found place read read' => ?_⟩
  · refine ⟨_, referenceToken?_eq other small, referenceToken_ne_null other small, fun found => ?_⟩
    rw [tokenIndex?_eq_some]
    constructor
    · rintro ⟨small', inside, same⟩
      obtain ⟨rfl, rfl⟩ := (referenceToken_inj small small').mp same
      exact ⟨rfl, rfl, inside⟩
    · rintro ⟨rfl, rfl, inside⟩
      exact ⟨small, inside, rfl⟩
  · obtain ⟨small, inside, rfl⟩ := tokenIndex?_eq_some.mp read
    exact ⟨referenceToken?_eq object small, small, inside⟩
  · rw [referenceToken?_eq object small, referenceToken?_eq other small'] at same
    exact (referenceToken_inj small small').mp (Option.some.inj same)
  · obtain ⟨small, -, made⟩ := tokenIndex?_eq_some.mp read
    obtain ⟨small', -, made'⟩ := tokenIndex?_eq_some.mp read'
    exact (referenceToken_inj small small').mp (made.symm.trans made')

/-- The last place that can be counted: its token is read in a larger array of the object, not in
one that ends before it, and not in an array of another object. -/
theorem tokens_read_back_last :
    let token : ObjectToken := 0x1000001CFFFF
    (0xFFFE < 0xFFFF ∧ referenceToken? .cacheInfo 0xFFFE = some token ∧ token ≠ nullToken) ∧
      tokenIndex? .cacheInfo token 0x20000 = some 0xFFFE ∧
      (¬∃ found, tokenIndex? .cacheInfo token 0xFFFE = some found) ∧
      ¬∃ found, tokenIndex? .smmuV3 token 0x20000 = some found := by
  intro token
  obtain ⟨makes, reads, -, apart⟩ := tokens_read_back
  have small : 0xFFFE < 0xFFFF := by decide
  obtain ⟨same, made, real, read⟩ := makes .cacheInfo .cacheInfo 0xFFFE 0x20000 small
  obtain rfl : token = same := Option.some.inj made
  have last : tokenIndex? .cacheInfo token 0x20000 = some 0xFFFE :=
    (read 0xFFFE).mpr ⟨rfl, rfl, by decide⟩
  refine ⟨⟨small, made, real⟩, last, ?_, ?_⟩
  · rintro ⟨found, short⟩
    obtain ⟨-, rfl⟩ := apart _ _ token _ _ _ _ last short
    exact absurd (reads _ token _ _ short).2.2 (by decide)
  · rintro ⟨found, foreign⟩
    exact absurd (apart _ _ token _ _ _ _ last foreign).1 (by decide)

/-- The next place is not below 0xFFFF, and its token is that of another object too. -/
example : referenceToken .reserved 0xFFFF = referenceToken .bootArchInfo 0xFFFF := by decide

end PlatformFirmware
