import Mathlib.Algebra.Group.Nat.Defs
import Mathlib.Data.Nat.Log
import PlatformFirmware.Proofs.TrapDecode
import PlatformFirmware.Proofs.TrapSearch

namespace PlatformFirmware

/-! The arithmetic of the dispatcher in words of 16 and 32 bits. What does not fit its word, or its
field of a register, has no value. -/

namespace Checked

def sum16 (a b : UInt16) : Option UInt16 :=
  if a.toNat + b.toNat < UInt16.size then some (a + b) else none

def difference16 (a b : UInt16) : Option UInt16 :=
  if b ≤ a then some (a - b) else none

def remainder16 (a b : UInt16) : Option UInt16 :=
  if b = 0 then none else some (a % b)

def sum32 (a b : UInt32) : Option UInt32 :=
  if a.toNat + b.toNat < UInt32.size then some (a + b) else none

/-- The least power of two that is not below a word. -/
def nextPower16 (a : UInt16) : Option UInt16 :=
  let power := 2 ^ Nat.clog 2 a.toNat
  if power < UInt16.size then some (.ofNat power) else none

def roundedLength (length : UInt16) : Option UInt16 :=
  nextPower16 (max length 4)

/-- Whether a range is not aligned to its length, or goes past the last address. -/
def isMisplaced (address length : UInt16) : Option Bool := do
  let rest ← remainder16 address length
  let stop ← sum32 address.toUInt32 length.toUInt32
  return rest ≠ 0 || decide (0x10000 < stop)

def overlaps (entry : TrapEntry) (address length : UInt16) : Option Bool := do
  let stop ← sum32 address.toUInt32 length.toUInt32
  let entryStop ← sum32 entry.base.toUInt32 entry.length.toUInt32
  return entry.inUse && decide (address.toUInt32 < entryStop) &&
    decide (entry.base.toUInt32 < stop)

/-- The next free multiple of `length`, a power of two, by a mask of the bits below it. Bytes
handed out beyond the last word leave no room, like those beyond the window. -/
def freeOffset (entry : TrapEntry) (length : UInt16) : Option (Option UInt16) := do
  if !entry.inUse || entry.isDedicated then return none
  let low ← difference16 length 1
  match sum16 entry.usedLength low with
  | none => return none
  | some last =>
    let offset := last &&& ~~~low
    let stop ← sum32 offset.toUInt32 length.toUInt32
    return if stop ≤ mergedTrapLength.toUInt32 then some offset else none

def isFor (record : TrapRecord) (address : UInt16) (isWrite : Bool) : Option Bool := do
  let stop ← sum32 record.request.address.toUInt32 record.length.toUInt32
  return decide (record.request.address.toUInt32 ≤ address.toUInt32) &&
    decide (address.toUInt32 < stop) && record.request.direction.accepts isWrite

def ofRange (address length : UInt16) (direction : TrapDirection) : Option TrapRegister := do
  let span := length - min length 1
  let register ← (TrapRegister.zero.put .enable 1).put? .dwordAddress (address >>> 2).toNat
  let register ← register.put? .ignoredAddress ((span >>> 2) &&& 0x3F).toUInt8.toNat
  let register ← register.put? .ignoredByteEnable 0xF
  return register.putDirection direction

def ofRequest (request : TrapRequest) (length : UInt16) : Option TrapRegister := do
  let register ← ofRange request.address length request.direction
  let register ← register.put? .byteEnable (request.byteEnable &&& 0xF).toNat
  register.put? .ignoredByteEnable (request.ignoredByteEnable &&& 0xF).toNat

def registerLength (register : TrapRegister) : Option UInt16 :=
  sum16 ⟨(register.get .ignoredAddress).setWidth 16 <<< 2⟩ 4

def cycleAddress (cycle : TrappedCycle) : Option UInt16 :=
  sum16 ⟨cycle.dword⟩ (TrappedCycle.lowestEnabled (cycle.get .byteEnable))

theorem sum16_eq {a b : UInt16} (fits : a.toNat + b.toNat < UInt16.size) :
    sum16 a b = some (a + b) :=
  if_pos fits

/-- The sum of two words of 16 bits fits 32 bits. -/
theorem sum32_eq (a b : UInt16) :
    sum32 a.toUInt32 b.toUInt32 = some (a.toUInt32 + b.toUInt32) ∧
      (a.toUInt32 + b.toUInt32).toNat = a.toNat + b.toNat := by
  have ha := a.toNat_lt
  have hb := b.toNat_lt
  have fits : a.toUInt32.toNat + b.toUInt32.toNat < UInt32.size := by
    simp only [UInt16.toNat_toUInt32, UInt32.size]
    omega
  refine ⟨if_pos fits, ?_⟩
  rw [UInt32.toNat_add, Nat.mod_eq_of_lt fits, UInt16.toNat_toUInt32, UInt16.toNat_toUInt32]

theorem nextPower_isLeast (n : Nat) :
    IsLeast {m : Nat | m.isPowerOfTwo ∧ n ≤ m} (2 ^ Nat.clog 2 n) := by
  refine ⟨⟨⟨_, rfl⟩, Nat.le_pow_clog Nat.one_lt_two n⟩, ?_⟩
  rintro m ⟨⟨k, rfl⟩, above⟩
  exact Nat.pow_le_pow_right Nat.two_pos ((Nat.clog_le_iff_le_pow Nat.one_lt_two).mpr above)

theorem roundedLength_eq {length : UInt16} (small : length ≤ maximumTrapLength) :
    roundedLength length = some (roundedTrapLength length) := by
  have larger : (max length 4).toNat = max length.toNat 4 := by
    change (if length ≤ 4 then 4 else length).toNat = _
    split
    next le => exact (max_eq_right (UInt16.le_iff_toNat_le.mp le)).symm
    next gt => exact (max_eq_left (Nat.le_of_lt (UInt16.lt_iff_toNat_lt.mp
      (UInt16.not_le.mp gt)))).symm
  have power : 2 ^ Nat.clog 2 (max length 4).toNat = (roundedTrapLength length).toNat := by
    rw [larger]
    exact (nextPower_isLeast _).unique (roundedTrapLength_isLeast small)
  simp only [roundedLength, nextPower16, power]
  rw [if_pos (roundedTrapLength length).toNat_lt, UInt16.ofNat_toNat]

theorem isMisplaced_eq {length : UInt16} (h : length ∈ trapLengths) (address : UInt16) :
    isMisplaced address length = some (address % length ≠ 0 ||
      decide (address.toNat + length.toNat > UInt16.size)) := by
  have pos : length ≠ 0 := by
    rintro rfl
    exact absurd h (by decide)
  obtain ⟨sum, value⟩ := sum32_eq address length
  simp only [isMisplaced, remainder16, if_neg pos, sum, Option.bind_eq_bind, Option.bind_some]
  simp only [UInt32.lt_iff_toNat_lt, value]
  rfl

theorem overlaps_eq (entry : TrapEntry) (address length : UInt16) :
    overlaps entry address length = some (entry.overlaps address length) := by
  obtain ⟨sum, value⟩ := sum32_eq address length
  obtain ⟨sum', value'⟩ := sum32_eq entry.base entry.length
  simp only [overlaps, sum, sum', Option.bind_eq_bind, Option.bind_some]
  simp only [UInt32.lt_iff_toNat_lt, value, value', UInt16.toNat_toUInt32]
  rfl

theorem isFor_eq (record : TrapRecord) (address : UInt16) (isWrite : Bool) :
    isFor record address isWrite = some (record.isFor address isWrite) := by
  obtain ⟨sum, value⟩ := sum32_eq record.request.address record.length
  simp only [isFor, sum, Option.bind_eq_bind, Option.bind_some]
  simp only [UInt32.lt_iff_toNat_lt, UInt32.le_iff_toNat_le, value, UInt16.toNat_toUInt32]
  simp only [TrapRecord.isFor, UInt16.le_iff_toNat_le]
  rfl

/-- To clear the bits below a length that is a power of two is to round down to a multiple of it. -/
theorem and_not_low {length : UInt16} (h : length ∈ trapLengths) (word : UInt16) :
    (word &&& ~~~(length - 1)).toNat = word.toNat / length.toNat * length.toNat := by
  obtain ⟨k, mask, shift⟩ := trapLength_shift h
  have power : 2 ^ k = length.toNat := by
    have both := shift (length.toNat * 2 ^ k)
    rw [Nat.shiftRight_eq_div_pow, Nat.mul_div_cancel _ (Nat.two_pow_pos k),
      Nat.mul_div_cancel_left _ (trapLength_pos h)] at both
    exact both.symm
  have shifted : word.toBitVec &&& ~~~(length - 1).toBitVec = word.toBitVec >>> k <<< k := by
    apply BitVec.eq_of_getLsbD_eq
    intro i hi
    simp only [BitVec.getLsbD_and, BitVec.getLsbD_not, BitVec.getLsbD_shiftLeft,
      BitVec.getLsbD_ushiftRight, mask i hi]
    by_cases low : i < k
    · simp [low]
    · simp [low, hi, Nat.add_sub_cancel' (Nat.le_of_not_lt low)]
  have below : word.toNat / length.toNat * length.toNat < 2 ^ 16 :=
    Nat.lt_of_le_of_lt (Nat.div_mul_le_self _ _) word.toNat_lt
  change (word.toBitVec &&& ~~~(length - 1).toBitVec).toNat = _
  rw [shifted, BitVec.toNat_shiftLeft, BitVec.toNat_ushiftRight, Nat.shiftLeft_eq, power, shift]
  exact Nat.mod_eq_of_lt below

theorem freeOffset_eq (entry : TrapEntry) {length : UInt16} (h : length ∈ trapLengths) :
    freeOffset entry length = some (entry.freeOffset? length) := by
  have pos := trapLength_pos h
  have le : (1 : UInt16) ≤ length := UInt16.le_iff_toNat_le.mpr pos
  have low : (length - 1).toNat = length.toNat - 1 := UInt16.toNat_sub_of_le _ _ le
  by_cases shared : entry.inUse = true ∧ entry.isDedicated = false
  · obtain ⟨used, alone⟩ := shared
    simp only [freeOffset, TrapEntry.freeOffset?, used, alone, difference16, if_pos le,
      Option.bind_eq_bind, Option.bind_some]
    by_cases fits : entry.usedLength.toNat + (length - 1).toNat < UInt16.size
    · have offset : (entry.usedLength + (length - 1) &&& ~~~(length - 1)).toNat =
          roundUp entry.usedLength.toNat length.toNat := by
        rw [and_not_low h, toNat_add_of_lt fits, low, roundUp]
      obtain ⟨sum, value⟩ := sum32_eq (entry.usedLength + (length - 1) &&& ~~~(length - 1)) length
      rw [offset] at value
      simp only [sum16_eq fits, sum, Option.bind_some, UInt32.le_iff_toNat_le, value, ← offset,
        UInt16.ofNat_toNat, UInt16.toNat_toUInt32]
      simp
    · -- Bytes up to the end of the last word are handed out, far beyond the window.
      have most := trapLength_toNat h
      have beyond := le_roundUp (n := entry.usedLength.toNat) pos
      have size : UInt16.size = 65536 := rfl
      have none : ¬roundUp entry.usedLength.toNat length.toNat + length.toNat ≤
          mergedTrapLength.toNat := by
        rw [mergedTrapLength_toNat]
        omega
      simp [sum16, fits, none]
  · have closed : (!entry.inUse || entry.isDedicated) = true := by
      rw [Bool.or_eq_true, Bool.not_eq_true']
      cases used : entry.inUse <;> cases alone : entry.isDedicated <;> simp_all
    have closed' : (entry.inUse && !entry.isDedicated) = false := by
      rw [← Bool.not_eq_true, Bool.and_eq_true, Bool.not_eq_true']
      exact shared
    simp [freeOffset, TrapEntry.freeOffset?, closed, closed']

theorem registerLength_eq (register : TrapRegister) :
    registerLength register = some register.length := by
  have bound : (register.get .ignoredAddress).toNat < 64 := (register.get .ignoredAddress).isLt
  have shifted : ((register.get .ignoredAddress).setWidth 16 <<< 2).toNat =
      (register.get .ignoredAddress).toNat * 4 := by
    simp
    omega
  refine sum16_eq ?_
  change ((register.get .ignoredAddress).setWidth 16 <<< 2).toNat + 4 < 65536
  rw [shifted]
  omega

theorem cycleAddress_eq (cycle : TrappedCycle) : cycleAddress cycle = some cycle.address :=
  sum16_eq cycle.address_lt

theorem put?_eq (field : TrapRegister.Field) (register : TrapRegister) {value : Nat}
    {bits : BitVec field.span.width} (same : value = bits.toNat) :
    register.put? field value = some (register.put field bits) := by
  subst same
  rw [TrapRegister.put?, BitField.fit?_toNat, Option.map_some]

theorem ofRange_eq (address length : UInt16) (direction : TrapDirection) :
    ofRange address length direction = some (.ofRange address length direction) := by
  have dword : (address >>> 2).toNat = (address.toBitVec.extractLsb' 2 14).toNat := by
    have bound := address.toNat_lt
    simp [Nat.shiftRight_eq_div_pow]
    omega
  have ignored (span : UInt16) : ((span >>> 2) &&& 0x3F).toUInt8.toNat =
      (span.toBitVec.extractLsb' 2 6).toNat := by
    have masked := Nat.and_two_pow_sub_one_eq_mod (span.toNat >>> 2 % 256) 6
    rw [Nat.mod_mod_of_dvd _ (by decide : 2 ^ 6 ∣ 256)] at masked
    simpa using masked
  simp only [ofRange, put?_eq .dwordAddress _ dword, put?_eq .ignoredAddress _ (ignored _),
    put?_eq .ignoredByteEnable _ (show 0xF = (0xF : BitVec 4).toNat from rfl),
    Option.bind_eq_bind, Option.bind_some]
  rfl

theorem ofRequest_eq (request : TrapRequest) (length : UInt16) :
    ofRequest request length = some (.ofRequest request length) := by
  have low (enables : UInt8) : (enables &&& 0xF).toNat = (enables.toBitVec.setWidth 4).toNat := by
    have masked := Nat.and_two_pow_sub_one_eq_mod enables.toNat 4
    simpa using masked
  simp only [ofRequest, ofRange_eq, put?_eq .byteEnable _ (low _),
    put?_eq .ignoredByteEnable _ (low _), Option.bind_eq_bind, Option.bind_some]
  rfl

end Checked

end PlatformFirmware
