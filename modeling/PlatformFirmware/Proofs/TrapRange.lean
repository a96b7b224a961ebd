import PlatformFirmware.TrapDispatcher

namespace PlatformFirmware

theorem le_roundUp {n unit : Nat} (h : 0 < unit) : n ≤ roundUp n unit := by
  have hdiv := Nat.div_add_mod (n + (unit - 1)) unit
  have hmod := Nat.mod_lt (n + (unit - 1)) h
  rw [Nat.mul_comm] at hdiv
  unfold roundUp
  omega

theorem roundUp_mod (n unit : Nat) : roundUp n unit % unit = 0 :=
  Nat.mul_mod_left _ _

theorem trapLength_toNat {length : UInt16} (h : length ∈ trapLengths) :
    length.toNat = 4 ∨ length.toNat = 8 ∨ length.toNat = 16 ∨ length.toNat = 32 ∨
      length.toNat = 64 ∨ length.toNat = 128 ∨ length.toNat = 256 := by
  simp only [trapLengths, List.mem_cons, List.not_mem_nil, or_false] at h
  rcases h with rfl | rfl | rfl | rfl | rfl | rfl | rfl <;> decide

theorem trapLength_pos {length : UInt16} (h : length ∈ trapLengths) : 0 < length.toNat := by
  have := trapLength_toNat h
  omega

theorem trapLength_dvd {length : UInt16} (h : length ∈ trapLengths) : length.toNat ∣ 256 := by
  rcases trapLength_toNat h with h | h | h | h | h | h | h <;> rw [h] <;> decide

theorem trapLength_isPowerOfTwo {length : UInt16} (h : length ∈ trapLengths) :
    length.toNat.isPowerOfTwo := by
  rcases trapLength_toNat h with h | h | h | h | h | h | h <;> rw [h]
  · exact ⟨2, rfl⟩
  · exact ⟨3, rfl⟩
  · exact ⟨4, rfl⟩
  · exact ⟨5, rfl⟩
  · exact ⟨6, rfl⟩
  · exact ⟨7, rfl⟩
  · exact ⟨8, rfl⟩

theorem toNat_add_of_lt {a b : UInt16} (h : a.toNat + b.toNat < UInt16.size) :
    (a + b).toNat = a.toNat + b.toNat := by
  rw [UInt16.toNat_add]
  exact Nat.mod_eq_of_lt h

theorem mergedTrapLength_toNat : mergedTrapLength.toNat = 256 := rfl

theorem roundedTrapLength_mem (length : UInt16) : roundedTrapLength length ∈ trapLengths := by
  unfold roundedTrapLength
  cases h : trapLengths.find? fun covered => length ≤ covered with
  | none => decide
  | some covered => exact List.mem_of_find?_eq_some h

/-- No address is in both of two ranges, each given by its base and its length. -/
def RangesApart (base length base' length' : UInt16) : Prop :=
  base.toNat + length.toNat ≤ base'.toNat ∨ base'.toNat + length'.toNat ≤ base.toNat

theorem RangesApart.symm {base length base' length' : UInt16}
    (h : RangesApart base length base' length') : RangesApart base' length' base length :=
  h.elim Or.inr Or.inl

def TrapRecord.Apart (first second : TrapRecord) : Prop :=
  RangesApart first.request.address first.length second.request.address second.length

def TrapEntry.Apart (first second : TrapEntry) : Prop :=
  RangesApart first.base first.length second.base second.length

/-- The range of a record lies in the first `used` bytes from a base. -/
def TrapRecord.Within (record : TrapRecord) (base used : UInt16) : Prop :=
  base.toNat ≤ record.request.address.toNat ∧
    record.request.address.toNat + record.length.toNat ≤ base.toNat + used.toNat

theorem TrapRecord.Within.mono {record : TrapRecord} {base used used' : UInt16}
    (h : record.Within base used) (le : used.toNat ≤ used'.toNat) : record.Within base used' :=
  ⟨h.1, Nat.le_trans h.2 (Nat.add_le_add_left le _)⟩

theorem TrapRecord.Within.apart {first second : TrapRecord} {base used base' used' : UInt16}
    (h : first.Within base used) (h' : second.Within base' used')
    (apart : RangesApart base used base' used') : first.Apart second := by
  obtain ⟨hlo, hhi⟩ := h
  obtain ⟨hlo', hhi'⟩ := h'
  unfold TrapRecord.Apart RangesApart at *
  omega

theorem TrapRecord.isFor_iff (record : TrapRecord) (address : UInt16) (isWrite : Bool) :
    record.isFor address isWrite = true ↔
      (record.request.address.toNat ≤ address.toNat ∧
        address.toNat < record.request.address.toNat + record.length.toNat) ∧
      record.request.direction.accepts isWrite = true := by
  simp [TrapRecord.isFor, UInt16.le_iff_toNat_le]

theorem TrapEntry.overlaps_iff (entry : TrapEntry) (address length : UInt16) :
    entry.overlaps address length = true ↔
      entry.inUse = true ∧ address.toNat < entry.base.toNat + entry.length.toNat ∧
        entry.base.toNat < address.toNat + length.toNat := by
  simp [TrapEntry.overlaps, and_assoc]

theorem TrapEntry.overlaps_eq_false_iff (entry : TrapEntry) (address length : UInt16) :
    entry.overlaps address length = false ↔
      (entry.inUse = true → RangesApart entry.base entry.length address length) := by
  rw [Bool.eq_false_iff, ne_eq, TrapEntry.overlaps_iff]
  unfold RangesApart
  constructor
  · intro h used
    have := not_and.mp fun both => h ⟨used, both⟩
    omega
  · rintro h ⟨used, hlt, hlt'⟩
    have := h used
    omega

theorem TrapEntry.overlaps_mono {entry : TrapEntry} {address length length' : UInt16}
    (h : entry.overlaps address length' = false) (le : length.toNat ≤ length'.toNat) :
    entry.overlaps address length = false := by
  rw [TrapEntry.overlaps_eq_false_iff] at h ⊢
  intro used
  have := h used
  unfold RangesApart at this ⊢
  omega

/-- The bytes that a shared window has left are behind those handed out, and aligned. -/
theorem TrapEntry.freeOffset?_eq_some {entry : TrapEntry} {length offset : UInt16}
    (hlength : length ∈ trapLengths) (h : entry.freeOffset? length = some offset) :
    entry.inUse = true ∧ entry.isDedicated = false ∧
      entry.usedLength.toNat ≤ offset.toNat ∧ offset.toNat % length.toNat = 0 ∧
      offset.toNat + length.toNat ≤ 256 := by
  simp only [TrapEntry.freeOffset?, Option.ite_none_right_eq_some, Bool.and_eq_true,
    Bool.not_eq_true', decide_eq_true_eq, Option.some.injEq] at h
  obtain ⟨⟨⟨hused, hshared⟩, hfit⟩, rfl⟩ := h
  rw [mergedTrapLength_toNat] at hfit
  have hpos := trapLength_pos hlength
  have hsmall : roundUp entry.usedLength.toNat length.toNat < 65536 := by omega
  rw [UInt16.toNat_ofNat_of_lt' hsmall]
  exact ⟨hused, hshared, le_roundUp hpos, roundUp_mod _ _, hfit⟩

theorem TrapEntry.freeOffset?_stop {entry : TrapEntry} {length offset : UInt16}
    (hlength : length ∈ trapLengths) (h : entry.freeOffset? length = some offset) :
    (offset + length).toNat = offset.toNat + length.toNat := by
  obtain ⟨_, _, _, _, hfit⟩ := freeOffset?_eq_some hlength h
  exact toNat_add_of_lt (Nat.lt_of_le_of_lt hfit (by decide))

end PlatformFirmware
