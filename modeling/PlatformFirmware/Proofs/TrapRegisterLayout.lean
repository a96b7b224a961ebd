import PlatformFirmware.Proofs.TrapDecode

namespace PlatformFirmware

theorem TrapRegister.lossless :
    Lossless TrapRegister.Field.order TrapRegister.Field.span TrapRegister.word TrapRegister.get
      TrapRegister.put? :=
  TrapRegister.Field.tiles.lossless TrapRegister.fieldRecord (fun _ _ => rfl) (fun _ _ _ => rfl)

namespace TrappedCycle

/-- The fields in the order in which they are packed into the register. -/
def Field.order : List Field :=
  [reserved0, dwordAddress, byteEnable, reserved1, readCycle, reserved2]

theorem Field.tiles : BitField.Tiles span order 32 :=
  ⟨fun field => by cases field <;> decide, by decide⟩

theorem fieldRecord : FieldRecord get put :=
  Field.tiles.fieldRecord (congrArg TrappedCycle.mk) (fun _ _ => rfl) (fun _ _ _ => rfl)

theorem lossless : Lossless Field.order Field.span word get put? :=
  Field.tiles.lossless fieldRecord (fun _ _ => rfl) (fun _ _ _ => rfl)

/-- The lowest bit that is set is bit `k`. -/
def IsLowestSet (enables : BitVec 4) (k : Nat) : Prop :=
  enables.getLsbD k = true ∧ ∀ j < k, enables.getLsbD j = false

theorem lowestEnabled_toNat {enables : BitVec 4} {k : Nat} (h : IsLowestSet enables k) :
    (lowestEnabled enables).toNat = k := by
  obtain ⟨set, clear⟩ := h
  have inside : k < 4 := BitVec.lt_of_getLsbD set
  unfold lowestEnabled
  rcases (by omega : k = 0 ∨ k = 1 ∨ k = 2 ∨ k = 3) with rfl | rfl | rfl | rfl
  · rw [if_pos set]
    rfl
  · rw [clear 0 (by decide), if_pos set]
    rfl
  · rw [clear 0 (by decide), clear 1 (by decide), if_pos set]
    rfl
  · rw [clear 0 (by decide), clear 1 (by decide), clear 2 (by decide), if_pos set]
    rfl

/-- The address of a cycle, in numbers that do not wrap. -/
theorem address_eq_sum (cycle : TrappedCycle) :
    cycle.address.toNat = (cycle.get .dwordAddress).toNat * 4 +
      (lowestEnabled (cycle.get .byteEnable)).toNat := by
  rw [← cycle.dword_toNat]
  exact toNat_add_of_lt cycle.address_lt

theorem address_of_fields {cycle : TrappedCycle} {address : UInt16}
    (dword : (cycle.get .dwordAddress).toNat = (address >>> 2).toNat)
    (bytes : IsLowestSet (cycle.get .byteEnable) (address &&& 3).toNat) :
    cycle.address = address := by
  have quotient : (address >>> 2).toNat = address.toNat / 4 := by
    simp [Nat.shiftRight_eq_div_pow]
  have remainder : (address &&& 3).toNat = address.toNat % 4 :=
    Nat.and_two_pow_sub_one_eq_mod address.toNat 2
  apply UInt16.toNat_inj.mp
  rw [address_eq_sum, lowestEnabled_toNat bytes, dword, quotient, remainder]
  omega

end TrappedCycle

/-- Both registers are their fields. The address of a trapped cycle lies in its dword, as a sum that
stays below the end of the address space, and is the one that the chipset took apart into dword and
byte enables, whichever bytes beyond the first are enabled. -/
theorem registers_are_their_fields :
    Lossless TrapRegister.Field.order TrapRegister.Field.span TrapRegister.word TrapRegister.get
        TrapRegister.put? ∧
      Lossless TrappedCycle.Field.order TrappedCycle.Field.span TrappedCycle.word TrappedCycle.get
        TrappedCycle.put? ∧
      ∀ cycle : TrappedCycle,
        let dword := (cycle.get .dwordAddress).toNat * 4
        let offset := (TrappedCycle.lowestEnabled (cycle.get .byteEnable)).toNat
        offset < 4 ∧ dword + offset < 2 ^ 16 ∧ cycle.address.toNat = dword + offset ∧
          ∀ address : UInt16, (cycle.get .dwordAddress).toNat = (address >>> 2).toNat →
            TrappedCycle.IsLowestSet (cycle.get .byteEnable) (address &&& 3).toNat →
              cycle.address = address := by
  refine ⟨TrapRegister.lossless, TrappedCycle.lossless, fun cycle => ?_⟩
  have sum := cycle.address_eq_sum
  refine ⟨TrappedCycle.lowestEnabled_lt _, ?_, sum, fun address dword bytes =>
    TrappedCycle.address_of_fields dword bytes⟩
  rw [← sum]
  exact cycle.address.toNat_lt

/-- A register is rebuilt from its last field to its first, a field of ones is set into it, and a
cycle for the two upper bytes of a dword is taken apart. -/
theorem registers_are_their_fields_reversed :
    let raw : TrapRegister := ⟨0xFEDCBA9876543210⟩
    let cycle : TrappedCycle := ⟨0x010C1044⟩
    (TrapRegister.Field.order.reverse.foldlM
        (fun register field => register.put? field (raw.get field).toNat) .zero = some raw) ∧
      (∃ next, raw.put? .ignoredAddress 0x3F = some next ∧
        (next.get .ignoredAddress).toNat = 0x3F ∧ next.get .reserved2 = raw.get .reserved2) ∧
      (cycle.get .dwordAddress).toNat = ((0x1046 : UInt16) >>> 2).toNat ∧
      TrappedCycle.IsLowestSet (cycle.get .byteEnable) ((0x1046 : UInt16) &&& 3).toNat ∧
      cycle.address = 0x1046 := by
  intro raw cycle
  obtain ⟨register, -, cycles⟩ := registers_are_their_fields
  obtain ⟨next, done, kept, others, -⟩ := register.sets raw .ignoredAddress 0x3F (by decide)
  have dword : (cycle.get .dwordAddress).toNat = ((0x1046 : UInt16) >>> 2).toNat := by decide
  have bytes : TrappedCycle.IsLowestSet (cycle.get .byteEnable) ((0x1046 : UInt16) &&& 3).toNat :=
    ⟨by decide, by decide⟩
  exact ⟨register.rebuilds raw .zero _ fun field => by cases field <;> decide,
    ⟨next, done, kept, others .reserved2 (by decide)⟩, dword, bytes,
    (cycles cycle).2.2.2 0x1046 dword bytes⟩

end PlatformFirmware
