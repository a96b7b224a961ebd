import PlatformFirmware.Proofs.FieldRecord
import PlatformFirmware.Proofs.TrapClaim

namespace PlatformFirmware

namespace TrapRegister

/-- The fields in the order in which they are packed into the register. -/
def Field.order : List Field :=
  [enable, reserved0, dwordAddress, reserved1, ignoredAddress, reserved2, byteEnable,
    ignoredByteEnable, reserved3, readCycles, anyDirection, reserved4]

theorem Field.tiles : BitField.Tiles span order 64 :=
  ⟨fun field => by cases field <;> decide, by decide⟩

theorem fieldRecord : FieldRecord get put :=
  Field.tiles.fieldRecord (congrArg TrapRegister.mk) (fun _ _ => rfl) (fun _ _ _ => rfl)

@[simp]
theorem get_put (register : TrapRegister) (field : Field) (value : BitVec field.span.width) :
    (register.put field value).get field = value :=
  fieldRecord.get_put _ _ _

@[simp]
theorem get_put_other {field other : Field} (h : field ≠ other) (register : TrapRegister)
    (value : BitVec field.span.width) : (register.put field value).get other = register.get other :=
  fieldRecord.get_put_other h _ _

theorem put_get (register : TrapRegister) (field : Field) :
    register.put field (register.get field) = register :=
  congrArg TrapRegister.mk (BitField.put_get _ _)

theorem setEnabled_setEnabled (register : TrapRegister) (first second : Bool) :
    (register.setEnabled first).setEnabled second = register.setEnabled second := by
  unfold setEnabled put
  rw [BitField.put_put]

theorem setEnabled_true {register : TrapRegister} (h : register.get .enable = 1) :
    register.setEnabled true = register := by
  unfold setEnabled
  rw [show BitVec.ofBool true = register.get .enable from h.symm]
  exact register.put_get .enable

theorem isEnabled_setEnabled (register : TrapRegister) (on : Bool) :
    (register.setEnabled on).isEnabled = on := by
  unfold setEnabled isEnabled
  rw [get_put]
  cases on <;> rfl

theorem get_zero (field : Field) : zero.get field = 0 := by
  apply BitVec.eq_of_getLsbD_eq
  intro k hk
  simp [get, BitField.getLsbD_get, zero]

theorem get_putDirection {field : Field} (h : field ≠ .readCycles) (h' : field ≠ .anyDirection)
    (register : TrapRegister) (direction : TrapDirection) :
    (register.putDirection direction).get field = register.get field := by
  cases direction <;> simp [putDirection, h.symm, h'.symm]

theorem ofRange_enable (address length : UInt16) (direction : TrapDirection) :
    (ofRange address length direction).get .enable = 1 := by
  simp [ofRange, get_putDirection]

theorem ofRange_dwordAddress (address length : UInt16) (direction : TrapDirection) :
    (ofRange address length direction).get .dwordAddress = address.toBitVec.extractLsb' 2 14 := by
  simp [ofRange, get_putDirection]

theorem ofRange_ignoredAddress (address length : UInt16) (direction : TrapDirection) :
    (ofRange address length direction).get .ignoredAddress =
      (length - min length 1).toBitVec.extractLsb' 2 6 := by
  simp [ofRange, get_putDirection]

theorem ofRange_byteEnable (address length : UInt16) (direction : TrapDirection) :
    (ofRange address length direction).get .byteEnable = 0 := by
  simp [ofRange, get_putDirection, get_zero]

theorem ofRange_ignoredByteEnable (address length : UInt16) (direction : TrapDirection) :
    (ofRange address length direction).get .ignoredByteEnable = 0xF := by
  simp [ofRange, get_putDirection]

theorem ofRequest_enable (request : TrapRequest) (length : UInt16) :
    (ofRequest request length).get .enable = 1 := by
  simp [ofRequest, ofRange_enable]

/-- Without a choice of byte enables, a request programs its range and nothing else. -/
theorem ofRequest_default (address length : UInt16) (direction : TrapDirection) :
    ofRequest { address, length, direction } length = ofRange address length direction := by
  have enables := ofRange_byteEnable address length direction
  have ignored := ofRange_ignoredByteEnable address length direction
  have first : (ofRange address length direction).put .byteEnable 0 =
      ofRange address length direction := by
    rw [← enables]
    exact put_get _ _
  have second : (ofRange address length direction).put .ignoredByteEnable 0xF =
      ofRange address length direction := by
    rw [← ignored]
    exact put_get _ _
  change ((ofRange address length direction).put .byteEnable 0).put .ignoredByteEnable 0xF = _
  rw [first, second]

end TrapRegister

end PlatformFirmware
