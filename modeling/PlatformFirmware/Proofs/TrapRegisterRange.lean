import PlatformFirmware.Proofs.TrapDecode
import PlatformFirmware.Proofs.TrapSearch

namespace PlatformFirmware

namespace TrapRegister

/-- The fields that mean nothing to the chipset. -/
def Field.reserved : List Field :=
  [reserved0, reserved1, reserved2, reserved3, reserved4]

/-- The bits of a trap register that mean nothing to the chipset. -/
def reservedBits : BitVec 64 := 0xFFFCFF00FF030002

theorem reservedBits_iff :
    ∀ k < 64, reservedBits.getLsbD k = true ↔
      ∃ field ∈ Field.reserved, field.span.start ≤ k ∧ k < field.span.start + field.span.width := by
  decide

/-- The reserved bits are clear as soon as the reserved fields are. -/
theorem reservedBits_clear {register : TrapRegister}
    (clear : ∀ field ∈ Field.reserved, register.get field = 0) :
    register.word &&& reservedBits = 0 := by
  apply BitVec.eq_of_getLsbD_eq
  intro k inside
  rw [BitVec.getLsbD_and, BitVec.ofNat_eq_ofNat, BitVec.getLsbD_zero]
  cases reserved : reservedBits.getLsbD k with
  | false => exact Bool.and_false _
  | true =>
    obtain ⟨field, listed, first, last⟩ := (reservedBits_iff k inside).mp reserved
    have bit := congrArg (fun value => value.getLsbD (k - field.span.start)) (clear field listed)
    have width : k - field.span.start < field.span.width := by omega
    simp only [get, BitField.getLsbD_get, Nat.add_sub_cancel' first, width, decide_true,
      Bool.true_and, BitVec.ofNat_eq_ofNat, BitVec.getLsbD_zero] at bit
    rw [bit, Bool.false_and]

theorem ofRange_reserved (address length : UInt16) (direction : TrapDirection) :
    ∀ field ∈ Field.reserved, (ofRange address length direction).get field = 0 := by
  intro field listed
  simp only [Field.reserved, List.mem_cons, List.not_mem_nil, or_false] at listed
  rcases listed with rfl | rfl | rfl | rfl | rfl <;> simp [ofRange, get_putDirection, get_zero]

theorem ofRange_length {length : UInt16} (h : length ∈ trapLengths) (address : UInt16)
    (direction : TrapDirection) : (ofRange address length direction).length = length := by
  unfold TrapRegister.length
  rw [ofRange_ignoredAddress]
  simp only [trapLengths, List.mem_cons, List.not_mem_nil, or_false] at h
  rcases h with rfl | rfl | rfl | rfl | rfl | rfl | rfl <;> decide

theorem ofRange_isEnabled (address length : UInt16) (direction : TrapDirection) :
    (ofRange address length direction).isEnabled = true := by
  rw [isEnabled, ofRange_enable]
  rfl

theorem ofRange_accepts_iff (address length : UInt16) (direction : TrapDirection)
    (isWrite : Bool) :
    (ofRange address length direction).get .anyDirection = 1 ∨
        (ofRange address length direction).get .readCycles = BitVec.ofBool (!isWrite) ↔
      direction.accepts isWrite = true := by
  have passes := ofRange_readCycles address length direction (BitVec.ofBool (!isWrite))
  have kind : (BitVec.ofBool (!isWrite) == 0) = isWrite := by
    cases isWrite <;> rfl
  rw [← kind, ← passes, Bool.or_eq_true, beq_iff_eq, beq_iff_eq, kind]

/-- The register of an aligned range compares an address so that the addresses of the range pass
and no others, also when the range is the last of the address space. It lets pass the cycles of
its direction, whatever their byte enables, and keeps to the bits that mean something. -/
theorem programs_its_range {address length : UInt16} (power : length.toNat.isPowerOfTwo)
    (least : 4 ≤ length.toNat) (most : length.toNat ≤ 0x100)
    (aligned : length.toNat ∣ address.toNat) (direction : TrapDirection) :
    let register := ofRange address length direction
    (∀ x : UInt16, (x.toBitVec ^^^ register.address.toBitVec) &&& ~~~register.ignoredBits = 0 ↔
      address.toNat ≤ x.toNat ∧ x.toNat < address.toNat + length.toNat) ∧
    (∀ isWrite, register.get .anyDirection = 1 ∨
        register.get .readCycles = BitVec.ofBool (!isWrite) ↔
      direction.accepts isWrite = true) ∧
    register.address = address ∧ register.length = length ∧ register.isEnabled = true ∧
    register.get .ignoredByteEnable = BitVec.allOnes 4 ∧ register.word &&& reservedBits = 0 := by
  intro register
  -- Between 4 and 256 there are seven powers of two, for which the masks are known.
  obtain ⟨known, listed, same⟩ := exists_trapLength power least most
  obtain rfl : known = length := UInt16.toNat_inj.mp same
  have four : 4 ∣ known.toNat := by
    have := trapLength_toNat listed
    omega
  have base : register.address = address := ofRange_address (Nat.dvd_trans four aligned) _ _
  refine ⟨fun x => ?_, ofRange_accepts_iff _ _ _, base, ofRange_length listed _ _,
    ofRange_isEnabled _ _ _, ofRange_ignoredByteEnable _ _ _,
    reservedBits_clear (ofRange_reserved _ _ _)⟩
  rw [base, ofRange_ignoredBits listed]
  exact masked_eq_iff listed aligned x.toBitVec

/-- The last 256 addresses of all: their first and last pass, the one before and the address zero
do not. -/
theorem programs_its_range_topmost :
    let register := ofRange 0xFF00 0x100 .read
    let passes (x : UInt16) :=
      (x.toBitVec ^^^ register.address.toBitVec) &&& ~~~register.ignoredBits = 0
    ((0x100 : UInt16).toNat.isPowerOfTwo ∧ 4 ≤ (0x100 : UInt16).toNat ∧
        (0x100 : UInt16).toNat ≤ 0x100 ∧ (0x100 : UInt16).toNat ∣ (0xFF00 : UInt16).toNat) ∧
      (passes 0xFF00 ∧ passes 0xFFFF ∧ ¬passes 0xFEFF ∧ ¬passes 0) ∧
      register.address = 0xFF00 ∧ register.length = 0x100 ∧
      register.word &&& reservedBits = 0 := by
  intro register passes
  have power : (0x100 : UInt16).toNat.isPowerOfTwo := ⟨8, rfl⟩
  have aligned : (0x100 : UInt16).toNat ∣ (0xFF00 : UInt16).toNat := by decide
  obtain ⟨range, -, address, length, -, -, clear⟩ :=
    programs_its_range power (by decide) (by decide) aligned .read
  refine ⟨⟨power, by decide, by decide, aligned⟩, ⟨?_, ?_, ?_, ?_⟩, address, length, clear⟩
  · exact (range 0xFF00).mpr (by decide)
  · exact (range 0xFFFF).mpr (by decide)
  · exact fun low => absurd ((range 0xFEFF).mp low) (by decide)
  · exact fun wrapped => absurd ((range 0).mp wrapped) (by decide)

end TrapRegister

end PlatformFirmware
