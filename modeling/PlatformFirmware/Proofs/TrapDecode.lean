import PlatformFirmware.Proofs.TrapRange
import PlatformFirmware.Proofs.TrapRegisterFields

namespace PlatformFirmware

/-- Words agree outside of the lowest bits iff they agree when those are shifted out. -/
theorem xor_and_not_eq_zero {w k : Nat} {x y mask : BitVec w}
    (h : ∀ i < w, mask.getLsbD i = decide (i < k)) :
    (x ^^^ y) &&& ~~~mask = 0 ↔ x >>> k = y >>> k := by
  constructor
  · intro zero
    apply BitVec.eq_of_getLsbD_eq
    intro i _
    simp only [BitVec.getLsbD_ushiftRight]
    by_cases hi : k + i < w
    · have bit := congrArg (fun word => word.getLsbD (k + i)) zero
      have clear : mask.getLsbD (k + i) = false := by
        rw [h _ hi]
        exact decide_eq_false (by omega)
      simpa [-BitVec.getLsbD_eq_getElem, hi, clear] using bit
    · rw [BitVec.getLsbD_of_ge _ _ (by omega), BitVec.getLsbD_of_ge _ _ (by omega)]
  · intro same
    apply BitVec.eq_of_getLsbD_eq
    intro i hi
    simp only [BitVec.getLsbD_and, BitVec.getLsbD_xor, BitVec.getLsbD_not, h i hi]
    by_cases low : i < k
    · simp [low]
    · have bit := congrArg (fun word => word.getLsbD (i - k)) same
      simp only [BitVec.getLsbD_ushiftRight] at bit
      rw [Nat.add_sub_cancel' (Nat.le_of_not_lt low)] at bit
      simp [bit]

theorem trapLength_shift {length : UInt16} (h : length ∈ trapLengths) :
    ∃ k, (∀ i < 16, (length - 1).toBitVec.getLsbD i = decide (i < k)) ∧
      ∀ n : Nat, n >>> k = n / length.toNat := by
  simp only [trapLengths, List.mem_cons, List.not_mem_nil, or_false] at h
  rcases h with rfl | rfl | rfl | rfl | rfl | rfl | rfl
  · exact ⟨2, by decide, fun n => Nat.shiftRight_eq_div_pow n 2⟩
  · exact ⟨3, by decide, fun n => Nat.shiftRight_eq_div_pow n 3⟩
  · exact ⟨4, by decide, fun n => Nat.shiftRight_eq_div_pow n 4⟩
  · exact ⟨5, by decide, fun n => Nat.shiftRight_eq_div_pow n 5⟩
  · exact ⟨6, by decide, fun n => Nat.shiftRight_eq_div_pow n 6⟩
  · exact ⟨7, by decide, fun n => Nat.shiftRight_eq_div_pow n 7⟩
  · exact ⟨8, by decide, fun n => Nat.shiftRight_eq_div_pow n 8⟩

theorem div_eq_iff_of_dvd {n base length : Nat} (pos : 0 < length) (dvd : length ∣ base) :
    n / length = base / length ↔ base ≤ n ∧ n < base + length := by
  obtain ⟨q, rfl⟩ := dvd
  rw [Nat.mul_div_cancel_left q pos, Nat.div_eq_iff pos]
  have : length * q = q * length := Nat.mul_comm _ _
  omega

/-- A mask of the low bits picks out exactly the addresses of an aligned range. -/
theorem masked_eq_iff {length : UInt16} (h : length ∈ trapLengths) {base : UInt16}
    (dvd : length.toNat ∣ base.toNat) (address : BitVec 16) :
    (address ^^^ base.toBitVec) &&& ~~~(length - 1).toBitVec = 0 ↔
      base.toNat ≤ address.toNat ∧ address.toNat < base.toNat + length.toNat := by
  obtain ⟨k, mask, shift⟩ := trapLength_shift h
  rw [xor_and_not_eq_zero mask, ← BitVec.toNat_inj, BitVec.toNat_ushiftRight,
    BitVec.toNat_ushiftRight, shift, shift]
  exact div_eq_iff_of_dvd (trapLength_pos h) dvd

/-- The address of the dword that a cycle is for. -/
def TrappedCycle.dword (cycle : TrappedCycle) : BitVec 16 :=
  (cycle.get .dwordAddress).setWidth 16 <<< 2

/-- The address bits that a register does not compare. -/
def TrapRegister.ignoredBits (register : TrapRegister) : BitVec 16 :=
  (register.get .ignoredAddress).setWidth 16 <<< 2 ||| 3

/-- Whether the chipset traps a cycle for a register. -/
def TrapRegister.takes (register : TrapRegister) (cycle : TrappedCycle) : Bool :=
  register.isEnabled &&
    ((cycle.dword ^^^ register.address.toBitVec) &&& ~~~register.ignoredBits == 0) &&
    (register.get .anyDirection == 1 || register.get .readCycles == cycle.get .readCycle) &&
    ((cycle.get .byteEnable ^^^ register.get .byteEnable) &&&
      ~~~register.get .ignoredByteEnable == 0)

/-- Whether a cycle is for the bytes of the dword that a registration asked for. -/
def TrapRequest.acceptsBytes (request : TrapRequest) (cycle : TrappedCycle) : Bool :=
  (cycle.get .byteEnable ^^^ request.byteEnable.toBitVec.setWidth 4) &&&
    ~~~request.ignoredByteEnable.toBitVec.setWidth 4 == 0

theorem TrappedCycle.lowestEnabled_lt (enables : BitVec 4) : (lowestEnabled enables).toNat < 4 := by
  unfold lowestEnabled
  split
  · decide
  · split
    · decide
    · split
      · decide
      · split <;> decide

theorem TrappedCycle.dword_toNat (cycle : TrappedCycle) :
    cycle.dword.toNat = (cycle.get .dwordAddress).toNat * 4 := by
  have bound : (cycle.get .dwordAddress).toNat < 16384 := (cycle.get .dwordAddress).isLt
  simp [dword]
  omega

/-- The first enabled byte of a dword is still below the end of the address space. -/
theorem TrappedCycle.address_lt (cycle : TrappedCycle) :
    cycle.dword.toNat + (lowestEnabled (cycle.get .byteEnable)).toNat < UInt16.size := by
  have small := lowestEnabled_lt (cycle.get .byteEnable)
  have bound : (cycle.get .dwordAddress).toNat < 16384 := (cycle.get .dwordAddress).isLt
  rw [cycle.dword_toNat, show UInt16.size = 65536 from rfl]
  omega

theorem TrappedCycle.address_toNat (cycle : TrappedCycle) :
    ∃ offset, offset < 4 ∧ cycle.address.toNat = cycle.dword.toNat + offset ∧
      4 ∣ cycle.dword.toNat := by
  refine ⟨_, lowestEnabled_lt (cycle.get .byteEnable), toNat_add_of_lt cycle.address_lt, ?_⟩
  rw [cycle.dword_toNat]
  exact Nat.dvd_mul_left _ _

namespace TrapRegister

theorem ofRange_ignoredBits {length : UInt16} (h : length ∈ trapLengths) (address : UInt16)
    (direction : TrapDirection) :
    (ofRange address length direction).ignoredBits = (length - 1).toBitVec := by
  unfold ignoredBits
  rw [ofRange_ignoredAddress]
  simp only [trapLengths, List.mem_cons, List.not_mem_nil, or_false] at h
  rcases h with rfl | rfl | rfl | rfl | rfl | rfl | rfl <;> decide

theorem ofRange_address {address : UInt16} (h : 4 ∣ address.toNat) (length : UInt16)
    (direction : TrapDirection) : (ofRange address length direction).address = address := by
  unfold TrapRegister.address
  rw [ofRange_dwordAddress]
  apply UInt16.toNat_inj.mp
  have bound := address.toNat_lt
  change ((address.toBitVec.extractLsb' 2 14).setWidth 16 <<< 2).toNat = _
  simp [Nat.shiftRight_eq_div_pow, Nat.shiftLeft_eq]
  omega

/-- The two bits for the direction let pass the cycles that the direction accepts. -/
theorem ofRange_readCycles (address length : UInt16) (direction : TrapDirection)
    (read : BitVec 1) :
    ((ofRange address length direction).get .anyDirection == 1 ||
      (ofRange address length direction).get .readCycles == read) =
      direction.accepts (read == 0) := by
  have two : read = 0 ∨ read = 1 := by
    revert read
    decide
  cases direction <;> rcases two with rfl | rfl <;>
    simp [ofRange, putDirection, TrapDirection.accepts]

theorem ofRange_direction (address length : UInt16) (direction : TrapDirection)
    (cycle : TrappedCycle) :
    ((ofRange address length direction).get .anyDirection == 1 ||
      (ofRange address length direction).get .readCycles == cycle.get .readCycle) =
      direction.accepts cycle.isWrite :=
  ofRange_readCycles address length direction (cycle.get .readCycle)

/-- A register takes the cycles that its request asked for: in its range, of its direction, and
for its bytes. -/
theorem ofRequest_takes {length : UInt16} (h : length ∈ trapLengths) {request : TrapRequest}
    (dvd : length.toNat ∣ request.address.toNat) (cycle : TrappedCycle) :
    (ofRequest request length).takes cycle = true ↔
      (request.address.toNat ≤ cycle.address.toNat ∧
        cycle.address.toNat < request.address.toNat + length.toNat) ∧
      request.direction.accepts cycle.isWrite = true ∧ request.acceptsBytes cycle = true := by
  have four : 4 ∣ length.toNat := by
    have := trapLength_toNat h
    omega
  have aligned : 4 ∣ request.address.toNat := Nat.dvd_trans four dvd
  have enabled : (ofRequest request length).isEnabled = true := by
    unfold isEnabled
    rw [ofRequest_enable]
    rfl
  have address : (ofRequest request length).address = request.address := by
    rw [← ofRange_address aligned length request.direction]
    simp [ofRequest, TrapRegister.address]
  have ignored : (ofRequest request length).ignoredBits = (length - 1).toBitVec := by
    rw [← ofRange_ignoredBits h request.address request.direction]
    simp [ofRequest, ignoredBits]
  have direction : ((ofRequest request length).get .anyDirection == 1 ||
      (ofRequest request length).get .readCycles == cycle.get .readCycle) =
        request.direction.accepts cycle.isWrite := by
    rw [← ofRange_direction request.address length]
    simp [ofRequest]
  have bytes : ((cycle.get .byteEnable ^^^ (ofRequest request length).get .byteEnable) &&&
      ~~~(ofRequest request length).get .ignoredByteEnable == 0) = request.acceptsBytes cycle := by
    simp [ofRequest, TrapRequest.acceptsBytes]
  unfold takes
  rw [enabled, address, ignored, direction, bytes]
  simp only [Bool.true_and, Bool.and_eq_true, beq_iff_eq, masked_eq_iff h dvd]
  have range : (request.address.toNat ≤ cycle.dword.toNat ∧
      cycle.dword.toNat < request.address.toNat + length.toNat) ↔
      request.address.toNat ≤ cycle.address.toNat ∧
        cycle.address.toNat < request.address.toNat + length.toNat := by
    obtain ⟨offset, small, start, mult⟩ := cycle.address_toNat
    omega
  rw [range, and_assoc]

theorem takes_of_disabled (register : TrapRegister) (cycle : TrappedCycle) :
    (register.setEnabled false).takes cycle = false := by
  unfold takes
  rw [isEnabled_setEnabled]
  rfl

end TrapRegister

end PlatformFirmware
