import PlatformFirmware.Proofs.TrapEffects

namespace PlatformFirmware

/-- The second system is the first one after some lines of log. -/
def TrapSystem.Logged (before after : TrapSystem) : Prop :=
  ∃ lines : List LogRecord, after = { before with events := before.events ++ lines.map .log }

/-- The register of a range that a caller chose, with the caller's choice of byte enables. -/
def TrapRegister.ofRequest (request : TrapRequest) (length : UInt16) : TrapRegister :=
  ((ofRange request.address length request.direction).put .byteEnable
    (request.byteEnable.toBitVec.setWidth 4)).put .ignoredByteEnable
    (request.ignoredByteEnable.toBitVec.setWidth 4)

/-- A window that several registrations share, with its first bytes handed out. -/
def TrapEntry.window (base used : UInt16) : TrapEntry :=
  { inUse := true, base, length := mergedTrapLength, usedLength := used }

/-- A range that serves the one registration it was chosen for. -/
def TrapEntry.dedicated (address length : UInt16) : TrapEntry :=
  { inUse := true, base := address, length, usedLength := length, isDedicated := true,
    isCallerOwned := true }

namespace TrapSystem

/-- The allocator has given its next answer. -/
def asked (system : TrapSystem) : TrapSystem :=
  { system with
    allocations := system.allocations.tail
    events := system.events ++ [.allocate mergedTrapLength mergedTrapLength] }

/-- The next answer of the allocator. -/
def nextWindow (system : TrapSystem) : Except EfiError UInt16 :=
  system.allocations.headD (.error .outOfResources)

/-- A register and its entry are set for a new range. -/
def program (system : TrapSystem) (i : Fin 4) (register : TrapRegister) (entry : TrapEntry) :
    TrapSystem :=
  { system with
    dispatcher := system.dispatcher.setEntry i entry
    hardware := system.hardware.setRegister i register
    events := system.events ++ [.writeRegister i register] }

/-- More of a shared window is handed out. -/
def share (system : TrapSystem) (i : Fin 4) (used : UInt16) : TrapSystem :=
  { system with
    dispatcher := system.dispatcher.modifyEntry i fun entry => { entry with usedLength := used } }

/-- How a claim of `length` bytes without an address ends. -/
inductive ClaimsShared (length : UInt16) (system : TrapSystem) :
    Except Fault UInt16 → TrapSystem → Prop
  | room {i offset} : system.dispatcher.sharedRoom? length = some (i, offset) →
      (system.dispatcher.entry i).base.toNat + offset.toNat < UInt16.size →
      ClaimsShared length system (.ok ((system.dispatcher.entry i).base + offset))
        (system.share i (offset + length))
  | overflow {i offset} : system.dispatcher.sharedRoom? length = some (i, offset) →
      UInt16.size ≤ (system.dispatcher.entry i).base.toNat + offset.toNat →
      ClaimsShared length system (.error (.halted .arithmeticOverflow))
        (system.share i (offset + length))
  | noRegister {after} : system.dispatcher.sharedRoom? length = none →
      system.dispatcher.unusedRegister? = none → system.Logged after →
      ClaimsShared length system (.error (.refused .outOfResources)) after
  | noWindow {i reason after} : system.dispatcher.sharedRoom? length = none →
      system.dispatcher.unusedRegister? = some i → system.nextWindow = .error reason →
      system.asked.Logged after →
      ClaimsShared length system (.error (.refused .outOfResources)) after
  | window {i base} : system.dispatcher.sharedRoom? length = none →
      system.dispatcher.unusedRegister? = some i → system.nextWindow = .ok base →
      ClaimsShared length system (.ok base)
        (system.asked.program i (.ofRange base mergedTrapLength .readWrite) (.window base length))

/-- How a claim of the caller's own range ends. -/
inductive ClaimsDedicated (request : TrapRequest) (length : UInt16) (system : TrapSystem) :
    Except Fault Unit → TrapSystem → Prop
  | misaligned {after} : (request.address % length ≠ 0 ∨
        UInt16.size < request.address.toNat + length.toNat) → system.Logged after →
      ClaimsDedicated request length system (.error (.refused .invalidParameter)) after
  | taken {i : Fin 4} {after} : request.address % length = 0 →
      request.address.toNat + length.toNat ≤ UInt16.size →
      (system.dispatcher.entry i).overlaps request.address length = true →
      system.Logged after →
      ClaimsDedicated request length system (.error (.refused .invalidParameter)) after
  | noRegister {after} : request.address % length = 0 →
      request.address.toNat + length.toNat ≤ UInt16.size →
      (∀ i : Fin 4, (system.dispatcher.entry i).overlaps request.address length = false) →
      system.dispatcher.unusedRegister? = none → system.Logged after →
      ClaimsDedicated request length system (.error (.refused .outOfResources)) after
  | dedicated {i} : request.address % length = 0 →
      request.address.toNat + length.toNat ≤ UInt16.size →
      (∀ i : Fin 4, (system.dispatcher.entry i).overlaps request.address length = false) →
      system.dispatcher.unusedRegister? = some i →
      ClaimsDedicated request length system (.ok ())
        (system.program i (.ofRequest request length) (.dedicated request.address length))

/-- A call ends in a fault that its caller is told of, and changes nothing of the traps. -/
structure Refuses (before : TrapSystem) (fault : Fault) (after : TrapSystem) : Prop where
  told : ∃ reason, fault = .refused reason
  dispatcher : after.dispatcher = before.dispatcher
  hardware : after.hardware = before.hardware

namespace Logged

theorem line (system : TrapSystem) (line : LogRecord) :
    system.Logged { system with events := system.events ++ [.log line] } := ⟨[line], rfl⟩

theorem dispatcher {before after : TrapSystem} (h : before.Logged after) :
    after.dispatcher = before.dispatcher := by
  obtain ⟨lines, rfl⟩ := h
  rfl

theorem hardware {before after : TrapSystem} (h : before.Logged after) :
    after.hardware = before.hardware := by
  obtain ⟨lines, rfl⟩ := h
  rfl

theorem allocations {before after : TrapSystem} (h : before.Logged after) :
    after.allocations = before.allocations := by
  obtain ⟨lines, rfl⟩ := h
  rfl

theorem refuses {reason : EfiError} {before system after : TrapSystem}
    (h : system.Logged after) (dispatcher : system.dispatcher = before.dispatcher)
    (hardware : system.hardware = before.hardware) : before.Refuses (.refused reason) after :=
  ⟨⟨reason, rfl⟩, h.dispatcher.trans dispatcher, h.hardware.trans hardware⟩

end Logged

theorem claimShared_claims (length : UInt16) (system : TrapSystem) :
    ClaimsShared length system (claimShared length system).1 (claimShared length system).2 := by
  simp only [claimShared, bind_apply, get_apply]
  cases hroom : system.dispatcher.sharedRoom? length with
  | some found =>
    obtain ⟨i, offset⟩ := found
    simp only [bind_apply, liftM_apply, modifyDispatcher_apply]
    split
    next hfit => exact .room hroom hfit
    next hfit => exact .overflow hroom (Nat.le_of_not_lt hfit)
  | none =>
    cases hunused : system.dispatcher.unusedRegister? with
    | none => exact .noRegister hroom hunused (Logged.line system _)
    | some i =>
      simp only [bind_apply, liftM_apply, allocate_apply]
      cases hanswer : system.nextWindow with
      | error reason =>
        simp only [nextWindow] at hanswer
        simp only [hanswer]
        exact .noWindow hroom hunused hanswer (Logged.line system.asked _)
      | ok base =>
        simp only [nextWindow] at hanswer
        simp only [hanswer]
        exact .window hroom hunused hanswer

theorem anyOverlap_iff (dispatcher : TrapDispatcher) (address length : UInt16) :
    (dispatcher.entries.any fun entry => entry.overlaps address length) = true ↔
      ∃ i : Fin 4, (dispatcher.entry i).overlaps address length = true := by
  rw [Vector.any_eq_true]
  exact ⟨fun ⟨i, hi, h⟩ => ⟨⟨i, hi⟩, h⟩, fun ⟨i, h⟩ => ⟨i, i.isLt, h⟩⟩

theorem claimDedicated_claims (request : TrapRequest) (length : UInt16) (system : TrapSystem) :
    ClaimsDedicated request length system (claimDedicated request length system).1
      (claimDedicated request length system).2 := by
  simp only [claimDedicated, bind_apply, get_apply]
  split
  next h => exact .misaligned (by simpa using h) (Logged.line system _)
  next h =>
    simp only [Bool.or_eq_true, decide_eq_true_eq, not_or, Decidable.not_not, Nat.not_lt] at h
    obtain ⟨haligned, hsize⟩ := h
    split
    next h =>
      obtain ⟨i, hi⟩ := (anyOverlap_iff _ _ _).mp h
      exact .taken haligned hsize hi (Logged.line system _)
    next h =>
      have free : ∀ i : Fin 4,
          (system.dispatcher.entry i).overlaps request.address length = false := by
        intro i
        rw [Bool.eq_false_iff]
        exact fun hi => h ((anyOverlap_iff _ _ _).mpr ⟨i, hi⟩)
      cases hunused : system.dispatcher.unusedRegister? with
      | none => exact .noRegister haligned hsize free hunused (Logged.line system _)
      | some i => exact .dedicated haligned hsize free hunused

end TrapSystem

end PlatformFirmware
