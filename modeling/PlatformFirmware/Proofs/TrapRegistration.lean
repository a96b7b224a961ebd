import PlatformFirmware.Proofs.TrapClaim

namespace PlatformFirmware

/-- Whether a request asks for a range at all, and for one that a register can cover. -/
def TrapRequest.HasRange (request : TrapRequest) : Prop :=
  ¬(request.address = 0 ∧ request.length = 0) ∧ request.length ≤ maximumTrapLength

namespace TrapDispatcher

/-- A registration that is given its address, under the next serial. -/
def newRecord (dispatcher : TrapDispatcher) (callback : TrapCallback) (request : TrapRequest)
    (address : UInt16) : TrapRecord :=
  { handle := .ofSerial dispatcher.nextSerial, request := { request with address },
    length := roundedTrapLength request.length, callback }

/-- The register that is given a new registration. -/
def keeper? (dispatcher : TrapDispatcher) (request : TrapRequest) (address : UInt16) :
    Option (Fin 4) :=
  dispatcher.findRegister? fun entry => entry.overlaps address (roundedTrapLength request.length)

def spendSerial (dispatcher : TrapDispatcher) : TrapDispatcher :=
  { dispatcher with nextSerial := dispatcher.nextSerial + 1 }

@[simp] theorem spendSerial_entry (dispatcher : TrapDispatcher) (i : Fin 4) :
    dispatcher.spendSerial.entry i = dispatcher.entry i := rfl

def keep (dispatcher : TrapDispatcher) (i : Fin 4) (record : TrapRecord) : TrapDispatcher :=
  dispatcher.modifyEntry i fun entry => { entry with records := entry.records ++ [record] }

end TrapDispatcher

namespace TrapSystem

/-- How a claim of the range of a registration ends. -/
inductive Claims (callback : TrapCallback) (request : TrapRequest) (system : TrapSystem) :
    Except Fault UInt16 → TrapSystem → Prop
  | noAddress {after} : request.address = 0 → callback.isExtended = true →
      system.Logged after →
      Claims callback request system (.error (.refused .invalidParameter)) after
  | shared {result after} : request.address = 0 → callback.isExtended = false →
      ClaimsShared (roundedTrapLength request.length) system result after →
      Claims callback request system result after
  | dedicated {after} : request.address ≠ 0 →
      ClaimsDedicated request (roundedTrapLength request.length) system (.ok ()) after →
      Claims callback request system (.ok request.address) after
  | refused {fault after} : request.address ≠ 0 →
      ClaimsDedicated request (roundedTrapLength request.length) system (.error fault) after →
      Claims callback request system (.error fault) after

/-- How an attempt to register ends. -/
inductive Registers (callback : TrapCallback) (request : TrapRequest) (system : TrapSystem) :
    Except Fault (TrapHandle × UInt16) → TrapSystem → Prop
  | locked {after} : system.dispatcher.isLocked = true → system.Logged after →
      Registers callback request system (.error (.refused .accessDenied)) after
  | noRange {after} : system.dispatcher.isLocked = false → ¬request.HasRange →
      system.Logged after →
      Registers callback request system (.error (.refused .invalidParameter)) after
  | unclaimed {fault after} : system.dispatcher.isLocked = false → request.HasRange →
      Claims callback request system (.error fault) after →
      Registers callback request system (.error fault) after
  | unkept {address claimed} : system.dispatcher.isLocked = false → request.HasRange →
      Claims callback request system (.ok address) claimed →
      claimed.dispatcher.keeper? request address = none →
      Registers callback request system (.error (.refused .outOfResources))
        { claimed with dispatcher := claimed.dispatcher.spendSerial }
  | kept {address claimed after i} : system.dispatcher.isLocked = false → request.HasRange →
      Claims callback request system (.ok address) claimed →
      claimed.dispatcher.keeper? request address = some i →
      Logged { claimed with
        dispatcher := claimed.dispatcher.spendSerial.keep i
          (claimed.dispatcher.newRecord callback request address) } after →
      Registers callback request system (.ok (.ofSerial claimed.dispatcher.nextSerial, address))
        after

theorem claimRange_claims (callback : TrapCallback) (request : TrapRequest)
    (system : TrapSystem) {result : Except Fault UInt16} {after : TrapSystem}
    (h : claimRange callback request (roundedTrapLength request.length) system =
      (result, after)) :
    Claims callback request system result after := by
  simp only [claimRange, beq_iff_eq] at h
  split at h
  next hz =>
    split at h
    next hx =>
      cases h
      exact .noAddress hz hx (Logged.line system _)
    next hx =>
      have claims := claimShared_claims (roundedTrapLength request.length) system
      rw [h] at claims
      exact .shared hz (Bool.eq_false_iff.mpr hx) claims
  next hz =>
    have claims := claimDedicated_claims request (roundedTrapLength request.length) system
    simp only [bind_apply] at h
    rcases hc : claimDedicated request (roundedTrapLength request.length) system with ⟨_ | _, _⟩
    · rw [hc] at claims h
      cases h
      exact .refused hz claims
    · rw [hc] at claims h
      cases h
      exact .dedicated hz claims

theorem keepRecord_none {callback : TrapCallback} {request : TrapRequest} {address : UInt16}
    {system : TrapSystem} (h : system.dispatcher.keeper? request address = none) :
    keepRecord callback request (roundedTrapLength request.length) address system =
      (.error (.refused .outOfResources),
        { system with dispatcher := system.dispatcher.spendSerial }) := by
  simp only [TrapDispatcher.keeper?, TrapDispatcher.findRegister?, TrapDispatcher.entry] at h
  simp only [keepRecord, bind_apply, get_apply, liftM_apply, modifyDispatcher_apply,
    TrapDispatcher.findRegister?, TrapDispatcher.entry, h]
  rfl

theorem keepRecord_some (callback : TrapCallback) {request : TrapRequest} {address : UInt16}
    {system : TrapSystem} {i : Fin 4}
    (h : system.dispatcher.keeper? request address = some i) :
    ∃ after, keepRecord callback request (roundedTrapLength request.length) address system =
        (.ok (.ofSerial system.dispatcher.nextSerial, address), after) ∧
      Logged { system with
        dispatcher := system.dispatcher.spendSerial.keep i
          (system.dispatcher.newRecord callback request address) } after := by
  simp only [TrapDispatcher.keeper?, TrapDispatcher.findRegister?, TrapDispatcher.entry] at h
  simp only [keepRecord, bind_apply, get_apply, liftM_apply, modifyDispatcher_apply,
    TrapDispatcher.findRegister?, TrapDispatcher.entry, h]
  exact ⟨_, rfl, Logged.line _ _⟩

theorem addRecord_registers (callback : TrapCallback) (request : TrapRequest)
    (system : TrapSystem) :
    Registers callback request system (addRecord callback request system).1
      (addRecord callback request system).2 := by
  simp only [addRecord, bind_apply, get_apply]
  split
  next hl => exact .locked hl (Logged.line system _)
  next hl =>
    have hl := Bool.eq_false_iff.mpr hl
    split
    next hr =>
      refine .noRange hl ?_ (Logged.line system _)
      simp only [Bool.or_eq_true, Bool.and_eq_true, beq_iff_eq, decide_eq_true_eq] at hr
      rintro ⟨hz, hm⟩
      exact hr.elim hz fun hlong => UInt16.not_lt.mpr hm hlong
    next hr =>
      have hr : request.HasRange := by
        simp only [Bool.or_eq_true, Bool.and_eq_true, beq_iff_eq, decide_eq_true_eq,
          not_or, UInt16.not_lt] at hr
        exact hr
      rcases hc : claimRange callback request (roundedTrapLength request.length) system with
        ⟨fault | address, claimed⟩
      · simp only [bind_apply, hc]
        exact .unclaimed hl hr (claimRange_claims callback request system hc)
      · have claims := claimRange_claims callback request system hc
        simp only [bind_apply, hc]
        cases hk : claimed.dispatcher.keeper? request address with
        | none =>
          simp only [keepRecord_none hk]
          exact .unkept hl hr claims hk
        | some i =>
          obtain ⟨after, he, logged⟩ := keepRecord_some callback hk
          simp only [he]
          exact .kept hl hr claims hk logged

/-- A registration for a range of its own is given the address that it asked for. -/
theorem Registers.address_eq {callback : TrapCallback} {request : TrapRequest}
    {before after : TrapSystem} {handle : TrapHandle} {address : UInt16}
    (h : Registers callback request before (.ok (handle, address)) after)
    (extended : callback.isExtended = true) : address = request.address := by
  cases h with
  | kept _ _ claims _ _ =>
    cases claims with
    | shared _ plain _ => exact absurd (plain.symm.trans extended) (by simp)
    | dedicated => rfl

end TrapSystem

end PlatformFirmware
