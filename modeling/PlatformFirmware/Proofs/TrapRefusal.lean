import PlatformFirmware.Proofs.TrapLedger

namespace PlatformFirmware

open TrapSystem

/-- Why a call was refused, as its caller is told. -/
def TrapOutcome.refusal? : TrapOutcome → Option EfiError
  | registered (.error reason) _ => some reason
  | completed (.error reason) => some reason
  | _ => none

namespace TrapSystem

theorem Registers.unchanged {callback : TrapCallback} {request : TrapRequest}
    {before after : TrapSystem} {reason : EfiError}
    (h : Registers callback request before (.error (.refused reason)) after)
    (sound : before.dispatcher.Sound) : before.Refuses (.refused reason) after := by
  cases h with
  | locked _ logged => exact logged.refuses rfl rfl
  | noRange _ _ logged => exact logged.refuses rfl rfl
  | unclaimed _ _ claims => exact claims.refuses
  | unkept _ _ claims none =>
    obtain ⟨i, keeper⟩ := claims.keeper sound
    exact absurd (keeper.symm.trans none) (by simp)

/-- Once a range is claimed, a register is found to keep its registration. -/
theorem keepRecord_of_claimRange {callback : TrapCallback} {request : TrapRequest}
    {system claimed : TrapSystem} {address : UInt16} (sound : system.dispatcher.Sound)
    (h : claimRange callback request (roundedTrapLength request.length) system =
      (.ok address, claimed)) :
    ∃ handle after, keepRecord callback request (roundedTrapLength request.length) address claimed =
      (.ok (handle, address), after) := by
  have claims := claimRange_claims callback request system h
  obtain ⟨i, keeper⟩ := claims.keeper sound
  obtain ⟨after, kept, _⟩ := keepRecord_some callback keeper
  exact ⟨_, after, kept⟩

end TrapSystem

namespace TrapOutcome

theorem refusal?_ofRegistration {address : UInt16} {result : Except Fault (TrapHandle × UInt16)}
    {reason : EfiError} (h : (ofRegistration address result).refusal? = some reason) :
    result = .error (.refused reason) := by
  match result with
  | .error (.refused _) =>
    obtain rfl := Option.some.inj h
    rfl
  | .error (.halted _) => cases h
  | .ok _ => cases h

theorem refusal?_ofCall {result : Except Fault Unit} {reason : EfiError}
    (h : (ofCall result).refusal? = some reason) : result = .error (.refused reason) := by
  match result with
  | .error (.refused _) =>
    obtain rfl := Option.some.inj h
    rfl
  | .error (.halted _) => cases h
  | .ok () => cases h

end TrapOutcome

namespace TrapSession

theorem make_refuses {session : TrapSession} (sound : session.system.dispatcher.Sound)
    {self : Option Nat} {step : TrapStep} {reason : EfiError}
    (h : (session.make self step).1.refusal? = some reason) :
    session.system.Refuses (.refused reason) (session.make self step).2.system := by
  have makes := make_makes session self step
  generalize (session.make self step).1 = outcome at makes h
  generalize (session.make self step).2 = after at makes ⊢
  cases makes with
  | registers _ registers =>
    cases TrapOutcome.refusal?_ofRegistration h
    exact registers.unchanged sound
  | drops _ _ drops =>
    cases TrapOutcome.refusal?_ofCall h
    exact drops.refuses
  | switches _ _ switches =>
    cases TrapOutcome.refusal?_ofCall h
    exact switches.refuses
  | missing | locks | latches | sets | begins => cases h

/-- The caller of a registration that is refused sees the address that it asked for. -/
theorem make_refused_address {session : TrapSession} {self : Option Nat} {step : TrapStep}
    {callback : TrapCallback} {request : TrapRequest} {reactions : List (List TrapStep)}
    {reason : EfiError} {address : UInt16}
    (registers : step.registration? session.clients.length = some (callback, request, reactions))
    (h : (session.make self step).1 = .registered (.error reason) address) :
    address = request.address := by
  obtain ⟨result, told, -⟩ := make_registers registers self
  rw [told] at h
  have refused : (TrapOutcome.ofRegistration request.address result).refusal? = some reason := by
    rw [h]
    rfl
  rw [TrapOutcome.refusal?_ofRegistration refused] at h
  cases h
  rfl

end TrapSession

/-- A call that is refused leaves the dispatcher, the registers, the windows and the address that
its caller passed as they were. None is refused after it has claimed a range. -/
theorem TrapReach.refused_unchanged {history : List TrapMove} {turn : TrapTurn}
    (reach : TrapReach history turn) (hardware : TrapHardware)
    (allocations : List (Except EfiError UInt16)) (releases : List (Except EfiError Unit)) :
    let session := turn.session.among hardware allocations releases
    (∀ self step reason, (session.make self step).1.refusal? = some reason →
      (session.make self step).2.system.dispatcher = session.system.dispatcher ∧
      (session.make self step).2.system.hardware = hardware ∧
      (TrapMove.make session self step).granted = [] ∧
      (TrapMove.make session self step).freed = []) ∧
    (∀ self step callback request reactions reason address,
      step.registration? session.clients.length = some (callback, request, reactions) →
      (session.make self step).1 = .registered (.error reason) address →
      address = request.address) ∧
    ∀ callback request address claimed,
      claimRange callback request (roundedTrapLength request.length) session.system =
        (.ok address, claimed) →
      ∃ handle after,
        keepRecord callback request (roundedTrapLength request.length) address claimed =
          (.ok (handle, address), after) := by
  intro session
  have sound : session.system.dispatcher.Sound := reach.sound
  refine ⟨?_, fun _ _ _ _ _ _ _ registers h => TrapSession.make_refused_address registers h,
    fun _ _ _ _ h => keepRecord_of_claimRange sound h⟩
  intro self step reason h
  have refuses := TrapSession.make_refuses sound h
  have windows := TrapDispatcher.windows_congr (congrArg _ refuses.dispatcher)
  obtain ⟨granted, freed⟩ := TrapSession.quiet_of_windows_eq sound windows
  exact ⟨refuses.dispatcher, refuses.hardware, granted, freed⟩

theorem TrapReach.refused_unchanged_taken :
    let start := TrapSession.start [] []
    let alone := (start.make none (.register 0x60 4 .write [])).2.among { status := 1 } [.ok 3] []
    (alone.make none (.register 0x60 8 .read [])).1.refusal? = some .invalidParameter ∧
      (alone.make none (.register 0x60 8 .read [])).2.system.dispatcher =
        alone.system.dispatcher ∧
      (alone.make none (.register 0x60 8 .read [])).2.system.hardware = { status := 1 } := by
  intro start alone
  have reach := (TrapReach.start [] []).made (.register 0x60 4 .write []) (by simp)
  have unchanged := (reach.refused_unchanged { status := 1 } [.ok 3] []).1
  have refused : (alone.make none (.register 0x60 8 .read [])).1.refusal? =
      some .invalidParameter := by decide +kernel
  obtain ⟨dispatcher, hardware, _, _⟩ := unchanged none (.register 0x60 8 .read [])
    .invalidParameter refused
  exact ⟨refused, dispatcher, hardware⟩

end PlatformFirmware
