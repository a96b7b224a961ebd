import PlatformFirmware.Proofs.TrapMove
import PlatformFirmware.Proofs.TrapRegistration
import PlatformFirmware.Proofs.TrapRelease

namespace PlatformFirmware

open TrapSystem

namespace TrapStep

/-- What a step registers for the client of that number, and what the callback will do. -/
def registration? (client : Nat) :
    TrapStep → Option (TrapCallback × TrapRequest × List (List TrapStep))
  | register address length direction reactions =>
    some (.plain client, { address, length, direction }, reactions)
  | registerExtended request reactions => some (.extended client, request, reactions)
  | _ => none

/-- What a step unregisters, and whether through the interface with byte enables. -/
def release? : TrapStep → Option (TrapTarget × Bool)
  | unregister target => some (target, false)
  | unregisterExtended target => some (target, true)
  | _ => none

/-- What a step pauses or resumes, and which of the two. -/
def switch? : TrapStep → Option (TrapTarget × Bool)
  | pause target => some (target, false)
  | resume target => some (target, true)
  | _ => none

end TrapStep

namespace TrapOutcome

/-- The outcome of a registration that was asked for at an address. -/
def ofRegistration (address : UInt16) : Except Fault (TrapHandle × UInt16) → TrapOutcome
  | .ok (handle, chosen) => registered (.ok handle) chosen
  | .error fault => ofFault (fun reason => registered (.error reason) address) fault

def ofCall : Except Fault Unit → TrapOutcome
  | .ok () => completed (.ok ())
  | .error fault => ofFault (fun reason => completed (.error reason)) fault

theorem ofRegistration_ok {address chosen : UInt16} {handle : TrapHandle}
    {result : Except Fault (TrapHandle × UInt16)}
    (h : ofRegistration address result = .registered (.ok handle) chosen) :
    result = .ok (handle, chosen) := by
  match result with
  | .ok (_, _) =>
    cases h
    rfl
  | .error (.refused _) => cases h
  | .error (.halted _) => cases h

end TrapOutcome

namespace TrapSession

/-- What a step does to a session, and its outcome. -/
inductive Makes (before : TrapSession) (self : Option Nat) :
    TrapStep → TrapOutcome → TrapSession → Prop
  | registers {step callback request reactions result system} :
      step.registration? before.clients.length = some (callback, request, reactions) →
      Registers callback request before.system result system →
      Makes before self step (.ofRegistration request.address result)
        { system, clients :=
            before.clients ++ [{ handle := result.toOption.map Prod.fst, reactions }] }
  | missing {step target way} :
      step.release? = some (target, way) ∨ step.switch? = some (target, way) →
      before.handleOf? self target = none → Makes before self step .noHandle before
  | drops {step target extended handle result system} : step.release? = some (target, extended) →
      before.handleOf? self target = some handle →
      Drops handle extended before.system result system →
      Makes before self step (.ofCall result) { before with system }
  | switches {step target on handle result system} : step.switch? = some (target, on) →
      before.handleOf? self target = some handle →
      Switches handle on before.system result system →
      Makes before self step (.ofCall result) { before with system }
  | locks : Makes before self .lock (.completed (.ok ())) (before.act lock).2
  | latches {status cycle data} : Makes before self (.latch status cycle data)
      (.completed (.ok ())) (before.act (latch status cycle data)).2
  | sets {register value} : Makes before self (.setRegister register value)
      (.completed (.ok ())) (before.act (setRegister register value)).2
  | begins : Makes before self .dispatch (.dispatched 0) (before.act beginDispatch).2

theorem enroll_eq (session : TrapSession) (address : UInt16) (reactions : List (List TrapStep))
    (action : Nat → TrapM (TrapHandle × UInt16)) :
    session.enroll address reactions action =
      (.ofRegistration address (action session.clients.length session.system).1,
        { system := (action session.clients.length session.system).2
          clients := session.clients ++
            [{ handle := (action session.clients.length session.system).1.toOption.map Prod.fst,
               reactions }] }) := by
  simp only [enroll]
  rcases action session.clients.length session.system with ⟨_ | _, _⟩ <;> rfl

theorem callOn_eq {session : TrapSession} {self : Option Nat} {target : TrapTarget}
    {handle : TrapHandle} (h : session.handleOf? self target = some handle)
    (action : TrapHandle → TrapM Unit) :
    session.callOn self target action =
      (.ofCall (action handle session.system).1,
        { session with system := (action handle session.system).2 }) := by
  simp only [callOn, h]
  rcases action handle session.system with ⟨_ | _, _⟩ <;> rfl

theorem make_release {session : TrapSession} {self : Option Nat} {step : TrapStep}
    {target : TrapTarget} {extended : Bool} {handle : TrapHandle}
    (h : step.release? = some (target, extended))
    (hh : session.handleOf? self target = some handle) :
    session.make self step = (.ofCall (dropRecord handle extended session.system).1,
      { session with system := (dropRecord handle extended session.system).2 }) := by
  cases step <;> cases h <;> exact callOn_eq hh _

theorem make_switch {session : TrapSession} {self : Option Nat} {step : TrapStep}
    {target : TrapTarget} {on : Bool} {handle : TrapHandle}
    (h : step.switch? = some (target, on)) (hh : session.handleOf? self target = some handle) :
    session.make self step = (.ofCall (setEnabled handle on session.system).1,
      { session with system := (setEnabled handle on session.system).2 }) := by
  cases step <;> cases h <;> exact callOn_eq hh _

theorem callOn_none {session : TrapSession} {self : Option Nat} {target : TrapTarget}
    (h : session.handleOf? self target = none) (action : TrapHandle → TrapM Unit) :
    session.callOn self target action = (.noHandle, session) := by
  simp only [callOn, h]

theorem registerExtended_apply (client : Nat) (request : TrapRequest) (system : TrapSystem) :
    (do return (← registerExtended client request, request.address) :
      TrapM (TrapHandle × UInt16)) system = addRecord (.extended client) request system := by
  have registers := addRecord_registers (.extended client) request system
  simp only [registerExtended, bind_apply, pure_apply]
  rcases h : addRecord (.extended client) request system with ⟨fault | ⟨handle, address⟩, after⟩
  · rfl
  · rw [h] at registers
    rw [registers.address_eq rfl]

theorem dropStep_makes {before : TrapSession} {step : TrapStep} {target : TrapTarget}
    {extended : Bool} (h : step.release? = some (target, extended)) (self : Option Nat) :
    let answer := before.callOn self target fun handle => dropRecord handle extended
    Makes before self step answer.1 answer.2 := by
  cases hh : before.handleOf? self target with
  | none =>
    rw [callOn_none hh]
    exact .missing (.inl h) hh
  | some handle =>
    rw [callOn_eq hh]
    exact .drops h hh (dropRecord_drops handle extended before.system)

theorem switchStep_makes {before : TrapSession} {step : TrapStep} {target : TrapTarget}
    {on : Bool} (h : step.switch? = some (target, on)) (self : Option Nat) :
    let answer := before.callOn self target fun handle => setEnabled handle on
    Makes before self step answer.1 answer.2 := by
  cases hh : before.handleOf? self target with
  | none =>
    rw [callOn_none hh]
    exact .missing (.inr h) hh
  | some handle =>
    rw [callOn_eq hh]
    exact .switches h hh (setEnabled_switches handle on before.system)

theorem make_makes (before : TrapSession) (self : Option Nat) (step : TrapStep) :
    Makes before self step (before.make self step).1 (before.make self step).2 := by
  cases step with
  | register address length direction reactions =>
    simp only [make, enroll_eq]
    exact .registers rfl (addRecord_registers _ _ _)
  | registerExtended request reactions =>
    simp only [make, enroll_eq, registerExtended_apply]
    exact .registers rfl (addRecord_registers _ _ _)
  | unregister => exact dropStep_makes rfl self
  | unregisterExtended => exact dropStep_makes rfl self
  | pause => exact switchStep_makes rfl self
  | resume => exact switchStep_makes rfl self
  | lock => exact .locks
  | latch => exact .latches
  | setRegister => exact .sets
  | dispatch => exact .begins

theorem make_registers {session : TrapSession} {step : TrapStep}
    {callback : TrapCallback} {request : TrapRequest} {reactions : List (List TrapStep)}
    (registers : step.registration? session.clients.length = some (callback, request, reactions))
    (self : Option Nat) :
    ∃ result, (session.make self step).1 = .ofRegistration request.address result ∧
      Registers callback request session.system result (session.make self step).2.system := by
  have makes := make_makes session self step
  generalize (session.make self step).1 = outcome at makes
  generalize (session.make self step).2 = after at makes
  cases makes with
  | registers known ended =>
    cases registers.symm.trans known
    exact ⟨_, rfl, ended⟩
  | missing known =>
    rcases known with known | known <;> cases step <;> cases known <;> cases registers
  | drops known | switches known => cases step <;> cases known <;> cases registers
  | locks | latches | sets | begins => cases registers

theorem make_registered {session : TrapSession} {self : Option Nat} {step : TrapStep}
    {callback : TrapCallback} {request : TrapRequest} {reactions : List (List TrapStep)}
    {handle : TrapHandle} {address : UInt16}
    (registers : step.registration? session.clients.length = some (callback, request, reactions))
    (done : (session.make self step).1 = .registered (.ok handle) address) :
    Registers callback request session.system (.ok (handle, address))
      (session.make self step).2.system := by
  obtain ⟨result, told, ended⟩ := make_registers registers self
  rw [told] at done
  rw [← TrapOutcome.ofRegistration_ok done]
  exact ended

end TrapSession

end PlatformFirmware
