import PlatformFirmware.Proofs.TrapNotes
import PlatformFirmware.TrapRun

namespace PlatformFirmware

open TrapSystem

/-- Makes a step on a session. A dispatch is begun, and its callbacks are yet to run. -/
def TrapSession.make (session : TrapSession) (self : Option Nat) :
    TrapStep → TrapOutcome × TrapSession
  | .register address length direction reactions =>
    session.enroll address reactions fun number => register number address length direction
  | .registerExtended request reactions =>
    session.enroll request.address reactions fun number =>
      return (← registerExtended number request, request.address)
  | .unregister target => session.callOn self target unregister
  | .unregisterExtended target => session.callOn self target unregisterExtended
  | .pause target => session.callOn self target pause
  | .resume target => session.callOn self target resume
  | .lock => (.completed (.ok ()), (session.act lock).2)
  | .latch status cycle data =>
    (.completed (.ok ()), (session.act (latch status cycle data)).2)
  | .setRegister register value =>
    (.completed (.ok ()), (session.act (setRegister register value)).2)
  | .dispatch => (.dispatched 0, (session.act beginDispatch).2)

/-- The same session among other hardware, with an allocator that will answer otherwise. -/
def TrapSession.among (session : TrapSession) (hardware : TrapHardware)
    (allocations : List (Except EfiError UInt16)) (releases : List (Except EfiError Unit)) :
    TrapSession :=
  { session with system := { session.system with hardware, allocations, releases } }

/-- One thing that happens around a dispatcher, and the session it happens on. -/
inductive TrapMove
  /-- A step is made from outside, or by the callback of a client. -/
  | make (session : TrapSession) (self : Option Nat) (step : TrapStep)
  /-- A dispatch begins the callback of a registration, about the written data. -/
  | call (session : TrapSession) (record : TrapRecord) (writeData : UInt32)

def TrapMove.session : TrapMove → TrapSession
  | .make session _ _ => session
  | .call session _ _ => session

namespace TrapTurn

def session : TrapTurn → TrapSession
  | .running session _ _ => session
  | .finished session _ => session

@[simp]
theorem session_finished (session : TrapSession) (outcome : TrapOutcome) :
    (finished session outcome).session = session := rfl

/-- What happens in the next turn, besides what the dispatch does on its own. -/
def move? : TrapTurn → Option TrapMove
  | .finished _ _ => none
  | .running session frame _ =>
    match frame.callback, frame.pending with
    | some (self, step :: _), _ => some (.make session (some self) step)
    | none, record :: _ => some (.call session record frame.access.writeData)
    | _, _ => none

theorem move?_session {turn : TrapTurn} {move : TrapMove} (h : turn.move? = some move) :
    move.session = turn.session := by
  unfold move? at h
  split at h
  · cases h
  · split at h <;> cases h <;> rfl

theorem perform_of_ne (session : TrapSession) (self : Option Nat) (frames : List DispatchFrame)
    {step : TrapStep} (h : step ≠ .dispatch) :
    perform session self frames step = deliver frames (session.make self step) := by
  cases step <;> first | rfl | exact absurd rfl h

theorem perform_eq (session : TrapSession) (self : Option Nat) (frames : List DispatchFrame)
    (step : TrapStep) :
    perform session self frames step = deliver frames (session.make self step) ∨
    ∃ access, perform session self frames step =
      .running (session.make self step).2 (.start access) frames := by
  by_cases h : step = .dispatch
  · subst h
    simp only [perform]
    split
    next => exact .inl rfl
    next access _ => exact .inr ⟨access, rfl⟩
  · exact .inl (perform_of_ne session self frames h)

theorem deliver_nil (answer : TrapOutcome × TrapSession) :
    deliver [] answer = .finished answer.2 answer.1 := by
  obtain ⟨outcome, session⟩ := answer
  cases outcome <;> rfl

theorem deliver_eq (frames : List DispatchFrame) (answer : TrapOutcome × TrapSession) :
    (∃ outcome, deliver frames answer = .finished answer.2 outcome) ∨
    ∃ frame outer, frames = frame :: outer ∧
      deliver frames answer = .running (answer.2.note (.nested answer.1)) frame outer := by
  obtain ⟨outcome, session⟩ := answer
  cases outcome <;> cases frames
  all_goals first | exact .inl ⟨_, rfl⟩ | exact .inr ⟨_, _, rfl, rfl⟩

end TrapTurn

/-- Nothing is different but the log, the trap status and what callbacks will do. -/
structure TrapSession.SameTraps (before after : TrapSession) : Prop where
  dispatcher : after.system.dispatcher = before.system.dispatcher
  registers : after.system.hardware.registers = before.system.hardware.registers
  clients : after.clients.length = before.clients.length

namespace TrapSession

theorem sameTraps_note (session : TrapSession) (event : TrapEvent) :
    session.SameTraps (session.note event) := ⟨rfl, rfl, rfl⟩

theorem sameTraps_clearStatus (session : TrapSession) (mask : UInt32) :
    session.SameTraps (session.act (clearStatus mask)).2 := ⟨rfl, rfl, rfl⟩

theorem sameTraps_takeReaction (session : TrapSession) (number : Nat) :
    session.SameTraps (session.takeReaction number).2 :=
  ⟨rfl, rfl, by simp [takeReaction]⟩

theorem SameTraps.trans {first second third : TrapSession} (h : first.SameTraps second)
    (h' : second.SameTraps third) : first.SameTraps third :=
  ⟨h'.dispatcher.trans h.dispatcher, h'.registers.trans h.registers, h'.clients.trans h.clients⟩

theorem callbacks_note {session : TrapSession} {event : TrapEvent}
    (h : event.isCallback = false) :
    (session.note event).system.callbacks = session.system.callbacks := by
  simp [note, callbacks, h]

theorem callbacks_call (session : TrapSession) (record : TrapRecord) (writeData : UInt32) :
    (session.note (callEvent record writeData)).system.callbacks =
      session.system.callbacks ++ [callEvent record writeData] := by
  have called : (callEvent record writeData).isCallback = true := by
    unfold callEvent
    cases record.callback <;> rfl
  simp [note, callbacks, called]

theorem callbacks_clearStatus (session : TrapSession) (mask : UInt32) :
    (session.act (clearStatus mask)).2.system.callbacks = session.system.callbacks :=
  @callbacks_note session (.clearStatus mask) rfl

end TrapSession

end PlatformFirmware
