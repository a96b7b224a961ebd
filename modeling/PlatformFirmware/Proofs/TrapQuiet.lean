import PlatformFirmware.Proofs.TrapMakes
import PlatformFirmware.Proofs.TrapService

namespace PlatformFirmware

open TrapSystem

/-- The next invocation of any callback makes no step of its own. -/
def TrapSession.Quiet (session : TrapSession) : Prop :=
  ∀ client ∈ session.clients, client.reactions.headD [] = []

theorem TrapSession.takeReaction_quiet {session : TrapSession} (quiet : session.Quiet)
    (number : Nat) : (session.takeReaction number).1 = [] := by
  simp only [takeReaction]
  cases h : session.clients[number]? with
  | none => rfl
  | some client => exact quiet client (List.mem_of_getElem? h)

theorem TrapSession.Quiet.make {session : TrapSession} (quiet : session.Quiet) {step : TrapStep}
    {callback : TrapCallback} {request : TrapRequest} {reactions : List (List TrapStep)}
    (registers : step.registration? session.clients.length = some (callback, request, reactions))
    (silent : reactions.headD [] = []) (self : Option Nat) : (session.make self step).2.Quiet := by
  have makes := make_makes session self step
  generalize (session.make self step).1 = outcome at makes
  generalize (session.make self step).2 = after at makes ⊢
  cases makes with
  | registers hr _ =>
    cases Option.some.inj (registers.symm.trans hr)
    intro client hc
    rcases List.mem_append.mp hc with hc | hc
    · exact quiet client hc
    · obtain rfl := List.mem_singleton.mp hc
      exact silent
  | missing | drops _ _ _ | switches _ _ _ | locks | latches | sets | begins => exact quiet

/-- One call of a quiet session is answered without a step. -/
theorem TrapSession.Quiet.reactionsTo {session : TrapSession} (quiet : session.Quiet)
    {calls : List TrapRecord} (le : calls.length ≤ 1) : session.reactionsTo calls = [] := by
  match calls with
  | [] => rfl
  | [record] =>
    rw [TrapSession.reactionsTo, TrapSession.takeReaction_quiet quiet]
    rfl
  | _ :: _ :: _ => simp at le

theorem TrapSystem.callbacks_eq_accesses (system : TrapSystem) :
    system.callbacks = system.accesses.filter TrapEvent.isCallback := by
  rw [callbacks, accesses, List.filter_filter]
  refine List.filter_congr fun event _ => ?_
  cases event <;> rfl

namespace TrapSession

theorem Serves.callbacks {before after : TrapSession} {access : TrappedAccess}
    {calls : List TrapRecord} {steps : List TrapStep}
    (h : before.Serves access calls steps after) :
    after.system.callbacks = before.system.callbacks ++
      calls.map fun record => callEvent record access.writeData := by
  have all : (calls.map fun record => callEvent record access.writeData).filter
      TrapEvent.isCallback = calls.map fun record => callEvent record access.writeData := by
    rw [List.filter_eq_self]
    intro event called
    obtain ⟨record, _, rfl⟩ := List.mem_map.mp called
    unfold callEvent
    cases record.callback <;> rfl
  rw [callbacks_eq_accesses, h.accesses, List.filter_append, List.filter_append, all,
    ← callbacks_eq_accesses]
  exact List.append_nil _

theorem step_dispatch_none {session : TrapSession}
    (h : trapped? session.system.hardware = none) :
    (session.step .dispatch).1 = .dispatched 0 ∧
      (session.step .dispatch).2.system.callbacks = session.system.callbacks := by
  rw [step_dispatch_idle (trapped?_eq_none h)]
  exact ⟨rfl, callbacks_note rfl⟩

/-- A dispatch from outside calls the records that the registers which trapped have for the
cycle. -/
theorem step_dispatch_some {session : TrapSession} {access : TrappedAccess}
    (h : trapped? session.system.hardware = some access) (quiet : session.Quiet)
    {calls : List TrapRecord}
    (found : calls = (DispatchFrame.start access).registers.flatMap fun i =>
      session.system.dispatcher.matching i access.address access.isWrite)
    (le : calls.length ≤ 1) :
    (session.step .dispatch).1 = .dispatched calls.length ∧
      (session.step .dispatch).2.system.callbacks = session.system.callbacks ++
        calls.map fun record => callEvent record access.writeData := by
  have silent := quiet.reactionsTo le
  obtain ⟨outcome, serves⟩ := step_dispatch_serves h found (by simp [silent])
  have before : (session.act beginDispatch).2.system.callbacks = session.system.callbacks :=
    (beginDispatch_notes session.system).callbacks_eq
  rw [← before]
  exact ⟨outcome, serves.callbacks⟩

end TrapSession

end PlatformFirmware
