import PlatformFirmware.Proofs.TrapMakes
import PlatformFirmware.Proofs.TrapReach

namespace PlatformFirmware

namespace TrapSystem

theorem Logged.callbacks_eq {before after : TrapSystem} (h : before.Logged after) :
    after.callbacks = before.callbacks := by
  obtain ⟨lines, rfl⟩ := h
  have none : (lines.map TrapEvent.log).filter TrapEvent.isCallback = [] := by
    rw [List.filter_eq_nil_iff]
    intro event h
    obtain ⟨line, _, rfl⟩ := List.mem_map.mp h
    exact Bool.false_ne_true
  simp [callbacks, none]

theorem asked_callbacks (system : TrapSystem) : system.asked.callbacks = system.callbacks := by
  simp [callbacks, asked, TrapEvent.isCallback]

theorem program_callbacks (system : TrapSystem) (i : Fin 4) (register : TrapRegister)
    (entry : TrapEntry) : (system.program i register entry).callbacks = system.callbacks := by
  simp [callbacks, program, TrapEvent.isCallback]

theorem released_callbacks (system : TrapSystem) (base length : UInt16) :
    (system.released base length).callbacks = system.callbacks := by
  simp [callbacks, released, TrapEvent.isCallback]

theorem Claims.callbacks_eq {callback : TrapCallback} {request : TrapRequest}
    {before after : TrapSystem} {result : Except Fault UInt16}
    (h : Claims callback request before result after) : after.callbacks = before.callbacks := by
  have dedicated {answer : Except Fault Unit}
      (claims : ClaimsDedicated request (roundedTrapLength request.length) before answer after) :
      after.callbacks = before.callbacks := by
    cases claims with
    | misaligned _ logged => exact logged.callbacks_eq
    | taken _ _ _ logged => exact logged.callbacks_eq
    | noRegister _ _ _ _ logged => exact logged.callbacks_eq
    | dedicated => exact program_callbacks before _ _ _
  cases h with
  | noAddress _ _ logged => exact logged.callbacks_eq
  | shared _ _ claims =>
    cases claims with
    | room => rfl
    | overflow => rfl
    | noRegister _ _ logged => exact logged.callbacks_eq
    | noWindow _ _ _ logged => exact logged.callbacks_eq.trans before.asked_callbacks
    | window => exact (program_callbacks _ _ _ _).trans before.asked_callbacks
  | dedicated _ claims => exact dedicated claims
  | refused _ claims => exact dedicated claims

theorem Registers.callbacks_eq {callback : TrapCallback} {request : TrapRequest}
    {before after : TrapSystem} {result : Except Fault (TrapHandle × UInt16)}
    (h : Registers callback request before result after) : after.callbacks = before.callbacks := by
  cases h with
  | locked _ logged => exact logged.callbacks_eq
  | noRange _ _ logged => exact logged.callbacks_eq
  | unclaimed _ _ claims => exact claims.callbacks_eq
  | unkept _ _ claims _ => exact claims.callbacks_eq
  | kept _ _ claims _ logged => exact logged.callbacks_eq.trans claims.callbacks_eq

theorem Drops.callbacks_eq {handle : TrapHandle} {extended : Bool} {before after : TrapSystem}
    {result : Except Fault Unit} (h : Drops handle extended before result after) :
    after.callbacks = before.callbacks := by
  cases h with
  | locked _ logged => exact logged.callbacks_eq
  | foreign | unknown | mismatched => rfl
  | shared _ _ logged => exact logged.callbacks_eq
  | dedicated _ _ _ logged => exact (program_callbacks _ _ _ _).trans logged.callbacks_eq
  | window _ _ _ logged logged' =>
    rw [logged'.callbacks_eq, released_callbacks, program_callbacks, logged.callbacks_eq]

theorem Switches.callbacks_eq {handle : TrapHandle} {on : Bool} {before after : TrapSystem}
    {result : Except Fault Unit} (h : Switches handle on before result after) :
    after.callbacks = before.callbacks := by
  cases h with
  | fixed => rfl
  | already _ _ logged =>
    rw [logged.callbacks_eq]
    simp [callbacks, TrapEvent.isCallback]
  | switched => simp [callbacks, TrapEvent.isCallback]

end TrapSystem

namespace TrapSession

/-- No step begins a callback, also not the one that begins a dispatch. -/
theorem make_callbacks (session : TrapSession) (self : Option Nat) (step : TrapStep) :
    (session.make self step).2.system.callbacks = session.system.callbacks := by
  have makes := make_makes session self step
  generalize (session.make self step).1 = outcome at makes
  generalize (session.make self step).2 = after at makes ⊢
  cases makes with
  | registers _ registers => exact registers.callbacks_eq
  | missing => rfl
  | drops _ _ drops => exact drops.callbacks_eq
  | switches _ _ switches => exact switches.callbacks_eq
  | locks | latches | sets => rfl
  | begins => exact (TrapSystem.beginDispatch_notes session.system).callbacks_eq

end TrapSession

/-- The event that a move leaves for the callback it begins. -/
def TrapMove.callback? : TrapMove → Option TrapEvent
  | call _ record writeData => some (TrapSession.callEvent record writeData)
  | make _ _ _ => none

/-- The callbacks in the log are those that were begun, in their order. -/
theorem TrapReach.callbacks_eq {history : List TrapMove} {turn : TrapTurn}
    (reach : TrapReach history turn) :
    turn.session.system.callbacks = history.filterMap TrapMove.callback? := by
  refine TrapReach.holds (P := fun history session =>
    session.system.callbacks = history.filterMap TrapMove.callback?) ?_ ?_ ?_ ?_ reach
  · intro allocations releases
    rfl
  · intro history session self step ih
    rw [session.make_callbacks, ih, List.filterMap_append]
    exact (List.append_nil _).symm
  · intro history before after record writeData _ called ih
    rw [called, ih, List.filterMap_append]
    rfl
  · intro history before after _ quiet ih
    rw [quiet, ih]

end PlatformFirmware
