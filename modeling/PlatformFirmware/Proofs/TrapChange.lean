import PlatformFirmware.Proofs.TrapMakes
import PlatformFirmware.Proofs.TrapNotes
import PlatformFirmware.Proofs.TrapPlacement

namespace PlatformFirmware

/-- The registration with a handle. -/
def TrapDispatcher.record? (dispatcher : TrapDispatcher) (handle : TrapHandle) :
    Option TrapRecord :=
  (dispatcher.findRecord? handle).bind fun found =>
    (dispatcher.entry found.1).records[found.2]?

/-- The registration that a step is about. -/
def TrapSession.record? (session : TrapSession) (self : Option Nat) (target : TrapTarget) :
    Option TrapRecord :=
  (session.handleOf? self target).bind session.system.dispatcher.record?

def TrapOutcome.isDone : TrapOutcome → Bool
  | completed (.ok _) => true
  | _ => false

namespace TrapMove

/-- The registration that a move ends. -/
def released? : TrapMove → Option TrapRecord
  | make session self step =>
    if (session.make self step).1.isDone then
      step.release?.bind fun release => session.record? self release.1
    else none
  | call _ _ _ => none

/-- The registration that a move pauses or resumes, and which of the two. -/
def switched? : TrapMove → Option (TrapRecord × Bool)
  | make session self step =>
    if (session.make self step).1.isDone then
      step.switch?.bind fun switch =>
        (session.record? self switch.1).map fun record => (record, switch.2)
    else none
  | call _ _ _ => none

/-- If the allocator grants a window during the move, it is aligned and clear of all ranges. -/
def GrantsApart : TrapMove → Prop
  | make session self step => session.system.GrantsApart (session.make self step).2.system
  | call _ _ _ => True

end TrapMove

/-- An entry without one of its records. The last one takes the range of the register along. -/
def TrapEntry.without (entry : TrapEntry) (place : Nat) : TrapEntry :=
  if entry.records.eraseIdx place = [] then {}
  else { entry with records := entry.records.eraseIdx place }

theorem TrapEntry.without_records (entry : TrapEntry) (place : Nat) :
    (entry.without place).records = entry.records.eraseIdx place := by
  unfold TrapEntry.without
  split
  next h => exact h.symm
  next => rfl

namespace TrapSystem

theorem Drops.done {handle : TrapHandle} {extended : Bool} {before after : TrapSystem}
    (h : Drops handle extended before (.ok ()) after) :
    ∃ i place record, before.dispatcher.Finds handle extended i place record ∧
      after.dispatcher =
        before.dispatcher.setEntry i ((before.dispatcher.entry i).without place) ∧
      after.hardware =
        if (before.dispatcher.entry i).records.eraseIdx place = [] then
          before.hardware.setRegister i .zero
        else before.hardware := by
  cases h with
  | shared finds rest logged =>
    refine ⟨_, _, _, finds, ?_, ?_⟩
    · rw [logged.dispatcher, TrapEntry.without, if_neg rest]
    · rw [logged.hardware, if_neg rest]
  | dedicated finds rest _ logged =>
    refine ⟨_, _, _, finds, ?_, ?_⟩
    · rw [program_dispatcher, logged.dispatcher, TrapEntry.without, if_pos rest]
    · rw [program_hardware, logged.hardware, if_pos rest]
  | window finds rest _ logged logged' =>
    refine ⟨_, _, _, finds, ?_, ?_⟩
    · rw [logged'.dispatcher, released_dispatcher, program_dispatcher, logged.dispatcher,
        TrapEntry.without, if_pos rest]
    · rw [logged'.hardware, released_hardware, program_hardware, logged.hardware, if_pos rest]

theorem Drops.refuses {handle : TrapHandle} {extended : Bool} {before after : TrapSystem}
    {fault : Fault} (h : Drops handle extended before (.error fault) after) :
    before.Refuses fault after := by
  cases h with
  | locked _ logged => exact logged.refuses rfl rfl
  | foreign | unknown | mismatched => exact ⟨⟨_, rfl⟩, rfl, rfl⟩

theorem Switches.refuses {handle : TrapHandle} {on : Bool} {before after : TrapSystem}
    {fault : Fault} (h : Switches handle on before (.error fault) after) :
    before.Refuses fault after := by
  cases h with
  | fixed => exact ⟨⟨_, rfl⟩, rfl, rfl⟩
  | already _ _ logged => exact logged.refuses rfl rfl

theorem Drops.allocations_eq {handle : TrapHandle} {extended : Bool} {before after : TrapSystem}
    {result : Except Fault Unit} (h : Drops handle extended before result after) :
    after.allocations = before.allocations := by
  cases h with
  | locked _ logged => exact logged.allocations
  | foreign | unknown | mismatched => rfl
  | shared _ _ logged => exact logged.allocations
  | dedicated _ _ _ logged => exact logged.allocations
  | window _ _ _ logged logged' => exact logged'.allocations.trans logged.allocations

theorem Switches.allocations_eq {handle : TrapHandle} {on : Bool} {before after : TrapSystem}
    {result : Except Fault Unit} (h : Switches handle on before result after) :
    after.allocations = before.allocations := by
  cases h with
  | fixed | switched => rfl
  | already _ _ logged => exact logged.allocations

theorem controlRegister?_eq_some {dispatcher : TrapDispatcher} {handle : TrapHandle} {i : Fin 4}
    (h : dispatcher.controlRegister? handle = some i) :
    (dispatcher.entry i).isDedicated = true ∧
      ∃ record ∈ (dispatcher.entry i).records, dispatcher.record? handle = some record := by
  unfold TrapDispatcher.controlRegister? at h
  cases hf : dispatcher.findRecord? handle with
  | none => simp [hf] at h
  | some found =>
    obtain ⟨j, place⟩ := found
    obtain ⟨record, hr, _⟩ := TrapDispatcher.findRecord?_eq_some hf
    simp only [hf, Option.ite_none_right_eq_some, Bool.and_eq_true, Option.some.injEq] at h
    obtain ⟨⟨dedicated, _⟩, rfl⟩ := h
    refine ⟨dedicated, record, List.mem_of_getElem? hr, ?_⟩
    simp only [TrapDispatcher.record?, hf, Option.bind_some, hr]

end TrapSystem

theorem TrapDispatcher.Finds.record?_eq {dispatcher : TrapDispatcher} {handle : TrapHandle}
    {extended : Bool} {i : Fin 4} {place : Nat} {record : TrapRecord}
    (h : dispatcher.Finds handle extended i place record) :
    dispatcher.record? handle = some record := by
  simp only [TrapDispatcher.record?, h.found, Option.bind_some, h.placed]

theorem TrapDispatcher.Finds.unique {dispatcher : TrapDispatcher} {handle : TrapHandle}
    {extended extended' : Bool} {i j : Fin 4} {place place' : Nat} {record record' : TrapRecord}
    (h : dispatcher.Finds handle extended i place record)
    (h' : dispatcher.Finds handle extended' j place' record') :
    i = j ∧ place = place' ∧ record = record' := by
  obtain ⟨rfl, rfl⟩ := Prod.mk.inj (Option.some.inj (h.found.symm.trans h'.found))
  exact ⟨rfl, rfl, Option.some.inj (h.placed.symm.trans h'.placed)⟩

namespace TrapSession

open TrapSystem

/-- What a step changes of the entries and registers, when all windows are granted apart. -/
inductive Changes (before : TrapSession) (self : Option Nat) (step : TrapStep)
    (after : TrapSession) : Prop
  | same : (TrapMove.make before self step).released? = none →
      (TrapMove.make before self step).switched? = none →
      after.system.dispatcher.entries = before.system.dispatcher.entries →
      after.system.hardware.registers = before.system.hardware.registers →
      before.clients.length ≤ after.clients.length → Changes before self step after
  | added {callback request reactions i address} :
      (TrapMove.make before self step).released? = none →
      (TrapMove.make before self step).switched? = none →
      step.registration? before.clients.length = some (callback, request, reactions) →
      Places callback request before.system after.system i address →
      after.clients.length = before.clients.length + 1 → Changes before self step after
  | dropped {i place record} : (TrapMove.make before self step).released? = some record →
      (TrapMove.make before self step).switched? = none →
      (before.system.dispatcher.entry i).records[place]? = some record →
      after.system.dispatcher = before.system.dispatcher.setEntry i
        ((before.system.dispatcher.entry i).without place) →
      after.system.hardware =
        (if (before.system.dispatcher.entry i).records.eraseIdx place = [] then
          before.system.hardware.setRegister i .zero
        else before.system.hardware) →
      after.clients = before.clients → Changes before self step after
  | switched {i record on} : (TrapMove.make before self step).released? = none →
      (TrapMove.make before self step).switched? = some (record, on) →
      (before.system.dispatcher.entry i).isDedicated = true →
      record ∈ (before.system.dispatcher.entry i).records →
      after.system.dispatcher = before.system.dispatcher →
      after.system.hardware = before.system.hardware.setRegister i
        ((before.system.hardware.register i).setEnabled on) →
      after.clients = before.clients → Changes before self step after
  | replaced {i value} : step = .setRegister i value →
      (TrapMove.make before self step).released? = none →
      (TrapMove.make before self step).switched? = none →
      after.system.dispatcher = before.system.dispatcher →
      after.clients = before.clients → Changes before self step after

theorem released?_of_not_release {session : TrapSession} {self : Option Nat} {step : TrapStep}
    (h : step.release? = none) : (TrapMove.make session self step).released? = none := by
  simp [TrapMove.released?, h]

theorem switched?_of_not_switch {session : TrapSession} {self : Option Nat} {step : TrapStep}
    (h : step.switch? = none) : (TrapMove.make session self step).switched? = none := by
  simp [TrapMove.switched?, h]

theorem quiet_of_not_done {session : TrapSession} {self : Option Nat} {step : TrapStep}
    (h : (session.make self step).1.isDone = false) :
    (TrapMove.make session self step).released? = none ∧
      (TrapMove.make session self step).switched? = none := by
  simp [TrapMove.released?, TrapMove.switched?, h]

theorem released?_of_finds {session : TrapSession} {self : Option Nat} {step : TrapStep}
    {target : TrapTarget} {extended : Bool} {handle : TrapHandle} {i : Fin 4} {place : Nat}
    {record : TrapRecord} (release : step.release? = some (target, extended))
    (hh : session.handleOf? self target = some handle)
    (finds : session.system.dispatcher.Finds handle extended i place record) :
    (TrapMove.make session self step).released? = some record := by
  have ended := (dropRecord_drops handle extended session.system).result_eq finds
  have done : (session.make self step).1 = .completed (.ok ()) := by
    rw [make_release release hh, ended]
    rfl
  simp [TrapMove.released?, done, TrapOutcome.isDone, release, TrapSession.record?, hh,
    finds.record?_eq]

theorem Changes.refused {before after : TrapSession} {self : Option Nat} {step : TrapStep}
    {fault : Fault} (refuses : before.system.Refuses fault after.system)
    (released : (TrapMove.make before self step).released? = none)
    (switched : (TrapMove.make before self step).switched? = none)
    (le : before.clients.length ≤ after.clients.length) : before.Changes self step after :=
  .same released switched (congrArg TrapDispatcher.entries refuses.dispatcher)
    (congrArg TrapHardware.registers refuses.hardware) le

theorem make_changes (before : TrapSession) (self : Option Nat) (step : TrapStep)
    (tidy : before.system.dispatcher.Tidy)
    (grants : (TrapMove.make before self step).GrantsApart) :
    Changes before self step (before.make self step).2 := by
  have makes := make_makes before self step
  have quiet := @quiet_of_not_done before self step
  have released := @released?_of_not_release before self step
  have switched := @switched?_of_not_switch before self step
  simp only [TrapMove.GrantsApart] at grants
  rcases ha : before.make self step with ⟨outcome, after⟩
  rw [ha] at makes quiet grants
  dsimp only at makes quiet grants ⊢
  cases makes with
  | @registers _ callback request reactions result system hr registers =>
    have hrelease : step.release? = none := by cases step <;> first | rfl | cases hr
    have hswitch : step.switch? = none := by cases step <;> first | rfl | cases hr
    cases result with
    | error fault =>
      have refuses := registers.refuses tidy grants
      exact .refused refuses (released hrelease) (switched hswitch) (by simp)
    | ok answer =>
      obtain ⟨handle, address⟩ := answer
      obtain ⟨i, places, _⟩ := registers.placed tidy grants
      exact .added (released hrelease) (switched hswitch) hr places (by simp)
  | missing =>
    obtain ⟨hq, hq'⟩ := quiet rfl
    exact .same hq hq' rfl rfl (Nat.le_refl _)
  | @drops _ target extended handle result system hr hh drops =>
    have hswitch : step.switch? = none := by cases step <;> first | rfl | cases hr
    cases result with
    | error fault =>
      have refuses := drops.refuses
      obtain ⟨_, rfl⟩ := refuses.told
      obtain ⟨hq, hq'⟩ := quiet rfl
      exact .refused refuses hq hq' (Nat.le_refl _)
    | ok _ =>
      obtain ⟨i, place, record, finds, hd, hw⟩ := drops.done
      exact .dropped (released?_of_finds hr hh finds) (switched hswitch) finds.placed hd hw rfl
  | @switches _ target on handle result system hr hh switches =>
    have hrelease : step.release? = none := by cases step <;> first | rfl | cases hr
    cases result with
    | error fault =>
      have refuses := switches.refuses
      obtain ⟨_, rfl⟩ := refuses.told
      obtain ⟨hq, hq'⟩ := quiet rfl
      exact .refused refuses hq hq' (Nat.le_refl _)
    | ok _ =>
      cases switches with
      | switched control _ =>
        obtain ⟨dedicated, record, hmem, hrecord⟩ := controlRegister?_eq_some control
        refine .switched (released hrelease) ?_ dedicated hmem rfl rfl rfl
        simp [TrapMove.switched?, ha, TrapOutcome.ofCall, TrapOutcome.isDone, hr,
          TrapSession.record?, hh, hrecord]
  | locks | latches => exact .same (released rfl) (switched rfl) rfl rfl (Nat.le_refl _)
  | sets => exact .replaced rfl (released rfl) (switched rfl) rfl rfl
  | begins =>
    have notes := beginDispatch_notes before.system
    exact .same (released rfl) (switched rfl) (congrArg TrapDispatcher.entries notes.dispatcher)
      (congrArg TrapHardware.registers notes.hardware) (Nat.le_refl _)

theorem make_allocations {session : TrapSession} {self : Option Nat} {step : TrapStep}
    (h : step.registration? session.clients.length = none) :
    (session.make self step).2.system.allocations = session.system.allocations := by
  have makes := make_makes session self step
  generalize (session.make self step).1 = outcome at makes
  generalize (session.make self step).2 = after at makes ⊢
  cases makes with
  | registers hr _ => exact absurd (h.symm.trans hr) (by simp)
  | missing => rfl
  | drops _ _ drops => exact drops.allocations_eq
  | switches _ _ switches => exact switches.allocations_eq
  | locks | latches | sets => rfl
  | begins => exact (beginDispatch_notes session.system).allocations

end TrapSession

theorem TrapMove.grantsApart_of_not_registration {session : TrapSession} {self : Option Nat}
    {step : TrapStep} (h : step.registration? session.clients.length = none) :
    (TrapMove.make session self step).GrantsApart := by
  intro base granted
  rw [TrapSession.make_allocations h] at granted
  exact absurd granted.symm (List.cons_ne_self _ _)

end PlatformFirmware
