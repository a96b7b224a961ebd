import PlatformFirmware.Proofs.TrapClaim
import PlatformFirmware.Proofs.TrapTable

namespace PlatformFirmware

namespace TrapDispatcher

/-- An unlocked dispatcher finds the registration of a handle that the interface gave out. -/
structure Finds (dispatcher : TrapDispatcher) (handle : TrapHandle) (extended : Bool) (i : Fin 4)
    (place : Nat) (record : TrapRecord) : Prop where
  unlocked : dispatcher.isLocked = false
  signed : handle.hasSignature = true
  found : dispatcher.findRecord? handle = some (i, place)
  placed : (dispatcher.entry i).records[place]? = some record
  interface : record.callback.isExtended = extended

end TrapDispatcher

namespace TrapSystem

/-- A window is given back to the allocator, whatever it says. -/
def released (system : TrapSystem) (base length : UInt16) : TrapSystem :=
  { system with
    releases := system.releases.tail
    events := system.events ++ [.free base length] }

/-- How an attempt to unregister ends. -/
inductive Drops (handle : TrapHandle) (extended : Bool) (system : TrapSystem) :
    Except Fault Unit → TrapSystem → Prop
  | locked {after} : system.dispatcher.isLocked = true → system.Logged after →
      Drops handle extended system (.error (.refused .accessDenied)) after
  | foreign : system.dispatcher.isLocked = false → handle.hasSignature = false →
      Drops handle extended system (.error (.refused .invalidParameter)) system
  | unknown : system.dispatcher.isLocked = false → handle.hasSignature = true →
      system.dispatcher.findRecord? handle = none →
      Drops handle extended system (.error (.refused .invalidParameter)) system
  | mismatched {i place record} : system.dispatcher.isLocked = false →
      handle.hasSignature = true → system.dispatcher.findRecord? handle = some (i, place) →
      (system.dispatcher.entry i).records[place]? = some record →
      record.callback.isExtended ≠ extended →
      Drops handle extended system (.error (.refused .invalidParameter)) system
  | shared {i place record after} : system.dispatcher.Finds handle extended i place record →
      (system.dispatcher.entry i).records.eraseIdx place ≠ [] →
      Logged { system with
        dispatcher := system.dispatcher.setEntry i
          { system.dispatcher.entry i with
            records := (system.dispatcher.entry i).records.eraseIdx place } } after →
      Drops handle extended system (.ok ()) after
  | dedicated {i place record logged} : system.dispatcher.Finds handle extended i place record →
      (system.dispatcher.entry i).records.eraseIdx place = [] →
      (system.dispatcher.entry i).isCallerOwned = true → system.Logged logged →
      Drops handle extended system (.ok ()) (logged.program i .zero {})
  | window {i place record logged after} : system.dispatcher.Finds handle extended i place record →
      (system.dispatcher.entry i).records.eraseIdx place = [] →
      (system.dispatcher.entry i).isCallerOwned = false → system.Logged logged →
      ((logged.program i .zero {}).released (system.dispatcher.entry i).base
        (system.dispatcher.entry i).length).Logged after →
      Drops handle extended system (.ok ()) after

/-- How an attempt to pause or resume ends. -/
inductive Switches (handle : TrapHandle) (on : Bool) (system : TrapSystem) :
    Except Fault Unit → TrapSystem → Prop
  | fixed : system.dispatcher.controlRegister? handle = none →
      Switches handle on system (.error (.refused .invalidParameter)) system
  | already {i after} : system.dispatcher.controlRegister? handle = some i →
      (system.hardware.register i).isEnabled = on →
      Logged { system with events := system.events ++ [.readRegister i] } after →
      Switches handle on system (.error (.refused .accessDenied)) after
  | switched {i} : system.dispatcher.controlRegister? handle = some i →
      (system.hardware.register i).isEnabled ≠ on →
      Switches handle on system (.ok ())
        { system with
          hardware := system.hardware.setRegister i ((system.hardware.register i).setEnabled on)
          events := system.events ++ [.readRegister i] ++
            [.writeRegister i ((system.hardware.register i).setEnabled on)] }

theorem Logged.refl (system : TrapSystem) : system.Logged system := ⟨[], by simp⟩

theorem program_dispatcher (system : TrapSystem) (i : Fin 4) (register : TrapRegister)
    (entry : TrapEntry) :
    (system.program i register entry).dispatcher = system.dispatcher.setEntry i entry := rfl

theorem released_dispatcher (system : TrapSystem) (base length : UInt16) :
    (system.released base length).dispatcher = system.dispatcher := rfl

theorem program_hardware (system : TrapSystem) (i : Fin 4) (register : TrapRegister)
    (entry : TrapEntry) :
    (system.program i register entry).hardware = system.hardware.setRegister i register := rfl

theorem released_hardware (system : TrapSystem) (base length : UInt16) :
    (system.released base length).hardware = system.hardware := rfl

theorem setEnabled_switches (handle : TrapHandle) (on : Bool) (system : TrapSystem) :
    Switches handle on system (setEnabled handle on system).1
      (setEnabled handle on system).2 := by
  simp only [setEnabled, bind_apply, get_apply]
  cases hc : system.dispatcher.controlRegister? handle with
  | none => exact .fixed hc
  | some i =>
    simp only [bind_apply, liftM_apply, readRegister_apply, beq_iff_eq]
    split
    next he => exact .already hc he (Logged.line _ _)
    next he => exact .switched hc he

theorem dropRecord_drops (handle : TrapHandle) (extended : Bool) (system : TrapSystem) :
    Drops handle extended system (dropRecord handle extended system).1
      (dropRecord handle extended system).2 := by
  simp only [dropRecord, bind_apply, get_apply]
  split
  next hl => exact .locked hl (Logged.line system _)
  next hl =>
    have hl := Bool.eq_false_iff.mpr hl
    split
    next hs => exact .foreign hl (by simpa using hs)
    next hs =>
      have hs : handle.hasSignature = true := by simpa using hs
      cases hf : system.dispatcher.findRecord? handle with
      | none => exact .unknown hl hs hf
      | some found =>
        obtain ⟨i, place⟩ := found
        obtain ⟨record, hr, _⟩ := TrapDispatcher.findRecord?_eq_some hf
        simp only [hr, Option.any_some, bne_iff_ne]
        split
        next hx => exact .mismatched hl hs hf hr hx
        next hx =>
          have finds : system.dispatcher.Finds handle extended i place record :=
            ⟨hl, hs, hf, hr, Decidable.not_not.mp hx⟩
          simp only [bind_apply, liftM_apply, modifyDispatcher_apply, log_apply]
          split
          next he =>
            have he := List.isEmpty_iff.mp he
            simp only [bind_apply, liftM_apply, modifyDispatcher_apply, writeRegister_apply,
              TrapDispatcher.setEntry_setEntry]
            split
            next ho =>
              have ho : (system.dispatcher.entry i).isCallerOwned = false := by simpa using ho
              simp only [bind_apply, liftM_apply, free_apply]
              cases system.releases.headD (.ok ()) with
              | error reason =>
                exact .window finds he ho (Logged.line system _) (Logged.line _ _)
              | ok _ => exact .window finds he ho (Logged.line system _) (Logged.refl _)
            next ho => exact .dedicated finds he (by simpa using ho) (Logged.line _ _)
          next he => exact .shared finds (by simpa using he) (Logged.line _ _)

theorem setEnabled_of_fixed {system : TrapSystem} {handle : TrapHandle}
    (h : system.dispatcher.controlRegister? handle = none) (on : Bool) :
    setEnabled handle on system = (.error (.refused .invalidParameter), system) := by
  simp only [setEnabled, bind_apply, get_apply, h]
  rfl

theorem setEnabled_of_unknown {system : TrapSystem} {handle : TrapHandle}
    (unknown : system.dispatcher.findRecord? handle = none) (on : Bool) :
    setEnabled handle on system = (.error (.refused .invalidParameter), system) := by
  refine setEnabled_of_fixed ?_ on
  rw [TrapDispatcher.controlRegister?, unknown]

/-- The handle of no registration in force is refused, and nothing is done. -/
theorem dropRecord_of_unknown {system : TrapSystem} {handle : TrapHandle}
    (unlocked : system.dispatcher.isLocked = false)
    (unknown : system.dispatcher.findRecord? handle = none) (extended : Bool) :
    dropRecord handle extended system = (.error (.refused .invalidParameter), system) := by
  have drops := dropRecord_drops handle extended system
  rcases dropped : dropRecord handle extended system with ⟨result, after⟩
  rw [dropped] at drops
  cases drops with
  | locked locked _ => exact absurd (locked.symm.trans unlocked) (by simp)
  | foreign | unknown => rfl
  | mismatched _ _ found => exact absurd (found.symm.trans unknown) (by simp)
  | shared finds | dedicated finds | window finds =>
    exact absurd (finds.found.symm.trans unknown) (by simp)

/-- An unregistration that finds its registration succeeds. -/
theorem Drops.result_eq {handle : TrapHandle} {extended : Bool} {before after : TrapSystem}
    {result : Except Fault Unit} (h : Drops handle extended before result after) {i : Fin 4}
    {place : Nat} {record : TrapRecord}
    (finds : before.dispatcher.Finds handle extended i place record) : result = .ok () := by
  cases h with
  | locked locked _ => exact absurd (locked.symm.trans finds.unlocked) (by simp)
  | foreign _ foreign => exact absurd (foreign.symm.trans finds.signed) (by simp)
  | unknown _ _ none => exact absurd (finds.found.symm.trans none) (by simp)
  | mismatched _ _ found placed other =>
    obtain ⟨rfl, rfl⟩ := Prod.mk.inj (Option.some.inj (finds.found.symm.trans found))
    cases Option.some.inj (finds.placed.symm.trans placed)
    exact absurd finds.interface other
  | shared | dedicated | window => rfl

end TrapSystem

end PlatformFirmware
