import Mathlib.Data.List.Induction
import PlatformFirmware.Proofs.TrapOrigin
import PlatformFirmware.Proofs.TrapShadow

namespace PlatformFirmware

open TrapSystem

namespace TrapRegister

/-- The register with bit 0 the other way. -/
def flipped (register : TrapRegister) : TrapRegister := ⟨register.word ^^^ 1⟩

theorem flipped_flipped (register : TrapRegister) : register.flipped.flipped = register := by
  rw [flipped, flipped, BitVec.xor_assoc, BitVec.xor_self, BitVec.xor_zero]

theorem isEnabled_eq (register : TrapRegister) :
    register.isEnabled = register.word.getLsbD 0 := by
  have bit : (register.get .enable).getLsbD 0 = register.word.getLsbD 0 :=
    BitField.getLsbD_get Field.enable.span register.word 0
  rw [isEnabled, ← bit]
  rcases BitVec.eq_zero_or_eq_one (register.get .enable) with h | h <;> rw [h] <;> rfl

theorem setEnabled_of_ne {register : TrapRegister} {on : Bool} (h : register.isEnabled ≠ on) :
    register.setEnabled on = register.flipped := by
  rw [isEnabled_eq] at h
  refine congrArg TrapRegister.mk (BitVec.eq_of_getLsbD_eq fun k hk => ?_)
  rw [BitField.getLsbD_put, BitVec.getLsbD_xor]
  cases k with
  | zero =>
    rw [if_pos (by decide)]
    revert h
    cases register.word.getLsbD 0 <;> cases on <;> decide
  | succ k => simp

end TrapRegister

namespace TrapHardware

theorem setRegister_setRegister (hardware : TrapHardware) (i : Fin 4)
    (first second : TrapRegister) :
    (hardware.setRegister i first).setRegister i second = hardware.setRegister i second := by
  simp [setRegister]

theorem setRegister_register (hardware : TrapHardware) (i : Fin 4) :
    hardware.setRegister i (hardware.register i) = hardware := by
  simp [setRegister, register]

end TrapHardware

namespace TrapSystem

/-- A call switches a register, and is denied when the register is already as it asks. -/
structure Toggles (system : TrapSystem) (i : Fin 4) (on : Bool) (call : TrapM Unit) : Prop where
  denied : (system.hardware.register i).isEnabled = on →
    (call system).1 = .error (.refused .accessDenied) ∧
      (call system).2.dispatcher = system.dispatcher ∧ (call system).2.hardware = system.hardware
  switched : (system.hardware.register i).isEnabled ≠ on →
    (call system).1 = .ok () ∧ (call system).2.dispatcher = system.dispatcher ∧
      (call system).2.hardware =
        system.hardware.setRegister i (system.hardware.register i).flipped

variable {system : TrapSystem} {handle : TrapHandle} {i : Fin 4}

theorem setEnabled_toggles (control : system.dispatcher.controlRegister? handle = some i)
    (on : Bool) : system.Toggles i on (setEnabled handle on) := by
  have switches := setEnabled_switches handle on system
  generalize he : setEnabled handle on system = answer at switches
  obtain ⟨result, after⟩ := answer
  cases switches with
  | fixed none => exact absurd (control.symm.trans none) (by simp)
  | already found same logged =>
    obtain rfl := Option.some.inj (control.symm.trans found)
    refine ⟨fun _ => ?_, fun other => absurd same other⟩
    rw [he]
    exact ⟨rfl, logged.dispatcher, logged.hardware⟩
  | switched found other =>
    obtain rfl := Option.some.inj (control.symm.trans found)
    refine ⟨fun same => absurd same other, fun _ => ?_⟩
    rw [he]
    exact ⟨rfl, rfl, by rw [TrapRegister.setEnabled_of_ne other]⟩

/-- A pause that succeeded is undone by a resume, register for register. -/
theorem resume_pause (paused : (pause handle system).1 = .ok ()) :
    (resume handle (pause handle system).2).1 = .ok () ∧
      (resume handle (pause handle system).2).2.dispatcher = system.dispatcher ∧
      (resume handle (pause handle system).2).2.hardware = system.hardware := by
  cases control : system.dispatcher.controlRegister? handle with
  | none =>
    rw [pause, setEnabled_of_fixed control] at paused
    cases paused
  | some i =>
    have first : system.Toggles i false (pause handle) := setEnabled_toggles control false
    by_cases enabled : (system.hardware.register i).isEnabled = false
    · rw [(first.denied enabled).1] at paused
      cases paused
    · obtain ⟨_, dispatcher, hardware⟩ := first.switched enabled
      have second : (pause handle system).2.Toggles i true (resume handle) :=
        setEnabled_toggles (by rw [dispatcher, control]) true
      have off : ((pause handle system).2.hardware.register i).isEnabled ≠ true := by
        rw [hardware, TrapHardware.setRegister_self, ← TrapRegister.setEnabled_of_ne enabled,
          TrapRegister.isEnabled_setEnabled]
        decide
      obtain ⟨done, dispatcher', hardware'⟩ := second.switched off
      refine ⟨done, dispatcher'.trans dispatcher, ?_⟩
      rw [hardware', hardware, TrapHardware.setRegister_self, TrapRegister.flipped_flipped,
        TrapHardware.setRegister_setRegister, TrapHardware.setRegister_register]

end TrapSystem

/-- Pauses at the even places and resumes at the odd ones. -/
def alternatingSwitches (count : Nat) : List Bool :=
  (List.range count).map fun place => place % 2 == 1

theorem alternatingSwitches_succ (count : Nat) :
    alternatingSwitches (count + 1) = alternatingSwitches count ++ [count % 2 == 1] := by
  simp [alternatingSwitches, List.range_succ]

theorem alternatingSwitches_getLast? (count : Nat) :
    ((alternatingSwitches count).getLast? == some false) = (count % 2 == 1) := by
  cases count with
  | zero => rfl
  | succ count =>
    rw [alternatingSwitches_succ, List.getLast?_concat]
    rcases Nat.mod_two_eq_zero_or_one count with even | odd
    · have next : (count + 1) % 2 = 1 := by omega
      simp [even, next]
    · have next : (count + 1) % 2 = 0 := by omega
      simp [odd, next]

/-- A record that is resumed only after a pause, and paused only before one, alternates. -/
theorem TrapRecord.alternates {record : TrapRecord} {history : List TrapMove}
    (turns : ∀ past move future, history = past ++ move :: future →
      ∀ on, record.switchedBy? move = some on → on = record.isPausedAfter past) :
    ∃ count, history.filterMap record.switchedBy? = alternatingSwitches count := by
  induction history using List.reverseRecOn with
  | nil => exact ⟨0, rfl⟩
  | append_singleton past move ih =>
    obtain ⟨count, before⟩ := ih fun front made back split =>
      turns front made (back ++ [move]) (by simp [split])
    cases switched : record.switchedBy? move with
    | none => exact ⟨count, by simp [before, switched]⟩
    | some on =>
      have turned : on = (count % 2 == 1) := by
        rw [turns past move [] rfl on switched, isPausedAfter, before,
          alternatingSwitches_getLast?]
      refine ⟨count + 1, ?_⟩
      rw [alternatingSwitches_succ, ← turned, ← before]
      simp [switched]

namespace TrapSession

variable {session : TrapSession} {self : Option Nat} {step : TrapStep} {record : TrapRecord}
  {on : Bool}

/-- A registration is switched when its register is not yet as the step asks. -/
theorem switched?_eq_some
    (h : (TrapMove.make session self step).switched? = some (record, on)) :
    ∃ i, (session.system.dispatcher.entry i).isDedicated = true ∧
      record ∈ (session.system.dispatcher.entry i).records ∧
      (session.system.hardware.register i).isEnabled ≠ on := by
  simp only [TrapMove.switched?, Option.ite_none_right_eq_some, Option.bind_eq_some_iff,
    Option.map_eq_some_iff, TrapSession.record?] at h
  obtain ⟨done, ⟨target, asked⟩, switch, found, ⟨handle, named, known⟩, pair⟩ := h
  obtain ⟨rfl, rfl⟩ := Prod.mk.inj pair
  rw [make_switch switch named] at done
  cases control : session.system.dispatcher.controlRegister? handle with
  | none =>
    rw [setEnabled_of_fixed control] at done
    cases done
  | some i =>
    obtain ⟨alone, kept, mem, found⟩ := controlRegister?_eq_some control
    obtain rfl := Option.some.inj (found.symm.trans known)
    refine ⟨i, alone, mem, fun same => ?_⟩
    rw [((setEnabled_toggles control asked).denied same).1] at done
    cases done

/-- On a register of its own, a registration is enabled unless it was paused last. -/
theorem Shadowed.isEnabled_eq {history : List TrapMove} (shadowed : session.Shadowed history)
    {i : Fin 4} (alone : (session.system.dispatcher.entry i).isDedicated = true)
    (kept : record ∈ (session.system.dispatcher.entry i).records) :
    (session.system.hardware.register i).isEnabled = !record.isPausedAfter history := by
  rw [(shadowed.programmed i).dedicated alone record kept, TrapRegister.isEnabled_setEnabled]

theorem Shadowed.turns {history : List TrapMove} (shadowed : session.Shadowed history)
    (h : record.switchedBy? (.make session self step) = some on) :
    on = record.isPausedAfter history := by
  simp only [TrapRecord.switchedBy?, Option.bind_eq_some_iff, Option.ite_none_right_eq_some,
    Option.some.injEq] at h
  obtain ⟨⟨_, _⟩, switched, rfl, rfl⟩ := h
  obtain ⟨i, alone, kept, other⟩ := switched?_eq_some switched
  rw [shadowed.isEnabled_eq alone kept] at other
  exact (Bool.eq_not_of_ne (Ne.symm other)).trans (Bool.not_not _)

end TrapSession

/-- The control register of a handle is that of a registration that asked for an address. -/
theorem TrapReach.controlRegister?_eq_none {history : List TrapMove} {turn : TrapTurn}
    (reach : TrapReach history turn) (granted : ∀ move ∈ history, move.GrantsApart)
    {handle : TrapHandle} (unasked : ¬∃ callback request,
      turn.session.InForce history handle callback request ∧ request.address ≠ 0) :
    turn.session.system.dispatcher.controlRegister? handle = none := by
  refine TrapDispatcher.controlRegister?_eq_none fun i record kept named => ?_
  obtain ⟨move, made, request, begins, alone⟩ := reach.houses granted i record kept
  refine Bool.eq_false_iff.mpr fun dedicated => unasked ⟨record.callback, request, ⟨?_, ?_⟩, ?_⟩
  · exact ⟨record, TrapDispatcher.mem_liveRecords.mpr ⟨i, kept⟩, named⟩
  · exact ⟨move, made, named ▸ begins.registered⟩
  · exact alone.mp dedicated

theorem TrapReach.controlRegister?_eq_some {history : List TrapMove} {turn : TrapTurn}
    (reach : TrapReach history turn) (granted : ∀ move ∈ history, move.GrantsApart)
    (few : (givenHandles history).length ≤ 2 ^ 32) {handle : TrapHandle}
    {callback : TrapCallback} {request : TrapRequest}
    (force : turn.session.InForce history handle callback request)
    (nonzero : request.address ≠ 0) :
    ∃ i record, (turn.session.system.dispatcher.entry i).records = [record] ∧
      record.handle = handle ∧
      turn.session.system.dispatcher.controlRegister? handle = some i := by
  obtain ⟨record, live, rfl⟩ := force.live
  obtain ⟨move, made, known⟩ := force.made
  obtain ⟨i, place, found, placed⟩ := TrapDispatcher.findRecord?_of_live live fun other live' =>
    reach.enrolled.live_unique few live' live
  have kept := List.mem_of_getElem? placed
  obtain ⟨move', made', request', begins, alone⟩ := reach.houses granted i record kept
  obtain ⟨_, rfl⟩ := reach.enrolled.registered_unique few made' made begins.registered known
  have dedicated := alone.mpr nonzero
  obtain ⟨owner, serves⟩ := ((reach.tidy granted).entries i).dedicated dedicated
  have same : owner = record := by
    rw [serves.alone] at kept
    exact (List.mem_singleton.mp kept).symm
  refine ⟨i, record, same ▸ serves.alone, rfl, ?_⟩
  simp [TrapDispatcher.controlRegister?, found, dedicated, serves.base_ne]

theorem TrapReach.switches_alternate {history : List TrapMove} {turn : TrapTurn}
    (reach : TrapReach history turn)
    (allowed : ∀ move ∈ history, move.GrantsApart ∧ move.KeepsRegisters) (record : TrapRecord) :
    ∃ count, history.filterMap record.switchedBy? = alternatingSwitches count := by
  refine TrapRecord.alternates fun past move future split on switched => ?_
  cases move with
  | make session self step =>
    obtain ⟨earlier, before, rfl⟩ :
        ∃ earlier, TrapReach past earlier ∧ earlier.session = session := reach.before split
    have shadowed := before.shadowed fun made hm => allowed made (by simp [split, hm])
    exact shadowed.turns switched
  | call => cases switched

/-- Pauses and resumes are for the registrations that asked for an address, also when the
dispatcher is locked. They flip bit 0 of the register of the one registration, by turns. -/
theorem TrapReach.pause_and_resume {history : List TrapMove} {turn : TrapTurn}
    (reach : TrapReach history turn)
    (allowed : ∀ move ∈ history, move.GrantsApart ∧ move.KeepsRegisters)
    (few : (givenHandles history).length ≤ 2 ^ 32) :
    let session := turn.session
    let system := session.system
    (∀ handle, (¬∃ callback request,
        session.InForce history handle callback request ∧ request.address ≠ 0) →
      pause handle system = (.error (.refused .invalidParameter), system) ∧
      resume handle system = (.error (.refused .invalidParameter), system)) ∧
    (∀ handle callback request, session.InForce history handle callback request →
      request.address ≠ 0 → ∃ i record, (system.dispatcher.entry i).records = [record] ∧
        record.handle = handle ∧ system.Toggles i false (pause handle) ∧
        system.Toggles i true (resume handle)) ∧
    (∀ handle, (pause handle system).1 = .ok () →
      let paused := (pause handle system).2
      (resume handle paused).1 = .ok () ∧
      (resume handle paused).2.dispatcher = system.dispatcher ∧
      (resume handle paused).2.hardware = system.hardware) ∧
    ∀ record : TrapRecord, ∃ count,
      history.filterMap record.switchedBy? = alternatingSwitches count := by
  have granted : ∀ move ∈ history, move.GrantsApart := fun move hm => (allowed move hm).1
  refine ⟨fun handle unasked => ?_, fun handle callback request force nonzero => ?_,
    fun handle => resume_pause, reach.switches_alternate allowed⟩
  · have control := reach.controlRegister?_eq_none granted unasked
    exact ⟨setEnabled_of_fixed control false, setEnabled_of_fixed control true⟩
  · obtain ⟨i, record, alone, named, control⟩ :=
      reach.controlRegister?_eq_some granted few force nonzero
    exact ⟨i, record, alone, named, setEnabled_toggles control false,
      setEnabled_toggles control true⟩

theorem TrapReach.pause_and_resume_locked :
    let start := TrapSession.start [.ok 0x1800] []
    let shared := (start.make none (.register 0 8 .readWrite [])).2
    let alone := (shared.make none (.register 0x60 4 .write [])).2
    let locked := (alone.make none .lock).2
    (pause (.ofSerial 1) locked.system).1 = .error (.refused .invalidParameter) ∧
      (pause (.ofSerial 2) locked.system).1 = .ok () ∧
      (pause (.ofSerial 2) locked.system).2.hardware =
        locked.system.hardware.setRegister 1 (locked.system.hardware.register 1).flipped ∧
      (resume (.ofSerial 2) (pause (.ofSerial 2) locked.system).2).2.hardware =
        locked.system.hardware := by
  intro start shared alone locked
  have first := (TrapReach.start [.ok 0x1800] []).made (.register 0 8 .readWrite []) (by simp)
  have second : TrapReach _ (.finished alone _) :=
    first.made (.register 0x60 4 .write []) (by simp)
  let history := [TrapMove.make start none (.register 0 8 .readWrite []),
    .make shared none (.register 0x60 4 .write []), .make alone none .lock]
  have reach : TrapReach history (.finished locked _) := second.made .lock (by simp)
  have allowed : ∀ move ∈ history, move.GrantsApart ∧ move.KeepsRegisters := by
    intro move hm
    simp only [history, List.mem_cons, List.not_mem_nil, or_false] at hm
    rcases hm with rfl | rfl | rfl
    · refine ⟨fun base h => ?_, trivial⟩
      cases h
      decide
    · refine ⟨fun base h => ?_, trivial⟩
      cases h
    · exact ⟨TrapMove.grantsApart_of_not_registration rfl, trivial⟩
  have few : (givenHandles history).length ≤ 2 ^ 32 := by decide +kernel
  obtain ⟨fixed, own, again, _⟩ := reach.pause_and_resume allowed few
  have unasked : ∀ move ∈ history, ∀ made ∈ move.registered?, made.1 = .ofSerial 1 →
      made.2.2.address = 0 := by decide +kernel
  have refused := fixed (.ofSerial 1) (by
    rintro ⟨callback, request, force, nonzero⟩
    obtain ⟨move, made, known⟩ := force.made
    exact nonzero (unasked move made _ known rfl))
  have live : (⟨.ofSerial 2, ⟨0x60, 4, .write, 0, 0xF⟩, 4, .plain 1⟩ : TrapRecord) ∈
      locked.system.dispatcher.liveRecords := by decide +kernel
  have known : (TrapMove.make shared none (.register 0x60 4 .write [])).registered? =
      some (.ofSerial 2, .plain 1, ⟨0x60, 4, .write, 0, 0xF⟩) := by decide +kernel
  obtain ⟨i, record, kept, named, pauses, _⟩ := own (.ofSerial 2) (.plain 1)
    ⟨0x60, 4, .write, 0, 0xF⟩ ⟨⟨_, live, rfl⟩, _, by simp [history], known⟩ (by decide)
  -- The second register serves the one registration with that handle.
  have only : ∀ j : Fin 4, ∀ record ∈ (locked.system.dispatcher.entry j).records,
      record.handle = .ofSerial 2 → j = 1 := by decide +kernel
  have mem : record ∈ [record] := List.mem_singleton_self record
  obtain rfl := only i record (kept ▸ mem) named
  obtain ⟨done, _, hardware⟩ := pauses.switched (by decide +kernel)
  obtain ⟨_, _, restored⟩ := again _ done
  rw [TrapTurn.session_finished] at refused done hardware restored
  exact ⟨congrArg Prod.fst refused.1, done, hardware, restored⟩

end PlatformFirmware
