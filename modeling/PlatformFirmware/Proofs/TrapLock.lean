import PlatformFirmware.Proofs.TrapDelivery
import PlatformFirmware.Proofs.TrapProgrammed
import PlatformFirmware.Proofs.TrapRefusal

namespace PlatformFirmware

open TrapSystem

/-- A call is answered that it is denied, and leaves nothing behind but lines of log. -/
def TrapSystem.Denies {α : Type} (system : TrapSystem) (call : TrapM α) : Prop :=
  ∃ after, call system = (.error (.refused .accessDenied), after) ∧ system.Logged after

/-- The registers are as they were, apart from being enabled or not. -/
def TrapHardware.SwitchedOnly (before after : TrapHardware) : Prop :=
  ∀ i : Fin 4, (after.register i).setEnabled false = (before.register i).setEnabled false

theorem TrapHardware.switchedOnly_of_eq {before after : TrapHardware}
    (h : after.registers = before.registers) : before.SwitchedOnly after := by
  intro i
  rw [register_congr h]

theorem TrapHardware.SwitchedOnly.trans {first second third : TrapHardware}
    (h : first.SwitchedOnly second) (h' : second.SwitchedOnly third) : first.SwitchedOnly third :=
  fun i => (h' i).trans (h i)

theorem TrapHardware.switchedOnly_setEnabled (hardware : TrapHardware) (i : Fin 4) (on : Bool) :
    hardware.SwitchedOnly (hardware.setRegister i ((hardware.register i).setEnabled on)) := by
  intro j
  by_cases h : j = i
  · subst h
    rw [setRegister_self, TrapRegister.setEnabled_setEnabled]
  · rw [setRegister_other h]

namespace TrapSystem

variable {system : TrapSystem}

theorem Registers.denied {callback : TrapCallback} {request : TrapRequest} {after : TrapSystem}
    {result : Except Fault (TrapHandle × UInt16)}
    (h : Registers callback request system result after)
    (locked : system.dispatcher.isLocked = true) :
    result = .error (.refused .accessDenied) ∧ system.Logged after := by
  cases h with
  | locked _ logged => exact ⟨rfl, logged⟩
  | noRange unlocked | unclaimed unlocked | unkept unlocked | kept unlocked =>
    exact absurd (locked.symm.trans unlocked) (by simp)

theorem Drops.denied {handle : TrapHandle} {extended : Bool} {after : TrapSystem}
    {result : Except Fault Unit} (h : Drops handle extended system result after)
    (locked : system.dispatcher.isLocked = true) :
    result = .error (.refused .accessDenied) ∧ system.Logged after := by
  cases h with
  | locked _ logged => exact ⟨rfl, logged⟩
  | foreign unlocked | unknown unlocked | mismatched unlocked =>
    exact absurd (locked.symm.trans unlocked) (by simp)
  | shared finds | dedicated finds | window finds =>
    exact absurd (locked.symm.trans finds.unlocked) (by simp)

theorem addRecord_denied (locked : system.dispatcher.isLocked = true) (callback : TrapCallback)
    (request : TrapRequest) : system.Denies (addRecord callback request) := by
  obtain ⟨result, logged⟩ := (addRecord_registers callback request system).denied locked
  exact ⟨_, Prod.ext result rfl, logged⟩

theorem registerExtended_denied (locked : system.dispatcher.isLocked = true) (client : Nat)
    (request : TrapRequest) : system.Denies (registerExtended client request) := by
  obtain ⟨after, denied, logged⟩ := addRecord_denied locked (.extended client) request
  refine ⟨after, ?_, logged⟩
  simp only [registerExtended, bind_apply, denied]

theorem dropRecord_denied (locked : system.dispatcher.isLocked = true) (handle : TrapHandle)
    (extended : Bool) : system.Denies (dropRecord handle extended) := by
  obtain ⟨result, logged⟩ := (dropRecord_drops handle extended system).denied locked
  exact ⟨_, Prod.ext result rfl, logged⟩

theorem Switches.not_halted {handle : TrapHandle} {on : Bool} {after : TrapSystem}
    {result : Except Fault Unit} (h : Switches handle on system result after) (cause : HaltCause) :
    result ≠ .error (.halted cause) := by
  cases h <;> simp

end TrapSystem

namespace TrapSession

theorem make_locked {session : TrapSession} (locked : session.system.dispatcher.isLocked = true)
    (self : Option Nat) (step : TrapStep) :
    (session.make self step).2.system.dispatcher = session.system.dispatcher ∧
      ∀ cause, (session.make self step).1 ≠ .halted cause := by
  have makes := make_makes session self step
  generalize (session.make self step).1 = outcome at makes
  generalize (session.make self step).2 = after at makes ⊢
  cases makes with
  | registers _ registers =>
    obtain ⟨rfl, logged⟩ := registers.denied locked
    exact ⟨logged.dispatcher, fun cause h => by cases h⟩
  | missing => exact ⟨rfl, by simp⟩
  | drops _ _ drops =>
    obtain ⟨rfl, logged⟩ := drops.denied locked
    exact ⟨logged.dispatcher, fun cause h => by cases h⟩
  | @switches _ _ _ _ result _ _ _ switches =>
    refine ⟨switches.dispatcher_eq, fun cause h => ?_⟩
    match result with
    | .ok () => cases h
    | .error (.refused _) => cases h
    | .error (.halted other) => exact switches.not_halted other rfl
  | locks =>
    refine ⟨?_, by simp⟩
    change { session.system.dispatcher with isLocked := true } = session.system.dispatcher
    rw [← locked]
  | latches | sets => exact ⟨rfl, by simp⟩
  | begins => exact ⟨(beginDispatch_notes session.system).dispatcher, by simp⟩

/-- Once the session is locked, only pausing and resuming change what is trapped. -/
theorem make_locked_registers {session : TrapSession}
    (locked : session.system.dispatcher.isLocked = true) {self : Option Nat} {step : TrapStep}
    (keeps : (TrapMove.make session self step).KeepsRegisters) :
    (session.make self step).2.system.hardware.registers = session.system.hardware.registers ∨
      step.switch?.isSome = true ∧
        session.system.hardware.SwitchedOnly (session.make self step).2.system.hardware := by
  have makes := make_makes session self step
  generalize (session.make self step).1 = outcome at makes
  generalize (session.make self step).2 = after at makes ⊢
  cases makes with
  | registers _ registers =>
    obtain ⟨_, logged⟩ := registers.denied locked
    exact .inl (congrArg _ logged.hardware)
  | drops _ _ drops =>
    obtain ⟨_, logged⟩ := drops.denied locked
    exact .inl (congrArg _ logged.hardware)
  | switches hr _ switches =>
    cases switches with
    | fixed => exact .inl rfl
    | already _ _ logged => exact .inl (congrArg _ logged.hardware)
    | switched => exact .inr ⟨by rw [hr]; rfl, TrapHardware.switchedOnly_setEnabled _ _ _⟩
  | missing | locks | latches => exact .inl rfl
  | sets => exact keeps.elim
  | begins => exact .inl (congrArg _ (beginDispatch_notes session.system).hardware)

end TrapSession

theorem TrapTurn.steady_locked :
    Steady fun turn => turn.session.system.dispatcher.isLocked = true where
  next {turn} locked := by
    refine TrapTurn.next_holds
      (P := fun _ session => session.system.dispatcher.isLocked = true) ?_ ?_ ?_ ?_ ?_
    · intro self step _
      rw [(turn.session.make_locked locked self step).1]
      exact locked
    · exact fun _ _ => locked
    · exact locked
    · exact fun _ => locked
    · exact fun _ locked => locked
  make locked _ :=
    have kept := TrapSession.make_locked locked _ _
    ⟨kept.2, congrArg _ kept.1⟩

/-- The dispatcher is as it was at each lock of the past, and the registers are only switched. -/
def TrapSession.Frozen (history : List TrapMove) (session : TrapSession) : Prop :=
  ∀ past before self future, history = past ++ .make before self .lock :: future →
    session.system.dispatcher = { before.system.dispatcher with isLocked := true } ∧
      ((∀ move ∈ future, move.KeepsRegisters) →
        before.system.hardware.SwitchedOnly session.system.hardware)

namespace TrapSession

theorem Frozen.make {history : List TrapMove} {session : TrapSession}
    (frozen : session.Frozen history) (self : Option Nat) (step : TrapStep) :
    (session.make self step).2.Frozen (history ++ [.make session self step]) := by
  intro past before self' future h
  -- The step is the lock itself, or is made on a session that has been locked.
  rcases last_or_earlier h with ⟨_, last, _⟩ | ⟨rest, he, rfl⟩
  · cases last
    exact ⟨rfl, fun _ => TrapHardware.switchedOnly_of_eq rfl⟩
  · obtain ⟨dispatcher, switched⟩ := frozen past before self' rest he
    have locked : session.system.dispatcher.isLocked = true := by rw [dispatcher]
    refine ⟨(session.make_locked locked self step).1.trans dispatcher, fun keeps => ?_⟩
    have earlier := switched fun move hm => keeps move (List.mem_append_left _ hm)
    have kept := keeps _ (List.mem_append_right rest (List.mem_singleton_self _))
    rcases session.make_locked_registers locked kept with same | ⟨_, last⟩
    · exact earlier.trans (TrapHardware.switchedOnly_of_eq same)
    · exact earlier.trans last

theorem Frozen.same {history : List TrapMove} {before after : TrapSession}
    (frozen : before.Frozen history) (same : before.SameTraps after) : after.Frozen history := by
  intro past first self future h
  obtain ⟨dispatcher, switched⟩ := frozen past first self future h
  exact ⟨same.dispatcher.trans dispatcher, fun keeps =>
    (switched keeps).trans (TrapHardware.switchedOnly_of_eq same.registers)⟩

theorem Frozen.call {history : List TrapMove} {session : TrapSession}
    (frozen : session.Frozen history) (record : TrapRecord) (writeData : UInt32) :
    session.Frozen (history ++ [.call session record writeData]) := by
  intro past before self future h
  rcases last_or_earlier h with ⟨_, last, _⟩ | ⟨rest, he, rfl⟩
  · cases last
  · obtain ⟨dispatcher, switched⟩ := frozen past before self rest he
    exact ⟨dispatcher, fun keeps => switched fun move hm => keeps move (List.mem_append_left _ hm)⟩

end TrapSession

theorem TrapReach.frozen {history : List TrapMove} {turn : TrapTurn}
    (reach : TrapReach history turn) : turn.session.Frozen history := by
  refine TrapReach.holds (P := fun history session => session.Frozen history) ?_ ?_ ?_ ?_ reach
  · intro allocations releases past before self future h
    simp at h
  · exact fun self step frozen => frozen.make self step
  · exact fun record writeData same _ frozen => (frozen.call record writeData).same same
  · exact fun same _ frozen => frozen.same same

/-- From a lock on, registrations are denied and the dispatcher stays as it was. The registers are
only switched, by pausing and resuming, and dispatches call whom they would have called before. -/
theorem TrapReach.locked_for_good {history : List TrapMove} {turn : TrapTurn}
    (reach : TrapReach history turn) {past future : List TrapMove} {before : TrapSession}
    {self : Option Nat} (h : history = past ++ .make before self .lock :: future) :
    turn.session.system.dispatcher = { before.system.dispatcher with isLocked := true } ∧
    ((∀ client address length direction,
        turn.session.system.Denies (register client address length direction)) ∧
      (∀ client request, turn.session.system.Denies (registerExtended client request)) ∧
      (∀ handle, turn.session.system.Denies (unregister handle)) ∧
      ∀ handle, turn.session.system.Denies (unregisterExtended handle)) ∧
    ((∀ move ∈ future, move.KeepsRegisters) →
      before.system.hardware.SwitchedOnly turn.session.system.hardware) ∧
    (∀ middle session self step later, future = middle ++ .make session self step :: later →
      (TrapMove.make session self step).KeepsRegisters →
      (session.make self step).2.system.hardware.registers ≠ session.system.hardware.registers →
      step.switch?.isSome = true) ∧
    (∀ inner frame outer, turn.frames = inner ++ frame :: outer →
      turn.deliveries outer.length = frame.awaits before.system.dispatcher) ∧
    ∀ hardware allocations releases,
      (turn.session.among hardware allocations releases).deliveries =
        (before.silenced.among hardware allocations releases).deliveries := by
  obtain ⟨dispatcher, switched⟩ := reach.frozen past before self future h
  have locked : turn.session.system.dispatcher.isLocked = true := by rw [dispatcher]
  have entries : turn.session.system.dispatcher.entries = before.system.dispatcher.entries := by
    rw [dispatcher]
  refine ⟨dispatcher, ⟨fun _ _ _ _ => addRecord_denied locked _ _,
    registerExtended_denied locked, fun handle => dropRecord_denied locked handle false,
    fun handle => dropRecord_denied locked handle true⟩, switched, ?_, ?_, ?_⟩
  · intro middle session self' step later he keeps changed
    have h' : history = (past ++ .make before self .lock :: middle) ++
        .make session self' step :: later := by simp [h, he]
    obtain ⟨earlier, reached, rfl⟩ :
        ∃ earlier, TrapReach _ earlier ∧ earlier.session = session := reach.before h'
    have locked : earlier.session.system.dispatcher.isLocked = true := by
      rw [(reached.frozen past before self middle rfl).1]
    exact ((earlier.session.make_locked_registers locked keeps).resolve_left changed).1
  · intro inner frame outer frames
    rw [TrapTurn.steady_locked.deliveries_eq locked, frames, awaited_append]
    exact frame.awaits_congr entries
  · intro hardware allocations releases
    let later := turn.session.among hardware allocations releases
    have kept : later.system.dispatcher.isLocked = true := locked
    have began : (TrapTurn.perform later none [] .dispatch).session.system.dispatcher.isLocked =
        true := by
      refine TrapTurn.perform_holds (P := fun session => session.system.dispatcher.isLocked = true)
        (fun _ locked => locked) [] ?_
      rw [(later.make_locked kept none .dispatch).1]
      exact kept
    have silent : (before.silenced.among hardware allocations releases).Silent :=
      before.silent_silenced
    rw [TrapTurn.steady_locked.session_deliveries began,
      TrapTurn.steady_silent.session_deliveries (TrapTurn.Silent.dispatch silent)]
    dsimp only [later, TrapSession.among, TrapSession.silenced]
    cases trapped? hardware with
    | none => rfl
    | some access => exact DispatchFrame.awaits_congr entries _

theorem TrapReach.locked_for_good_paused :
    let start := TrapSession.start [] []
    let alone := (start.make none (.register 0x60 4 .write [])).2
    let locked := (alone.make none .lock).2
    let paused := (locked.make none (.pause (.registration 0))).2
    (alone.system.hardware.register 0).isEnabled = true ∧
      (paused.system.hardware.register 0).isEnabled = false ∧
      alone.system.hardware.SwitchedOnly paused.system.hardware ∧
      paused.system.dispatcher = { alone.system.dispatcher with isLocked := true } := by
  intro start alone locked paused
  have first := (TrapReach.start [] []).made (.register 0x60 4 .write []) (by simp)
  have second : TrapReach _ (.finished locked _) := first.made .lock (by simp)
  have reach : TrapReach _ (.finished paused _) :=
    second.made (.pause (.registration 0)) (by simp)
  obtain ⟨dispatcher, _, switched, _⟩ := reach.locked_for_good
    (show _ = [TrapMove.make start none (.register 0x60 4 .write [])] ++
      .make alone none .lock :: [.make locked none (.pause (.registration 0))] from rfl)
  have keeps : ∀ move ∈ [TrapMove.make locked none (.pause (.registration 0))],
      move.KeepsRegisters := by
    intro move hm
    obtain rfl := List.mem_singleton.mp hm
    trivial
  exact ⟨by decide +kernel, by decide +kernel, switched keeps, dispatcher⟩

end PlatformFirmware
