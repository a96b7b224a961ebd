import PlatformFirmware.I2cBus
import PlatformFirmware.Proofs.Effects

namespace PlatformFirmware

namespace I2cBus

/-- A bus that can be installed: its controller is there, and every device can be spoken to. -/
structure Usable (bus : I2cBus) : Prop where
  mapped : bus.controller.mmioBase ≠ 0
  clocked : bus.controller.inputClock ≠ 0
  addressed : ∀ device ∈ bus.devices, device.addresses ≠ []

/-- What a step does and how it ends: one case for each exit. -/
inductive Performs (before : I2cBus) : I2cStep → Except EfiError Unit → I2cBus → Prop
  | alreadyStarted {handle} (started : before.handle = some handle) :
      Performs before .start (.error .alreadyStarted) before
  | unusable {log} (stopped : before.handle = none) (useless : ¬before.Usable) :
      Performs before .start (.error .invalidParameter) { before with log }
  | notInstalled {reason log} (stopped : before.handle = none) (usable : before.Usable)
      (answer : before.installs.headD (.ok 0) = .error reason) :
      Performs before .start (.error reason)
        { before with
          installs := before.installs.tail
          calls := before.calls ++ [.install before.controller before.devices]
          log }
  | installed {handle log} (stopped : before.handle = none) (usable : before.Usable)
      (answer : before.installs.headD (.ok 0) = .ok handle) :
      Performs before .start (.ok ())
        { before with
          handle := some handle
          installs := before.installs.tail
          calls := before.calls ++ [.install before.controller before.devices]
          log }
  | alreadyStopped (stopped : before.handle = none) : Performs before .stop (.ok ()) before
  | notRemoved {handle reason log} (started : before.handle = some handle)
      (answer : before.uninstalls.headD (.ok ()) = .error reason) :
      Performs before .stop (.error reason)
        { before with
          uninstalls := before.uninstalls.tail
          calls := before.calls ++ [.uninstall handle]
          log }
  | removed {handle log} (started : before.handle = some handle)
      (answer : before.uninstalls.headD (.ok ()) = .ok ()) :
      Performs before .stop (.ok ())
        { before with
          handle := none
          uninstalls := before.uninstalls.tail
          calls := before.calls ++ [.uninstall handle]
          log }

variable {bus : I2cBus} {handle : Nat} {reason : EfiError}

theorem isStarted_iff : bus.isStarted = true ↔ ∃ handle, bus.handle = some handle :=
  Option.isSome_iff_exists

theorem isStarted_of_stopped (stopped : bus.handle = none) : ¬bus.isStarted = true := by
  rw [isStarted, stopped]
  exact Bool.false_ne_true

theorem handle_of_stopped (stopped : bus.isStarted = false) : bus.handle = none :=
  Option.not_isSome_iff_eq_none.mp (Bool.eq_false_iff.mp stopped)

theorem usable_iff :
    bus.Usable ↔ ¬(bus.controller.mmioBase = 0 ∨ bus.controller.inputClock = 0) ∧
      bus.devices.find? (fun device => device.addresses.isEmpty) = none := by
  rw [not_or, List.find?_eq_none]
  simp only [List.isEmpty_iff]
  exact ⟨fun h => ⟨⟨h.mapped, h.clocked⟩, h.addressed⟩, fun h => ⟨h.1.1, h.1.2, h.2⟩⟩

theorem get_state (bus : I2cBus) : (get : I2cM I2cBus) bus = (.ok bus, bus) := rfl

theorem start_started (started : bus.handle = some handle) :
    start bus = (.error .alreadyStarted, bus) := by
  unfold start
  rw [bind_state, get_state]
  dsimp only
  rw [if_pos (isStarted_iff.mpr ⟨handle, started⟩)]
  rfl

theorem start_useless (stopped : bus.handle = none) (useless : ¬bus.Usable) :
    ∃ log, start bus = (.error .invalidParameter, { bus with log }) := by
  unfold start
  rw [bind_state, get_state]
  dsimp only
  rw [if_neg (isStarted_of_stopped stopped)]
  by_cases missing : bus.controller.mmioBase = 0 ∨ bus.controller.inputClock = 0
  · rw [if_pos missing]
    exact ⟨_, rfl⟩
  · rw [if_neg missing]
    cases found : bus.devices.find? fun device => device.addresses.isEmpty with
    | none => exact absurd (usable_iff.mpr ⟨missing, found⟩) useless
    | some device => exact ⟨_, rfl⟩

theorem start_usable (stopped : bus.handle = none) (usable : bus.Usable) :
    Performs bus .start (start bus).1 (start bus).2 := by
  obtain ⟨there, addressed⟩ := usable_iff.mp usable
  unfold start
  rw [bind_state, get_state]
  dsimp only
  rw [if_neg (isStarted_of_stopped stopped), if_neg there, addressed]
  dsimp only
  rw [bind_state, lift_state]
  cases answer : bus.installs.headD (.ok 0) with
  | error reason =>
    have refused : (install bus).1 = .error reason := answer
    rw [refused]
    exact .notInstalled stopped usable answer
  | ok handle =>
    have given : (install bus).1 = .ok handle := answer
    rw [given]
    exact .installed stopped usable answer

theorem stop_stopped (stopped : bus.handle = none) : stop bus = (.ok (), bus) := by
  unfold stop
  rw [bind_state, get_state]
  dsimp only
  rw [stopped]
  rfl

theorem stop_started (started : bus.handle = some handle) :
    Performs bus .stop (stop bus).1 (stop bus).2 := by
  unfold stop
  rw [bind_state, get_state]
  dsimp only
  rw [started]
  dsimp only
  rw [bind_state, lift_state]
  cases answer : bus.uninstalls.headD (.ok ()) with
  | error reason =>
    have refused : (uninstall handle bus).1 = .error reason := answer
    rw [refused]
    exact .notRemoved started answer
  | ok _ =>
    have taken : (uninstall handle bus).1 = .ok () := answer
    rw [taken]
    exact .removed started answer

theorem step_performs (before : I2cBus) (next : I2cStep) :
    Performs before next (step next before).1 (step next before).2 := by
  cases held : before.handle with
  | none =>
    cases next with
    | start =>
      by_cases usable : before.Usable
      · exact start_usable held usable
      · obtain ⟨log, useless⟩ := start_useless held usable
        rw [step, useless]
        exact .unusable held usable
    | stop =>
      rw [step, stop_stopped held]
      exact .alreadyStopped held
  | some handle =>
    cases next with
    | start =>
      rw [step, start_started held]
      exact .alreadyStarted held
    | stop => exact stop_started held

end I2cBus

end PlatformFirmware
