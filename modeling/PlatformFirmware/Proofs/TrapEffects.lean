import PlatformFirmware.Proofs.Effects
import PlatformFirmware.TrapSession

namespace PlatformFirmware

namespace TrapSystem

@[simp]
theorem bind_apply {α β : Type} (first : TrapM α) (after : α → TrapM β) (system : TrapSystem) :
    (first >>= after) system =
      match first system with
      | (.ok value, system) => after value system
      | (.error fault, system) => (.error fault, system) := by
  rw [bind_state]
  rcases first system with ⟨_ | _, _⟩ <;> rfl

@[simp]
theorem pure_apply {α : Type} (value : α) (system : TrapSystem) :
    (pure value : TrapM α) system = (.ok value, system) := rfl

@[simp]
theorem get_apply (system : TrapSystem) :
    (get : TrapM TrapSystem) system = (.ok system, system) := rfl

@[simp]
theorem liftM_apply {α : Type} (action : TrapAction α) (system : TrapSystem) :
    (liftM action : TrapM α) system = (.ok (action system).1, (action system).2) := rfl

@[simp]
theorem log_apply (severity : Severity) (message : String) (system : TrapSystem) :
    log severity message system =
      ((), { system with
        events := system.events ++ [.log ⟨severity, "io_trap", message⟩] }) := rfl

@[simp]
theorem modifyDispatcher_apply (change : TrapDispatcher → TrapDispatcher)
    (system : TrapSystem) :
    modifyDispatcher change system =
      ((), { system with dispatcher := change system.dispatcher }) := rfl

@[simp]
theorem readRegister_apply (i : Fin 4) (system : TrapSystem) :
    readRegister i system =
      (system.hardware.register i,
        { system with events := system.events ++ [.readRegister i] }) := rfl

@[simp]
theorem writeRegister_apply (i : Fin 4) (value : TrapRegister) (system : TrapSystem) :
    writeRegister i value system =
      ((), { system with
        hardware := system.hardware.setRegister i value
        events := system.events ++ [.writeRegister i value] }) := rfl

@[simp]
theorem allocate_apply (length alignment : UInt16) (system : TrapSystem) :
    allocate length alignment system =
      (system.allocations.headD (.error .outOfResources),
        { system with
          allocations := system.allocations.tail
          events := system.events ++ [.allocate length alignment] }) := rfl

@[simp]
theorem free_apply (base length : UInt16) (system : TrapSystem) :
    free base length system =
      (system.releases.headD (.ok ()),
        { system with
          releases := system.releases.tail
          events := system.events ++ [.free base length] }) := rfl

end TrapSystem

end PlatformFirmware
