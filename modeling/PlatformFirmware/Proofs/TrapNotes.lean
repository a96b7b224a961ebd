import PlatformFirmware.Proofs.TrapEffects

namespace PlatformFirmware

/-- Whether an event is the beginning of a callback. -/
def TrapEvent.isCallback : TrapEvent → Bool
  | call _ _ _ => true
  | callExtended _ _ => true
  | _ => false

namespace TrapSystem

/-- The callbacks that have begun so far. -/
def callbacks (system : TrapSystem) : List TrapEvent :=
  system.events.filter TrapEvent.isCallback

/-- The second system is the first one after some events, none of them a callback. -/
def Noted (before after : TrapSystem) : Prop :=
  ∃ events : List TrapEvent, events.filter TrapEvent.isCallback = [] ∧
    after = { before with events := before.events ++ events }

/-- An action that changes nothing but the log of events, and begins no callback. -/
def NotesOnly {α : Type} (action : TrapAction α) : Prop :=
  ∀ system, Noted system (action system).2

theorem Noted.refl (system : TrapSystem) : system.Noted system := ⟨[], rfl, by simp⟩

theorem Noted.trans {first second third : TrapSystem} (h : first.Noted second)
    (h' : second.Noted third) : first.Noted third := by
  obtain ⟨events, hc, rfl⟩ := h
  obtain ⟨events', hc', rfl⟩ := h'
  refine ⟨events ++ events', ?_, ?_⟩
  · rw [List.filter_append, hc, hc', List.append_nil]
  · simp only [List.append_assoc]

theorem Noted.callbacks_eq {before after : TrapSystem} (h : before.Noted after) :
    after.callbacks = before.callbacks := by
  obtain ⟨events, hc, rfl⟩ := h
  simp only [callbacks, List.filter_append, hc, List.append_nil]

theorem Noted.dispatcher {before after : TrapSystem} (h : before.Noted after) :
    after.dispatcher = before.dispatcher := by
  obtain ⟨events, _, rfl⟩ := h
  rfl

theorem Noted.hardware {before after : TrapSystem} (h : before.Noted after) :
    after.hardware = before.hardware := by
  obtain ⟨events, _, rfl⟩ := h
  rfl

theorem Noted.allocations {before after : TrapSystem} (h : before.Noted after) :
    after.allocations = before.allocations := by
  obtain ⟨events, _, rfl⟩ := h
  rfl

theorem NotesOnly.pure {α : Type} (value : α) : NotesOnly (Pure.pure value) :=
  fun system => Noted.refl system

theorem NotesOnly.bind {α β : Type} {first : TrapAction α} {after : α → TrapAction β}
    (h : NotesOnly first) (h' : ∀ value, NotesOnly (after value)) : NotesOnly (first >>= after) :=
  fun system => (h system).trans (h' (first system).1 (first system).2)

/-- A dispatch begins with nothing but a look at the hardware. -/
theorem beginDispatch_notes : NotesOnly beginDispatch := by
  refine .bind (fun system => ⟨[.readStatus], rfl, rfl⟩) fun status => ?_
  dsimp only
  split
  · exact .pure none
  · refine .bind (fun system => ⟨[.readCycle], rfl, rfl⟩) fun cycle => ?_
    split
    · refine .bind (fun system => ⟨[.readData], rfl, rfl⟩) fun data => ?_
      exact .bind (fun system => ⟨[_], rfl, rfl⟩) fun _ => .pure _
    · refine .bind (.pure _) fun data => ?_
      exact .bind (fun system => ⟨[_], rfl, rfl⟩) fun _ => .pure _

/-- What a dispatch is about, if a register has trapped. -/
def trapped? (hardware : TrapHardware) : Option TrappedAccess :=
  let status := hardware.status &&& trapStatusMask
  let cycle : TrappedCycle := ⟨hardware.cycle.toBitVec⟩
  if status == 0 then none
  else some { status, address := cycle.address, isWrite := cycle.isWrite,
              writeData := if cycle.isWrite then hardware.data else 0 }

theorem trapped?_eq_none {hardware : TrapHardware} (h : trapped? hardware = none) :
    hardware.status &&& trapStatusMask = 0 := by
  unfold trapped? at h
  dsimp only at h
  split at h
  next idle => exact beq_iff_eq.mp idle
  next => cases h

theorem trapped?_of_idle {hardware : TrapHardware}
    (h : hardware.status &&& trapStatusMask = 0) : trapped? hardware = none := by
  simp [trapped?, h]

theorem trapped?_of_pending {hardware : TrapHardware}
    (pending : hardware.status &&& trapStatusMask ≠ 0) :
    let cycle : TrappedCycle := ⟨hardware.cycle.toBitVec⟩
    trapped? hardware =
      some { status := hardware.status &&& trapStatusMask, address := cycle.address,
             isWrite := cycle.isWrite, writeData := if cycle.isWrite then hardware.data else 0 } :=
  if_neg (by simpa using pending)

theorem trapped?_eq_some {hardware : TrapHardware} {access : TrappedAccess}
    (h : trapped? hardware = some access) :
    let cycle : TrappedCycle := ⟨hardware.cycle.toBitVec⟩
    access = { status := hardware.status &&& trapStatusMask, address := cycle.address,
               isWrite := cycle.isWrite,
               writeData := if cycle.isWrite then hardware.data else 0 } := by
  unfold trapped? at h
  dsimp only at h
  split at h
  next => cases h
  next => exact (Option.some.inj h).symm

theorem bind_fst {α β : Type} (first : TrapAction α) (after : α → TrapAction β)
    (system : TrapSystem) :
    ((first >>= after) system).1 = (after (first system).1 (first system).2).1 := rfl

theorem bind_snd {α β : Type} (first : TrapAction α) (after : α → TrapAction β)
    (system : TrapSystem) :
    ((first >>= after) system).2 = (after (first system).1 (first system).2).2 := rfl

theorem beginDispatch_idle {system : TrapSystem}
    (idle : system.hardware.status &&& trapStatusMask = 0) :
    beginDispatch system = (none, { system with events := system.events ++ [.readStatus] }) := by
  have quiet : ((readStatus system).1 &&& trapStatusMask == 0) = true := beq_iff_eq.mpr idle
  change (if (readStatus system).1 &&& trapStatusMask == 0 then _ else _ : TrapAction _) _ = _
  rw [if_pos quiet]
  rfl

theorem beginDispatch_fst (system : TrapSystem) :
    (beginDispatch system).1 = trapped? system.hardware := by
  have status : (readStatus system).1 = system.hardware.status := rfl
  have cycle (system : TrapSystem) :
      (readCycle system).1 = ⟨system.hardware.cycle.toBitVec⟩ := rfl
  rw [beginDispatch, bind_fst, status]
  dsimp only [trapped?]
  split
  · rfl
  · rw [bind_fst, cycle]
    split
    next h =>
      have h : (⟨system.hardware.cycle.toBitVec⟩ : TrappedCycle).isWrite = true := h
      rw [bind_fst, if_pos h]
      rfl
    next h =>
      have h : ¬(⟨system.hardware.cycle.toBitVec⟩ : TrappedCycle).isWrite = true := h
      rw [bind_fst, if_neg h]
      rfl

end TrapSystem

end PlatformFirmware
