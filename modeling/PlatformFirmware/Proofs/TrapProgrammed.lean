import PlatformFirmware.Proofs.TrapRegisterFields
import PlatformFirmware.Proofs.TrapRoster

namespace PlatformFirmware

open TrapSystem

/-- Whether a move leaves it to the dispatcher to change registers. -/
def TrapMove.KeepsRegisters : TrapMove → Prop
  | make _ _ (.setRegister _ _) => False
  | _ => True

namespace TrapRecord

/-- Whether a move resumes or pauses the registration, and does so successfully. -/
def switchedBy? (record : TrapRecord) (move : TrapMove) : Option Bool :=
  move.switched?.bind fun switch => if switch.1 = record then some switch.2 else none

/-- Whether the last of the moves that resumed or paused the registration paused it. -/
def isPausedAfter (record : TrapRecord) (history : List TrapMove) : Bool :=
  (history.filterMap record.switchedBy?).getLast? == some false

theorem isPausedAfter_append (record : TrapRecord) (history : List TrapMove) (move : TrapMove) :
    record.isPausedAfter (history ++ [move]) =
      match record.switchedBy? move with
      | some on => !on
      | none => record.isPausedAfter history := by
  unfold isPausedAfter
  cases h : record.switchedBy? move with
  | none => simp [h]
  | some on => cases on <;> simp [h]

theorem switchedBy?_self {record : TrapRecord} {move : TrapMove} {on : Bool}
    (h : move.switched? = some (record, on)) : record.switchedBy? move = some on := by
  simp [switchedBy?, h]

theorem switchedBy?_eq_none {record : TrapRecord} {move : TrapMove}
    (h : ∀ on, move.switched? ≠ some (record, on)) : record.switchedBy? move = none := by
  unfold switchedBy?
  cases hs : move.switched? with
  | none => rfl
  | some switch =>
    have ne : switch.1 ≠ record := by
      rintro rfl
      exact h switch.2 hs
    simp [ne]

theorem isPausedAfter_of_never {record : TrapRecord} {history : List TrapMove}
    (h : ∀ move ∈ history, ∀ on, move.switched? ≠ some (record, on)) :
    record.isPausedAfter history = false := by
  have none : history.filterMap record.switchedBy? = [] := by
    rw [List.filterMap_eq_nil_iff]
    exact fun move hm => switchedBy?_eq_none (h move hm)
  simp [isPausedAfter, none]

end TrapRecord

/-- A register is programmed as its entry says, when the given records are paused. -/
structure TrapEntry.Programmed (entry : TrapEntry) (paused : TrapRecord → Bool)
    (register : TrapRegister) : Prop where
  unused : entry.inUse = false → register = .zero
  window : entry.inUse = true → entry.isDedicated = false →
    register = .ofRange entry.base mergedTrapLength .readWrite
  running : entry.isDedicated = false → ∀ record ∈ entry.records, paused record = false
  dedicated : entry.isDedicated = true → ∀ record ∈ entry.records,
    register = (TrapRegister.ofRequest record.request record.length).setEnabled !paused record

namespace TrapEntry.Programmed

theorem default (paused : TrapRecord → Bool) : ({} : TrapEntry).Programmed paused .zero where
  unused _ := rfl
  window used := by cases used
  running _ := by simp
  dedicated alone := by cases alone

theorem congr {entry : TrapEntry} {paused paused' : TrapRecord → Bool} {register : TrapRegister}
    (h : entry.Programmed paused register)
    (eq : ∀ record ∈ entry.records, paused' record = paused record) :
    entry.Programmed paused' register := by
  refine ⟨h.unused, h.window, ?_, ?_⟩
  · intro shared record hr
    rw [eq record hr]
    exact h.running shared record hr
  · intro alone record hr
    rw [eq record hr]
    exact h.dedicated alone record hr

theorem eraseIdx {entry : TrapEntry} {paused : TrapRecord → Bool} {register : TrapRegister}
    (h : entry.Programmed paused register) (place : Nat) :
    ({ entry with records := entry.records.eraseIdx place } : TrapEntry).Programmed paused
      register :=
  ⟨h.unused, h.window,
    fun shared record hr => h.running shared record (List.mem_of_mem_eraseIdx hr),
    fun alone record hr => h.dedicated alone record (List.mem_of_mem_eraseIdx hr)⟩

end TrapEntry.Programmed

namespace TrapHardware

theorem register_congr {before after : TrapHardware} (h : after.registers = before.registers)
    (i : Fin 4) : after.register i = before.register i := by
  rw [register, register, h]

@[simp] theorem register_default (i : Fin 4) : ({} : TrapHardware).register i = .zero := by
  simp [register]

theorem setRegister_self (hardware : TrapHardware) (i : Fin 4) (value : TrapRegister) :
    (hardware.setRegister i value).register i = value := by
  simp [setRegister, register]

theorem setRegister_other {hardware : TrapHardware} {i j : Fin 4} {value : TrapRegister}
    (h : j ≠ i) : (hardware.setRegister i value).register j = hardware.register j := by
  have hval : (i : Nat) ≠ j := fun he => h (Fin.ext he.symm)
  simp [setRegister, register, hval]

end TrapHardware

/-- A registration programs its register, and no other. -/
theorem TrapSystem.Places.programmed {callback : TrapCallback} {request : TrapRequest}
    {before after : TrapSystem} {i : Fin 4} {address : UInt16}
    (h : Places callback request before after i address) {paused : TrapRecord → Bool}
    (fresh : paused (before.dispatcher.newRecord callback request address) = false)
    (programmed : ∀ j : Fin 4,
      (before.dispatcher.entry j).Programmed paused (before.hardware.register j)) (j : Fin 4) :
    (after.dispatcher.entry j).Programmed paused (after.hardware.register j) := by
  by_cases hj : j = i
  · subst hj
    cases h with
    | room _ _ free _ hd hh =>
      obtain ⟨used, shared, _⟩ :=
        TrapEntry.freeOffset?_eq_some (roundedTrapLength_mem request.length) free
      have window := (programmed j).window used shared
      have running := (programmed j).running shared
      rw [hd, TrapDispatcher.spendSerial_entry, TrapDispatcher.setEntry_entry, hh]
      refine ⟨fun unused => ?_, fun _ _ => window, fun _ record hr => ?_, fun alone => ?_⟩
      · exact absurd (used.symm.trans unused) (by simp)
      · rcases List.mem_append.mp hr with hr | hr
        · exact running record hr
        · obtain rfl := List.mem_singleton.mp hr
          exact fresh
      · exact absurd (shared.symm.trans alone) (by simp)
    | window _ _ _ _ _ hd hh =>
      rw [hd, TrapDispatcher.spendSerial_entry, TrapDispatcher.setEntry_entry, hh, TrapHardware.setRegister_self]
      refine ⟨fun unused => (by cases unused), fun _ _ => rfl, fun _ record hr => ?_,
        fun alone => (by cases alone)⟩
      obtain rfl := List.mem_singleton.mp hr
      exact fresh
    | dedicated _ _ _ _ hd hh =>
      rw [hd, TrapDispatcher.spendSerial_entry, TrapDispatcher.setEntry_entry, hh, TrapHardware.setRegister_self]
      refine ⟨fun unused => (by cases unused), fun _ shared => (by cases shared),
        fun shared => (by cases shared), fun _ record hr => ?_⟩
      obtain rfl := List.mem_singleton.mp hr
      rw [fresh]
      exact (TrapRegister.setEnabled_true (TrapRegister.ofRequest_enable _ _)).symm
  · have register : after.hardware.register j = before.hardware.register j := by
      cases h with
      | room _ _ _ _ _ hh => rw [hh]
      | window _ _ _ _ _ _ hh | dedicated _ _ _ _ _ hh =>
        rw [hh, TrapHardware.setRegister_other hj]
    rw [h.entry_other hj, register]
    exact programmed j

end PlatformFirmware
