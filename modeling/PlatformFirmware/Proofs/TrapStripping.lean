import Mathlib.Data.List.Perm.Basic
import PlatformFirmware.Proofs.TrapTable

namespace PlatformFirmware

namespace TrapEntry

/-- The records of an entry whose handles are not among some. -/
def kept (entry : TrapEntry) (handles : List TrapHandle) : List TrapRecord :=
  entry.records.filter fun record => record.handle ∉ handles

/-- An entry serves registrations, but none without those of some handles. -/
def LosesAll (entry : TrapEntry) (handles : List TrapHandle) : Prop :=
  entry.records ≠ [] ∧ entry.kept handles = []

instance (entry : TrapEntry) (handles : List TrapHandle) : Decidable (entry.LosesAll handles) :=
  inferInstanceAs (Decidable (_ ∧ _))

/-- An entry without the records of some handles. If none are left, the range is gone as well. -/
def stripped (entry : TrapEntry) (handles : List TrapHandle) : TrapEntry :=
  if entry.LosesAll handles then {} else { entry with records := entry.kept handles }

/-- The base and the length that an entry gives back with the records of some handles. -/
def returned (entry : TrapEntry) (handles : List TrapHandle) : List (UInt16 × UInt16) :=
  if entry.LosesAll handles ∧ entry.isCallerOwned = false then [(entry.base, entry.length)] else []

variable {entry : TrapEntry} {first : List TrapHandle}

theorem stripped_records (entry : TrapEntry) (handles : List TrapHandle) :
    (entry.stripped handles).records = entry.kept handles := by
  unfold stripped
  split
  next loses => exact loses.2.symm
  next => rfl

theorem kept_of_absent {handles : List TrapHandle}
    (absent : ∀ record ∈ entry.records, record.handle ∉ handles) :
    entry.kept handles = entry.records :=
  List.filter_eq_self.mpr fun record mem => decide_eq_true (absent record mem)

theorem not_losesAll_of_absent {handles : List TrapHandle}
    (absent : ∀ record ∈ entry.records, record.handle ∉ handles) : ¬entry.LosesAll handles := by
  rintro ⟨some, none⟩
  exact some ((kept_of_absent absent).symm.trans none)

theorem stripped_of_absent {handles : List TrapHandle}
    (absent : ∀ record ∈ entry.records, record.handle ∉ handles) :
    entry.stripped handles = entry := by
  rw [stripped, if_neg (not_losesAll_of_absent absent), kept_of_absent absent]

theorem stripped_default (handles : List TrapHandle) : ({} : TrapEntry).stripped handles = {} :=
  stripped_of_absent fun _ mem => by cases mem

theorem kept_append (entry : TrapEntry) (first second : List TrapHandle) :
    entry.kept (first ++ second) = (entry.stripped first).kept second := by
  rw [kept, kept, stripped_records, kept, List.filter_filter]
  refine List.filter_congr fun record _ => ?_
  simp [Bool.and_comm]

theorem stripped_losesAll (loses : entry.LosesAll first) (second : List TrapHandle) :
    ¬(entry.stripped first).LosesAll second := by
  rintro ⟨some, _⟩
  exact some ((stripped_records entry first).trans loses.2)

/-- Either the first handles empty an entry, or the others empty what the first ones leave. -/
theorem losesAll_append (entry : TrapEntry) (first second : List TrapHandle) :
    entry.LosesAll (first ++ second) ↔
      entry.LosesAll first ∨ (entry.stripped first).LosesAll second := by
  unfold LosesAll
  rw [← kept_append, stripped_records]
  have emptied : entry.kept first = [] → entry.kept (first ++ second) = [] := by
    intro none
    rw [kept_append, kept, stripped_records, none, List.filter_nil]
  have empty : entry.records = [] → entry.kept first = [] := by
    intro none
    rw [kept, none, List.filter_nil]
  tauto

theorem losesAll_append_of_not (keeps : ¬entry.LosesAll first) (second : List TrapHandle) :
    entry.LosesAll (first ++ second) ↔ (entry.stripped first).LosesAll second :=
  (entry.losesAll_append first second).trans (or_iff_right keeps)

theorem stripped_append (entry : TrapEntry) (first second : List TrapHandle) :
    entry.stripped (first ++ second) = (entry.stripped first).stripped second := by
  by_cases loses : entry.LosesAll first
  · have none : entry.stripped first = {} := if_pos loses
    rw [none, stripped_default]
    exact if_pos ((entry.losesAll_append first second).mpr (.inl loses))
  · have some : entry.stripped first = { entry with records := entry.kept first } := if_neg loses
    rw [stripped, stripped, kept_append]
    simp only [losesAll_append_of_not loses, some]

/-- A window is given back once. -/
theorem returned_append (entry : TrapEntry) (first second : List TrapHandle) :
    entry.returned (first ++ second) =
      entry.returned first ++ (entry.stripped first).returned second := by
  by_cases loses : entry.LosesAll first
  · have kept : (entry.stripped first).returned second = [] :=
      if_neg fun h => stripped_losesAll loses second h.1
    have all := (entry.losesAll_append first second).mpr (.inl loses)
    rw [kept, List.append_nil]
    simp only [returned, loses, all]
  · have some : entry.stripped first = { entry with records := entry.kept first } := if_neg loses
    have none : entry.returned first = [] := if_neg fun h => loses h.1
    rw [none, List.nil_append]
    simp only [returned, losesAll_append_of_not loses, some]

end TrapEntry

/-- A dispatcher without the registrations of some handles. -/
def TrapDispatcher.stripped (dispatcher : TrapDispatcher) (handles : List TrapHandle) :
    TrapDispatcher :=
  { dispatcher with entries := dispatcher.entries.map fun entry => entry.stripped handles }

/-- The bases and lengths that go back to the allocator with the registrations of some handles. -/
def TrapDispatcher.returned (dispatcher : TrapDispatcher) (handles : List TrapHandle) :
    List (UInt16 × UInt16) :=
  (List.finRange 4).flatMap fun i => (dispatcher.entry i).returned handles

/-- The registers are zero that a dispatcher loses with the registrations of some handles. -/
def TrapHardware.cleared (hardware : TrapHardware) (dispatcher : TrapDispatcher)
    (handles : List TrapHandle) : TrapHardware :=
  { hardware with
    registers := Vector.ofFn fun i =>
      if (dispatcher.entry i).LosesAll handles then .zero else hardware.register i }

namespace TrapDispatcher

theorem ext_entry {before after : TrapDispatcher} (entries : ∀ i, after.entry i = before.entry i)
    (nextSerial : after.nextSerial = before.nextSerial)
    (isLocked : after.isLocked = before.isLocked) : after = before := by
  obtain ⟨old, _, _⟩ := before
  obtain ⟨new, _, _⟩ := after
  obtain rfl : new = old := Vector.ext fun i hi => entries ⟨i, hi⟩
  cases nextSerial
  cases isLocked
  rfl

theorem stripped_entry (dispatcher : TrapDispatcher) (handles : List TrapHandle) (i : Fin 4) :
    (dispatcher.stripped handles).entry i = (dispatcher.entry i).stripped handles := by
  simp [stripped, entry]

theorem liveRecords_stripped (dispatcher : TrapDispatcher) (handles : List TrapHandle) :
    (dispatcher.stripped handles).liveRecords =
      dispatcher.liveRecords.filter fun record => record.handle ∉ handles := by
  simp only [liveRecords, List.filter_flatMap, stripped_entry, TrapEntry.stripped_records]
  rfl

theorem stripped_append (dispatcher : TrapDispatcher) (first second : List TrapHandle) :
    dispatcher.stripped (first ++ second) = (dispatcher.stripped first).stripped second := by
  simp only [stripped, Vector.map_map, TrapEntry.stripped_append]
  rfl

theorem stripped_nil (dispatcher : TrapDispatcher) : dispatcher.stripped [] = dispatcher := by
  refine ext_entry (fun i => ?_) rfl rfl
  rw [stripped_entry]
  exact TrapEntry.stripped_of_absent fun _ _ => List.not_mem_nil

theorem returned_nil (dispatcher : TrapDispatcher) : dispatcher.returned [] = [] := by
  refine List.flatMap_eq_nil_iff.mpr fun i _ => if_neg fun h => ?_
  exact TrapEntry.not_losesAll_of_absent (fun _ _ => List.not_mem_nil) h.1

theorem returned_append (dispatcher : TrapDispatcher) (first second : List TrapHandle) :
    (dispatcher.returned first ++ (dispatcher.stripped first).returned second).Perm
      (dispatcher.returned (first ++ second)) := by
  simp only [returned, stripped_entry, TrapEntry.returned_append]
  exact List.flatMap_append_perm _ _ _

end TrapDispatcher

namespace TrapHardware

theorem ext_register {before after : TrapHardware}
    (registers : ∀ i, after.register i = before.register i)
    (status : after.status = before.status) (cycle : after.cycle = before.cycle)
    (data : after.data = before.data) : after = before := by
  obtain ⟨old, _, _, _⟩ := before
  obtain ⟨new, _, _, _⟩ := after
  obtain rfl : new = old := Vector.ext fun i hi => registers ⟨i, hi⟩
  cases status
  cases cycle
  cases data
  rfl

theorem cleared_register (hardware : TrapHardware) (dispatcher : TrapDispatcher)
    (handles : List TrapHandle) (i : Fin 4) :
    (hardware.cleared dispatcher handles).register i =
      if (dispatcher.entry i).LosesAll handles then .zero else hardware.register i := by
  simp [cleared, register]

theorem cleared_nil (hardware : TrapHardware) (dispatcher : TrapDispatcher) :
    hardware.cleared dispatcher [] = hardware := by
  refine ext_register (fun i => ?_) rfl rfl rfl
  rw [cleared_register, if_neg]
  exact TrapEntry.not_losesAll_of_absent fun _ _ => List.not_mem_nil

theorem cleared_append (hardware : TrapHardware) (dispatcher : TrapDispatcher)
    (first second : List TrapHandle) :
    hardware.cleared dispatcher (first ++ second) =
      (hardware.cleared dispatcher first).cleared (dispatcher.stripped first) second := by
  have registers (i : Fin 4) : (if (dispatcher.entry i).LosesAll (first ++ second) then .zero
      else hardware.register i) =
      if ((dispatcher.stripped first).entry i).LosesAll second then .zero
      else (hardware.cleared dispatcher first).register i := by
    rw [TrapDispatcher.stripped_entry, cleared_register, ← ite_or]
    simp only [TrapEntry.losesAll_append, or_comm]
  rw [cleared, funext registers]
  rfl

end TrapHardware

end PlatformFirmware
