import PlatformFirmware.TrapDispatcher

namespace PlatformFirmware

namespace TrapDispatcher

theorem setEntry_entry (dispatcher : TrapDispatcher) (i : Fin 4) (entry : TrapEntry) :
    (dispatcher.setEntry i entry).entry i = entry := by
  simp [setEntry, TrapDispatcher.entry]

theorem setEntry_other {dispatcher : TrapDispatcher} {i j : Fin 4} {entry : TrapEntry}
    (h : j ≠ i) : (dispatcher.setEntry i entry).entry j = dispatcher.entry j := by
  have hval : (i : Nat) ≠ j := fun he => h (Fin.ext he.symm)
  simp [setEntry, TrapDispatcher.entry, hval]

theorem entry_congr {before after : TrapDispatcher} (h : after.entries = before.entries)
    (i : Fin 4) : after.entry i = before.entry i := by
  rw [entry, entry, h]

@[simp] theorem entry_default (i : Fin 4) : ({} : TrapDispatcher).entry i = {} := by
  simp [TrapDispatcher.entry]

theorem setEntry_setEntry (dispatcher : TrapDispatcher) (i : Fin 4) (first second : TrapEntry) :
    (dispatcher.setEntry i first).setEntry i second = dispatcher.setEntry i second := by
  simp [setEntry]

theorem findRegister?_eq_some {dispatcher : TrapDispatcher} {test : TrapEntry → Bool} {i : Fin 4}
    (h : dispatcher.findRegister? test = some i) : test (dispatcher.entry i) = true := by
  have found := List.find?_some h
  exact found

theorem findRegister?_of_unique {dispatcher : TrapDispatcher} {test : TrapEntry → Bool}
    {i : Fin 4} (h : test (dispatcher.entry i) = true)
    (unique : ∀ j, j ≠ i → test (dispatcher.entry j) = false) :
    dispatcher.findRegister? test = some i := by
  cases hf : dispatcher.findRegister? test with
  | none =>
    have := List.find?_eq_none.mp hf i (List.mem_finRange i)
    exact absurd h this
  | some j =>
    by_cases hj : j = i
    · rw [hj]
    · have := findRegister?_eq_some hf
      rw [unique j hj] at this
      cases this

theorem unusedRegister?_eq_some {dispatcher : TrapDispatcher} {i : Fin 4}
    (h : dispatcher.unusedRegister? = some i) : (dispatcher.entry i).inUse = false := by
  simpa using findRegister?_eq_some h

theorem sharedRoom?_eq_some {dispatcher : TrapDispatcher} {length offset : UInt16} {i : Fin 4}
    (h : dispatcher.sharedRoom? length = some (i, offset)) :
    (dispatcher.entry i).freeOffset? length = some offset := by
  obtain ⟨_, j, _, _, hj, _⟩ := List.findSome?_eq_some_iff.mp h
  obtain ⟨found, hfound, hpair⟩ := Option.map_eq_some_iff.mp hj
  cases hpair
  exact hfound

theorem findRecord?_eq_some {dispatcher : TrapDispatcher} {handle : TrapHandle} {i : Fin 4}
    {place : Nat} (h : dispatcher.findRecord? handle = some (i, place)) :
    ∃ record, (dispatcher.entry i).records[place]? = some record ∧ record.handle = handle := by
  obtain ⟨_, j, _, _, hj, _⟩ := List.findSome?_eq_some_iff.mp h
  obtain ⟨found, hfound, hpair⟩ := Option.map_eq_some_iff.mp hj
  cases hpair
  obtain ⟨hlt, heq, _⟩ := List.findIdx?_eq_some_iff_getElem.mp hfound
  exact ⟨_, List.getElem?_eq_getElem hlt, beq_iff_eq.mp heq⟩

theorem controlRegister?_eq_none {dispatcher : TrapDispatcher} {handle : TrapHandle}
    (h : ∀ i, ∀ record ∈ (dispatcher.entry i).records, record.handle = handle →
      (dispatcher.entry i).isDedicated = false) : dispatcher.controlRegister? handle = none := by
  unfold controlRegister?
  cases hf : dispatcher.findRecord? handle with
  | none => rfl
  | some found =>
    obtain ⟨i, place⟩ := found
    obtain ⟨record, placed, named⟩ := findRecord?_eq_some hf
    simp [h i record (List.mem_of_getElem? placed) named]

/-- All registrations in force, register by register. -/
def liveRecords (dispatcher : TrapDispatcher) : List TrapRecord :=
  (List.finRange 4).flatMap fun i => (dispatcher.entry i).records

theorem liveRecords_eq {before after : TrapDispatcher} (h : after.entries = before.entries) :
    after.liveRecords = before.liveRecords := by
  simp only [liveRecords, entry_congr h]

theorem mem_liveRecords {dispatcher : TrapDispatcher} {record : TrapRecord} :
    record ∈ dispatcher.liveRecords ↔ ∃ i : Fin 4, record ∈ (dispatcher.entry i).records := by
  simp [liveRecords]

theorem findRecord?_eq_none {dispatcher : TrapDispatcher} {handle : TrapHandle}
    (absent : ∀ record ∈ dispatcher.liveRecords, record.handle ≠ handle) :
    dispatcher.findRecord? handle = none := by
  cases found : dispatcher.findRecord? handle with
  | none => rfl
  | some place =>
    obtain ⟨record, placed, named⟩ := findRecord?_eq_some found
    have live := mem_liveRecords.mpr ⟨_, List.mem_of_getElem? placed⟩
    exact absurd named (absent record live)

/-- A registration in force is found by its handle, when no other one has that handle. -/
theorem findRecord?_of_live {dispatcher : TrapDispatcher} {record : TrapRecord}
    (live : record ∈ dispatcher.liveRecords)
    (only : ∀ other ∈ dispatcher.liveRecords, other.handle = record.handle → other = record) :
    ∃ i place, dispatcher.findRecord? record.handle = some (i, place) ∧
      (dispatcher.entry i).records[place]? = some record := by
  cases search : dispatcher.findRecord? record.handle with
  | none =>
    obtain ⟨i, kept⟩ := mem_liveRecords.mp live
    have missed := List.findSome?_eq_none_iff.mp search i (List.mem_finRange i)
    rw [Option.map_eq_none_iff, List.findIdx?_eq_none_iff] at missed
    exact absurd (missed record kept) (by simp)
  | some found =>
    obtain ⟨i, place⟩ := found
    obtain ⟨other, placed, named⟩ := findRecord?_eq_some search
    have kept := mem_liveRecords.mpr ⟨i, List.mem_of_getElem? placed⟩
    exact ⟨i, place, rfl, by rw [placed, only other kept named]⟩

theorem mem_liveRecords_at {dispatcher : TrapDispatcher} {record : TrapRecord} (i : Fin 4) :
    record ∈ dispatcher.liveRecords ↔ record ∈ (dispatcher.entry i).records ∨
      ∃ j, j ≠ i ∧ record ∈ (dispatcher.entry j).records := by
  rw [mem_liveRecords]
  constructor
  · rintro ⟨j, hj⟩
    by_cases h : j = i
    · subst h
      exact .inl hj
    · exact .inr ⟨j, h, hj⟩
  · rintro (h | ⟨j, _, hj⟩)
    · exact ⟨i, h⟩
    · exact ⟨j, hj⟩

theorem mem_liveRecords_setEntry {dispatcher : TrapDispatcher} {i : Fin 4} {entry : TrapEntry}
    {record : TrapRecord} :
    record ∈ (dispatcher.setEntry i entry).liveRecords ↔
      record ∈ entry.records ∨ ∃ j, j ≠ i ∧ record ∈ (dispatcher.entry j).records := by
  rw [mem_liveRecords_at i, setEntry_entry]
  refine or_congr_right (exists_congr fun j => and_congr_right fun hj => ?_)
  rw [setEntry_other hj]

/-- What holds between the records of a register and between those of two registers holds
between all of them. -/
theorem liveRecords_pairwise {dispatcher : TrapDispatcher} {R : TrapRecord → TrapRecord → Prop}
    (same : ∀ i : Fin 4, (dispatcher.entry i).records.Pairwise R)
    (across : ∀ i j : Fin 4, i ≠ j → ∀ r ∈ (dispatcher.entry i).records,
      ∀ s ∈ (dispatcher.entry j).records, R r s) :
    dispatcher.liveRecords.Pairwise R := by
  rw [liveRecords, List.pairwise_flatMap]
  refine ⟨fun i _ => same i, ?_⟩
  exact (List.nodup_finRange 4).imp fun hne r hr s hs => across _ _ hne r hr s hs

end TrapDispatcher

end PlatformFirmware
