import PlatformFirmware.Proofs.TrapRange
import PlatformFirmware.Proofs.TrapTable

namespace PlatformFirmware

/-- A record is for a range that one register can cover, at a multiple of its length. -/
structure TrapRecord.Aligned (record : TrapRecord) : Prop where
  length_mem : record.length ∈ trapLengths
  dvd : record.length.toNat ∣ record.request.address.toNat

/-- What holds of a register that several registrations share. -/
structure TrapEntry.IsWindow (entry : TrapEntry) : Prop where
  length_eq : entry.length = mergedTrapLength
  used_le : entry.usedLength.toNat ≤ mergedTrapLength.toNat
  base_dvd : mergedTrapLength.toNat ∣ entry.base.toNat
  allocated : entry.isCallerOwned = false
  within : ∀ record ∈ entry.records, record.Within entry.base entry.usedLength
  plain : ∀ record ∈ entry.records, record.callback.isExtended = false

/-- What holds of a register that serves one registration alone. -/
structure TrapEntry.IsDedicated (entry : TrapEntry) (record : TrapRecord) : Prop where
  alone : entry.records = [record]
  base_eq : entry.base = record.request.address
  length_eq : entry.length = record.length
  base_ne : entry.base ≠ 0
  owned : entry.isCallerOwned = true

/-- An entry as the dispatcher leaves it between calls. -/
structure TrapEntry.Tidy (entry : TrapEntry) : Prop where
  unused : entry.inUse = false → entry = {}
  kept : entry.inUse = true → entry.records ≠ []
  aligned : ∀ record ∈ entry.records, record.Aligned
  apart : entry.records.Pairwise TrapRecord.Apart
  window : entry.inUse = true → entry.isDedicated = false → entry.IsWindow
  dedicated : entry.isDedicated = true → ∃ record, entry.IsDedicated record

namespace TrapEntry

theorem tidy_default : ({} : TrapEntry).Tidy where
  unused _ := rfl
  kept h := by cases h
  aligned := by simp
  apart := .nil
  window h := by cases h
  dedicated h := by cases h

theorem tidy_window {record : TrapRecord} (aligned : record.Aligned)
    (plain : record.callback.isExtended = false)
    (dvd : mergedTrapLength.toNat ∣ record.request.address.toNat) :
    ({ inUse := true, base := record.request.address, length := mergedTrapLength,
       usedLength := record.length, records := [record] } : TrapEntry).Tidy where
  unused h := by cases h
  kept _ := by simp
  aligned := by simpa using aligned
  apart := List.pairwise_singleton _ _
  window _ _ := by
    refine ⟨rfl, ?_, dvd, rfl, ?_, by simpa using plain⟩
    · have := trapLength_toNat aligned.length_mem
      rw [mergedTrapLength_toNat]
      dsimp only
      omega
    · simp [TrapRecord.Within]
  dedicated h := by cases h

theorem tidy_dedicated {record : TrapRecord} (aligned : record.Aligned)
    (h : record.request.address ≠ 0) :
    ({ inUse := true, base := record.request.address, length := record.length,
       usedLength := record.length, isDedicated := true, isCallerOwned := true,
       records := [record] } : TrapEntry).Tidy where
  unused h := by cases h
  kept _ := by simp
  aligned := by simpa using aligned
  apart := List.pairwise_singleton _ _
  window _ h := by cases h
  dedicated _ := ⟨record, rfl, rfl, rfl, h, rfl⟩

/-- A record behind all bytes handed out joins those in a window. -/
theorem Tidy.share {entry : TrapEntry} (tidy : entry.Tidy) {record : TrapRecord}
    {offset : UInt16} (free : entry.freeOffset? record.length = some offset)
    (size : entry.base.toNat + offset.toNat < UInt16.size)
    (address : record.request.address = entry.base + offset)
    (length : record.length ∈ trapLengths) (plain : record.callback.isExtended = false) :
    ({ entry with usedLength := offset + record.length,
                  records := entry.records ++ [record] } : TrapEntry).Tidy := by
  obtain ⟨used, shared, hle, hmod, hfit⟩ := freeOffset?_eq_some length free
  have window := tidy.window used shared
  have start : record.request.address.toNat = entry.base.toNat + offset.toNat := by
    rw [address, toNat_add_of_lt size]
  have stop := freeOffset?_stop length free
  have behind : ∀ old ∈ entry.records, old.Apart record := by
    intro old hold
    have := (window.within old hold).2
    exact Or.inl (by omega)
  refine ⟨fun h => absurd (used.symm.trans h) (by simp), by simp, ?_, ?_, ?_, ?_⟩
  · intro r hr
    rcases List.mem_append.mp hr with hr | hr
    · exact tidy.aligned r hr
    · obtain rfl := List.mem_singleton.mp hr
      refine ⟨length, ?_⟩
      rw [start]
      exact Nat.dvd_add (Nat.dvd_trans (trapLength_dvd length) window.base_dvd)
        (Nat.dvd_of_mod_eq_zero hmod)
  · exact List.pairwise_append.mpr ⟨tidy.apart, List.pairwise_singleton _ _, by simpa using behind⟩
  · intro _ _
    refine ⟨window.length_eq, ?_, window.base_dvd, window.allocated, ?_, ?_⟩
    · rw [mergedTrapLength_toNat]
      dsimp only
      omega
    · intro r hr
      dsimp only at hr ⊢
      rcases List.mem_append.mp hr with hr | hr
      · exact (window.within r hr).mono (by omega)
      · obtain rfl := List.mem_singleton.mp hr
        exact ⟨by omega, by omega⟩
    · intro r hr
      rcases List.mem_append.mp hr with hr | hr
      · exact window.plain r hr
      · obtain rfl := List.mem_singleton.mp hr
        exact plain
  · intro h
    exact absurd (shared.symm.trans h) (by simp)

theorem Tidy.eraseIdx {entry : TrapEntry} (tidy : entry.Tidy) {place : Nat}
    (h : entry.records.eraseIdx place ≠ []) :
    ({ entry with records := entry.records.eraseIdx place } : TrapEntry).Tidy := by
  have sub : ∀ r ∈ entry.records.eraseIdx place, r ∈ entry.records :=
    fun r hr => List.mem_of_mem_eraseIdx hr
  refine ⟨?_, fun _ => h, fun r hr => tidy.aligned r (sub r hr),
    tidy.apart.sublist (List.eraseIdx_sublist _ _), ?_, ?_⟩
  · intro used
    rw [tidy.unused used] at h
    exact absurd rfl h
  · intro used shared
    have window := tidy.window used shared
    exact ⟨window.length_eq, window.used_le, window.base_dvd, window.allocated,
      fun r hr => window.within r (sub r hr), fun r hr => window.plain r (sub r hr)⟩
  · intro dedicated
    obtain ⟨record, serves⟩ := tidy.dedicated dedicated
    rw [serves.alone] at h
    cases place with
    | zero => exact absurd rfl h
    | succ place =>
      exact ⟨record, by simp [serves.alone], serves.base_eq, serves.length_eq, serves.base_ne,
        serves.owned⟩

end TrapEntry

/-- The entries of a dispatcher between calls: each is tidy, and no two ranges overlap. -/
structure TrapDispatcher.Tidy (dispatcher : TrapDispatcher) : Prop where
  entries (i : Fin 4) : (dispatcher.entry i).Tidy
  apart {i j : Fin 4} : i ≠ j → (dispatcher.entry i).inUse = true →
    (dispatcher.entry j).inUse = true → (dispatcher.entry i).Apart (dispatcher.entry j)

namespace TrapDispatcher

theorem tidy_default : ({} : TrapDispatcher).Tidy := by
  have unused : ∀ i : Fin 4, ({} : TrapDispatcher).entry i = {} := entry_default
  refine ⟨fun i => ?_, fun {i j} _ hi => ?_⟩
  · rw [unused]
    exact TrapEntry.tidy_default
  · rw [unused] at hi
    cases hi

theorem Tidy.of_entries {before after : TrapDispatcher} (tidy : before.Tidy)
    (h : after.entries = before.entries) : after.Tidy := by
  refine ⟨fun i => ?_, fun {i j} hij hi hj => ?_⟩
  · rw [entry_congr h]
    exact tidy.entries i
  · rw [entry_congr h] at hi hj ⊢
    rw [entry_congr h]
    exact tidy.apart hij hi hj

theorem Tidy.setEntry {dispatcher : TrapDispatcher} (tidy : dispatcher.Tidy) {i : Fin 4}
    {entry : TrapEntry} (h : entry.Tidy)
    (apart : entry.inUse = true → ∀ j, j ≠ i → (dispatcher.entry j).inUse = true →
      entry.Apart (dispatcher.entry j)) :
    (dispatcher.setEntry i entry).Tidy := by
  refine ⟨fun j => ?_, fun {j k} hjk hj hk => ?_⟩
  · by_cases hj : j = i
    · subst hj
      rw [setEntry_entry]
      exact h
    · rw [setEntry_other hj]
      exact tidy.entries j
  · by_cases hji : j = i
    · subst hji
      rw [setEntry_entry] at hj ⊢
      rw [setEntry_other (Ne.symm hjk)] at hk ⊢
      exact apart hj k (Ne.symm hjk) hk
    · rw [setEntry_other hji] at hj ⊢
      by_cases hki : k = i
      · subst hki
        rw [setEntry_entry] at hk ⊢
        exact RangesApart.symm (apart hk j hji hj)
      · rw [setEntry_other hki] at hk ⊢
        exact tidy.apart hjk hj hk

/-- The range of every record lies in the range of its register. -/
theorem Tidy.within {dispatcher : TrapDispatcher} (tidy : dispatcher.Tidy) {i : Fin 4}
    {record : TrapRecord} (h : record ∈ (dispatcher.entry i).records) :
    (dispatcher.entry i).inUse = true ∧
      record.Within (dispatcher.entry i).base (dispatcher.entry i).length := by
  have entry := tidy.entries i
  have used : (dispatcher.entry i).inUse = true := by
    cases hu : (dispatcher.entry i).inUse with
    | true => rfl
    | false =>
      rw [entry.unused hu] at h
      cases h
  refine ⟨used, ?_⟩
  by_cases hd : (dispatcher.entry i).isDedicated = true
  · obtain ⟨owner, serves⟩ := entry.dedicated hd
    rw [serves.alone] at h
    obtain rfl := List.mem_singleton.mp h
    rw [serves.base_eq, serves.length_eq]
    exact ⟨Nat.le_refl _, Nat.le_refl _⟩
  · have window := entry.window used (Bool.eq_false_iff.mpr hd)
    refine (window.within record h).mono ?_
    rw [window.length_eq]
    exact window.used_le

theorem Tidy.liveRecords_apart {dispatcher : TrapDispatcher} (tidy : dispatcher.Tidy) :
    dispatcher.liveRecords.Pairwise TrapRecord.Apart := by
  refine liveRecords_pairwise (fun i => (tidy.entries i).apart) ?_
  intro i j hij r hr s hs
  obtain ⟨hi, hwr⟩ := tidy.within hr
  obtain ⟨hj, hws⟩ := tidy.within hs
  exact hwr.apart hws (tidy.apart hij hi hj)

end TrapDispatcher

end PlatformFirmware
