import PlatformFirmware.Proofs.TrapTidy

namespace PlatformFirmware

open TrapSystem

namespace TrapStep

theorem registration?_client {step : TrapStep} {client : Nat} {callback : TrapCallback}
    {request : TrapRequest} {reactions : List (List TrapStep)}
    (h : step.registration? client = some (callback, request, reactions)) :
    callback.client = client := by
  cases step <;> cases h <;> rfl

theorem registration?_plain {step : TrapStep} {client : Nat} {callback : TrapCallback}
    {request : TrapRequest} {reactions : List (List TrapStep)}
    (h : step.registration? client = some (callback, request, reactions))
    (plain : callback.isExtended = false) :
    request.byteEnable = 0 ∧ request.ignoredByteEnable = 0xF := by
  cases step <;> cases h
  · exact ⟨rfl, rfl⟩
  · cases plain

end TrapStep

namespace TrapDispatcher

theorem unused_records {dispatcher : TrapDispatcher} (tidy : dispatcher.Tidy) {i : Fin 4}
    (h : (dispatcher.entry i).inUse = false) : (dispatcher.entry i).records = [] := by
  rw [(tidy.entries i).unused h]

end TrapDispatcher

theorem TrapRecord.Aligned.not_apart {record : TrapRecord} (aligned : record.Aligned) :
    ¬record.Apart record := by
  have pos := trapLength_pos aligned.length_mem
  unfold TrapRecord.Apart RangesApart
  omega

/-- A registration adds one record to those in force. -/
theorem TrapSystem.Places.mem_liveRecords {callback : TrapCallback} {request : TrapRequest}
    {before after : TrapSystem} {i : Fin 4} {address : UInt16}
    (h : Places callback request before after i address) (tidy : before.dispatcher.Tidy)
    (record : TrapRecord) :
    record ∈ after.dispatcher.liveRecords ↔
      record ∈ before.dispatcher.liveRecords ∨
        record = before.dispatcher.newRecord callback request address := by
  have old : record ∈ before.dispatcher.liveRecords ↔ _ := TrapDispatcher.mem_liveRecords_at i
  have spent (entry : TrapEntry) : record ∈
      ((before.dispatcher.setEntry i entry).spendSerial).liveRecords ↔
        record ∈ entry.records ∨ ∃ j, j ≠ i ∧ record ∈ (before.dispatcher.entry j).records :=
    TrapDispatcher.mem_liveRecords_setEntry
  cases h with
  | room _ _ _ _ hd _ =>
    rw [hd, spent, old, List.mem_append, List.mem_singleton]
    grind
  | window _ _ unused _ _ hd _ =>
    rw [hd, spent, old, TrapDispatcher.unused_records tidy unused, List.mem_singleton]
    grind
  | dedicated _ _ _ unused hd _ =>
    rw [hd, spent, old, TrapDispatcher.unused_records tidy unused, List.mem_singleton]
    grind

namespace TrapDispatcher

theorem Tidy.register_eq {dispatcher : TrapDispatcher} (tidy : dispatcher.Tidy) {i j : Fin 4}
    {record : TrapRecord} (hi : record ∈ (dispatcher.entry i).records)
    (hj : record ∈ (dispatcher.entry j).records) : i = j := by
  by_cases h : i = j
  · exact h
  · obtain ⟨usedi, within⟩ := tidy.within hi
    obtain ⟨usedj, within'⟩ := tidy.within hj
    have apart := within.apart within' (tidy.apart h usedi usedj)
    exact absurd apart ((tidy.entries i).aligned record hi).not_apart

end TrapDispatcher

/-- A record is kept once on its register, so that none is left when it is dropped. -/
theorem TrapEntry.Tidy.ne_of_mem_eraseIdx {entry : TrapEntry} (tidy : entry.Tidy) {place : Nat}
    {record other : TrapRecord} (h : entry.records[place]? = some record)
    (hm : other ∈ entry.records.eraseIdx place) : other ≠ record := by
  rintro rfl
  obtain ⟨k, hne, hk⟩ := List.mem_eraseIdx_iff_getElem?.mp hm
  obtain ⟨hlt, he⟩ := List.getElem?_eq_some_iff.mp h
  obtain ⟨hlt', he'⟩ := List.getElem?_eq_some_iff.mp hk
  have aligned := tidy.aligned other (List.mem_of_getElem? h)
  have apart := List.pairwise_iff_getElem.mp tidy.apart
  rcases Nat.lt_or_gt_of_ne hne with lt | gt
  · exact aligned.not_apart (by simpa [he, he'] using apart k place hlt' hlt lt)
  · exact aligned.not_apart (by simpa [he, he'] using apart place k hlt hlt' gt)

theorem TrapDispatcher.Tidy.live_without {dispatcher : TrapDispatcher} (tidy : dispatcher.Tidy)
    {i : Fin 4} {place : Nat} {record other : TrapRecord}
    (h : (dispatcher.entry i).records[place]? = some record)
    (hm : other ∈ (dispatcher.setEntry i ((dispatcher.entry i).without place)).liveRecords) :
    other ∈ dispatcher.liveRecords ∧ other ≠ record := by
  rw [mem_liveRecords_setEntry, TrapEntry.without_records] at hm
  rw [mem_liveRecords]
  rcases hm with hm | ⟨j, hne, hj⟩
  · exact ⟨⟨i, List.mem_of_mem_eraseIdx hm⟩, (tidy.entries i).ne_of_mem_eraseIdx h hm⟩
  · refine ⟨⟨j, hj⟩, ?_⟩
    rintro rfl
    exact hne (tidy.register_eq hj (List.mem_of_getElem? h))

/-- The registrations in force, each made by a client of its own. -/
structure TrapSession.Roster (session : TrapSession) : Prop where
  tidy : session.system.dispatcher.Tidy
  enrolled : ∀ record ∈ session.system.dispatcher.liveRecords,
    record.callback.client < session.clients.length
  distinct : ∀ record ∈ session.system.dispatcher.liveRecords,
    ∀ other ∈ session.system.dispatcher.liveRecords,
      record.callback.client = other.callback.client → record = other
  plain : ∀ record ∈ session.system.dispatcher.liveRecords,
    record.callback.isExtended = false →
      record.request.byteEnable = 0 ∧ record.request.ignoredByteEnable = 0xF

namespace TrapSession

theorem Roster.of_eq {before after : TrapSession} (roster : before.Roster)
    (h : after.system.dispatcher.entries = before.system.dispatcher.entries)
    (le : before.clients.length ≤ after.clients.length) : after.Roster := by
  have live := TrapDispatcher.liveRecords_eq h
  refine ⟨roster.tidy.of_entries h, ?_, ?_, ?_⟩
  · rw [live]
    exact fun record hr => Nat.lt_of_lt_of_le (roster.enrolled record hr) le
  · rw [live]
    exact roster.distinct
  · rw [live]
    exact roster.plain

theorem Changes.clients_le {before after : TrapSession} {self : Option Nat} {step : TrapStep}
    (h : before.Changes self step after) : before.clients.length ≤ after.clients.length := by
  cases h with
  | same _ _ _ _ le => exact le
  | added _ _ _ _ clients => omega
  | dropped _ _ _ _ _ clients | switched _ _ _ _ _ _ clients | replaced _ _ _ _ clients =>
    exact Nat.le_of_eq (congrArg List.length clients.symm)

theorem Changes.roster {before after : TrapSession} {self : Option Nat} {step : TrapStep}
    (h : before.Changes self step after) (roster : before.Roster) : after.Roster := by
  have tidy := h.tidy roster.tidy
  cases h with
  | same _ _ entries _ le => exact roster.of_eq entries le
  | @added callback request reactions i address _ _ hr places clients =>
    have client := TrapStep.registration?_client hr
    have live := places.mem_liveRecords roster.tidy
    have bytes := TrapStep.registration?_plain hr
    refine ⟨tidy, ?_, ?_, ?_⟩
    · intro record hm
      rw [clients]
      rcases (live record).mp hm with hm | rfl
      · exact Nat.lt_succ_of_lt (roster.enrolled record hm)
      · exact Nat.lt_succ_of_le (Nat.le_of_eq client)
    · intro record hm other ho he
      rcases (live record).mp hm with hm | rfl
      · rcases (live other).mp ho with ho | rfl
        · exact roster.distinct record hm other ho he
        · exact absurd (he.trans client) (Nat.ne_of_lt (roster.enrolled record hm))
      · rcases (live other).mp ho with ho | rfl
        · exact absurd (he.symm.trans client) (Nat.ne_of_lt (roster.enrolled other ho))
        · rfl
    · intro record hm plain
      rcases (live record).mp hm with hm | rfl
      · exact roster.plain record hm plain
      · exact bytes plain
  | @dropped i place record _ _ placed hd _ clients =>
    have live (other : TrapRecord) (hm : other ∈ after.system.dispatcher.liveRecords) :
        other ∈ before.system.dispatcher.liveRecords := by
      rw [hd] at hm
      exact (roster.tidy.live_without placed hm).1
    refine ⟨tidy, ?_, ?_, ?_⟩
    · intro other hm
      rw [clients]
      exact roster.enrolled other (live other hm)
    · exact fun other hm third ht => roster.distinct other (live other hm) third (live third ht)
    · exact fun other hm => roster.plain other (live other hm)
  | switched _ _ _ _ hd _ clients | replaced _ _ _ hd clients =>
    exact roster.of_eq (congrArg _ hd) (Nat.le_of_eq (congrArg _ clients.symm))

end TrapSession

theorem TrapReach.roster {history : List TrapMove} {turn : TrapTurn}
    (reach : TrapReach history turn) (granted : ∀ move ∈ history, move.GrantsApart) :
    turn.session.Roster := by
  refine TrapReach.invariant (P := fun _ session => session.Roster) ?_ ?_ ?_ ?_ reach granted
  · intro allocations releases
    have none (record : TrapRecord) : record ∉ ({} : TrapDispatcher).liveRecords := by
      simp [TrapDispatcher.mem_liveRecords]
    exact ⟨TrapDispatcher.tidy_default, fun record h => absurd h (none record),
      fun record h => absurd h (none record), fun record h => absurd h (none record)⟩
  · intro history session self step grants roster
    exact (session.make_changes self step roster.tidy grants).roster roster
  · intro history session record writeData roster
    exact roster
  · intro history before after same roster
    refine roster.of_eq (by rw [same.dispatcher]) (Nat.le_of_eq same.clients.symm)

end PlatformFirmware
