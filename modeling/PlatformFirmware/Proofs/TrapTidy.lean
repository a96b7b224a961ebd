import PlatformFirmware.Proofs.TrapChange
import PlatformFirmware.Proofs.TrapReach

namespace PlatformFirmware

open TrapSystem

theorem TrapRequest.aligned_of_mod {request : TrapRequest} {callback : TrapCallback}
    (dispatcher : TrapDispatcher) (h : request.address % roundedTrapLength request.length = 0) :
    (dispatcher.newRecord callback request request.address).Aligned := by
  refine ⟨roundedTrapLength_mem _, Nat.dvd_of_mod_eq_zero ?_⟩
  have hmod := congrArg UInt16.toNat h
  rw [UInt16.toNat_mod] at hmod
  exact hmod

theorem TrapSystem.Places.tidy {callback : TrapCallback} {request : TrapRequest}
    {before after : TrapSystem} {i : Fin 4} {address : UInt16}
    (h : Places callback request before after i address) (tidy : before.dispatcher.Tidy) :
    after.dispatcher.Tidy := by
  have length := roundedTrapLength_mem request.length
  cases h with
  | room _ plain free size hd _ =>
    rw [hd]
    refine .of_entries (tidy.setEntry ?_ ?_) rfl
    · exact (tidy.entries i).share free size rfl length plain
    · exact fun used j hj usedj => tidy.apart (Ne.symm hj) used usedj
  | window _ plain _ dvd clear hd _ =>
    rw [hd]
    refine .of_entries (tidy.setEntry ?_ ?_) rfl
    · have aligned : (before.dispatcher.newRecord callback request address).Aligned :=
        ⟨length, Nat.dvd_trans (trapLength_dvd length) dvd⟩
      exact TrapEntry.tidy_window aligned plain dvd
    · exact fun _ j _ usedj => ((TrapEntry.overlaps_eq_false_iff _ _ _).mp (clear j) usedj).symm
  | dedicated nonzero aligned clear _ hd _ =>
    rw [hd]
    refine .of_entries (tidy.setEntry ?_ ?_) rfl
    · exact TrapEntry.tidy_dedicated (request.aligned_of_mod _ aligned) nonzero
    · exact fun _ j _ usedj => ((TrapEntry.overlaps_eq_false_iff _ _ _).mp (clear j) usedj).symm

theorem TrapDispatcher.Tidy.without {dispatcher : TrapDispatcher} (tidy : dispatcher.Tidy)
    (i : Fin 4) (place : Nat) :
    (dispatcher.setEntry i ((dispatcher.entry i).without place)).Tidy := by
  unfold TrapEntry.without
  split
  · refine tidy.setEntry TrapEntry.tidy_default ?_
    intro used
    cases used
  next rest =>
    refine tidy.setEntry ((tidy.entries i).eraseIdx rest) ?_
    intro used j hj usedj
    exact tidy.apart (Ne.symm hj) used usedj

theorem TrapSession.Changes.tidy {before after : TrapSession} {self : Option Nat}
    {step : TrapStep} (h : before.Changes self step after)
    (tidy : before.system.dispatcher.Tidy) : after.system.dispatcher.Tidy := by
  cases h with
  | same _ _ entries => exact tidy.of_entries entries
  | added _ _ _ places => exact places.tidy tidy
  | dropped _ _ _ hd =>
    rw [hd]
    exact tidy.without _ _
  | switched _ _ _ _ hd =>
    rw [hd]
    exact tidy
  | replaced _ _ _ hd =>
    rw [hd]
    exact tidy

theorem TrapReach.tidy {history : List TrapMove} {turn : TrapTurn}
    (reach : TrapReach history turn) (granted : ∀ move ∈ history, move.GrantsApart) :
    turn.session.system.dispatcher.Tidy := by
  refine TrapReach.invariant (P := fun _ session => session.system.dispatcher.Tidy)
    ?_ ?_ ?_ ?_ reach granted
  · intro allocations releases
    exact TrapDispatcher.tidy_default
  · intro history session self step grants tidy
    exact (session.make_changes self step tidy grants).tidy tidy
  · intro history session record writeData tidy
    exact tidy
  · intro history before after same tidy
    rw [same.dispatcher]
    exact tidy

/-- What holds of a new session and is kept by every change to a tidy one holds of every turn that
is reached while windows are granted apart. -/
theorem TrapReach.tidy_induction {P : List TrapMove → TrapSession → Prop}
    (start : ∀ allocations releases, P [] (.start allocations releases))
    (make : ∀ {history session} self step, session.system.dispatcher.Tidy →
      session.Changes self step (session.make self step).2 → P history session →
      P (history ++ [.make session self step]) (session.make self step).2)
    (call : ∀ {history session} record writeData, P history session →
      P (history ++ [.call session record writeData]) session)
    (same : ∀ {history before after}, TrapSession.SameTraps before after → P history before →
      P history after)
    {history : List TrapMove} {turn : TrapTurn} (reach : TrapReach history turn)
    (granted : ∀ move ∈ history, move.GrantsApart) : P history turn.session := by
  have both := TrapReach.invariant (P := fun history session =>
    session.system.dispatcher.Tidy ∧ P history session) ?_ ?_ ?_ ?_ reach granted
  · exact both.2
  · exact fun allocations releases => ⟨TrapDispatcher.tidy_default, start allocations releases⟩
  · rintro history session self step grants ⟨tidy, ih⟩
    have changes := session.make_changes self step tidy grants
    exact ⟨changes.tidy tidy, make self step tidy changes ih⟩
  · exact fun record writeData kept => ⟨kept.1, call record writeData kept.2⟩
  · exact fun traps kept => ⟨traps.dispatcher ▸ kept.1, same traps kept.2⟩

/-- Every reachable dispatcher lays out its ranges apart, each register and record in its own. -/
theorem TrapReach.layout {history : List TrapMove} {turn : TrapTurn}
    (reach : TrapReach history turn) (granted : ∀ move ∈ history, move.GrantsApart) :
    let dispatcher := turn.session.system.dispatcher
    (∀ i j : Fin 4, i ≠ j → (dispatcher.entry i).inUse = true →
      (dispatcher.entry j).inUse = true →
      RangesApart (dispatcher.entry i).base (dispatcher.entry i).length
        (dispatcher.entry j).base (dispatcher.entry j).length) ∧
    (∀ i : Fin 4,
      ((dispatcher.entry i).inUse = true ↔ (dispatcher.entry i).records ≠ []) ∧
      ((dispatcher.entry i).inUse = false → dispatcher.entry i = {})) ∧
    (∀ i : Fin 4, (dispatcher.entry i).isDedicated = true →
      ∃ record, (dispatcher.entry i).records = [record] ∧
        (dispatcher.entry i).base = record.request.address ∧
        (dispatcher.entry i).length = record.length) ∧
    (∀ i : Fin 4, (dispatcher.entry i).inUse = true →
      (dispatcher.entry i).isDedicated = false →
      (∀ record ∈ (dispatcher.entry i).records,
        record.Within (dispatcher.entry i).base (dispatcher.entry i).usedLength) ∧
      (dispatcher.entry i).usedLength ≤ 0x100 ∧ (dispatcher.entry i).length = 0x100) ∧
    (∀ record ∈ dispatcher.liveRecords, record.length.toNat.isPowerOfTwo ∧
      4 ≤ record.length ∧ record.length ≤ 0x100 ∧
      record.length.toNat ∣ record.request.address.toNat) ∧
    dispatcher.liveRecords.Pairwise fun first second =>
      RangesApart first.request.address first.length second.request.address second.length := by
  intro dispatcher
  have tidy : dispatcher.Tidy := reach.tidy granted
  refine ⟨fun i j hij hi hj => tidy.apart hij hi hj, fun i => ⟨⟨(tidy.entries i).kept, ?_⟩,
    (tidy.entries i).unused⟩, fun i hd => ?_, fun i used shared => ?_, fun record hr => ?_,
    tidy.liveRecords_apart⟩
  · intro some
    cases used : (dispatcher.entry i).inUse with
    | true => rfl
    | false =>
      rw [(tidy.entries i).unused used] at some
      exact absurd rfl some
  · obtain ⟨record, serves⟩ := (tidy.entries i).dedicated hd
    exact ⟨record, serves.alone, serves.base_eq, serves.length_eq⟩
  · have window := (tidy.entries i).window used shared
    exact ⟨window.within, UInt16.le_iff_toNat_le.mpr window.used_le, window.length_eq⟩
  · obtain ⟨i, hi⟩ := TrapDispatcher.mem_liveRecords.mp hr
    have aligned := (tidy.entries i).aligned record hi
    have range := trapLength_toNat aligned.length_mem
    refine ⟨trapLength_isPowerOfTwo aligned.length_mem, ?_, ?_, aligned.dvd⟩
    · rw [UInt16.le_iff_toNat_le, show (4 : UInt16).toNat = 4 from rfl]
      omega
    · rw [UInt16.le_iff_toNat_le, show (0x100 : UInt16).toNat = 256 from rfl]
      omega

theorem TrapReach.layout_of_two :
    let start := TrapSession.start [.ok 0x1800] []
    let shared := (start.make none (.register 0 8 .readWrite [])).2
    let dedicated := (shared.make none (.register 0x60 4 .write [])).2
    dedicated.system.dispatcher.liveRecords.length = 2 ∧
      dedicated.system.dispatcher.liveRecords.Pairwise fun first second =>
        RangesApart first.request.address first.length second.request.address second.length := by
  intro start shared dedicated
  have first := (TrapReach.start [.ok 0x1800] []).made (.register 0 8 .readWrite []) (by simp)
  have reach : TrapReach _ (.finished dedicated _) :=
    first.made (.register 0x60 4 .write []) (by simp)
  have granted : ∀ move ∈ [TrapMove.make start none (.register 0 8 .readWrite []),
      .make shared none (.register 0x60 4 .write [])], move.GrantsApart := by
    intro move hm
    simp only [List.mem_cons, List.not_mem_nil, or_false] at hm
    rcases hm with rfl | rfl
    · intro base h
      cases h
      decide
    · intro base h
      cases h
  obtain ⟨_, _, _, _, _, apart⟩ := reach.layout granted
  rw [TrapTurn.session_finished] at apart
  exact ⟨by decide +kernel, apart⟩

end PlatformFirmware
