import PlatformFirmware.Proofs.TrapReach
import PlatformFirmware.Proofs.TrapChange

namespace PlatformFirmware

open TrapSystem

/-- What holds of an entry whatever the allocator answers: its flags say whose range it is. -/
structure TrapEntry.Sound (entry : TrapEntry) : Prop where
  unused : entry.inUse = false → entry = {}
  shared : entry.inUse = true → entry.isDedicated = false →
    entry.length = mergedTrapLength ∧ entry.isCallerOwned = false
  owned : entry.isDedicated = true → entry.isCallerOwned = true

namespace TrapEntry

theorem sound_default : ({} : TrapEntry).Sound where
  unused _ := rfl
  shared used := by cases used
  owned alone := by cases alone

theorem sound_window (base used : UInt16) : (window base used).Sound where
  unused h := by cases h
  shared _ _ := ⟨rfl, rfl⟩
  owned alone := by cases alone

theorem sound_dedicated (address length : UInt16) : (dedicated address length).Sound where
  unused h := by cases h
  shared _ alone := by cases alone
  owned _ := rfl

/-- An entry in use stays sound when only its records and the bytes handed out change. -/
theorem Sound.update {entry : TrapEntry} (sound : entry.Sound) (used : entry.inUse = true)
    (records : List TrapRecord) (usedLength : UInt16) :
    ({ entry with records, usedLength } : TrapEntry).Sound where
  unused h := absurd (used.symm.trans h) (by simp)
  shared := sound.shared
  owned := sound.owned

theorem Sound.used_of_mem {entry : TrapEntry} (sound : entry.Sound) {record : TrapRecord}
    (h : record ∈ entry.records) : entry.inUse = true := by
  cases used : entry.inUse with
  | true => rfl
  | false =>
    rw [sound.unused used] at h
    cases h

theorem Sound.without {entry : TrapEntry} (sound : entry.Sound) (place : Nat) :
    (entry.without place).Sound := by
  unfold TrapEntry.without
  split
  · exact sound_default
  next rest =>
    obtain ⟨record, hr⟩ := List.exists_mem_of_ne_nil _ rest
    have used := sound.used_of_mem (List.mem_of_mem_eraseIdx hr)
    exact sound.update used _ _

end TrapEntry

/-- All entries are sound. -/
def TrapDispatcher.Sound (dispatcher : TrapDispatcher) : Prop :=
  ∀ i : Fin 4, (dispatcher.entry i).Sound

namespace TrapDispatcher

theorem sound_default : ({} : TrapDispatcher).Sound := by
  intro i
  rw [entry_default]
  exact TrapEntry.sound_default

theorem Sound.of_entries {before after : TrapDispatcher} (sound : before.Sound)
    (h : after.entries = before.entries) : after.Sound := by
  intro i
  rw [entry_congr h]
  exact sound i

theorem Sound.setEntry {dispatcher : TrapDispatcher} (sound : dispatcher.Sound) (i : Fin 4)
    {entry : TrapEntry} (h : entry.Sound) : (dispatcher.setEntry i entry).Sound := by
  intro j
  by_cases hj : j = i
  · subst hj
    rw [setEntry_entry]
    exact h
  · rw [setEntry_other hj]
    exact sound j

theorem findRegister?_isSome {dispatcher : TrapDispatcher} {test : TrapEntry → Bool} {i : Fin 4}
    (h : test (dispatcher.entry i) = true) : ∃ j, dispatcher.findRegister? test = some j := by
  cases hf : dispatcher.findRegister? test with
  | some j => exact ⟨j, rfl⟩
  | none => exact absurd h (List.find?_eq_none.mp hf i (List.mem_finRange i))

end TrapDispatcher

namespace TrapSystem

variable {callback : TrapCallback} {request : TrapRequest} {before after : TrapSystem}

theorem ClaimsShared.sound {length : UInt16} {result : Except Fault UInt16}
    (h : ClaimsShared length before result after) (sound : before.dispatcher.Sound) :
    after.dispatcher.Sound := by
  have share {i : Fin 4} {offset : UInt16} (used : UInt16)
      (found : before.dispatcher.sharedRoom? length = some (i, offset)) :
      (before.share i used).dispatcher.Sound := by
    have free := TrapDispatcher.sharedRoom?_eq_some found
    simp only [TrapEntry.freeOffset?, Option.ite_none_right_eq_some, Bool.and_eq_true] at free
    exact sound.setEntry i ((sound i).update free.1.1.1 _ used)
  cases h with
  | room found _ => exact share _ found
  | overflow found _ => exact share _ found
  | noRegister _ _ logged =>
    rw [logged.dispatcher]
    exact sound
  | noWindow _ _ _ logged =>
    rw [logged.dispatcher]
    exact sound
  | window => exact sound.setEntry _ (TrapEntry.sound_window _ _)

theorem ClaimsDedicated.sound {length : UInt16} {result : Except Fault Unit}
    (h : ClaimsDedicated request length before result after) (sound : before.dispatcher.Sound) :
    after.dispatcher.Sound := by
  cases h with
  | misaligned _ logged | taken _ _ _ logged | noRegister _ _ _ _ logged =>
    rw [logged.dispatcher]
    exact sound
  | dedicated => exact sound.setEntry _ (TrapEntry.sound_dedicated _ _)

theorem Claims.sound {result : Except Fault UInt16}
    (h : Claims callback request before result after) (sound : before.dispatcher.Sound) :
    after.dispatcher.Sound := by
  cases h with
  | noAddress _ _ logged =>
    rw [logged.dispatcher]
    exact sound
  | shared _ _ claims => exact claims.sound sound
  | dedicated _ claims => exact claims.sound sound
  | refused _ claims => exact claims.sound sound

/-- A range that was claimed overlaps a register in use, if only the one it was claimed on. -/
theorem Claims.keeper {address : UInt16} (h : Claims callback request before (.ok address) after)
    (sound : before.dispatcher.Sound) :
    ∃ i, after.dispatcher.keeper? request address = some i := by
  have length := roundedTrapLength_mem request.length
  have pos := trapLength_pos length
  have here {i : Fin 4} {entry : TrapEntry} (used : entry.inUse = true)
      (lo : entry.base.toNat ≤ address.toNat)
      (hi : address.toNat < entry.base.toNat + entry.length.toNat) :
      ∃ j, (before.dispatcher.setEntry i entry).keeper? request address = some j := by
    refine TrapDispatcher.findRegister?_isSome (i := i) ?_
    rw [TrapDispatcher.setEntry_entry]
    exact overlaps_of_start used lo hi pos
  cases h with
  | shared _ _ claims =>
    cases claims with
    | @room i offset found size =>
      have free := TrapDispatcher.sharedRoom?_eq_some found
      obtain ⟨used, shared, _, _, hfit⟩ := TrapEntry.freeOffset?_eq_some length free
      have reach := ((sound i).shared used shared).1
      have start := toNat_add_of_lt size
      refine here used (by dsimp only; omega) ?_
      dsimp only
      rw [reach, mergedTrapLength_toNat]
      omega
    | window => exact here rfl (Nat.le_refl _) (Nat.lt_add_of_pos_right
      (show 0 < mergedTrapLength.toNat by decide))
  | dedicated _ claims =>
    cases claims with
    | dedicated => exact here rfl (Nat.le_refl _) (Nat.lt_add_of_pos_right pos)

theorem Registers.sound {result : Except Fault (TrapHandle × UInt16)}
    (h : Registers callback request before result after) (sound : before.dispatcher.Sound) :
    after.dispatcher.Sound := by
  cases h with
  | locked _ logged =>
    rw [logged.dispatcher]
    exact sound
  | noRange _ _ logged =>
    rw [logged.dispatcher]
    exact sound
  | unclaimed _ _ claims => exact claims.sound sound
  | unkept _ _ claims _ => exact (claims.sound sound).of_entries rfl
  | @kept address claimed _ i _ _ claims keeper logged =>
    rw [logged.dispatcher]
    have claimed := claims.sound sound
    have overlapped := TrapDispatcher.findRegister?_eq_some keeper
    have used := ((TrapEntry.overlaps_iff _ _ _).mp overlapped).1
    exact TrapDispatcher.Sound.setEntry (claimed.of_entries rfl) i ((claimed i).update used _ _)

theorem Drops.sound {handle : TrapHandle} {extended : Bool} {result : Except Fault Unit}
    (h : Drops handle extended before result after) (sound : before.dispatcher.Sound) :
    after.dispatcher.Sound := by
  cases result with
  | error fault =>
    rw [h.refuses.dispatcher]
    exact sound
  | ok _ =>
    obtain ⟨i, place, _, _, hd, _⟩ := h.done
    rw [hd]
    exact sound.setEntry i ((sound i).without place)

theorem Switches.dispatcher_eq {handle : TrapHandle} {on : Bool} {result : Except Fault Unit}
    (h : Switches handle on before result after) : after.dispatcher = before.dispatcher := by
  cases h with
  | fixed | switched => rfl
  | already _ _ logged => exact logged.dispatcher

end TrapSystem

theorem TrapSession.make_sound {session : TrapSession} (sound : session.system.dispatcher.Sound)
    (self : Option Nat) (step : TrapStep) :
    (session.make self step).2.system.dispatcher.Sound := by
  have makes := make_makes session self step
  generalize (session.make self step).1 = outcome at makes
  generalize (session.make self step).2 = after at makes ⊢
  cases makes with
  | registers _ registers => exact registers.sound sound
  | missing => exact sound
  | drops _ _ drops => exact drops.sound sound
  | switches _ _ switches =>
    rw [switches.dispatcher_eq]
    exact sound
  | locks => exact sound.of_entries rfl
  | latches | sets => exact sound
  | begins =>
    rw [show (session.act beginDispatch).2.system.dispatcher = session.system.dispatcher from
      (beginDispatch_notes session.system).dispatcher]
    exact sound

/-- What holds of a new session and is kept by all that happens to a sound one holds of every turn
that is reached, also with an allocator that grants anything. -/
theorem TrapReach.sound_induction {P : List TrapMove → TrapSession → Prop}
    (start : ∀ allocations releases, P [] (.start allocations releases))
    (make : ∀ {history session} self step, session.system.dispatcher.Sound → P history session →
      P (history ++ [.make session self step]) (session.make self step).2)
    (call : ∀ {history session} record writeData, P history session →
      P (history ++ [.call session record writeData])
        ((session.note (TrapSession.callEvent record writeData)).takeReaction
          record.callback.client).2)
    (clear : ∀ {history session} mask, P history session →
      P history (session.act (clearStatus mask)).2)
    (nested : ∀ {history session} outcome, P history session →
      P history (session.note (.nested outcome)))
    {history : List TrapMove} {turn : TrapTurn} (reach : TrapReach history turn) :
    turn.session.system.dispatcher.Sound ∧ P history turn.session := by
  refine TrapReach.session_induction (P := fun history session =>
    session.system.dispatcher.Sound ∧ P history session) ?_ ?_ ?_ ?_ ?_ reach
  · exact fun allocations releases => ⟨TrapDispatcher.sound_default, start allocations releases⟩
  · rintro history session self step ⟨sound, ih⟩
    exact ⟨session.make_sound sound self step, make self step sound ih⟩
  · rintro history session record writeData ⟨sound, ih⟩
    exact ⟨sound, call record writeData ih⟩
  · rintro history session mask ⟨sound, ih⟩
    exact ⟨sound, clear mask ih⟩
  · rintro history session outcome ⟨sound, ih⟩
    exact ⟨sound, nested outcome ih⟩

theorem TrapReach.sound {history : List TrapMove} {turn : TrapTurn}
    (reach : TrapReach history turn) : turn.session.system.dispatcher.Sound := by
  have both := reach.sound_induction (P := fun _ _ => True) (fun _ _ => trivial)
    (fun _ _ _ _ => trivial) (fun _ _ _ => trivial) (fun _ _ => trivial) (fun _ _ => trivial)
  exact both.1

end PlatformFirmware
