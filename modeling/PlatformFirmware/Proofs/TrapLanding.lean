import Mathlib.Data.List.Pairwise
import PlatformFirmware.Proofs.TrapLedger
import PlatformFirmware.Proofs.TrapSearch

namespace PlatformFirmware

open TrapSystem

/-- Two windows, each given by its base, have no address in common. -/
def WindowsApart (base base' : UInt16) : Prop :=
  RangesApart base mergedTrapLength base' mergedTrapLength

/-- Each window that is granted is aligned, and apart from those that are held at that time. What
other ranges are trapped, an allocator does not know. -/
def HonestAllocator (history : List TrapMove) : Prop :=
  ∀ past move future, history = past ++ move :: future → ∀ base ∈ move.granted,
    mergedTrapLength.toNat ∣ base.toNat ∧ ∀ held ∈ heldWindows past, WindowsApart base held

/-- The register that a claim of `length` bytes is for when it comes without an address. -/
def TrapDispatcher.claimed? (dispatcher : TrapDispatcher) (length : UInt16) : Option (Fin 4) :=
  match dispatcher.sharedRoom? length with
  | some (i, _) => some i
  | none => dispatcher.unusedRegister?

/-- A register shares a window in which a range lies. -/
structure TrapEntry.Covers (entry : TrapEntry) (address length : UInt16) : Prop where
  used : entry.inUse = true
  shared : entry.isDedicated = false
  length_eq : entry.length = mergedTrapLength
  lo : entry.base.toNat ≤ address.toNat
  hi : address.toNat + length.toNat ≤ entry.base.toNat + mergedTrapLength.toNat

theorem TrapEntry.Covers.overlaps {entry : TrapEntry} {address length : UInt16}
    (covers : entry.Covers address length) (pos : 0 < length.toNat) :
    entry.overlaps address length = true := by
  have hi := covers.hi
  refine overlaps_of_start covers.used covers.lo ?_ pos
  rw [covers.length_eq]
  omega

theorem TrapEntry.Covers.not_apart {entry other : TrapEntry} {address length : UInt16}
    (covers : entry.Covers address length) (h : other.overlaps address length = true) :
    ¬other.Apart entry := by
  obtain ⟨_, below, above⟩ := (TrapEntry.overlaps_iff _ _ _).mp h
  have lo := covers.lo
  have hi := covers.hi
  unfold TrapEntry.Apart RangesApart
  rw [covers.length_eq]
  omega

theorem honestAllocator_nil : HonestAllocator [] := by
  intro past move future h
  simp at h

theorem honestAllocator_append {history : List TrapMove} {move : TrapMove} :
    HonestAllocator (history ++ [move]) ↔ HonestAllocator history ∧ ∀ base ∈ move.granted,
      mergedTrapLength.toNat ∣ base.toNat ∧
        ∀ held ∈ heldWindows history, WindowsApart base held := by
  constructor
  · intro honest
    refine ⟨fun past made future h => ?_, honest history move [] rfl⟩
    exact honest past made (future ++ [move]) (by simp [h])
  · rintro ⟨honest, last⟩ past made future h
    rcases last_or_earlier h with ⟨rfl, rfl, _⟩ | ⟨rest, he, _⟩
    · exact last
    · exact honest past made rest he

theorem heldWindows_pairwise {history : List TrapMove} {session : TrapSession}
    (sound : session.system.dispatcher.Sound) {self : Option Nat} {step : TrapStep}
    (apart : (heldWindows history).Pairwise WindowsApart)
    (granted : ∀ base ∈ (TrapMove.make session self step).granted,
      ∀ held ∈ heldWindows history, WindowsApart base held) :
    (heldWindows (history ++ [.make session self step])).Pairwise WindowsApart := by
  rcases session.make_settles sound self step with ⟨got, freed, _⟩ | ⟨base, got, freed, _⟩ |
    ⟨base, got, freed, _⟩
  · rw [heldWindows_quiet got freed]
    exact apart
  · have fresh := granted base (by simp [got])
    rw [heldWindows_append, got, freed]
    refine List.pairwise_append.mpr ⟨apart, List.pairwise_singleton _ _, ?_⟩
    intro held hh other ho
    obtain rfl := List.mem_singleton.mp ho
    exact RangesApart.symm (fresh held hh)
  · rw [heldWindows_append, got, freed, List.append_nil]
    exact apart.sublist List.erase_sublist

/-- The windows that an honest allocator has granted are apart for as long as they are held. -/
theorem TrapReach.heldWindows_apart {history : List TrapMove} {turn : TrapTurn}
    (reach : TrapReach history turn) (honest : HonestAllocator history) :
    (heldWindows history).Pairwise WindowsApart := by
  revert honest
  refine (reach.sound_induction (P := fun history _ => HonestAllocator history →
    (heldWindows history).Pairwise WindowsApart) ?_ ?_ ?_ ?_ ?_).2
  · exact fun _ _ _ => List.Pairwise.nil
  · intro history session self step sound ih honest
    obtain ⟨honest, last⟩ := honestAllocator_append.mp honest
    exact heldWindows_pairwise sound (ih honest) fun base hb => (last base hb).2
  · intro history session record writeData ih honest
    rw [heldWindows_quiet rfl rfl]
    exact ih (honestAllocator_append.mp honest).1
  · exact fun _ ih => ih
  · exact fun _ ih => ih

namespace TrapDispatcher

variable {dispatcher : TrapDispatcher}

theorem apart_of_windows (apart : dispatcher.windows.Pairwise WindowsApart) {i j : Fin 4}
    (h : i ≠ j) (usedi : (dispatcher.entry i).inUse = true)
    (sharedi : (dispatcher.entry i).isDedicated = false)
    (usedj : (dispatcher.entry j).inUse = true)
    (sharedj : (dispatcher.entry j).isDedicated = false) :
    WindowsApart (dispatcher.entry i).base (dispatcher.entry j).base := by
  have pairs := List.pairwise_filterMap.mp apart
  have here := TrapEntry.window?_eq_some.mpr ⟨usedi, sharedi, rfl⟩
  have there := TrapEntry.window?_eq_some.mpr ⟨usedj, sharedj, rfl⟩
  have symm : Std.Symm fun i j : Fin 4 => ∀ base, (dispatcher.entry i).window? = some base →
      ∀ base', (dispatcher.entry j).window? = some base' → WindowsApart base base' :=
    ⟨fun i j h base hb base' hb' => RangesApart.symm (h base' hb' base hb)⟩
  exact pairs.forall (List.mem_finRange i) (List.mem_finRange j) h _ here _ there

theorem findRegister?_congr {before after : TrapDispatcher} {test : TrapEntry → Bool}
    (h : ∀ i, test (after.entry i) = test (before.entry i)) :
    after.findRegister? test = before.findRegister? test := by
  simp only [findRegister?, h]

end TrapDispatcher

namespace TrapSystem

theorem ClaimsShared.covers {length address : UInt16} {before claimed : TrapSystem}
    (h : ClaimsShared length before (.ok address) claimed) (sound : before.dispatcher.Sound)
    (hlength : length ∈ trapLengths) :
    ∃ i, before.dispatcher.claimed? length = some i ∧
      (claimed.dispatcher.entry i).Covers address length ∧
      claimed.dispatcher.nextSerial = before.dispatcher.nextSerial ∧
      ∀ j, ∀ record ∈ (claimed.dispatcher.entry j).records,
        record ∈ (before.dispatcher.entry j).records := by
  have small := trapLength_toNat hlength
  cases h with
  | @room i offset found size =>
    have free := TrapDispatcher.sharedRoom?_eq_some found
    obtain ⟨used, shared, _, _, hfit⟩ := TrapEntry.freeOffset?_eq_some hlength free
    have start := toNat_add_of_lt size
    have here : (before.share i (offset + length)).dispatcher.entry i =
        { before.dispatcher.entry i with usedLength := offset + length } :=
      TrapDispatcher.setEntry_entry _ _ _
    refine ⟨i, by simp [TrapDispatcher.claimed?, found], ?_, rfl, fun j record hr => ?_⟩
    · rw [here]
      refine ⟨used, shared, ((sound i).shared used shared).1, ?_, ?_⟩
      · dsimp only
        omega
      · rw [mergedTrapLength_toNat]
        dsimp only
        omega
    · by_cases hj : j = i
      · subst hj
        rw [here] at hr
        exact hr
      · rwa [show (before.share i (offset + length)).dispatcher.entry j =
          before.dispatcher.entry j from TrapDispatcher.setEntry_other hj] at hr
  | @window i _ room unused answer =>
    refine ⟨i, by simp [TrapDispatcher.claimed?, room, unused], ?_, rfl, fun j record hr => ?_⟩
    · rw [program_dispatcher, TrapDispatcher.setEntry_entry]
      refine ⟨rfl, rfl, rfl, Nat.le_refl _, ?_⟩
      rw [mergedTrapLength_toNat]
      dsimp only [TrapEntry.window]
      omega
    · rw [program_dispatcher] at hr
      by_cases hj : j = i
      · subst hj
        rw [TrapDispatcher.setEntry_entry] at hr
        cases hr
      · rwa [TrapDispatcher.setEntry_other hj] at hr

theorem Registers.covers {client : Nat} {request : TrapRequest} {before after : TrapSystem}
    {handle : TrapHandle} {address : UInt16}
    (h : Registers (.plain client) request before (.ok (handle, address)) after)
    (zero : request.address = 0) (sound : before.dispatcher.Sound) :
    let record := before.dispatcher.newRecord (.plain client) request address
    ∃ i k, before.dispatcher.claimed? (roundedTrapLength request.length) = some i ∧
      (after.dispatcher.entry i).Covers address (roundedTrapLength request.length) ∧
      after.dispatcher.keeper? request address = some k ∧
      record.handle = handle ∧ record ∈ (after.dispatcher.entry k).records ∧
      ∀ j, ∀ other ∈ (after.dispatcher.entry j).records,
        other ∈ (before.dispatcher.entry j).records ∨ (j = k ∧ other = record) := by
  intro record
  cases h with
  | @kept _ claimed _ k _ _ claims keeper logged =>
    cases claims with
    | dedicated nonzero => exact absurd zero nonzero
    | shared _ _ claims =>
      obtain ⟨i, found, covers, serial, old⟩ :=
        claims.covers sound (roundedTrapLength_mem request.length)
      have same : record = claimed.dispatcher.newRecord (.plain client) request address := by
        simp only [record, TrapDispatcher.newRecord, serial]
      have here : after.dispatcher.entry k = { claimed.dispatcher.entry k with
          records := (claimed.dispatcher.entry k).records ++ [record] } := by
        rw [logged.dispatcher, same]
        exact TrapDispatcher.setEntry_entry _ _ _
      have there {j : Fin 4} (hj : j ≠ k) :
          after.dispatcher.entry j = claimed.dispatcher.entry j := by
        rw [logged.dispatcher]
        exact TrapDispatcher.setEntry_other hj
      -- Where the record is added, nothing but the list of records changes.
      have kept (j : Fin 4) : ∃ records,
          after.dispatcher.entry j = { claimed.dispatcher.entry j with records } := by
        by_cases hj : j = k
        · exact ⟨_, hj ▸ here⟩
        · exact ⟨_, there hj⟩
      refine ⟨i, k, found, ?_, ?_, ?_, ?_, fun j other ho => ?_⟩
      · obtain ⟨_, he⟩ := kept i
        rw [he]
        exact ⟨covers.used, covers.shared, covers.length_eq, covers.lo, covers.hi⟩
      · rw [← keeper]
        refine TrapDispatcher.findRegister?_congr fun j => ?_
        obtain ⟨_, he⟩ := kept j
        rw [he]
        rfl
      · rw [same]
        rfl
      · rw [here]
        simp
      · by_cases hj : j = k
        · subst hj
          rw [here] at ho
          rcases List.mem_append.mp ho with ho | ho
          · exact .inl (old j other ho)
          · exact .inr ⟨rfl, List.mem_singleton.mp ho⟩
        · rw [there hj] at ho
          exact .inl (old j other ho)

end TrapSystem

theorem TrapSession.make_register_ok {session : TrapSession} {self : Option Nat}
    {address length chosen : UInt16} {direction : TrapDirection}
    {reactions : List (List TrapStep)} {handle : TrapHandle}
    (h : (session.make self (.register address length direction reactions)).1 =
      .registered (.ok handle) chosen) :
    Registers (.plain session.clients.length) { address, length, direction } session.system
      (.ok (handle, chosen))
      (session.make self (.register address length direction reactions)).2.system :=
  make_registered rfl h

/-- A registration without an address is given room in the window of the register that is claimed
for it. It is kept there too, unless a register of a caller's own range comes before: an honest
allocator may have granted a window on top of that range. -/
theorem TrapReach.lands {history : List TrapMove} {turn : TrapTurn}
    (reach : TrapReach history turn) (honest : HonestAllocator history)
    {past future : List TrapMove} {session : TrapSession} {self : Option Nat} {length : UInt16}
    {direction : TrapDirection} {reactions : List (List TrapStep)} {handle : TrapHandle}
    {address : UInt16}
    (h : history = past ++ .make session self (.register 0 length direction reactions) :: future)
    (registered : (session.make self (.register 0 length direction reactions)).1 =
      .registered (.ok handle) address) :
    let after := (session.make self (.register 0 length direction reactions)).2.system
    let entry := after.dispatcher.entry
    ∃ i k record, session.system.dispatcher.claimed? (roundedTrapLength length) = some i ∧
      (entry i).Covers address (roundedTrapLength length) ∧
      record.handle = handle ∧ record.callback = .plain session.clients.length ∧
      record.request.address = address ∧ record ∈ (entry k).records ∧
      (k ≠ i → k < i ∧ (entry k).isDedicated = true ∧
        (entry k).overlaps address (roundedTrapLength length) = true) ∧
      ((∀ j, (entry j).isDedicated = true → (entry j).Apart (entry i)) →
        k = i ∧ (∀ j, j ≠ i → (entry j).inUse = true → (entry j).Apart (entry i)) ∧
        ((∀ other ∈ session.system.dispatcher.liveRecords, other.handle ≠ handle) →
          pause handle after = (.error (.refused .invalidParameter), after))) := by
  intro after entry
  obtain ⟨earlier, before, rfl⟩ : ∃ earlier, TrapReach past earlier ∧ earlier.session = session :=
    reach.before h
  have sound := before.sound
  have pos := trapLength_pos (roundedTrapLength_mem length)
  obtain ⟨i, k, claimed, covers, keeper, named, mem, old⟩ :=
    (TrapSession.make_register_ok registered).covers rfl sound
  have kept := earlier.session.make_sound sound self (.register 0 length direction reactions)
  have windows : after.dispatcher.windows.Pairwise WindowsApart := by
    have early : HonestAllocator past := by
      intro front move back he
      exact honest front move (back ++ .make earlier.session self
        (.register 0 length direction reactions) :: future) (by simp [h, he])
    have granted := fun base hb => (honest past _ future h base hb).2
    have held := heldWindows_pairwise sound (before.heldWindows_apart early) granted
    exact (List.Perm.pairwise_iff RangesApart.symm
      (TrapSession.heldWindows_make sound before.windows_held self _)).mp held
  have shares {j : Fin 4} (hj : j ≠ i) (used : (entry j).inUse = true)
      (shared : (entry j).isDedicated = false) : (entry j).Apart (entry i) := by
    have apart := TrapDispatcher.apart_of_windows windows hj used shared covers.used covers.shared
    unfold TrapEntry.Apart
    rwa [((kept j).shared used shared).1, covers.length_eq]
  have overlapped : (entry k).overlaps address (roundedTrapLength length) = true :=
    TrapDispatcher.findRegister?_eq_some keeper
  -- Shared windows are apart, so what comes before the claimed register is a caller's own range.
  have foreign (ne : k ≠ i) : (entry k).isDedicated = true := by
    by_contra shared
    have used := ((TrapEntry.overlaps_iff _ _ _).mp overlapped).1
    exact covers.not_apart overlapped (shares ne used (Bool.eq_false_iff.mpr shared))
  refine ⟨i, k, _, claimed, covers, named, rfl, rfl, mem, fun ne => ?_, fun clear => ?_⟩
  · have le : k ≤ i := (TrapDispatcher.findRegister?_eq_some_iff.mp keeper).2 (covers.overlaps pos)
    exact ⟨Nat.lt_of_le_of_ne le fun same => ne (Fin.ext same), foreign ne, overlapped⟩
  · have same : k = i := by
      by_contra ne
      exact covers.not_apart overlapped (clear k (foreign ne))
    refine ⟨same, fun j hj used => ?_, fun fresh => ?_⟩
    · cases alone : (entry j).isDedicated with
      | true => exact clear j alone
      | false => exact shares hj used alone
    · refine setEnabled_of_fixed (TrapDispatcher.controlRegister?_eq_none ?_) false
      intro j other ho named
      rcases old j other ho with ho | ⟨rfl, _⟩
      · exact absurd named (fresh other (TrapDispatcher.mem_liveRecords.mpr ⟨j, ho⟩))
      · rw [same]
        exact covers.shared

theorem TrapReach.lands_on_claimed :
    let start := TrapSession.start [.ok 0x1800] []
    let landed := start.make none (.register 0 4 .readWrite [])
    ∃ i record, start.system.dispatcher.claimed? (roundedTrapLength 4) = some i ∧
      record ∈ (landed.2.system.dispatcher.entry i).records ∧ record.handle = .ofSerial 1 ∧
      pause (.ofSerial 1) landed.2.system =
        (.error (.refused .invalidParameter), landed.2.system) := by
  intro start landed
  have reach := (TrapReach.start [.ok 0x1800] []).made (.register 0 4 .readWrite []) (by simp)
  have granted : (TrapMove.make start none (.register 0 4 .readWrite [])).granted = [0x1800] := by
    decide +kernel
  have honest : HonestAllocator ([] ++ [.make start none (.register 0 4 .readWrite [])]) := by
    refine honestAllocator_append.mpr ⟨honestAllocator_nil, fun base hb => ?_⟩
    rw [granted] at hb
    obtain rfl := List.mem_singleton.mp hb
    exact ⟨by decide, fun held hh => by cases hh⟩
  have registered : landed.1 = .registered (.ok (.ofSerial 1)) 0x1800 := by with_unfolding_all rfl
  obtain ⟨i, _, record, claimed, _, named, _, _, mem, _, clear⟩ :=
    reach.lands honest (show _ = [] ++ _ :: [] from rfl) registered
  have shared : ∀ j, (landed.2.system.dispatcher.entry j).isDedicated = false := by decide +kernel
  have empty : start.system.dispatcher.liveRecords = [] := by decide +kernel
  obtain ⟨rfl, _, refused⟩ :=
    clear fun j alone => absurd (alone.symm.trans (shared j)) (by simp)
  refine ⟨_, record, claimed, mem, named, refused fun other ho => ?_⟩
  rw [empty] at ho
  cases ho

/-- A window may be granted on top of a range that a caller chose: the registration that it was
granted for is then kept with that of the caller, and can be paused. -/
theorem TrapReach.lands_on_dedicated :
    let start := TrapSession.start [.ok 0x1800] []
    let alone := (start.make none (.register 0x1800 4 .readWrite [])).2
    let landed := alone.make none (.register 0 4 .readWrite [])
    let history := [.make start none (.register 0x1800 4 .readWrite []),
      .make alone none (.register 0 4 .readWrite [])]
    TrapReach history (.finished landed.2 landed.1) ∧ HonestAllocator history ∧
      landed.1 = .registered (.ok (.ofSerial 2)) 0x1800 ∧
      alone.system.dispatcher.claimed? (roundedTrapLength 4) = some 1 ∧
      (landed.2.system.dispatcher.entry 1).records = [] ∧
      (landed.2.system.dispatcher.entry 0).isDedicated = true ∧
      (landed.2.system.dispatcher.entry 0).records.map TrapRecord.handle =
        [.ofSerial 1, .ofSerial 2] ∧
      (pause (.ofSerial 2) landed.2.system).1 = .ok () := by
  intro start alone landed history
  have first := (TrapReach.start [.ok 0x1800] []).made (.register 0x1800 4 .readWrite []) (by simp)
  have reach : TrapReach history (.finished landed.2 landed.1) :=
    first.made (.register 0 4 .readWrite []) (by simp)
  have nothing : (TrapMove.make start none (.register 0x1800 4 .readWrite [])).granted = [] := by
    decide +kernel
  have granted : (TrapMove.make alone none (.register 0 4 .readWrite [])).granted = [0x1800] := by
    decide +kernel
  have held : heldWindows [.make start none (.register 0x1800 4 .readWrite [])] = [] := by
    decide +kernel
  have early : HonestAllocator ([] ++ [.make start none (.register 0x1800 4 .readWrite [])]) := by
    refine honestAllocator_append.mpr ⟨honestAllocator_nil, fun base hb => ?_⟩
    rw [nothing] at hb
    cases hb
  have honest : HonestAllocator history := by
    refine honestAllocator_append.mpr ⟨early, fun base hb => ?_⟩
    rw [granted] at hb
    obtain rfl := List.mem_singleton.mp hb
    refine ⟨by decide, fun window hw => ?_⟩
    rw [List.nil_append, held] at hw
    cases hw
  have registered : landed.1 = .registered (.ok (.ofSerial 2)) 0x1800 := by
    with_unfolding_all rfl
  refine ⟨reach, honest, registered, ?_, ?_, ?_, ?_, ?_⟩
  all_goals decide +kernel

end PlatformFirmware
