import PlatformFirmware.Proofs.TrapLayout
import PlatformFirmware.Proofs.TrapRegistration

namespace PlatformFirmware

namespace TrapSystem

/-- A window that the allocator hands out in between is aligned, and clear of all ranges in use. -/
def GrantsApart (before after : TrapSystem) : Prop :=
  ∀ base, before.allocations = .ok base :: after.allocations →
    mergedTrapLength.toNat ∣ base.toNat ∧
      ∀ i : Fin 4, (before.dispatcher.entry i).overlaps base mergedTrapLength = false

/-- Where a registration is kept, and what is programmed for it. -/
inductive Places (callback : TrapCallback) (request : TrapRequest) (before after : TrapSystem) :
    Fin 4 → UInt16 → Prop
  | room {i offset} : request.address = 0 → callback.isExtended = false →
      (before.dispatcher.entry i).freeOffset? (roundedTrapLength request.length) = some offset →
      (before.dispatcher.entry i).base.toNat + offset.toNat < UInt16.size →
      after.dispatcher = (before.dispatcher.setEntry i
        { before.dispatcher.entry i with
          usedLength := offset + roundedTrapLength request.length
          records := (before.dispatcher.entry i).records ++ [before.dispatcher.newRecord callback
            request ((before.dispatcher.entry i).base + offset)] }).spendSerial →
      after.hardware = before.hardware →
      Places callback request before after i ((before.dispatcher.entry i).base + offset)
  | window {i base} : request.address = 0 → callback.isExtended = false →
      (before.dispatcher.entry i).inUse = false → mergedTrapLength.toNat ∣ base.toNat →
      (∀ j : Fin 4, (before.dispatcher.entry j).overlaps base mergedTrapLength = false) →
      after.dispatcher = (before.dispatcher.setEntry i
        { TrapEntry.window base (roundedTrapLength request.length) with
          records := [before.dispatcher.newRecord callback request base] }).spendSerial →
      after.hardware =
        before.hardware.setRegister i (.ofRange base mergedTrapLength .readWrite) →
      Places callback request before after i base
  | dedicated {i} : request.address ≠ 0 →
      request.address % roundedTrapLength request.length = 0 →
      (∀ j : Fin 4, (before.dispatcher.entry j).overlaps request.address
        (roundedTrapLength request.length) = false) →
      (before.dispatcher.entry i).inUse = false →
      after.dispatcher = (before.dispatcher.setEntry i
        { TrapEntry.dedicated request.address (roundedTrapLength request.length) with
          records := [before.dispatcher.newRecord callback request request.address] }).spendSerial →
      after.hardware = before.hardware.setRegister i
        (.ofRequest request (roundedTrapLength request.length)) →
      Places callback request before after i request.address

/-- A registration leaves the other registers as they are. -/
theorem Places.entry_other {callback : TrapCallback} {request : TrapRequest}
    {before after : TrapSystem} {i j : Fin 4} {address : UInt16}
    (h : Places callback request before after i address) (other : j ≠ i) :
    after.dispatcher.entry j = before.dispatcher.entry j := by
  cases h with
  | room _ _ _ _ hd _ | window _ _ _ _ _ hd _ | dedicated _ _ _ _ hd _ =>
    rw [hd, TrapDispatcher.spendSerial_entry, TrapDispatcher.setEntry_other other]

theorem overlaps_of_start {entry : TrapEntry} {address length : UInt16}
    (used : entry.inUse = true) (lo : entry.base.toNat ≤ address.toNat)
    (hi : address.toNat < entry.base.toNat + entry.length.toNat) (pos : 0 < length.toNat) :
    entry.overlaps address length = true := by
  rw [TrapEntry.overlaps_iff]
  exact ⟨used, hi, by omega⟩

/-- A new range is found again by the search for what overlaps it. -/
theorem keeper?_setEntry {dispatcher : TrapDispatcher} {request : TrapRequest} {i : Fin 4}
    {entry : TrapEntry} {address : UInt16}
    (h : entry.overlaps address (roundedTrapLength request.length) = true)
    (clear : ∀ j, j ≠ i → (dispatcher.entry j).overlaps address
      (roundedTrapLength request.length) = false) :
    (dispatcher.setEntry i entry).keeper? request address = some i := by
  apply TrapDispatcher.findRegister?_of_unique
  · rw [TrapDispatcher.setEntry_entry]
    exact h
  · intro j hj
    rw [TrapDispatcher.setEntry_other hj]
    exact clear j hj

theorem keep_setEntry (dispatcher : TrapDispatcher) (i : Fin 4) (entry : TrapEntry)
    (record : TrapRecord) :
    (dispatcher.setEntry i entry).spendSerial.keep i record =
      (dispatcher.setEntry i { entry with records := entry.records ++ [record] }).spendSerial := by
  have spent : (dispatcher.setEntry i entry).spendSerial.entry i = entry :=
    TrapDispatcher.setEntry_entry dispatcher i entry
  simp only [TrapDispatcher.keep, TrapDispatcher.modifyEntry, spent]
  simp [TrapDispatcher.setEntry, TrapDispatcher.spendSerial]

theorem nextWindow_ok {system : TrapSystem} {base : UInt16} (h : system.nextWindow = .ok base) :
    system.allocations = .ok base :: system.allocations.tail := by
  unfold nextWindow at h
  cases hs : system.allocations with
  | nil => rw [hs] at h; cases h
  | cons answer rest =>
    rw [hs] at h
    rw [show answer = .ok base from h]
    rfl

theorem overlaps_other {dispatcher : TrapDispatcher} (tidy : dispatcher.Tidy) {i j : Fin 4}
    {address length : UInt16} (used : (dispatcher.entry i).inUse = true)
    (lo : (dispatcher.entry i).base.toNat ≤ address.toNat)
    (hi : address.toNat + length.toNat ≤
      (dispatcher.entry i).base.toNat + (dispatcher.entry i).length.toNat)
    (h : j ≠ i) : (dispatcher.entry j).overlaps address length = false := by
  rw [TrapEntry.overlaps_eq_false_iff]
  intro usedj
  have apart := tidy.apart h usedj used
  unfold TrapEntry.Apart RangesApart at apart
  unfold RangesApart
  omega

section

variable {request : TrapRequest} {before : TrapSystem} {i : Fin 4}

theorem keeper?_share (tidy : before.dispatcher.Tidy) {offset : UInt16}
    (free : (before.dispatcher.entry i).freeOffset? (roundedTrapLength request.length) =
      some offset)
    (size : (before.dispatcher.entry i).base.toNat + offset.toNat < UInt16.size) (used : UInt16) :
    (before.share i used).dispatcher.keeper? request ((before.dispatcher.entry i).base + offset) =
      some i := by
  have length := roundedTrapLength_mem request.length
  obtain ⟨inUse, shared, _, _, hfit⟩ := TrapEntry.freeOffset?_eq_some length free
  have window := (tidy.entries i).window inUse shared
  have start := toNat_add_of_lt size
  have reach : (before.dispatcher.entry i).length.toNat = 256 := by
    rw [window.length_eq, mergedTrapLength_toNat]
  have pos := trapLength_pos length
  refine keeper?_setEntry ?_ ?_
  · exact overlaps_of_start inUse (by dsimp only; omega) (by dsimp only; omega) pos
  · exact fun j hj => overlaps_other tidy inUse (by omega) (by omega) hj

theorem keeper?_window {base : UInt16}
    (clear : ∀ j : Fin 4, (before.dispatcher.entry j).overlaps base mergedTrapLength = false)
    (register : TrapRegister) (used : UInt16) :
    (before.asked.program i register (.window base used)).dispatcher.keeper? request base =
      some i := by
  have length := roundedTrapLength_mem request.length
  have small := trapLength_toNat length
  refine keeper?_setEntry ?_ ?_
  · exact overlaps_of_start rfl (Nat.le_refl _)
      (Nat.lt_add_of_pos_right (show 0 < mergedTrapLength.toNat by decide)) (trapLength_pos length)
  · exact fun j _ => TrapEntry.overlaps_mono (clear j) (by rw [mergedTrapLength_toNat]; omega)

theorem keeper?_dedicated
    (clear : ∀ j : Fin 4, (before.dispatcher.entry j).overlaps request.address
      (roundedTrapLength request.length) = false) (register : TrapRegister) :
    (before.program i register (.dedicated request.address
      (roundedTrapLength request.length))).dispatcher.keeper? request request.address = some i := by
  have pos := trapLength_pos (roundedTrapLength_mem request.length)
  refine keeper?_setEntry ?_ fun j _ => clear j
  exact overlaps_of_start rfl (Nat.le_refl _) (Nat.lt_add_of_pos_right pos) pos

end

/-- What is registered at a claimed address is kept on the register that was claimed. -/
theorem Claims.kept {callback : TrapCallback} {request : TrapRequest}
    {before claimed : TrapSystem} {address : UInt16}
    (h : Claims callback request before (.ok address) claimed)
    (tidy : before.dispatcher.Tidy) (grants : before.GrantsApart claimed) :
    claimed.dispatcher.nextSerial = before.dispatcher.nextSerial ∧
      ∃ i, claimed.dispatcher.keeper? request address = some i ∧
        ∀ after : TrapSystem, after.hardware = claimed.hardware →
          after.dispatcher = claimed.dispatcher.spendSerial.keep i
            (claimed.dispatcher.newRecord callback request address) →
          Places callback request before after i address := by
  cases h with
  | shared hz plain claims =>
    cases claims with
    | @room i offset found size =>
      have free := TrapDispatcher.sharedRoom?_eq_some found
      refine ⟨rfl, i, keeper?_share tidy free size _, fun after hh hd => ?_⟩
      exact .room hz plain free size (hd.trans (keep_setEntry _ _ _ _)) hh
    | @window i _ _ unused answer =>
      obtain ⟨dvd, clear⟩ := grants address (nextWindow_ok answer)
      have unused := TrapDispatcher.unusedRegister?_eq_some unused
      refine ⟨rfl, i, keeper?_window clear _ _, fun after hh hd => ?_⟩
      exact .window hz plain unused dvd clear (hd.trans (keep_setEntry _ _ _ _)) hh
  | dedicated hz claims =>
    cases claims with
    | @dedicated i aligned _ clear unused =>
      have unused := TrapDispatcher.unusedRegister?_eq_some unused
      refine ⟨rfl, i, keeper?_dedicated clear _, fun after hh hd => ?_⟩
      exact .dedicated hz aligned clear unused (hd.trans (keep_setEntry _ _ _ _)) hh

/-- A shared window starts at a multiple of its size, so no address in it is out of range. -/
theorem room_inside {dispatcher : TrapDispatcher} (tidy : dispatcher.Tidy) {i : Fin 4}
    {length offset : UInt16} (hlength : length ∈ trapLengths)
    (free : (dispatcher.entry i).freeOffset? length = some offset) :
    (dispatcher.entry i).base.toNat + offset.toNat < UInt16.size := by
  obtain ⟨used, shared, _, _, hfit⟩ := TrapEntry.freeOffset?_eq_some hlength free
  have dvd := ((tidy.entries i).window used shared).base_dvd
  have pos := trapLength_pos hlength
  have top := (dispatcher.entry i).base.toNat_lt
  rw [mergedTrapLength_toNat] at dvd
  have : UInt16.size = 65536 := rfl
  omega

/-- A claim that fails is refused: no register has overflowed. -/
theorem Claims.told {callback : TrapCallback} {request : TrapRequest}
    {before after : TrapSystem} {fault : Fault}
    (h : Claims callback request before (.error fault) after) (tidy : before.dispatcher.Tidy) :
    ∃ reason, fault = .refused reason := by
  cases h with
  | noAddress => exact ⟨_, rfl⟩
  | shared _ _ claims =>
    cases claims with
    | overflow found beyond =>
      have inside := room_inside tidy (roundedTrapLength_mem request.length)
        (TrapDispatcher.sharedRoom?_eq_some found)
      exact absurd beyond (Nat.not_le.mpr inside)
    | noRegister | noWindow => exact ⟨_, rfl⟩
  | refused _ claims => cases claims <;> exact ⟨_, rfl⟩

theorem Claims.refuses {callback : TrapCallback} {request : TrapRequest}
    {before after : TrapSystem} {reason : EfiError}
    (h : Claims callback request before (.error (.refused reason)) after) :
    before.Refuses (.refused reason) after := by
  cases h with
  | noAddress _ _ logged => exact logged.refuses rfl rfl
  | shared _ _ claims =>
    cases claims with
    | noRegister _ _ logged => exact logged.refuses rfl rfl
    | noWindow _ _ _ logged => exact logged.refuses rfl rfl
  | refused _ claims =>
    cases claims with
    | misaligned _ logged => exact logged.refuses rfl rfl
    | taken _ _ _ logged => exact logged.refuses rfl rfl
    | noRegister _ _ _ _ logged => exact logged.refuses rfl rfl

/-- A successful registration lands on the register that was claimed for it. -/
theorem Registers.placed {callback : TrapCallback} {request : TrapRequest}
    {before after : TrapSystem} {handle : TrapHandle} {address : UInt16}
    (h : Registers callback request before (.ok (handle, address)) after)
    (tidy : before.dispatcher.Tidy) (grants : before.GrantsApart after) :
    ∃ i, Places callback request before after i address ∧
      handle = .ofSerial before.dispatcher.nextSerial := by
  cases h with
  | kept _ _ claims keeper logged =>
    unfold GrantsApart at grants
    rw [logged.allocations] at grants
    obtain ⟨serial, i, here, places⟩ := claims.kept tidy grants
    obtain rfl := Option.some.inj (here.symm.trans keeper)
    exact ⟨_, places after logged.hardware logged.dispatcher, by rw [serial]⟩

/-- A registration that fails is refused, and leaves all registers and entries as they were. -/
theorem Registers.refuses {callback : TrapCallback} {request : TrapRequest}
    {before after : TrapSystem} {fault : Fault}
    (h : Registers callback request before (.error fault) after)
    (tidy : before.dispatcher.Tidy) (grants : before.GrantsApart after) :
    before.Refuses fault after := by
  cases h with
  | locked _ logged => exact logged.refuses rfl rfl
  | noRange _ _ logged => exact logged.refuses rfl rfl
  | unclaimed _ _ claims =>
    obtain ⟨reason, rfl⟩ := claims.told tidy
    exact claims.refuses
  | unkept _ _ claims keeper =>
    -- The search comes upon the register that was just claimed.
    obtain ⟨_, i, here, _⟩ := claims.kept tidy grants
    exact absurd (here.symm.trans keeper) (by simp)

end TrapSystem

end PlatformFirmware
