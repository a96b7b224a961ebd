import PlatformFirmware.Proofs.TrapRemoval
import PlatformFirmware.Proofs.TrapSwitching

namespace PlatformFirmware

open TrapSystem

/-- A step registers a callback for a request, and is given a handle and an address. If it is
granted a window, that window is aligned and clear of all ranges. -/
structure TrapSession.Enrolls (session : TrapSession) (caller : Option Nat) (step : TrapStep)
    (callback : TrapCallback) (request : TrapRequest) (handle : TrapHandle) (address : UInt16) :
    Prop where
  asked : ∃ reactions,
    step.registration? session.clients.length = some (callback, request, reactions)
  given : (session.make caller step).1 = .registered (.ok handle) address
  apart : (TrapMove.make session caller step).GrantsApart

theorem append_of_singleton {α : Type} {old front back : List α} {new : α} (fresh : new ∉ old)
    (h : old ++ [new] = front ++ new :: back) : front ++ back = old := by
  rcases last_or_earlier h with ⟨rfl, _, rfl⟩ | ⟨rest, rfl, _⟩
  · exact List.append_nil old
  · exact absurd (by simp) fresh

namespace TrapDispatcher

/-- What a registration leaves behind when it was undone: the serial it took, and the bytes that
it was given in a window that was already in use. -/
inductive Residue (before : TrapDispatcher) (request : TrapRequest) (address : UInt16) :
    TrapDispatcher → Prop
  | serial : Residue before request address before.spendSerial
  | chunk {i used} : request.address = 0 → (before.entry i).inUse = true →
      (before.entry i).isDedicated = false → (before.entry i).usedLength < used →
      address.toNat + (roundedTrapLength request.length).toNat =
        (before.entry i).base.toNat + used.toNat →
      Residue before request address
        (before.setEntry i { before.entry i with usedLength := used }).spendSerial

theorem setEntry_entry_self (dispatcher : TrapDispatcher) (i : Fin 4) :
    dispatcher.setEntry i (dispatcher.entry i) = dispatcher := by
  simp [setEntry, entry]

theorem setEntry_spendSerial (dispatcher : TrapDispatcher) (i : Fin 4)
    (first second : TrapEntry) :
    (dispatcher.setEntry i first).spendSerial.setEntry i second =
      (dispatcher.setEntry i second).spendSerial :=
  congrArg spendSerial (setEntry_setEntry dispatcher i first second)

end TrapDispatcher

namespace TrapSystem

variable {callback : TrapCallback} {request : TrapRequest} {before registered : TrapSystem}
  {i : Fin 4} {address : UInt16}

theorem Places.records_eq (h : Places callback request before registered i address)
    (tidy : before.dispatcher.Tidy) :
    (registered.dispatcher.entry i).records = (before.dispatcher.entry i).records ++
      [before.dispatcher.newRecord callback request address] := by
  cases h with
  | room _ _ _ _ hd _ => rw [hd, TrapDispatcher.spendSerial_entry, TrapDispatcher.setEntry_entry]
  | window _ _ unused _ _ hd _ | dedicated _ _ _ unused hd _ =>
    rw [hd, TrapDispatcher.spendSerial_entry, TrapDispatcher.setEntry_entry,
      TrapDispatcher.unused_records tidy unused, List.nil_append]

/-- A registration is undone by the removal of its record. -/
theorem Places.undone (h : Places callback request before registered i address)
    (tidy : before.dispatcher.Tidy)
    (idle : (before.dispatcher.entry i).inUse = false → before.hardware.register i = .zero)
    (fresh : before.dispatcher.newRecord callback request address ∉
      before.dispatcher.liveRecords) {j : Fin 4} {front back : List TrapRecord}
    {after : TrapSystem} (removes : registered.Removes j front
      (before.dispatcher.newRecord callback request address) back after) :
    before.dispatcher.Residue request address after.dispatcher ∧
      after.hardware = before.hardware := by
  have records := h.records_eq tidy
  have here : before.dispatcher.newRecord callback request address ∈
      (registered.dispatcher.entry i).records := by
    rw [records]
    simp
  have there : before.dispatcher.newRecord callback request address ∈
      (registered.dispatcher.entry j).records := by
    rw [removes.records]
    simp
  obtain rfl : i = j := (h.tidy tidy).register_eq here there
  have rest : front ++ back = (before.dispatcher.entry i).records := by
    refine append_of_singleton (fun mem => fresh ?_) (records.symm.trans removes.records)
    exact TrapDispatcher.mem_liveRecords.mpr ⟨i, mem⟩
  have emptied (unused : (before.dispatcher.entry i).inUse = false) : front ++ back = [] :=
    rest.trans (TrapDispatcher.unused_records tidy unused)
  have default (unused : (before.dispatcher.entry i).inUse = false) :
      before.dispatcher.setEntry i {} = before.dispatcher := by
    have empty := (tidy.entries i).unused unused
    rw [← empty, TrapDispatcher.setEntry_entry_self]
  have blank (unused : (before.dispatcher.entry i).inUse = false) (register : TrapRegister) :
      (before.hardware.setRegister i register).setRegister i .zero = before.hardware := by
    rw [TrapHardware.setRegister_setRegister, ← idle unused, TrapHardware.setRegister_register]
  cases h with
  | @room offset zero _ free size hd hh =>
    obtain ⟨used, shared, le, _, fits⟩ :=
      TrapEntry.freeOffset?_eq_some (roundedTrapLength_mem request.length) free
    have pos := trapLength_pos (roundedTrapLength_mem request.length)
    have start := toNat_add_of_lt size
    have stop := TrapEntry.freeOffset?_stop (roundedTrapLength_mem request.length) free
    have some : front ++ back ≠ [] := by
      rw [rest]
      exact (tidy.entries i).kept used
    obtain ⟨dispatcher, hardware, _⟩ := removes.others some
    have entry : registered.dispatcher.entry i = { before.dispatcher.entry i with
        usedLength := offset + roundedTrapLength request.length
        records := (before.dispatcher.entry i).records ++ [before.dispatcher.newRecord callback
          request ((before.dispatcher.entry i).base + offset)] } := by
      rw [hd]
      exact TrapDispatcher.setEntry_entry _ _ _
    rw [rest, entry, hd, TrapDispatcher.setEntry_spendSerial] at dispatcher
    rw [dispatcher, hardware, hh]
    have more : (before.dispatcher.entry i).usedLength <
        offset + roundedTrapLength request.length := by
      rw [UInt16.lt_iff_toNat_lt]
      omega
    have chunk : ((before.dispatcher.entry i).base + offset).toNat +
        (roundedTrapLength request.length).toNat = (before.dispatcher.entry i).base.toNat +
          (offset + roundedTrapLength request.length).toNat := by omega
    exact ⟨.chunk zero used shared more chunk, rfl⟩
  | window _ _ unused _ _ hd hh | dedicated _ _ _ unused hd hh =>
    obtain ⟨dispatcher, hardware, _⟩ := removes.last (emptied unused)
    rw [hd, TrapDispatcher.setEntry_spendSerial, default unused] at dispatcher
    rw [hh, blank unused] at hardware
    rw [dispatcher]
    exact ⟨.serial, hardware⟩

theorem Places.isLocked_eq (h : Places callback request before registered i address) :
    registered.dispatcher.isLocked = before.dispatcher.isLocked := by
  cases h with
  | room _ _ _ _ hd _ | window _ _ _ _ _ hd _ | dedicated _ _ _ _ hd _ =>
    rw [hd]
    rfl

theorem Registers.unlocked {result : TrapHandle × UInt16}
    (h : Registers callback request before (.ok result) registered) :
    before.dispatcher.isLocked = false := by
  cases h with
  | kept unlocked => exact unlocked

end TrapSystem

namespace TrapDispatcher

variable {before after : TrapDispatcher} {request : TrapRequest} {address : UInt16}

theorem registersInUse_congr (same : ∀ i, (after.entry i).inUse = (before.entry i).inUse) :
    after.registersInUse = before.registersInUse := by
  have listed (dispatcher : TrapDispatcher) :
      dispatcher.entries.toList = (List.finRange 4).map dispatcher.entry :=
    List.ext_getElem (by simp) fun k _ _ => by simp [entry]
  rw [registersInUse, registersInUse, listed, listed, List.countP_map, List.countP_map]
  exact List.countP_congr fun i _ => by simp [same i]

theorem Residue.registersInUse_eq (h : before.Residue request address after) :
    after.registersInUse = before.registersInUse := by
  cases h with
  | serial => rfl
  | @chunk i used =>
    refine registersInUse_congr fun j => ?_
    change ((before.setEntry i { before.entry i with usedLength := used }).entry j).inUse = _
    by_cases hj : j = i
    · rw [hj, setEntry_entry]
    · rw [setEntry_other hj]

theorem Residue.windows_eq (h : before.Residue request address after) :
    after.windows = before.windows := by
  cases h with
  | serial => rfl
  | chunk => exact windows_setEntry_same rfl

end TrapDispatcher

namespace TrapSession

variable {history : List TrapMove} {session : TrapSession} {self : Option Nat} {step : TrapStep}
  {callback : TrapCallback} {request : TrapRequest} {handle : TrapHandle} {address : UInt16}

theorem Enrolls.placed (h : session.Enrolls self step callback request handle address)
    (tidy : session.system.dispatcher.Tidy) :
    ∃ i, Places callback request session.system (session.make self step).2.system i address ∧
      handle = .ofSerial session.system.dispatcher.nextSerial := by
  obtain ⟨reactions, asked⟩ := h.asked
  exact (make_registered asked h.given).placed tidy h.apart

theorem Enrolls.given?_eq (h : session.Enrolls self step callback request handle address) :
    (TrapMove.make session self step).given? = some handle := by
  rw [TrapMove.given?, h.given]
  rfl

theorem Enrolls.inForce (h : session.Enrolls self step callback request handle address)
    (tidy : session.system.dispatcher.Tidy) :
    (session.make self step).2.InForce (history ++ [.make session self step]) handle callback
      request := by
  obtain ⟨i, places, rfl⟩ := h.placed tidy
  obtain ⟨reactions, asked⟩ := h.asked
  refine ⟨⟨_, (places.mem_liveRecords tidy _).mpr (.inr rfl), rfl⟩, ?_⟩
  exact ⟨_, by simp, TrapMove.registered?_of_given h.given?_eq asked⟩

/-- What was registered just now is unregistered, which leaves nothing but the residue. -/
theorem Enrolls.undone (h : session.Enrolls self step callback request handle address)
    (shadowed : session.Shadowed history) (founded : session.Founded history)
    (enrolled : session.Enrolled history) (few : (givenHandles history).length < 2 ^ 32) :
    let registered := (session.make self step).2.system
    (dropRecord handle callback.isExtended registered).1 = .ok () ∧
      session.system.dispatcher.Residue request address
        (dropRecord handle callback.isExtended registered).2.dispatcher ∧
      (dropRecord handle callback.isExtended registered).2.hardware = session.system.hardware := by
  intro registered
  have tidy := shadowed.roster.tidy
  have count : (givenHandles (history ++ [.make session self step])).length ≤ 2 ^ 32 := by
    rw [givenHandles_concat, h.given?_eq, List.length_append]
    exact few
  have enrolled' := enrolled.make tidy.sound self step
  have founded' := founded.make tidy.sound self step
  obtain ⟨reactions, asked⟩ := h.asked
  obtain ⟨i, places, named⟩ := h.placed tidy
  have unlocked : registered.dispatcher.isLocked = false :=
    places.isLocked_eq.trans (make_registered asked h.given).unlocked
  have new : session.system.dispatcher.newRecord callback request address ∈
      registered.dispatcher.liveRecords := (places.mem_liveRecords tidy _).mpr (.inr rfl)
  have fresh : session.system.dispatcher.newRecord callback request address ∉
      session.system.dispatcher.liveRecords := by
    intro old
    have client := TrapStep.registration?_client asked
    exact absurd client (Nat.ne_of_lt (shadowed.roster.enrolled _ old))
  obtain ⟨j, place, record, finds⟩ := (h.inForce tidy).finds founded' enrolled' count unlocked
  have drops := dropRecord_drops handle callback.isExtended registered
  rw [drops.result_eq finds] at drops
  obtain ⟨k, place', front, record', back, finds', removes⟩ := drops.removes
  have live := TrapDispatcher.mem_liveRecords.mpr ⟨k, List.mem_of_getElem? finds'.placed⟩
  obtain rfl : record' = session.system.dispatcher.newRecord callback request address :=
    enrolled'.live_unique count live new (finds'.named.trans named)
  refine ⟨(dropRecord_drops _ _ _).result_eq finds, ?_⟩
  exact places.undone tidy (shadowed.programmed i).unused fresh removes

end TrapSession

/-- A window is in use, and its first bytes have been handed out. -/
def TrapDispatcher.HandedOut (dispatcher : TrapDispatcher) (base : UInt16) (used : Nat) : Prop :=
  ∃ i, (dispatcher.entry i).inUse = true ∧ (dispatcher.entry i).isDedicated = false ∧
    (dispatcher.entry i).base = base ∧ used ≤ (dispatcher.entry i).usedLength.toNat

theorem TrapDispatcher.handedOut_congr {before after : TrapDispatcher} {base : UInt16}
    {used : Nat} (h : after.entries = before.entries) :
    after.HandedOut base used ↔ before.HandedOut base used := by
  simp only [HandedOut, entry_congr h]

namespace TrapSystem

variable {callback : TrapCallback} {request : TrapRequest} {before after : TrapSystem}
  {i : Fin 4} {address base : UInt16} {used : Nat}

/-- A registration only hands out more of a window. -/
theorem Places.handedOut (h : Places callback request before after i address)
    (handed : before.dispatcher.HandedOut base used) :
    after.dispatcher.HandedOut base used := by
  obtain ⟨j, inUse, shared, based, le⟩ := handed
  refine ⟨j, ?_⟩
  by_cases hj : j = i
  · subst hj
    cases h with
    | @room offset _ _ free _ hd _ =>
      obtain ⟨_, _, behind, _, _⟩ :=
        TrapEntry.freeOffset?_eq_some (roundedTrapLength_mem request.length) free
      have stop := TrapEntry.freeOffset?_stop (roundedTrapLength_mem request.length) free
      rw [hd, TrapDispatcher.spendSerial_entry, TrapDispatcher.setEntry_entry]
      refine ⟨inUse, shared, based, ?_⟩
      dsimp only
      omega
    | window _ _ unused | dedicated _ _ _ unused =>
      exact absurd (inUse.symm.trans unused) (by simp)
  · rw [h.entry_other hj]
    exact ⟨inUse, shared, based, le⟩

/-- The range of a registration is clear of the bytes that have been handed out. -/
theorem Places.apart_of_handedOut (h : Places callback request before after i address)
    (tidy : before.dispatcher.Tidy) (handed : before.dispatcher.HandedOut base used) :
    address.toNat + (roundedTrapLength request.length).toNat ≤ base.toNat ∨
      base.toNat + used ≤ address.toNat := by
  obtain ⟨j, inUse, shared, rfl, le⟩ := handed
  have window := (tidy.entries j).window inUse shared
  have most := window.used_le
  have size := window.length_eq
  have small := trapLength_toNat (roundedTrapLength_mem request.length)
  cases h with
  | @room offset _ _ free fits _ _ =>
    obtain ⟨inUse', shared', behind, _, inside⟩ :=
      TrapEntry.freeOffset?_eq_some (roundedTrapLength_mem request.length) free
    have start := toNat_add_of_lt fits
    by_cases hj : j = i
    · subst hj
      omega
    · have apart := tidy.apart hj inUse inUse'
      have size' := ((tidy.entries i).window inUse' shared').length_eq
      unfold TrapEntry.Apart RangesApart at apart
      rw [size, size', mergedTrapLength_toNat] at apart
      rw [mergedTrapLength_toNat] at most
      omega
  | window _ _ _ _ clear _ _ | dedicated _ _ clear _ _ _ =>
    have apart := (TrapEntry.overlaps_eq_false_iff _ _ _).mp (clear j) inUse
    unfold RangesApart at apart
    rw [size, mergedTrapLength_toNat] at apart
    rw [mergedTrapLength_toNat] at most
    omega

/-- A registration without an address hands out the bytes up to the end of its range. -/
theorem Places.handsOut (h : Places callback request before after i address)
    (zero : request.address = 0) :
    ∃ base used, after.dispatcher.HandedOut base used ∧ base.toNat ≤ address.toNat ∧
      address.toNat + (roundedTrapLength request.length).toNat = base.toNat + used ∧
      used ≤ 256 := by
  have small := trapLength_toNat (roundedTrapLength_mem request.length)
  cases h with
  | @room offset _ _ free size hd _ =>
    obtain ⟨inUse, shared, _, _, fits⟩ :=
      TrapEntry.freeOffset?_eq_some (roundedTrapLength_mem request.length) free
    have start := toNat_add_of_lt size
    have stop := TrapEntry.freeOffset?_stop (roundedTrapLength_mem request.length) free
    refine ⟨(before.dispatcher.entry i).base, _, ⟨i, ?_⟩, by omega, ?_, fits⟩
    · rw [hd, TrapDispatcher.spendSerial_entry, TrapDispatcher.setEntry_entry]
      exact ⟨inUse, shared, rfl, Nat.le_of_eq stop.symm⟩
    · omega
  | window _ _ _ _ _ hd _ =>
    refine ⟨address, _, ⟨i, ?_⟩, Nat.le_refl _, rfl, by omega⟩
    rw [hd, TrapDispatcher.spendSerial_entry, TrapDispatcher.setEntry_entry]
    exact ⟨rfl, rfl, rfl, Nat.le_refl _⟩
  | dedicated nonzero => exact absurd zero nonzero

end TrapSystem

namespace TrapSession

/-- What has been handed out of a window stays so until the window is given back. -/
theorem Changes.handedOut {before : TrapSession} {self : Option Nat} {step : TrapStep}
    (h : before.Changes self step (before.make self step).2)
    (tidy : before.system.dispatcher.Tidy) {base : UInt16} {used : Nat}
    (handed : before.system.dispatcher.HandedOut base used)
    (kept : (base, mergedTrapLength) ∉ (TrapMove.make before self step).freed) :
    (before.make self step).2.system.dispatcher.HandedOut base used := by
  cases h with
  | same _ _ entries => exact (TrapDispatcher.handedOut_congr entries).mpr handed
  | added _ _ _ places => exact places.handedOut handed
  | @dropped k place record released _ placed dispatcher _ _ =>
    obtain ⟨i, inUse, shared, based, le⟩ := handed
    refine ⟨i, ?_⟩
    rw [dispatcher]
    by_cases hi : i = k
    · subst hi
      rw [TrapDispatcher.setEntry_entry, TrapEntry.without]
      split
      next rest =>
        have clears : (TrapMove.make before self step).Clears i :=
          ⟨record, released, eq_singleton_of_eraseIdx placed rest⟩
        exact absurd ((mem_freed tidy).mpr ⟨rfl, i, clears, shared, based⟩) kept
      next => exact ⟨inUse, shared, based, le⟩
    · rw [TrapDispatcher.setEntry_other hi]
      exact ⟨inUse, shared, based, le⟩
  | switched _ _ _ _ dispatcher _ _ | replaced _ _ _ dispatcher _ =>
    rw [dispatcher]
    exact handed

/-- What was handed out after a move of the past still is, if the window has not been given back. -/
def Retains (history : List TrapMove) (session : TrapSession) : Prop :=
  ∀ past before self step future, history = past ++ .make before self step :: future →
    ∀ base used, (before.make self step).2.system.dispatcher.HandedOut base used →
      (∀ move ∈ future, (base, mergedTrapLength) ∉ move.freed) →
      session.system.dispatcher.HandedOut base used

theorem Retains.make {history : List TrapMove} {session : TrapSession}
    (retains : session.Retains history) (tidy : session.system.dispatcher.Tidy)
    {self : Option Nat} {step : TrapStep}
    (changes : session.Changes self step (session.make self step).2) :
    (session.make self step).2.Retains (history ++ [.make session self step]) := by
  intro past before self' step' future h base used handed kept
  rcases last_or_earlier h with ⟨_, last, _⟩ | ⟨rest, he, rfl⟩
  · cases last
    exact handed
  · have held := retains past before self' step' rest he base used handed
      fun move hm => kept move (List.mem_append_left _ hm)
    exact changes.handedOut tidy held
      (kept _ (List.mem_append_right rest (List.mem_singleton_self _)))

theorem Retains.call {history : List TrapMove} {session : TrapSession}
    (retains : session.Retains history) (record : TrapRecord) (writeData : UInt32) :
    session.Retains (history ++ [.call session record writeData]) := by
  intro past before self step future h base used handed kept
  rcases last_or_earlier h with ⟨_, last, _⟩ | ⟨rest, he, rfl⟩
  · cases last
  · exact retains past before self step rest he base used handed
      fun move hm => kept move (List.mem_append_left _ hm)

end TrapSession

theorem TrapReach.retains {history : List TrapMove} {turn : TrapTurn}
    (reach : TrapReach history turn) (granted : ∀ move ∈ history, move.GrantsApart) :
    turn.session.Retains history := by
  refine TrapReach.tidy_induction (P := fun history session => session.Retains history)
    ?_ ?_ ?_ ?_ reach granted
  · intro allocations releases past before self step future h
    simp at h
  · exact fun self step tidy changes retains => retains.make tidy changes
  · exact fun record writeData retains => retains.call record writeData
  · intro history before after same retains past first self step future h base used handed kept
    rw [same.dispatcher]
    exact retains past first self step future h base used handed kept

/-- A registration that is unregistered at once leaves everything as it was, but for a serial and
for the bytes that it was given in a window in use. Nothing is registered on these again until the
window has been given back. -/
theorem TrapReach.unregister_undoes_register {history : List TrapMove} {turn : TrapTurn}
    (reach : TrapReach history turn)
    (allowed : ∀ move ∈ history, move.GrantsApart ∧ move.KeepsRegisters)
    (few : (givenHandles history).length < 2 ^ 32) {self : Option Nat} {step : TrapStep}
    {callback : TrapCallback} {request : TrapRequest} {handle : TrapHandle} {address : UInt16}
    (enrolls : turn.session.Enrolls self step callback request handle address) :
    let before := turn.session.system
    let register := TrapMove.make turn.session self step
    let registered := (turn.session.make self step).2
    let length := roundedTrapLength request.length
    (∀ self' undo target, undo.release? = some (target, callback.isExtended) →
      registered.handleOf? self' target = some handle →
      let unregister := TrapMove.make registered self' undo
      let after := (registered.make self' undo).2.system
      (registered.make self' undo).1 = .completed (.ok ()) ∧
      after.hardware = before.hardware ∧
      before.dispatcher.Residue request address after.dispatcher ∧
      after.dispatcher.registersInUse = before.dispatcher.registersInUse ∧
      (heldWindows (history ++ [register, unregister])).Perm (heldWindows history)) ∧
    (request.address = 0 → ∃ base ∈ heldWindows (history ++ [register]),
      base.toNat ≤ address.toNat ∧ address.toNat + length.toNat ≤ base.toNat + 256 ∧
      ∀ middle last, TrapReach (history ++ register :: middle) last →
        (∀ move ∈ middle, move.GrantsApart) →
        ∀ self' again callback' request' handle' address',
          last.session.Enrolls self' again callback' request' handle' address' →
          base.toNat < address'.toNat + (roundedTrapLength request'.length).toNat →
          address'.toNat < address.toNat + length.toNat →
          ∃ move ∈ middle, (base, 0x100) ∈ move.freed) := by
  intro before register registered length
  have granted : ∀ move ∈ history, move.GrantsApart := fun move hm => (allowed move hm).1
  have shadowed := reach.shadowed allowed
  have tidy := shadowed.roster.tidy
  obtain ⟨i, places, named⟩ := enrolls.placed tidy
  have held : (heldWindows (history ++ [register])).Perm registered.system.dispatcher.windows :=
    TrapSession.heldWindows_make tidy.sound reach.windows_held self step
  refine ⟨fun self' undo target release found => ?_, fun zero => ?_⟩
  · intro unregister after
    obtain ⟨done, residue, hardware⟩ :=
      enrolls.undone shadowed reach.founded reach.enrolled few
    have made := TrapSession.make_release release found
    have returned : (heldWindows (history ++ [register] ++ [unregister])).Perm
        after.dispatcher.windows :=
      TrapSession.heldWindows_make (places.tidy tidy).sound held self' undo
    have same : after = (dropRecord handle callback.isExtended registered.system).2 :=
      congrArg (fun answer => answer.2.system) made
    rw [← same] at residue hardware
    refine ⟨?_, hardware, residue, residue.registersInUse_eq, ?_⟩
    · rw [made, done]
      rfl
    · rw [residue.windows_eq, List.append_assoc] at returned
      exact returned.trans reach.windows_held.symm
  · obtain ⟨base, used, handed, start, stop, most⟩ := places.handsOut zero
    refine ⟨base, ?_, start, by dsimp only [length]; omega, ?_⟩
    · obtain ⟨j, inUse, shared, based, _⟩ := handed
      exact held.mem_iff.mpr (TrapDispatcher.mem_windows.mpr ⟨j, inUse, shared, based⟩)
    intro middle last continued apart self' again callback' request' handle' address' enrolls'
      above below
    by_contra none
    have kept : ∀ move ∈ middle, (base, mergedTrapLength) ∉ move.freed :=
      fun move hm freed => none ⟨move, hm, freed⟩
    have all : ∀ move ∈ history ++ register :: middle, move.GrantsApart := by
      intro move hm
      rcases List.mem_append.mp hm with old | new
      · exact granted move old
      · rcases List.mem_cons.mp new with rfl | new
        · exact enrolls.apart
        · exact apart move new
    have still := continued.retains all history turn.session self step middle rfl base used
      handed kept
    obtain ⟨j, places', _⟩ := enrolls'.placed (continued.tidy all)
    have clear := places'.apart_of_handedOut (continued.tidy all) still
    dsimp only [length] at below
    omega

theorem TrapReach.unregister_undoes_register_shared :
    let start := TrapSession.start [.ok 0x1800] []
    let shared := (start.make none (.register 0 8 .readWrite [])).2
    let joined := (shared.make none (.register 0 16 .readWrite [])).2
    let undone := joined.make none (.unregister (.registration 1))
    undone.1 = .completed (.ok ()) ∧ undone.2.system.hardware = shared.system.hardware ∧
      undone.2.system.dispatcher.registersInUse = 1 ∧
      (shared.system.dispatcher.entry 0).usedLength = 8 ∧
      (undone.2.system.dispatcher.entry 0).usedLength = 32 := by
  intro start shared
  let history := [TrapMove.make start none (.register 0 8 .readWrite [])]
  have reach : TrapReach history (.finished shared _) :=
    (TrapReach.start [.ok 0x1800] []).made (.register 0 8 .readWrite []) (by simp)
  have allowed : ∀ move ∈ history, move.GrantsApart ∧ move.KeepsRegisters := by
    intro move hm
    obtain rfl := List.mem_singleton.mp hm
    refine ⟨fun base h => ?_, trivial⟩
    cases h
    decide
  have few : (givenHandles history).length < 2 ^ 32 := by decide +kernel
  have clients : shared.clients.length = 1 := by decide +kernel
  obtain ⟨address, given⟩ := TrapOutcome.handle?_eq_some.mp
    (show (shared.make none (.register 0 16 .readWrite [])).1.handle? = some (.ofSerial 2) by
      decide +kernel)
  have enrolls : shared.Enrolls none (.register 0 16 .readWrite []) (.plain 1)
      ⟨0, 16, .readWrite, 0, 0xF⟩ (.ofSerial 2) address := by
    refine ⟨⟨[], by rw [clients]; rfl⟩, given, fun base h => ?_⟩
    cases h
  obtain ⟨undo, _⟩ := reach.unregister_undoes_register allowed few enrolls
  obtain ⟨done, hardware, _, registers, _⟩ := undo none (.unregister (.registration 1))
    (.registration 1) rfl (by decide +kernel)
  rw [TrapTurn.session_finished] at done hardware registers
  have one : shared.system.dispatcher.registersInUse = 1 := by decide +kernel
  exact ⟨done, hardware, registers.trans one, by decide +kernel, by decide +kernel⟩

end PlatformFirmware
