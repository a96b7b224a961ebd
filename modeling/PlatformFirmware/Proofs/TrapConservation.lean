import PlatformFirmware.Proofs.TrapLedger
import PlatformFirmware.Proofs.TrapProgrammed

namespace PlatformFirmware

open TrapSystem

/-- A move ends the last registration on a register. -/
def TrapMove.Clears (move : TrapMove) (i : Fin 4) : Prop :=
  ∃ record, move.released? = some record ∧
    (move.session.system.dispatcher.entry i).records = [record]

/-- A register is as it was at first, and a range that is clear of those in use can be trapped. -/
def TrapSystem.Reusable (system : TrapSystem) (i : Fin 4) : Prop :=
  system.dispatcher.entry i = {} ∧ system.hardware.register i = .zero ∧
    ∀ callback request, request.address ≠ 0 → request.HasRange →
      request.address % roundedTrapLength request.length = 0 →
      (∀ j : Fin 4, (system.dispatcher.entry j).overlaps request.address
        (roundedTrapLength request.length) = false) →
      ∃ handle after, addRecord callback request system = (.ok (handle, request.address), after)

theorem eq_singleton_of_eraseIdx {α : Type} {values : List α} {place : Nat} {value : α}
    (h : values[place]? = some value) (rest : values.eraseIdx place = []) : values = [value] := by
  obtain ⟨lt, he⟩ := List.getElem?_eq_some_iff.mp h
  have length := List.length_eraseIdx_of_lt lt
  rw [rest, List.length_nil] at length
  have one : values.length = 1 := by omega
  obtain ⟨only, rfl⟩ := List.length_eq_one_iff.mp one
  have first : place = 0 := by omega
  subst first
  rw [← he]
  rfl

/-- A range at a multiple of a length that a register can cover ends within the address space. -/
theorem trapLength_fits {address length : UInt16} (h : length ∈ trapLengths)
    (aligned : address % length = 0) : address.toNat + length.toNat ≤ UInt16.size := by
  have mod : address.toNat % length.toNat = 0 := by
    have := congrArg UInt16.toNat aligned
    rwa [UInt16.toNat_mod] at this
  have bound := address.toNat_lt
  have size : UInt16.size = 65536 := rfl
  rcases trapLength_toNat h with h | h | h | h | h | h | h <;> rw [h] at mod ⊢ <;> omega

namespace TrapSystem

theorem addRecord_of_clear {system : TrapSystem} (sound : system.dispatcher.Sound)
    (unlocked : system.dispatcher.isLocked = false) {i : Fin 4}
    (unused : (system.dispatcher.entry i).inUse = false) (callback : TrapCallback)
    {request : TrapRequest} (nonzero : request.address ≠ 0) (range : request.HasRange)
    (aligned : request.address % roundedTrapLength request.length = 0)
    (clear : ∀ j : Fin 4, (system.dispatcher.entry j).overlaps request.address
      (roundedTrapLength request.length) = false) :
    ∃ handle after, addRecord callback request system =
      (.ok (handle, request.address), after) := by
  have registers := addRecord_registers callback request system
  have fits := trapLength_fits (roundedTrapLength_mem request.length) aligned
  have idle : (!(system.dispatcher.entry i).inUse) = true := by
    rw [unused]
    rfl
  obtain ⟨j, free⟩ : ∃ j, system.dispatcher.unusedRegister? = some j :=
    TrapDispatcher.findRegister?_isSome idle
  rcases ha : addRecord callback request system with ⟨result, after⟩
  rw [ha] at registers
  cases registers with
  | locked locked _ => exact absurd (locked.symm.trans unlocked) (by simp)
  | noRange _ none _ => exact absurd range none
  | unclaimed _ _ claims =>
    cases claims with
    | noAddress zero _ _ => exact absurd zero nonzero
    | shared zero _ _ => exact absurd zero nonzero
    | refused _ claims =>
      cases claims with
      | misaligned bad _ => exact absurd bad (not_or.mpr ⟨not_not.mpr aligned, by omega⟩)
      | taken _ _ taken _ => exact absurd (taken.symm.trans (clear _)) (by simp)
      | noRegister _ _ _ none _ => exact absurd (free.symm.trans none) (by simp)
  | unkept _ _ claims none =>
    obtain ⟨k, keeper⟩ := claims.keeper sound
    exact absurd (keeper.symm.trans none) (by simp)
  | kept _ _ claims _ _ =>
    cases claims with
    | shared zero _ _ => exact absurd zero nonzero
    | dedicated => exact ⟨_, _, rfl⟩

end TrapSystem

namespace TrapSession

theorem handleOf?_among (session : TrapSession) (hardware : TrapHardware)
    (allocations : List (Except EfiError UInt16)) (releases : List (Except EfiError Unit))
    (self : Option Nat) (target : TrapTarget) :
    (session.among hardware allocations releases).handleOf? self target =
      session.handleOf? self target := by
  cases target <;> rfl

/-- A registration ends in an unregistration that finds it, whatever the allocator will say. -/
theorem released?_eq_some {session : TrapSession} {self : Option Nat} {step : TrapStep}
    {record : TrapRecord} (h : (TrapMove.make session self step).released? = some record) :
    ∃ handle extended i place,
      session.system.dispatcher.Finds handle extended i place record ∧
      ∀ hardware allocations releases,
        let other := session.among hardware allocations releases
        other.make self step = (.completed (.ok ()),
          { other with system := (dropRecord handle extended other.system).2 }) := by
  simp only [TrapMove.released?, Option.ite_none_right_eq_some, Option.bind_eq_some_iff,
    TrapSession.record?] at h
  obtain ⟨done, ⟨target, extended⟩, release, handle, hh, hr⟩ := h
  have drops := dropRecord_drops handle extended session.system
  rw [make_release release hh] at done
  cases hd : (dropRecord handle extended session.system).1 with
  | error fault =>
    rw [hd] at done
    cases fault <;> cases done
  | ok _ =>
    rw [hd] at drops
    obtain ⟨i, place, found, finds, _⟩ := drops.done
    obtain rfl := Option.some.inj (finds.record?_eq.symm.trans hr)
    refine ⟨handle, extended, i, place, finds, fun hardware allocations releases => ?_⟩
    intro other
    have same := session.handleOf?_among hardware allocations releases self target
    have ended := (dropRecord_drops handle extended other.system).result_eq finds
    rw [make_release release (same.trans hh), ended]
    rfl

theorem freed_of_released {session : TrapSession} (sound : session.system.dispatcher.Sound)
    {self : Option Nat} {step : TrapStep} {handle : TrapHandle} {extended : Bool} {i : Fin 4}
    {place : Nat} {record : TrapRecord}
    (finds : session.system.dispatcher.Finds handle extended i place record)
    (made : session.make self step = (.completed (.ok ()), { session with
      system := (dropRecord handle extended session.system).2 })) :
    (TrapMove.make session self step).freed =
      if (session.system.dispatcher.entry i).records.eraseIdx place = [] ∧
          (session.system.dispatcher.entry i).isCallerOwned = false then
        [((session.system.dispatcher.entry i).base, (session.system.dispatcher.entry i).length)]
      else [] := by
  have drops := dropRecord_drops handle extended session.system
  rw [drops.result_eq finds] at drops
  have calls := session.make_allocatorCalls sound self step
  rw [made, drops.allocatorCalls_eq finds, List.append_cancel_left_eq] at calls
  rw [TrapMove.freed, ← calls]
  split <;> rfl

/-- Only a move that ends a registration gives anything back. -/
theorem released_of_freed {session : TrapSession} (sound : session.system.dispatcher.Sound)
    {self : Option Nat} {step : TrapStep}
    (h : (TrapMove.make session self step).freed ≠ []) :
    ∃ record, (TrapMove.make session self step).released? = some record := by
  have keeps (same : (session.make self step).2.system.dispatcher.windows =
      session.system.dispatcher.windows) :
      ∃ record, (TrapMove.make session self step).released? = some record :=
    absurd (quiet_of_windows_eq sound same).2 h
  have settles := session.make_settles sound self step
  have makes := make_makes session self step
  rcases ha : session.make self step with ⟨outcome, after⟩
  rw [ha] at makes keeps settles
  dsimp only at makes keeps settles
  cases makes with
  | registers _ registers =>
    -- A registration can only gain a window, so it is not one that loses one.
    have le := registers.obtains.windows_length_le
    rcases settles with ⟨_, freed, _⟩ | ⟨_, _, freed, _⟩ | ⟨_, _, _, lost⟩
    · exact absurd freed h
    · exact absurd freed h
    · have length := lost.length_eq
      rw [List.length_cons] at length
      dsimp only at length
      omega
  | missing | locks | latches | sets => exact keeps rfl
  | @drops _ target extended handle result system hr hh drops =>
    cases result with
    | error fault =>
      exact keeps (TrapDispatcher.windows_congr (congrArg _ drops.refuses.dispatcher))
    | ok _ =>
      obtain ⟨i, place, record, finds, _⟩ := drops.done
      exact ⟨record, released?_of_finds hr hh finds⟩
  | switches _ _ switches => exact keeps (by rw [switches.dispatcher_eq])
  | begins =>
    have notes := beginDispatch_notes session.system
    exact keeps (TrapDispatcher.windows_congr (congrArg _ notes.dispatcher))

end TrapSession

namespace TrapDispatcher

theorem Tidy.sound {dispatcher : TrapDispatcher} (tidy : dispatcher.Tidy) : dispatcher.Sound := by
  intro i
  refine ⟨(tidy.entries i).unused, fun used shared => ?_, fun alone => ?_⟩
  · have window := (tidy.entries i).window used shared
    exact ⟨window.length_eq, window.allocated⟩
  · obtain ⟨_, serves⟩ := (tidy.entries i).dedicated alone
    exact serves.owned

theorem Tidy.windows_nodup {dispatcher : TrapDispatcher} (tidy : dispatcher.Tidy) :
    dispatcher.windows.Nodup := by
  refine List.pairwise_filterMap.mpr ((List.nodup_finRange 4).imp ?_)
  rintro i j hij base hi _ hj rfl
  obtain ⟨usedi, sharedi, basei⟩ := TrapEntry.window?_eq_some.mp hi
  obtain ⟨usedj, sharedj, basej⟩ := TrapEntry.window?_eq_some.mp hj
  have apart := tidy.apart hij usedi usedj
  have lengthi := ((tidy.entries i).window usedi sharedi).length_eq
  have lengthj := ((tidy.entries j).window usedj sharedj).length_eq
  unfold TrapEntry.Apart RangesApart at apart
  rw [basei, basej, lengthi, lengthj, mergedTrapLength_toNat] at apart
  omega

end TrapDispatcher

namespace TrapSession

theorem finds_of_clears {session : TrapSession} {self : Option Nat} {step : TrapStep} {i : Fin 4}
    (tidy : session.system.dispatcher.Tidy) (h : (TrapMove.make session self step).Clears i) :
    ∃ handle extended place record,
      session.system.dispatcher.Finds handle extended i place record ∧
      (session.system.dispatcher.entry i).records.eraseIdx place = [] ∧
      ∀ hardware allocations releases,
        let other := session.among hardware allocations releases
        other.make self step = (.completed (.ok ()),
          { other with system := (dropRecord handle extended other.system).2 }) := by
  obtain ⟨record, released, alone⟩ := h
  replace alone : (session.system.dispatcher.entry i).records = [record] := alone
  obtain ⟨handle, extended, j, place, finds, made⟩ := released?_eq_some released
  have here : record ∈ (session.system.dispatcher.entry i).records := by
    rw [alone]
    exact List.mem_singleton_self record
  -- The record is kept on one register only, so the one that is found is that which is cleared.
  obtain rfl := tidy.register_eq here (List.mem_of_getElem? finds.placed)
  obtain ⟨lt, _⟩ := List.getElem?_eq_some_iff.mp finds.placed
  rw [alone, List.length_singleton] at lt
  obtain rfl : place = 0 := by omega
  exact ⟨handle, extended, 0, record, finds, by rw [alone]; rfl, made⟩

theorem mem_freed {session : TrapSession} (tidy : session.system.dispatcher.Tidy)
    {self : Option Nat} {step : TrapStep} {base length : UInt16} :
    (base, length) ∈ (TrapMove.make session self step).freed ↔ length = mergedTrapLength ∧
      ∃ i : Fin 4, (TrapMove.make session self step).Clears i ∧
        (session.system.dispatcher.entry i).isDedicated = false ∧
        (session.system.dispatcher.entry i).base = base := by
  have sound := tidy.sound
  constructor
  · intro h
    obtain ⟨record, released⟩ := released_of_freed sound (List.ne_nil_of_mem h)
    obtain ⟨handle, extended, i, place, finds, made⟩ := released?_eq_some released
    rw [freed_of_released sound finds (made session.system.hardware _ _)] at h
    split at h
    next last =>
      obtain ⟨rest, owned⟩ := last
      obtain ⟨rfl, rfl⟩ := Prod.mk.inj (List.mem_singleton.mp h)
      have shared : (session.system.dispatcher.entry i).isDedicated = false :=
        Bool.eq_false_iff.mpr fun alone => absurd ((sound i).owned alone) (by simp [owned])
      have used := (sound i).used_of_mem (List.mem_of_getElem? finds.placed)
      exact ⟨((sound i).shared used shared).1, i,
        ⟨record, released, eq_singleton_of_eraseIdx finds.placed rest⟩, shared, rfl⟩
    next => cases h
  · rintro ⟨rfl, i, clears, shared, rfl⟩
    obtain ⟨handle, extended, place, record, finds, rest, made⟩ := finds_of_clears tidy clears
    have used := (sound i).used_of_mem (List.mem_of_getElem? finds.placed)
    obtain ⟨length, owned⟩ := (sound i).shared used shared
    rw [freed_of_released sound finds (made session.system.hardware _ _), if_pos ⟨rest, owned⟩,
      length]
    exact List.mem_singleton_self _

theorem freed_apart {session : TrapSession} (tidy : session.system.dispatcher.Tidy)
    {self : Option Nat} {step : TrapStep} {base length : UInt16}
    (h : (base, length) ∈ (TrapMove.make session self step).freed) {j : Fin 4}
    (alone : (session.system.dispatcher.entry j).isDedicated = true) :
    RangesApart base length (session.system.dispatcher.entry j).base
      (session.system.dispatcher.entry j).length := by
  obtain ⟨rfl, i, clears, shared, rfl⟩ := (mem_freed tidy).mp h
  obtain ⟨_, _, _, record, finds, _, _⟩ := finds_of_clears tidy clears
  have usedi := (tidy.sound i).used_of_mem (List.mem_of_getElem? finds.placed)
  have usedj : (session.system.dispatcher.entry j).inUse = true := by
    obtain ⟨owner, serves⟩ := (tidy.entries j).dedicated alone
    exact (tidy.sound j).used_of_mem (List.mem_of_mem_head? (by rw [serves.alone]; rfl))
  have ne : i ≠ j := by
    rintro rfl
    exact absurd (shared.symm.trans alone) (by simp)
  have apart := tidy.apart ne usedi usedj
  unfold TrapEntry.Apart at apart
  rwa [((tidy.sound i).shared usedi shared).1] at apart

/-- A window that is given back was held until then, and is held no longer. -/
theorem freed_held {history : List TrapMove} {session : TrapSession}
    (sound : session.system.dispatcher.Sound)
    (held : (heldWindows history).Perm session.system.dispatcher.windows)
    (nodup : (heldWindows history).Nodup) {self : Option Nat} {step : TrapStep}
    {base length : UInt16} (h : (base, length) ∈ (TrapMove.make session self step).freed) :
    base ∈ heldWindows history ∧
      base ∉ heldWindows (history ++ [.make session self step]) := by
  rcases session.make_settles sound self step with ⟨_, freed, _⟩ | ⟨_, _, freed, _⟩ |
    ⟨given, granted, freed, lost⟩
  · simp [freed] at h
  · simp [freed] at h
  · obtain rfl : base = given := by
      rw [freed] at h
      exact (Prod.mk.inj (List.mem_singleton.mp h)).1
    have gone : heldWindows (history ++ [.make session self step]) =
        (heldWindows history).erase base := by
      simp [heldWindows_append, granted, freed]
    rw [gone]
    exact ⟨held.mem_iff.mpr (lost.mem_iff.mpr List.mem_cons_self), nodup.not_mem_erase⟩

theorem freed_length_le {session : TrapSession} (sound : session.system.dispatcher.Sound)
    (self : Option Nat) (step : TrapStep) :
    (TrapMove.make session self step).freed.length ≤ 1 := by
  rcases session.make_settles sound self step with ⟨_, freed, _⟩ | ⟨_, _, freed, _⟩ |
    ⟨_, _, freed, _⟩ <;> simp [freed]

/-- What the allocator says of a window that it is given back changes nothing of the outcome. -/
theorem reusable_of_clears {session : TrapSession} (tidy : session.system.dispatcher.Tidy)
    {self : Option Nat} {step : TrapStep} {i : Fin 4}
    (h : (TrapMove.make session self step).Clears i) (hardware : TrapHardware)
    (allocations : List (Except EfiError UInt16)) (releases : List (Except EfiError Unit)) :
    let other := session.among hardware allocations releases
    (other.make self step).1 = .completed (.ok ()) ∧
      (other.make self step).2.system.Reusable i := by
  obtain ⟨handle, extended, place, record, finds, rest, made⟩ := finds_of_clears tidy h
  intro other
  replace rest : (other.system.dispatcher.entry i).records.eraseIdx place = [] := rest
  have drops := dropRecord_drops handle extended other.system
  rw [drops.result_eq finds] at drops
  have sound := drops.sound tidy.sound
  obtain ⟨j, place', record', finds', hd, hh⟩ := drops.done
  obtain ⟨rfl, rfl, rfl⟩ := finds'.unique finds
  rw [made hardware allocations releases]
  refine ⟨rfl, ?_⟩
  -- The last registration takes its register along, whatever the allocator then answers.
  generalize (dropRecord handle extended other.system).2 = after at *
  rw [if_pos rest] at hh
  rw [TrapEntry.without, if_pos rest] at hd
  have cleared : after.dispatcher.entry j = {} := by rw [hd, TrapDispatcher.setEntry_entry]
  have unlocked : after.dispatcher.isLocked = false := by
    rw [hd]
    exact finds.unlocked
  refine ⟨cleared, by rw [hh, TrapHardware.setRegister_self], ?_⟩
  intro callback request nonzero range aligned clear
  exact addRecord_of_clear sound unlocked (by rw [cleared]) callback nonzero range aligned clear

end TrapSession

theorem TrapReach.heldWindows_nodup {history : List TrapMove} {turn : TrapTurn}
    (reach : TrapReach history turn) (granted : ∀ move ∈ history, move.GrantsApart) :
    (heldWindows history).Nodup :=
  reach.windows_held.nodup_iff.mpr (reach.tidy granted).windows_nodup

/-- A window is given back once, by the unregistration of the last record in it. Until then it is
the window of a register in use, and afterwards that register can be used again. -/
theorem TrapReach.windows_conserved {history : List TrapMove} {turn : TrapTurn}
    (reach : TrapReach history turn) (granted : ∀ move ∈ history, move.GrantsApart) :
    turn.session.system.allocatorCalls = history.flatMap TrapMove.allocatorCalls ∧
    (heldWindows history).Nodup ∧
    (∀ base, base ∈ heldWindows history ↔ ∃ i : Fin 4,
      (turn.session.system.dispatcher.entry i).inUse = true ∧
      (turn.session.system.dispatcher.entry i).isDedicated = false ∧
      (turn.session.system.dispatcher.entry i).base = base) ∧
    ∀ past session self step future, history = past ++ .make session self step :: future →
      let move := TrapMove.make session self step
      let dispatcher := session.system.dispatcher
      move.freed.length ≤ 1 ∧
      (∀ base length, (base, length) ∈ move.freed ↔ length = 0x100 ∧ ∃ i : Fin 4,
        move.Clears i ∧ (dispatcher.entry i).isDedicated = false ∧
        (dispatcher.entry i).base = base) ∧
      (∀ base length, (base, length) ∈ move.freed →
        base ∈ heldWindows past ∧ base ∉ heldWindows (past ++ [move]) ∧
        ∀ i : Fin 4, (dispatcher.entry i).isDedicated = true →
          RangesApart base length (dispatcher.entry i).base (dispatcher.entry i).length) ∧
      ∀ i : Fin 4, move.Clears i → ∀ hardware allocations releases,
        let other := session.among hardware allocations releases
        (other.make self step).1 = .completed (.ok ()) ∧
        (other.make self step).2.system.Reusable i := by
  refine ⟨reach.allocatorCalls_eq, reach.heldWindows_nodup granted, fun base => ?_, ?_⟩
  · rw [reach.windows_held.mem_iff, TrapDispatcher.mem_windows]
  intro past session self step future h
  obtain ⟨earlier, before, rfl⟩ : ∃ earlier, TrapReach past earlier ∧ earlier.session = session :=
    reach.before h
  intro move dispatcher
  have early : ∀ move ∈ past, move.GrantsApart := fun move hm => granted move (by simp [h, hm])
  have tidy : dispatcher.Tidy := before.tidy early
  refine ⟨TrapSession.freed_length_le before.sound self step,
    fun base length => TrapSession.mem_freed tidy, fun base length freed => ?_,
    fun i clears => TrapSession.reusable_of_clears tidy clears⟩
  obtain ⟨held, gone⟩ := TrapSession.freed_held before.sound before.windows_held
    (before.heldWindows_nodup early) freed
  exact ⟨held, gone, fun i alone => TrapSession.freed_apart tidy freed alone⟩

theorem TrapReach.windows_conserved_refused :
    let start := TrapSession.start [.ok 0x1800] [.error .invalidParameter]
    let shared := (start.make none (.register 0 8 .readWrite [])).2
    let release := TrapMove.make shared none (.unregister (.registration 0))
    let history := [.make start none (.register 0 8 .readWrite []), release]
    release.freed = [(0x1800, 0x100)] ∧ 0x1800 ∉ heldWindows history ∧
      (shared.make none (.unregister (.registration 0))).1 = .completed (.ok ()) ∧
      (shared.make none (.unregister (.registration 0))).2.system.Reusable 0 := by
  intro start shared release history
  have first := (TrapReach.start [.ok 0x1800] [.error .invalidParameter]).made
    (.register 0 8 .readWrite []) (by simp)
  have reach : TrapReach history _ := first.made (.unregister (.registration 0)) (by simp)
  have granted : ∀ move ∈ history, move.GrantsApart := by
    intro move hm
    simp only [history, List.mem_cons, List.not_mem_nil, or_false] at hm
    rcases hm with rfl | rfl
    · intro base h
      cases h
      decide
    · exact TrapMove.grantsApart_of_not_registration rfl
  obtain ⟨_, _, _, conserved⟩ := reach.windows_conserved granted
  obtain ⟨_, _, lost, reusable⟩ := conserved
    [.make start none (.register 0 8 .readWrite [])] shared none
    (.unregister (.registration 0)) [] rfl
  have freed : release.freed = [(0x1800, 0x100)] := by decide +kernel
  have only : release.released?.map (fun record => [record]) =
      some (shared.system.dispatcher.entry 0).records := by decide +kernel
  obtain ⟨record, released, alone⟩ := Option.map_eq_some_iff.mp only
  have clears : release.Clears 0 := ⟨record, released, alone.symm⟩
  have given : (0x1800, 0x100) ∈ release.freed := by
    rw [freed]
    exact List.mem_singleton_self _
  exact ⟨freed, (lost 0x1800 0x100 given).2.1,
    reusable 0 clears shared.system.hardware _ _⟩

end PlatformFirmware
