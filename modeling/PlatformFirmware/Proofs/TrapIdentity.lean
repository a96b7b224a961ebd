import Mathlib.Data.List.Nodup
import PlatformFirmware.Proofs.TrapSerial

namespace PlatformFirmware

open TrapSystem

/-- The handle that a registration is given. -/
def TrapOutcome.handle? : TrapOutcome → Option TrapHandle
  | registered (.ok handle) _ => some handle
  | _ => none

def TrapMove.given? : TrapMove → Option TrapHandle
  | make session self step => (session.make self step).1.handle?
  | call _ _ _ => none

/-- The handles that were given out in some moves, in their order. -/
def givenHandles (history : List TrapMove) : List TrapHandle :=
  history.filterMap TrapMove.given?

/-- The handles of the registrations that were ended in some moves. -/
def endedHandles (history : List TrapMove) : List TrapHandle :=
  (history.filterMap TrapMove.released?).map TrapRecord.handle

theorem givenHandles_concat (past : List TrapMove) (move : TrapMove) :
    givenHandles (past ++ [move]) = givenHandles past ++ move.given?.toList := by
  rw [givenHandles, List.filterMap_append]
  cases h : move.given? <;> simp [givenHandles, h]

theorem endedHandles_concat (past : List TrapMove) (move : TrapMove) :
    endedHandles (past ++ [move]) =
      endedHandles past ++ (move.released?.map TrapRecord.handle).toList := by
  rw [endedHandles, List.filterMap_append, List.map_append]
  cases h : move.released? <;> simp [endedHandles, h]

theorem TrapOutcome.handle?_ofRegistration (address : UInt16)
    (result : Except Fault (TrapHandle × UInt16)) :
    (ofRegistration address result).handle? = result.toOption.map Prod.fst := by
  match result with
  | .ok (_, _) => rfl
  | .error (.refused _) => rfl
  | .error (.halted _) => rfl

theorem TrapOutcome.handle?_ofCall (result : Except Fault Unit) :
    (ofCall result).handle? = none := by
  match result with
  | .ok () => rfl
  | .error (.refused _) => rfl
  | .error (.halted _) => rfl

theorem TrapOutcome.handle?_eq_some {outcome : TrapOutcome} {handle : TrapHandle} :
    outcome.handle? = some handle ↔ ∃ address, outcome = .registered (.ok handle) address := by
  match outcome with
  | registered (.ok _) _ => simp [handle?]
  | registered (.error _) _ | completed _ | noHandle | dispatched _ | halted _ => simp [handle?]

namespace TrapSession

/-- What a step does to the registrations in force: it begins one, ends one, or does neither. -/
inductive Enlists (before : TrapSession) (self : Option Nat) (step : TrapStep)
    (after : TrapSession) : Prop
  | begins {callback request reactions address} :
      step.registration? before.clients.length = some (callback, request, reactions) →
      (TrapMove.make before self step).given? =
        some (.ofSerial before.system.dispatcher.nextSerial) →
      (TrapMove.make before self step).released? = none →
      after.system.dispatcher.nextSerial = before.system.dispatcher.nextSerial + 1 →
      after.system.dispatcher.liveRecords.Perm
        (before.system.dispatcher.newRecord callback request address ::
          before.system.dispatcher.liveRecords) → Enlists before self step after
  | ends {record : TrapRecord} : (TrapMove.make before self step).given? = none →
      (TrapMove.make before self step).released? = some record →
      after.system.dispatcher.nextSerial = before.system.dispatcher.nextSerial →
      before.system.dispatcher.liveRecords.Perm
        (record :: after.system.dispatcher.liveRecords) → Enlists before self step after
  | neither : (TrapMove.make before self step).given? = none →
      (TrapMove.make before self step).released? = none →
      before.system.SameRecords after.system → Enlists before self step after

theorem make_enlists {before : TrapSession} (sound : before.system.dispatcher.Sound)
    (self : Option Nat) (step : TrapStep) :
    before.Enlists self step (before.make self step).2 := by
  have makes := make_makes before self step
  have quiet := @quiet_of_not_done before self step
  have given : (TrapMove.make before self step).given? = (before.make self step).1.handle? := rfl
  have released := @released?_of_not_release before self step
  generalize (before.make self step).1 = outcome at makes quiet given
  generalize (before.make self step).2 = after at makes ⊢
  cases makes with
  | @registers _ callback request reactions result system hr registers =>
    have released := released (by cases step <;> first | rfl | cases hr)
    rw [TrapOutcome.handle?_ofRegistration] at given
    cases result with
    | error fault => exact .neither given released (registers.sameRecords sound)
    | ok answer =>
      obtain ⟨handle, address⟩ := answer
      obtain ⟨rfl, serial, live⟩ := registers.enlists sound
      exact .begins hr given released serial live
  | missing => exact .neither given (quiet rfl).1 (sameRecords_of_eq rfl)
  | @drops _ target extended handle result system hr hh drops =>
    rw [TrapOutcome.handle?_ofCall] at given
    cases result with
    | error fault =>
      have refuses := drops.refuses
      obtain ⟨_, rfl⟩ := refuses.told
      exact .neither given (quiet rfl).1 (sameRecords_of_eq refuses.dispatcher)
    | ok _ =>
      obtain ⟨i, place, record, finds, dispatcher, _⟩ := drops.done
      have live := TrapDispatcher.liveRecords_without finds.placed
      rw [← dispatcher] at live
      have serial : system.dispatcher.nextSerial = before.system.dispatcher.nextSerial := by
        rw [dispatcher]
        rfl
      exact .ends given (released?_of_finds hr hh finds) serial live
  | switches hr _ switches =>
    rw [TrapOutcome.handle?_ofCall] at given
    have released := released (by cases step <;> first | rfl | cases hr)
    exact .neither given released (sameRecords_of_eq switches.dispatcher_eq)
  | locks => exact .neither given (released rfl) ⟨TrapDispatcher.liveRecords_eq rfl, rfl⟩
  | latches | sets => exact .neither given (released rfl) (sameRecords_of_eq rfl)
  | begins =>
    have notes := beginDispatch_notes before.system
    exact .neither given (released rfl) (sameRecords_of_eq notes.dispatcher)

/-- The handles given out are numbered in their order. Each is that of a registration in force or
of one that was ended. -/
structure Enrolled (history : List TrapMove) (session : TrapSession) : Prop where
  serial : session.system.dispatcher.nextSerial =
    1 + UInt32.ofNat (givenHandles history).length
  numbered : givenHandles history =
    (List.range (givenHandles history).length).map TrapHandle.numbered
  balance : (session.system.dispatcher.liveRecords.map TrapRecord.handle ++
    endedHandles history).Perm (givenHandles history)

theorem enrolled_start (allocations : List (Except EfiError UInt16))
    (releases : List (Except EfiError Unit)) :
    (TrapSession.start allocations releases).Enrolled [] where
  serial := rfl
  numbered := rfl
  balance := by
    have none : ({} : TrapDispatcher).liveRecords = [] := by simp [TrapDispatcher.liveRecords]
    exact List.Perm.of_eq (congrArg (fun live => live.map TrapRecord.handle ++ []) none)

theorem Enrolled.of_quiet {history : List TrapMove} {before after : TrapSession} {move : TrapMove}
    (enrolled : before.Enrolled history) (given : move.given? = none)
    (released : move.released? = none) (same : before.system.SameRecords after.system) :
    after.Enrolled (history ++ [move]) := by
  have handles : givenHandles (history ++ [move]) = givenHandles history := by
    rw [givenHandles_concat, given, Option.toList_none, List.append_nil]
  have ended : endedHandles (history ++ [move]) = endedHandles history := by
    rw [endedHandles_concat, released, Option.map_none, Option.toList_none, List.append_nil]
  refine ⟨?_, ?_, ?_⟩
  · rw [handles, same.2, enrolled.serial]
  · rw [handles]
    exact enrolled.numbered
  · rw [handles, ended, same.1]
    exact enrolled.balance

theorem Enrolled.make {history : List TrapMove} {session : TrapSession}
    (enrolled : session.Enrolled history) (sound : session.system.dispatcher.Sound)
    (self : Option Nat) (step : TrapStep) :
    (session.make self step).2.Enrolled (history ++ [.make session self step]) := by
  have handles := givenHandles_concat history (.make session self step)
  have ended := endedHandles_concat history (.make session self step)
  cases session.make_enlists sound self step with
  | @begins callback request _ address _ given released serial live =>
    -- The next serial is that of the number of handles given out so far.
    have fresh : TrapHandle.ofSerial session.system.dispatcher.nextSerial =
        .numbered (givenHandles history).length := by
      rw [enrolled.serial]
      rfl
    rw [given, Option.toList_some, fresh] at handles
    rw [released, Option.map_none, Option.toList_none, List.append_nil] at ended
    have count : (givenHandles (history ++ [.make session self step])).length =
        (givenHandles history).length + 1 := by
      rw [handles, List.length_append, List.length_singleton]
    have names := (live.map TrapRecord.handle).append_right (endedHandles history)
    have named : (session.system.dispatcher.newRecord callback request address).handle =
        .numbered (givenHandles history).length := fresh
    rw [List.map_cons, named] at names
    refine ⟨?_, ?_, ?_⟩
    · rw [serial, count, enrolled.serial, UInt32.ofNat_add, ← UInt32.add_assoc]
      rfl
    · rw [count, List.range_succ, List.map_append, ← enrolled.numbered]
      exact handles
    · rw [handles, ended]
      exact names.trans ((enrolled.balance.cons _).trans (List.perm_append_singleton _ _).symm)
  | @ends record given released serial live =>
    rw [given, Option.toList_none, List.append_nil] at handles
    rw [released, Option.map_some, Option.toList_some] at ended
    have names := (live.map TrapRecord.handle).append_right (endedHandles history)
    refine ⟨?_, ?_, ?_⟩
    · rw [handles, serial, enrolled.serial]
    · rw [handles]
      exact enrolled.numbered
    · rw [handles, ended, ← List.append_assoc]
      exact (List.perm_append_singleton _ _).trans (names.symm.trans enrolled.balance)
  | neither given released same => exact enrolled.of_quiet given released same

end TrapSession

theorem TrapReach.enrolled {history : List TrapMove} {turn : TrapTurn}
    (reach : TrapReach history turn) : turn.session.Enrolled history := by
  refine (reach.sound_induction (P := fun history session => session.Enrolled history)
    TrapSession.enrolled_start ?_ ?_ ?_ ?_).2
  · exact fun self step sound enrolled => enrolled.make sound self step
  · exact fun record writeData enrolled => enrolled.of_quiet rfl rfl (sameRecords_of_eq rfl)
  · exact fun mask enrolled => ⟨enrolled.serial, enrolled.numbered, enrolled.balance⟩
  · exact fun outcome enrolled => ⟨enrolled.serial, enrolled.numbered, enrolled.balance⟩

namespace TrapSession

variable {history : List TrapMove} {session : TrapSession}

theorem Enrolled.getElem_eq (enrolled : session.Enrolled history) {number : Nat}
    (inside : number < (givenHandles history).length) :
    (givenHandles history)[number] = .numbered number := by
  have listed := List.getElem_of_eq enrolled.numbered inside
  rwa [List.getElem_map, List.getElem_range] at listed

/-- As long as the serial has not come round, no handle is given out twice. -/
theorem Enrolled.nodup (enrolled : session.Enrolled history)
    (few : (givenHandles history).length ≤ 2 ^ 32) : (givenHandles history).Nodup := by
  rw [enrolled.numbered]
  refine List.Nodup.map_on ?_ List.nodup_range
  intro number hn other ho same
  have below := List.mem_range.mp hn
  have below' := List.mem_range.mp ho
  have := TrapHandle.numbered_inj.mp same
  rwa [Nat.mod_eq_of_lt (by omega), Nat.mod_eq_of_lt (by omega)] at this

theorem Enrolled.live_nodup (enrolled : session.Enrolled history)
    (few : (givenHandles history).length ≤ 2 ^ 32) :
    (session.system.dispatcher.liveRecords.map TrapRecord.handle).Nodup :=
  (enrolled.balance.nodup_iff.mpr (enrolled.nodup few)).of_append_left

/-- A handle that was not given out, or whose registration was ended, is of none in force. -/
theorem Enrolled.absent (enrolled : session.Enrolled history)
    (few : (givenHandles history).length ≤ 2 ^ 32) {handle : TrapHandle}
    (gone : handle ∉ givenHandles history ∨ handle ∈ endedHandles history) :
    ∀ record ∈ session.system.dispatcher.liveRecords, record.handle ≠ handle := by
  rintro record live rfl
  have named : record.handle ∈ session.system.dispatcher.liveRecords.map TrapRecord.handle :=
    List.mem_map_of_mem live
  rcases gone with never | ended
  · exact never (enrolled.balance.subset (List.mem_append_left _ named))
  · have apart := enrolled.balance.nodup_iff.mpr (enrolled.nodup few)
    exact List.disjoint_of_nodup_append apart named ended

end TrapSession

/-- The handles given out in a history tell its registrations apart, except that a serial comes
round after 2 ^ 32 of them; only a successful registration takes one. Until then each registration
in force has a handle of its own, and one that was never given out or whose registration was ended
is refused without any effect. -/
theorem TrapReach.handles_identify {history : List TrapMove} {turn : TrapTurn}
    (reach : TrapReach history turn) :
    let handles := givenHandles history
    let system := turn.session.system
    (∀ i j, (hi : i < handles.length) → (hj : j < handles.length) →
      (handles[i] = handles[j] ↔ i % 2 ^ 32 = j % 2 ^ 32)) ∧
    (∀ handle ∈ handles, handle.hasSignature = true) ∧
    system.dispatcher.nextSerial = 1 + UInt32.ofNat handles.length ∧
    (∀ self step, (TrapMove.make turn.session self step).given? = none →
      (turn.session.make self step).2.system.dispatcher.nextSerial =
        system.dispatcher.nextSerial) ∧
    (handles.length ≤ 2 ^ 32 →
      (system.dispatcher.liveRecords.map TrapRecord.handle).Nodup ∧
      ∀ handle, handle ∉ handles ∨ handle ∈ endedHandles history →
        (system.dispatcher.isLocked = false →
          unregister handle system = (.error (.refused .invalidParameter), system) ∧
          unregisterExtended handle system = (.error (.refused .invalidParameter), system)) ∧
        pause handle system = (.error (.refused .invalidParameter), system) ∧
        resume handle system = (.error (.refused .invalidParameter), system)) := by
  intro handles system
  have enrolled := reach.enrolled
  refine ⟨fun i j hi hj => ?_, fun handle hm => ?_, enrolled.serial, fun self step none => ?_,
    fun few => ⟨enrolled.live_nodup few, fun handle gone => ?_⟩⟩
  · rw [enrolled.getElem_eq hi, enrolled.getElem_eq hj]
    exact TrapHandle.numbered_inj
  · rw [show handles = _ from enrolled.numbered] at hm
    obtain ⟨number, _, rfl⟩ := List.mem_map.mp hm
    exact TrapHandle.ofSerial_hasSignature _
  · cases turn.session.make_enlists reach.sound self step with
    | begins _ given => exact absurd (none.symm.trans given) (by simp)
    | ends _ _ serial => exact serial
    | neither _ _ same => exact same.2
  · have unknown := TrapDispatcher.findRecord?_eq_none (enrolled.absent few gone)
    exact ⟨fun unlocked => ⟨dropRecord_of_unknown unlocked unknown false,
      dropRecord_of_unknown unlocked unknown true⟩,
      setEnabled_of_unknown unknown false, setEnabled_of_unknown unknown true⟩

theorem TrapReach.handles_identify_ended :
    let start := TrapSession.start [] []
    let first := (start.make none (.register 0x60 4 .write [])).2
    let ended := (first.make none (.unregister (.registration 0))).2
    let again := (ended.make none (.register 0x60 4 .write [])).2
    again.system.dispatcher.liveRecords.map TrapRecord.handle = [.ofSerial 2] ∧
      unregister (.ofSerial 1) again.system =
        (.error (.refused .invalidParameter), again.system) ∧
      pause (.ofSerial 1) again.system =
        (.error (.refused .invalidParameter), again.system) := by
  intro start first ended again
  have registered := (TrapReach.start [] []).made (.register 0x60 4 .write []) (by simp)
  have released : TrapReach _ (.finished ended _) :=
    registered.made (.unregister (.registration 0)) (by simp)
  have reach : TrapReach _ (.finished again _) :=
    released.made (.register 0x60 4 .write []) (by simp)
  obtain ⟨_, _, _, _, unique⟩ := reach.handles_identify
  have handles : givenHandles ([] ++ [.make start none (.register 0x60 4 .write [])] ++
      [.make first none (.unregister (.registration 0))] ++
      [.make ended none (.register 0x60 4 .write [])]) = [.ofSerial 1, .ofSerial 2] := by
    decide +kernel
  have gone : .ofSerial 1 ∈ endedHandles ([] ++ [.make start none (.register 0x60 4 .write [])] ++
      [.make first none (.unregister (.registration 0))] ++
      [.make ended none (.register 0x60 4 .write [])]) := by
    decide +kernel
  obtain ⟨_, refused⟩ := unique (by rw [handles]; decide)
  obtain ⟨unregistered, paused, _⟩ := refused (.ofSerial 1) (.inr gone)
  exact ⟨by decide +kernel, (unregistered (by decide +kernel)).1, paused⟩

end PlatformFirmware
