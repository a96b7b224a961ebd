import PlatformFirmware.Proofs.TrapLock
import PlatformFirmware.Proofs.TrapOrigin
import PlatformFirmware.Proofs.TrapService

namespace PlatformFirmware

open TrapSystem

theorem eraseIdx_split {α : Type} {values : List α} {place : Nat} {value : α}
    (h : values[place]? = some value) :
    ∃ front back, values = front ++ value :: back ∧ values.eraseIdx place = front ++ back := by
  obtain ⟨inside, rfl⟩ := List.getElem?_eq_some_iff.mp h
  refine ⟨values.take place, values.drop (place + 1), ?_, List.eraseIdx_eq_take_drop_succ ..⟩
  rw [List.getElem_cons_drop, List.take_append_drop]

namespace TrapSystem

theorem Logged.accesses_eq {before after : TrapSystem} (h : before.Logged after) :
    after.accesses = before.accesses := by
  obtain ⟨lines, rfl⟩ := h
  have none : (lines.map TrapEvent.log).filter TrapEvent.isAccess = [] := by
    rw [List.filter_eq_nil_iff]
    intro event logged
    obtain ⟨line, _, rfl⟩ := List.mem_map.mp logged
    exact Bool.false_ne_true
  rw [accesses, List.filter_append, none, List.append_nil]
  rfl

theorem program_accesses (system : TrapSystem) (i : Fin 4) (register : TrapRegister)
    (entry : TrapEntry) :
    (system.program i register entry).accesses =
      system.accesses ++ [.writeRegister i register] := by
  simp [accesses, program, TrapEvent.isAccess]

theorem released_accesses (system : TrapSystem) (base length : UInt16) :
    (system.released base length).accesses = system.accesses ++ [.free base length] := by
  simp [accesses, released, TrapEvent.isAccess]

/-- A record is taken from its register. The last one takes the range of the register along, which
is given back unless it is a caller's. -/
structure Removes (before : TrapSystem) (i : Fin 4) (front : List TrapRecord)
    (record : TrapRecord) (back : List TrapRecord) (after : TrapSystem) : Prop where
  records : (before.dispatcher.entry i).records = front ++ record :: back
  others : front ++ back ≠ [] →
    after.dispatcher =
        before.dispatcher.setEntry i { before.dispatcher.entry i with records := front ++ back } ∧
      after.hardware = before.hardware ∧ after.accesses = before.accesses
  last : front ++ back = [] →
    after.dispatcher = before.dispatcher.setEntry i {} ∧
      after.hardware = before.hardware.setRegister i .zero ∧
      after.accesses = before.accesses ++ .writeRegister i .zero ::
        if (before.dispatcher.entry i).isCallerOwned then []
        else [.free (before.dispatcher.entry i).base (before.dispatcher.entry i).length]

end TrapSystem

theorem TrapDispatcher.Finds.named {dispatcher : TrapDispatcher} {handle : TrapHandle}
    {extended : Bool} {i : Fin 4} {place : Nat} {record : TrapRecord}
    (h : dispatcher.Finds handle extended i place record) : record.handle = handle := by
  obtain ⟨found, placed, named⟩ := TrapDispatcher.findRecord?_eq_some h.found
  obtain rfl := Option.some.inj (placed.symm.trans h.placed)
  exact named

namespace TrapSystem

variable {handle : TrapHandle} {extended : Bool} {before after : TrapSystem}

theorem Drops.removes (h : Drops handle extended before (.ok ()) after) :
    ∃ i place front record back, before.dispatcher.Finds handle extended i place record ∧
      before.Removes i front record back after := by
  cases h with
  | @shared i place record _ finds rest logged =>
    obtain ⟨front, back, split, erased⟩ := eraseIdx_split finds.placed
    rw [erased] at rest logged
    refine ⟨i, place, front, record, back, finds, split, fun _ => ?_, fun none => ?_⟩
    · exact ⟨logged.dispatcher, logged.hardware, logged.accesses_eq⟩
    · exact absurd none rest
  | @dedicated i place record logged finds rest owned written =>
    obtain ⟨front, back, split, erased⟩ := eraseIdx_split finds.placed
    rw [erased] at rest
    refine ⟨i, place, front, record, back, finds, split, fun some => absurd rest some, fun _ => ?_⟩
    rw [program_dispatcher, program_hardware, program_accesses, written.dispatcher,
      written.hardware, written.accesses_eq, if_pos owned]
    exact ⟨rfl, rfl, rfl⟩
  | @window i place record logged _ finds rest owned written written' =>
    obtain ⟨front, back, split, erased⟩ := eraseIdx_split finds.placed
    rw [erased] at rest
    refine ⟨i, place, front, record, back, finds, split, fun some => absurd rest some, fun _ => ?_⟩
    rw [written'.dispatcher, written'.hardware, written'.accesses_eq, released_dispatcher,
      released_hardware, released_accesses, program_dispatcher, program_hardware,
      program_accesses, written.dispatcher, written.hardware, written.accesses_eq,
      if_neg (by simp [owned]), List.append_assoc]
    exact ⟨rfl, rfl, rfl⟩

/-- Of an unlocked dispatcher, an unregistration that does not succeed is refused as a whole. -/
theorem Drops.refused {result : Except Fault Unit}
    (h : Drops handle extended before result after)
    (unlocked : before.dispatcher.isLocked = false) (failed : result ≠ .ok ()) :
    result = .error (.refused .invalidParameter) ∧ after = before := by
  cases h with
  | locked locked _ => exact absurd (locked.symm.trans unlocked) (by simp)
  | foreign | unknown | mismatched => exact ⟨rfl, rfl⟩
  | shared | dedicated | window => exact absurd rfl failed

end TrapSystem

namespace TrapSession

variable {history : List TrapMove} {session : TrapSession}

theorem Enrolled.hasSignature (enrolled : session.Enrolled history) {record : TrapRecord}
    (live : record ∈ session.system.dispatcher.liveRecords) :
    record.handle.hasSignature = true := by
  have given : record.handle ∈ givenHandles history :=
    enrolled.balance.subset (List.mem_append_left _ (List.mem_map_of_mem live))
  rw [enrolled.numbered] at given
  obtain ⟨number, _, numbered⟩ := List.mem_map.mp given
  rw [← numbered]
  exact TrapHandle.ofSerial_hasSignature _

/-- A handle in force is found, when its registration was made through the same interface. -/
theorem InForce.finds {handle : TrapHandle} {callback : TrapCallback} {request : TrapRequest}
    (force : session.InForce history handle callback request)
    (founded : session.Founded history) (enrolled : session.Enrolled history)
    (few : (givenHandles history).length ≤ 2 ^ 32)
    (unlocked : session.system.dispatcher.isLocked = false) :
    ∃ i place record,
      session.system.dispatcher.Finds handle callback.isExtended i place record := by
  obtain ⟨record, live, rfl⟩ := force.live
  have same := force.callback_eq founded enrolled few live rfl
  obtain ⟨i, place, found, placed⟩ := TrapDispatcher.findRecord?_of_live live fun other live' =>
    enrolled.live_unique few live' live
  exact ⟨i, place, record, unlocked, enrolled.hasSignature live, found, placed, congrArg _ same⟩

end TrapSession

/-- A registration that is found is in force. -/
theorem TrapReach.inForce {history : List TrapMove} {turn : TrapTurn}
    (reach : TrapReach history turn) {handle : TrapHandle} {extended : Bool} {i : Fin 4}
    {place : Nat} {record : TrapRecord}
    (finds : turn.session.system.dispatcher.Finds handle extended i place record) :
    ∃ request, turn.session.InForce history handle record.callback request := by
  have live := TrapDispatcher.mem_liveRecords.mpr ⟨i, List.mem_of_getElem? finds.placed⟩
  obtain ⟨move, made, request, begins⟩ := reach.founded.begun record live
  exact ⟨request, ⟨record, live, finds.named⟩, move, made, finds.named ▸ begins.registered⟩

/-- The window of a register that is not a caller's is held, whatever the allocator grants. -/
theorem TrapReach.window_held {history : List TrapMove} {turn : TrapTurn}
    (reach : TrapReach history turn) {i : Fin 4}
    (some : (turn.session.system.dispatcher.entry i).records ≠ [])
    (shared : (turn.session.system.dispatcher.entry i).isCallerOwned = false) :
    (turn.session.system.dispatcher.entry i).base ∈ heldWindows history ∧
      (turn.session.system.dispatcher.entry i).length = 0x100 := by
  have sound := reach.sound i
  obtain ⟨record, kept⟩ := List.exists_mem_of_ne_nil _ some
  have used := sound.used_of_mem kept
  have alone : (turn.session.system.dispatcher.entry i).isDedicated = false :=
    Bool.eq_false_iff.mpr fun alone => absurd ((sound.owned alone).symm.trans shared) (by simp)
  refine ⟨reach.windows_held.mem_iff.mpr ?_, (sound.shared used alone).1⟩
  exact TrapDispatcher.mem_windows.mpr ⟨i, used, alone, rfl⟩

/-- To unregister takes the registration with the handle, if it was made through the same
interface, and nothing else. The last one on a register frees the register and its window. -/
theorem TrapReach.unregisters_one {history : List TrapMove} {turn : TrapTurn}
    (reach : TrapReach history turn) (few : (givenHandles history).length ≤ 2 ^ 32)
    (handle : TrapHandle) (extended : Bool) :
    let session := turn.session
    let system := session.system
    let call := if extended then unregisterExtended handle else unregister handle
    (system.dispatcher.isLocked = true → system.Denies call) ∧
    (system.dispatcher.isLocked = false →
      ((call system).1 = .ok () ↔ ∃ callback request,
        session.InForce history handle callback request ∧ callback.isExtended = extended) ∧
      ((call system).1 ≠ .ok () → call system = (.error (.refused .invalidParameter), system))) ∧
    ((call system).1 = .ok () → ∃ i front record back, record.handle = handle ∧
      system.Removes i front record back (call system).2 ∧
      let entry := system.dispatcher.entry i
      (entry.isCallerOwned = false → entry.base ∈ heldWindows history ∧ entry.length = 0x100) ∧
      (entry.isCallerOwned = true → ∃ move ∈ history, ∃ owner callback request,
        move.registered? = some (owner, callback, request) ∧ request.address ≠ 0 ∧
        entry.base = request.address ∧ entry.length = roundedTrapLength request.length)) := by
  intro session system call
  have same : call = dropRecord handle extended := by
    cases extended <;> rfl
  rw [same]
  have drops := dropRecord_drops handle extended system
  generalize answered : dropRecord handle extended system = answer at drops ⊢
  obtain ⟨result, after⟩ := answer
  dsimp only at drops ⊢
  refine ⟨fun locked => dropRecord_denied locked handle extended,
    fun unlocked => ⟨⟨?_, ?_⟩, ?_⟩, ?_⟩
  · rintro rfl
    obtain ⟨i, place, _, record, _, finds, _⟩ := drops.removes
    obtain ⟨request, force⟩ := reach.inForce finds
    exact ⟨record.callback, request, force, finds.interface⟩
  · rintro ⟨callback, request, force, rfl⟩
    obtain ⟨i, place, record, finds⟩ := force.finds reach.founded reach.enrolled few unlocked
    exact drops.result_eq finds
  · intro failed
    obtain ⟨rfl, rfl⟩ := drops.refused unlocked failed
    rfl
  · rintro rfl
    obtain ⟨i, place, front, record, back, finds, removes⟩ := drops.removes
    refine ⟨i, front, record, back, finds.named, removes, fun shared => ?_, fun owned => ?_⟩
    · exact reach.window_held (by rw [removes.records]; simp) shared
    · obtain ⟨move, made, owner, callback, request, known, nonzero, range⟩ :=
        reach.founded.owned i _ (TrapEntry.callerRange?_eq_some.mpr ⟨owned, rfl⟩)
      obtain ⟨base, length⟩ := Prod.mk.inj range
      exact ⟨move, made, owner, callback, request, known, nonzero, base, length⟩

theorem TrapReach.unregisters_one_last :
    let start := TrapSession.start [.ok 0x1800] [.error .invalidParameter]
    let shared := (start.make none (.register 0 8 .readWrite [])).2
    (unregisterExtended (.ofSerial 1) shared.system).1 ≠ .ok () ∧
      (unregister (.ofSerial 1) shared.system).1 = .ok () ∧
      (unregister (.ofSerial 1) shared.system).2.accesses =
        shared.system.accesses ++ [.writeRegister 0 .zero, .free 0x1800 0x100] := by
  intro start shared
  let history := [TrapMove.make start none (.register 0 8 .readWrite [])]
  have reach : TrapReach history (.finished shared _) :=
    (TrapReach.start [.ok 0x1800] [.error .invalidParameter]).made
      (.register 0 8 .readWrite []) (by simp)
  have few : (givenHandles history).length ≤ 2 ^ 32 := by decide +kernel
  have plain : ∀ move ∈ history, ∀ made ∈ move.registered?, made.2.1.isExtended = false := by
    decide +kernel
  have live : (⟨.ofSerial 1, ⟨0x1800, 8, .readWrite, 0, 0xF⟩, 8, .plain 0⟩ : TrapRecord) ∈
      shared.system.dispatcher.liveRecords := by decide +kernel
  have known : (TrapMove.make start none (.register 0 8 .readWrite [])).registered? =
      some (.ofSerial 1, .plain 0, ⟨0, 8, .readWrite, 0, 0xF⟩) := by decide +kernel
  have unlocked : shared.system.dispatcher.isLocked = false := by decide +kernel
  obtain ⟨_, foreign, _⟩ := reach.unregisters_one few (.ofSerial 1) true
  obtain ⟨_, own, takes⟩ := reach.unregisters_one few (.ofSerial 1) false
  have done := (own unlocked).1.mpr
    ⟨.plain 0, _, ⟨⟨_, live, rfl⟩, _, by simp [history], known⟩, rfl⟩
  obtain ⟨i, front, record, back, _, removes, _⟩ := takes done
  refine ⟨fun extended => ?_, done, ?_⟩
  · obtain ⟨callback, request, force, other⟩ := (foreign unlocked).1.mp extended
    obtain ⟨move, made, found⟩ := force.made
    exact absurd ((plain move made _ found).symm.trans other) (by simp)
  · -- The first register has the only registration.
    have only : ∀ j : Fin 4, (shared.system.dispatcher.entry j).records.length =
        if j = 0 then 1 else 0 := by decide +kernel
    have count := only i
    rw [show (shared.system.dispatcher.entry i).records = _ from removes.records,
      List.length_append, List.length_cons] at count
    split at count
    next first =>
      subst first
      have rest : front ++ back = [] :=
        List.eq_nil_of_length_eq_zero (by rw [List.length_append]; omega)
      exact (removes.last rest).2.2
    next => omega

end PlatformFirmware
