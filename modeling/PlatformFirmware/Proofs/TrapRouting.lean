import PlatformFirmware.Proofs.TrapCalls
import PlatformFirmware.Proofs.TrapDecode
import PlatformFirmware.Proofs.TrapQuiet
import PlatformFirmware.Proofs.TrapShadow

namespace PlatformFirmware

open TrapSystem

/-- Whether a registration is to be called for a cycle, after what happened. -/
def TrapRecord.receives (record : TrapRecord) (history : List TrapMove) (cycle : TrappedCycle) :
    Bool :=
  record.isFor cycle.address cycle.isWrite && !record.isPausedAfter history &&
    (!record.callback.isExtended || record.request.acceptsBytes cycle)

theorem TrapRequest.acceptsBytes_default {request : TrapRequest} (h : request.byteEnable = 0)
    (h' : request.ignoredByteEnable = 0xF) (cycle : TrappedCycle) :
    request.acceptsBytes cycle = true := by
  unfold TrapRequest.acceptsBytes
  rw [h, h']
  generalize cycle.get .byteEnable = enables
  revert enables
  decide

theorem TrapEntry.IsWindow.takes_iff {entry : TrapEntry} (window : entry.IsWindow)
    (cycle : TrappedCycle) :
    (TrapRegister.ofRange entry.base mergedTrapLength .readWrite).takes cycle = true ↔
      entry.base.toNat ≤ cycle.address.toNat ∧
        cycle.address.toNat < entry.base.toNat + mergedTrapLength.toNat := by
  have bytes := @TrapRequest.acceptsBytes_default
    { address := entry.base, length := mergedTrapLength, direction := .readWrite } rfl rfl cycle
  have takes := @TrapRegister.ofRequest_takes mergedTrapLength (by decide)
    { address := entry.base, length := mergedTrapLength, direction := .readWrite }
    window.base_dvd cycle
  rw [TrapRegister.ofRequest_default] at takes
  rw [takes]
  exact ⟨fun h => h.1, fun h => ⟨h, rfl, bytes⟩⟩

/-- The two filters agree: a registration is to be called iff its register takes the cycle and the
dispatcher finds the record to be for it. -/
theorem TrapSession.Shadowed.receives_eq {history : List TrapMove} {session : TrapSession}
    (shadowed : session.Shadowed history) {i : Fin 4} {record : TrapRecord}
    (h : record ∈ (session.system.dispatcher.entry i).records) (cycle : TrappedCycle) :
    record.receives history cycle =
      ((session.system.hardware.register i).takes cycle &&
        record.isFor cycle.address cycle.isWrite) := by
  have tidy := shadowed.roster.tidy.entries i
  have isFor := record.isFor_iff cycle.address cycle.isWrite
  unfold TrapRecord.receives
  cases alone : (session.system.dispatcher.entry i).isDedicated with
  | true =>
    rw [(shadowed.programmed i).dedicated alone record h]
    cases paused : record.isPausedAfter history with
    | true =>
      rw [Bool.not_true, TrapRegister.takes_of_disabled]
      simp
    | false =>
      have aligned := tidy.aligned record h
      have takes := TrapRegister.ofRequest_takes aligned.length_mem aligned.dvd cycle
      rw [← and_assoc, ← isFor] at takes
      rw [Bool.not_false, TrapRegister.setEnabled_true (TrapRegister.ofRequest_enable _ _)]
      cases extended : record.callback.isExtended with
      | true =>
        rw [Bool.eq_iff_iff]
        simp only [Bool.and_true, Bool.not_true, Bool.false_or, Bool.and_eq_true, takes]
        grind
      | false =>
        have live := TrapDispatcher.mem_liveRecords.mpr ⟨i, h⟩
        obtain ⟨enable, ignored⟩ := shadowed.roster.plain record live extended
        have bytes := TrapRequest.acceptsBytes_default enable ignored cycle
        rw [Bool.eq_iff_iff]
        simp only [Bool.and_true, Bool.not_false, Bool.true_or, Bool.and_eq_true, takes, bytes]
        grind
  | false =>
    have used := (shadowed.roster.tidy.within h).1
    have window := tidy.window used alone
    rw [(shadowed.programmed i).window used alone,
      (shadowed.programmed i).running alone record h, window.plain record h]
    cases inside : record.isFor cycle.address cycle.isWrite with
    | false => simp
    | true =>
      obtain ⟨lo, hi⟩ := window.within record h
      have le := window.used_le
      have here := (isFor.mp inside).1
      have takes : (TrapRegister.ofRange (session.system.dispatcher.entry i).base mergedTrapLength
          .readWrite).takes cycle = true := by
        rw [window.takes_iff]
        omega
      rw [takes]
      rfl

namespace TrapHardware

/-- The status in which the bit of every register is set that takes a cycle. -/
def hits (hardware : TrapHardware) (cycle : TrappedCycle) : UInt32 :=
  ⟨(BitVec.ofBoolListLE ((List.finRange 4).map fun i =>
    (hardware.register i).takes cycle)).setWidth 32⟩

theorem hits_getLsbD (hardware : TrapHardware) (cycle : TrappedCycle) (i : Fin 4) :
    (hardware.hits cycle).toBitVec.getLsbD i = (hardware.register i).takes cycle := by
  have small : (i : Nat) < 32 := by omega
  simp [hits, -BitVec.getLsbD_eq_getElem, small]

end TrapHardware

namespace TrapSession

/-- The hardware sees a cycle. It latches the cycle if there is a register that takes it. -/
def ioCycle (session : TrapSession) (cycle : TrappedCycle) (data : UInt32) : TrapSession :=
  let hits := session.system.hardware.hits cycle
  if hits == 0 then session else (session.act (latch hits ⟨cycle.word⟩ data)).2

theorem status_bit {status : UInt32} (idle : status &&& trapStatusMask = 0) (hits : UInt32)
    (i : Fin 4) :
    ((status ||| hits) &&& trapStatusMask).toBitVec.getLsbD i = hits.toBitVec.getLsbD i := by
  have mask : ∀ j : Fin 4, trapStatusMask.toBitVec.getLsbD j = true := by decide
  have clear : (status &&& trapStatusMask).toBitVec.getLsbD i = false := by
    rw [idle]
    exact BitVec.getLsbD_zero
  rw [UInt32.toBitVec_and, BitVec.getLsbD_and, mask, Bool.and_true] at clear ⊢
  rw [UInt32.toBitVec_or, BitVec.getLsbD_or, clear, Bool.false_or]

/-- A dispatch reads the cycle that was latched, and which registers took it. -/
theorem ioCycle_trapped (session : TrapSession) (cycle : TrappedCycle) (data : UInt32)
    (idle : session.system.hardware.status &&& trapStatusMask = 0) :
    match trapped? (session.ioCycle cycle data).system.hardware with
    | none => ∀ i : Fin 4, (session.system.hardware.register i).takes cycle = false
    | some access => access.address = cycle.address ∧ access.isWrite = cycle.isWrite ∧
        access.writeData = (if cycle.isWrite then data else 0) ∧
        ∀ i : Fin 4, access.status.toBitVec.getLsbD i =
          (session.system.hardware.register i).takes cycle := by
  by_cases missed : session.system.hardware.hits cycle = 0
  · have same : session.ioCycle cycle data = session := by
      simp only [ioCycle, missed]
      rfl
    rw [same, trapped?_of_idle idle]
    intro i
    rw [← TrapHardware.hits_getLsbD, missed]
    exact BitVec.getLsbD_zero
  · have latched : session.ioCycle cycle data =
        (session.act (latch (session.system.hardware.hits cycle) ⟨cycle.word⟩ data)).2 := by
      simp only [ioCycle]
      exact if_neg (by simpa using missed)
    have bits := status_bit idle (session.system.hardware.hits cycle)
    cases ht : trapped? (session.ioCycle cycle data).system.hardware with
    | none =>
      rw [latched] at ht
      have zero : (session.system.hardware.status ||| session.system.hardware.hits cycle) &&&
          trapStatusMask = 0 := trapped?_eq_none ht
      intro i
      rw [← TrapHardware.hits_getLsbD, ← bits i, zero]
      exact BitVec.getLsbD_zero
    | some access =>
      rw [latched] at ht
      obtain rfl := trapped?_eq_some ht
      exact ⟨rfl, rfl, rfl, fun i => (bits i).trans (TrapHardware.hits_getLsbD _ _ i)⟩

theorem ioCycle_eqs (session : TrapSession) (cycle : TrappedCycle) (data : UInt32) :
    (session.ioCycle cycle data).system.dispatcher = session.system.dispatcher ∧
      (session.ioCycle cycle data).clients = session.clients ∧
      (session.ioCycle cycle data).system.callbacks = session.system.callbacks := by
  simp only [ioCycle]
  split <;> exact ⟨rfl, rfl, rfl⟩

end TrapSession

theorem flatMap_filter {α β : Type} (test : α → Bool) (f : α → List β) (list : List α) :
    (list.filter test).flatMap f = list.flatMap fun a => if test a then f a else [] := by
  induction list with
  | nil => rfl
  | cons a list ih => by_cases h : test a <;> simp [h, ih]

namespace TrapSession.Shadowed

variable {history : List TrapMove} {session : TrapSession}

theorem receivers_eq (shadowed : session.Shadowed history) (cycle : TrappedCycle)
    {registers : List (Fin 4)}
    (taken : registers = (List.finRange 4).filter fun i =>
      (session.system.hardware.register i).takes cycle) :
    (session.system.dispatcher.liveRecords.filter fun record => record.receives history cycle) =
      registers.flatMap fun i =>
        session.system.dispatcher.matching i cycle.address cycle.isWrite := by
  have each (i : Fin 4) : ((session.system.dispatcher.entry i).records.filter fun record =>
      record.receives history cycle) =
        if (session.system.hardware.register i).takes cycle then
          session.system.dispatcher.matching i cycle.address cycle.isWrite
        else [] := by
    have agree (record : TrapRecord) (hr : record ∈ (session.system.dispatcher.entry i).records) :=
      shadowed.receives_eq hr cycle
    rw [List.filter_congr agree]
    split
    next takes => simp only [takes, Bool.true_and, TrapDispatcher.matching]
    next misses =>
      rw [Bool.eq_false_iff.mpr misses]
      simp
  rw [TrapDispatcher.liveRecords, List.filter_flatMap, taken, flatMap_filter]
  simp only [each]

theorem routes (shadowed : session.Shadowed history)
    (idle : session.system.hardware.status &&& trapStatusMask = 0) (quiet : session.Quiet)
    (cycle : TrappedCycle) (data : UInt32) {receivers : List TrapRecord}
    (h : receivers = session.system.dispatcher.liveRecords.filter fun record =>
      record.receives history cycle) :
    receivers.length ≤ 1 ∧
      ((session.ioCycle cycle data).step .dispatch).1 = .dispatched receivers.length ∧
      ((session.ioCycle cycle data).step .dispatch).2.system.callbacks =
        session.system.callbacks ++ receivers.map fun record =>
          callEvent record (if cycle.isWrite then data else 0) := by
  obtain ⟨dispatcher, clients, callbacks⟩ := session.ioCycle_eqs cycle data
  have le : receivers.length ≤ 1 := by
    have covers : ∀ record ∈ receivers,
        record.isFor cycle.address cycle.isWrite = true := by
      intro record hr
      rw [h] at hr
      have receives := (List.mem_filter.mp hr).2
      simp only [TrapRecord.receives, Bool.and_eq_true] at receives
      exact receives.1.1
    refine length_le_one_of_apart ?_ covers
    rw [h]
    exact shadowed.roster.tidy.liveRecords_apart.filter _
  refine ⟨le, ?_⟩
  have trapped := session.ioCycle_trapped cycle data idle
  cases ht : trapped? (session.ioCycle cycle data).system.hardware with
  | none =>
    rw [ht] at trapped
    have untaken : [] = (List.finRange 4).filter fun i =>
        (session.system.hardware.register i).takes cycle := by
      symm
      rw [List.filter_eq_nil_iff]
      intro i _
      rw [trapped i]
      exact Bool.false_ne_true
    have nobody : receivers = [] := h.trans (shadowed.receivers_eq cycle untaken)
    obtain ⟨outcome, called⟩ := step_dispatch_none ht
    rw [nobody, List.map_nil, List.append_nil, outcome, called]
    exact ⟨rfl, callbacks⟩
  | some access =>
    rw [ht] at trapped
    obtain ⟨address, isWrite, writeData, status⟩ := trapped
    have calm : (session.ioCycle cycle data).Quiet := by
      unfold Quiet
      rw [clients]
      exact quiet
    have found : receivers = (DispatchFrame.start access).registers.flatMap fun i =>
        (session.ioCycle cycle data).system.dispatcher.matching i access.address
          access.isWrite := by
      rw [dispatcher, address, isWrite, h]
      refine shadowed.receivers_eq cycle ?_
      simp only [DispatchFrame.start, status]
    obtain ⟨outcome, called⟩ := step_dispatch_some ht calm found le
    rw [writeData, callbacks] at called
    exact ⟨outcome, called⟩

end TrapSession.Shadowed

/-- Every cycle is routed to the registration that is to be called for it, if there is one, and to
no other. -/
theorem TrapReach.routes_every_cycle {history : List TrapMove} {turn : TrapTurn}
    (reach : TrapReach history turn)
    (allowed : ∀ move ∈ history, move.GrantsApart ∧ move.KeepsRegisters)
    (idle : turn.session.system.hardware.status &&& trapStatusMask = 0)
    (quiet : turn.session.Quiet) (cycle : TrappedCycle) (data : UInt32) :
    let receivers := turn.session.system.dispatcher.liveRecords.filter fun record =>
      record.receives history cycle
    let answer := (turn.session.ioCycle cycle data).step .dispatch
    receivers.length ≤ 1 ∧ answer.1 = .dispatched receivers.length ∧
      answer.2.system.callbacks = turn.session.system.callbacks ++ receivers.map fun record =>
        TrapSession.callEvent record (if cycle.isWrite then data else 0) :=
  (reach.shadowed allowed).routes idle quiet cycle data rfl

theorem TrapReach.routes_write_cycle :
    let registered := ((TrapSession.start [] []).make none (.register 0x60 4 .write [])).2
    let cycle : TrappedCycle := ((⟨0⟩ : TrappedCycle).put .dwordAddress 0x18).put .byteEnable 2
    let answer := (registered.ioCycle cycle 0x1100).step .dispatch
    answer.1 = .dispatched 1 ∧ answer.2.system.callbacks = [.call 0 (.ofSerial 1) 0x1100] := by
  intro registered cycle answer
  have reach := (TrapReach.start [] []).made (.register 0x60 4 .write []) (by simp)
  have allowed : ∀ move ∈ [TrapMove.make (TrapSession.start [] []) none
      (.register 0x60 4 .write [])], move.GrantsApart ∧ move.KeepsRegisters := by
    intro move hm
    obtain rfl := List.mem_singleton.mp hm
    refine ⟨fun base h => ?_, trivial⟩
    cases h
  have empty : (TrapSession.start [] []).Quiet := fun client hc => nomatch hc
  have quiet : registered.Quiet := empty.make rfl rfl none
  have idle : registered.system.hardware.status &&& trapStatusMask = 0 := by decide +kernel
  obtain ⟨_, outcome, called⟩ := reach.routes_every_cycle allowed idle quiet cycle 0x1100
  have receivers : registered.system.dispatcher.liveRecords.filter (fun record =>
      record.receives ([] ++ [.make (TrapSession.start [] []) none (.register 0x60 4 .write [])])
        cycle) = [⟨.ofSerial 1, ⟨0x60, 4, .write, 0, 0xF⟩, 4, .plain 0⟩] := by decide +kernel
  have before : registered.system.callbacks = [] := TrapSession.make_callbacks _ _ _
  have write : cycle.isWrite = true := by decide
  constructor
  · exact outcome.trans
      (congrArg (fun list : List TrapRecord => TrapOutcome.dispatched list.length) receivers)
  · rw [show TrapTurn.session _ = registered from rfl, receivers, before, write] at called
    exact called

end PlatformFirmware
