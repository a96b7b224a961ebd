import Mathlib.Data.List.Basic
import PlatformFirmware.Proofs.TrapDelivery
import PlatformFirmware.Proofs.TrapRange

namespace PlatformFirmware

open TrapSystem

/-- Whether the dispatcher turns to the hardware, the allocator or a callback. What callbacks do,
and the log, are not of this kind. -/
def TrapEvent.isAccess : TrapEvent → Bool
  | nested _ => false
  | log _ => false
  | _ => true

/-- Whether a step is the hardware's own, so that the dispatcher does not notice it. -/
def TrapStep.isHardware : TrapStep → Bool
  | latch _ _ _ => true
  | setRegister _ _ => true
  | _ => false

/-- The status bits that are set in some steps. -/
def latchedBits : List TrapStep → UInt32
  | [] => 0
  | .latch status _ _ :: steps => status ||| latchedBits steps
  | _ :: steps => latchedBits steps

def TrapSystem.accesses (system : TrapSystem) : List TrapEvent :=
  system.events.filter TrapEvent.isAccess

/-- What the callbacks of some registrations do when these are called one after another. -/
def TrapSession.reactionsTo (session : TrapSession) : List TrapRecord → List TrapStep
  | [] => []
  | record :: calls =>
    let reaction := session.takeReaction record.callback.client
    reaction.1 ++ reaction.2.reactionsTo calls

/-- What the running callback of a dispatch has yet to do. -/
def DispatchFrame.underway (frame : DispatchFrame) : List TrapStep :=
  (frame.callback.map Prod.snd).getD []

/-- A dispatch calls some registrations, during which some steps are made, and then clears the
status of the registers that had trapped. -/
structure TrapSession.Serves (before : TrapSession) (access : TrappedAccess)
    (calls : List TrapRecord) (steps : List TrapStep) (after : TrapSession) : Prop where
  accesses : after.system.accesses = before.system.accesses ++
    calls.map (fun record => callEvent record access.writeData) ++ [.clearStatus access.status]
  dispatcher : after.system.dispatcher = before.system.dispatcher
  status : after.system.hardware.status =
    (before.system.hardware.status ||| latchedBits steps) &&& ~~~access.status

namespace TrapSession

theorem accesses_note {session : TrapSession} {event : TrapEvent} (h : event.isAccess = false) :
    (session.note event).system.accesses = session.system.accesses := by
  simp [note, accesses, h]

theorem accesses_call (session : TrapSession) (record : TrapRecord) (writeData : UInt32) :
    (session.note (callEvent record writeData)).system.accesses =
      session.system.accesses ++ [callEvent record writeData] := by
  have made : (callEvent record writeData).isAccess = true := by
    unfold callEvent
    cases record.callback <;> rfl
  simp [note, accesses, made]

theorem accesses_clearStatus (session : TrapSession) (mask : UInt32) :
    (session.act (clearStatus mask)).2.system.accesses =
      session.system.accesses ++ [.clearStatus mask] := by
  have noted : (session.act (clearStatus mask)).2.system.events =
      session.system.events ++ [.clearStatus mask] := rfl
  simp [accesses, noted, TrapEvent.isAccess]

theorem reactionsTo_congr {before after : TrapSession} (h : after.clients = before.clients)
    (calls : List TrapRecord) : after.reactionsTo calls = before.reactionsTo calls := by
  induction calls generalizing before after with
  | nil => rfl
  | cons record calls ih =>
    have reaction : (after.takeReaction record.callback.client).1 =
        (before.takeReaction record.callback.client).1 := by
      simp only [takeReaction, h]
    have clients : (after.takeReaction record.callback.client).2.clients =
        (before.takeReaction record.callback.client).2.clients := by
      simp only [takeReaction, h]
    simp only [reactionsTo, reaction, ih clients]

/-- What a step of the hardware leaves as it was, and what it latches. -/
theorem make_hardware {step : TrapStep} (h : step.isHardware = true) (session : TrapSession)
    (self : Option Nat) :
    (session.make self step).1 = .completed (.ok ()) ∧
      (session.make self step).2.clients = session.clients ∧
      (session.make self step).2.system.events = session.system.events ∧
      (session.make self step).2.system.dispatcher = session.system.dispatcher ∧
      (session.make self step).2.system.hardware.status =
        session.system.hardware.status ||| latchedBits [step] := by
  cases step with
  | latch status cycle data =>
    refine ⟨rfl, rfl, rfl, rfl, ?_⟩
    change session.system.hardware.status ||| status = _
    simp [latchedBits]
  | setRegister register value =>
    refine ⟨rfl, rfl, rfl, rfl, ?_⟩
    change session.system.hardware.status = _
    simp [latchedBits]
  | _ => cases h

end TrapSession

theorem latchedBits_append (front back : List TrapStep) :
    latchedBits (front ++ back) = latchedBits front ||| latchedBits back := by
  induction front with
  | nil => simp [latchedBits]
  | cons step front ih =>
    cases step <;> simp [latchedBits, ih, UInt32.or_assoc]

/-- What is called and done before a dispatch goes on adds to what it serves. -/
theorem TrapSession.Serves.after {before middle final : TrapSession} {access : TrappedAccess}
    {calls : List TrapRecord} {steps : List TrapStep} (h : middle.Serves access calls steps final)
    (called : List TrapRecord) (made : List TrapStep)
    (accesses : middle.system.accesses = before.system.accesses ++
      called.map fun record => callEvent record access.writeData)
    (dispatcher : middle.system.dispatcher = before.system.dispatcher)
    (status : middle.system.hardware.status =
      before.system.hardware.status ||| latchedBits made) :
    before.Serves access (called ++ calls) (made ++ steps) final := by
  refine ⟨?_, h.dispatcher.trans dispatcher, ?_⟩
  · rw [h.accesses, accesses, List.map_append, List.append_assoc before.system.accesses]
  · rw [h.status, status, latchedBits_append, UInt32.or_assoc]

namespace TrapTurn

/-- After a step of the hardware, the callback that made it goes on. -/
theorem next_hardware {step : TrapStep} (h : step.isHardware = true) (session : TrapSession)
    (frame : DispatchFrame) (self : Nat) (rest : List TrapStep) :
    TrapTurn.next (running session { frame with callback := some (self, step :: rest) } []) =
      running ((session.make (some self) step).2.note (.nested (.completed (.ok ()))))
        { frame with callback := some (self, rest) } [] := by
  cases step with
  | latch | setRegister => rfl
  | _ => cases h

/-- A dispatch whose callbacks leave the dispatcher alone serves what it awaits. -/
theorem run_serves {turn : TrapTurn} (session : TrapSession) (frame : DispatchFrame)
    (here : turn = running session frame []) {calls : List TrapRecord}
    (awaits : calls = frame.awaits session.system.dispatcher) {steps : List TrapStep}
    (made : steps = frame.underway ++ session.reactionsTo calls)
    (alone : ∀ step ∈ steps, step.isHardware = true) :
    turn.run.1 = .dispatched (frame.invoked + calls.length) ∧
      session.Serves frame.access calls steps turn.run.2 := by
  induction turn using TrapTurn.run.induct generalizing session frame calls steps with
  | case1 => cases here
  | case2 session frame outer ih =>
    cases here
    rw [run]
    obtain ⟨access, registers, pending, invoked, callback⟩ := frame
    cases callback with
    | some running =>
      obtain ⟨self, reaction⟩ := running
      cases reaction with
      | cons step rest =>
        obtain rfl : steps = step :: (rest ++ session.reactionsTo calls) := made
        have hardware := alone step List.mem_cons_self
        obtain ⟨done, clients, events, dispatcher, status⟩ :=
          session.make_hardware hardware (some self)
        let after := (session.make (some self) step).2.note (.nested (.completed (.ok ())))
        have next := next_hardware hardware session
          ⟨access, registers, pending, invoked, some (self, step :: rest)⟩ self rest
        have same : after.clients = session.clients := clients
        have reactions := TrapSession.reactionsTo_congr same calls
        rw [← reactions] at alone ⊢
        obtain ⟨outcome, serves⟩ := ih after _ next (awaits.trans (by rw [← dispatcher]; rfl)) rfl
          fun step hs => alone step (List.mem_cons_of_mem _ hs)
        refine ⟨outcome, serves.after [] [step] ?_ dispatcher status⟩
        rw [List.map_nil, List.append_nil, TrapSession.accesses_note rfl]
        exact congrArg (List.filter TrapEvent.isAccess) events
      | nil =>
        exact ih session ⟨access, registers, pending, invoked, none⟩ rfl awaits made alone
    | none =>
      cases pending with
      | cons record pending =>
        obtain ⟨rest, rfl, rest_eq⟩ : ∃ rest, calls = record :: rest ∧
            rest = pending ++ registers.flatMap fun i =>
              session.system.dispatcher.matching i access.address access.isWrite :=
          ⟨_, awaits, rfl⟩
        let reaction := (session.note (TrapSession.callEvent record access.writeData)).takeReaction
          record.callback.client
        have same : reaction.2.clients =
            (session.takeReaction record.callback.client).2.clients := rfl
        have reactions := TrapSession.reactionsTo_congr same rest
        have made : steps = reaction.1 ++ reaction.2.reactionsTo rest := by
          rw [reactions]
          exact made
        obtain ⟨outcome, serves⟩ := ih reaction.2 ⟨access, registers, pending, invoked + 1,
          some (record.callback.client, reaction.1)⟩ rfl rest_eq made alone
        refine ⟨?_, serves.after [record] [] ?_ rfl ?_⟩
        · rw [outcome, List.length_cons, Nat.add_right_comm, Nat.add_assoc]
        · exact session.accesses_call record access.writeData
        · exact UInt32.or_zero.symm
      | nil =>
        cases registers with
        | cons i registers =>
          exact ih session ⟨access, registers,
            session.system.dispatcher.matching i access.address access.isWrite, invoked, none⟩ rfl
            (awaits.trans (by simp [DispatchFrame.awaits])) made alone
        | nil =>
          obtain rfl : calls = [] := awaits
          obtain rfl : steps = [] := made
          have next : TrapTurn.next (running session ⟨access, [], [], invoked, none⟩ []) =
              .finished (session.act (clearStatus access.status)).2 (.dispatched invoked) :=
            deliver_nil (.dispatched invoked, (session.act (clearStatus access.status)).2)
          rw [next, run]
          refine ⟨rfl, ?_, rfl, ?_⟩
          · rw [List.map_nil, List.append_nil]
            exact session.accesses_clearStatus access.status
          · change session.system.hardware.status &&& ~~~access.status = _
            rw [latchedBits, UInt32.or_zero]

end TrapTurn

namespace TrapSystem

theorem log_accesses (severity : Severity) (message : String) (system : TrapSystem) :
    (log severity message system).2.accesses = system.accesses := by
  rw [log_apply, accesses, List.filter_append]
  exact List.append_nil _

theorem read_accesses {system : TrapSystem} {event : TrapEvent} (h : event.isAccess = true) :
    { system with events := system.events ++ [event] }.accesses = system.accesses ++ [event] := by
  simp [accesses, h]

/-- What a dispatch looks at when a register has trapped: the data only for a write. -/
theorem beginDispatch_accesses {system : TrapSystem}
    (pending : system.hardware.status &&& trapStatusMask ≠ 0) :
    (beginDispatch system).2.accesses = system.accesses ++ [.readStatus, .readCycle] ++
      if (⟨system.hardware.cycle.toBitVec⟩ : TrappedCycle).isWrite then [.readData] else [] := by
  have trapped : ¬((readStatus system).1 &&& trapStatusMask == 0) = true := by
    rw [beq_iff_eq]
    exact pending
  have cycle : (readCycle (readStatus system).2).1 = ⟨system.hardware.cycle.toBitVec⟩ := rfl
  have looked : (readCycle (readStatus system).2).2.accesses =
      system.accesses ++ [.readStatus] ++ [.readCycle] :=
    (read_accesses rfl).trans (congrArg (· ++ [.readCycle]) (read_accesses rfl))
  rw [beginDispatch, bind_snd]
  dsimp only
  rw [if_neg trapped, bind_snd, cycle]
  cases write : (⟨system.hardware.cycle.toBitVec⟩ : TrappedCycle).isWrite with
  | true =>
    rw [if_pos rfl, if_pos rfl, bind_snd, bind_snd]
    exact (log_accesses _ _ _).trans ((read_accesses rfl).trans (by rw [looked]; simp))
  | false =>
    rw [if_neg Bool.false_ne_true, if_neg Bool.false_ne_true, bind_snd, bind_snd]
    exact (log_accesses _ _ _).trans (looked.trans (by simp))

end TrapSystem

namespace TrapSession

theorem step_dispatch_idle {session : TrapSession}
    (idle : session.system.hardware.status &&& trapStatusMask = 0) :
    session.step .dispatch = (.dispatched 0, session.note .readStatus) := by
  have began : session.act beginDispatch = (none, session.note .readStatus) := by
    rw [act, beginDispatch_idle idle]
    rfl
  have turn : TrapTurn.perform session none [] .dispatch =
      .finished (session.note .readStatus) (.dispatched 0) := by
    simp only [TrapTurn.perform, began]
    rfl
  rw [step, turn, TrapTurn.run]

/-- A dispatch from outside serves the registrations that the registers which trapped have for the
cycle, unless their callbacks call the dispatcher. -/
theorem step_dispatch_serves {session : TrapSession} {access : TrappedAccess}
    (trapped : trapped? session.system.hardware = some access) {calls : List TrapRecord}
    (awaits : calls = (DispatchFrame.start access).awaits session.system.dispatcher)
    (alone : ∀ step ∈ session.reactionsTo calls, step.isHardware = true) :
    (session.step .dispatch).1 = .dispatched calls.length ∧
      (session.act beginDispatch).2.Serves access calls (session.reactionsTo calls)
        (session.step .dispatch).2 := by
  have began : (session.act beginDispatch).1 = some access := (beginDispatch_fst _).trans trapped
  have notes := beginDispatch_notes session.system
  have turn : TrapTurn.perform session none [] .dispatch =
      .running (session.act beginDispatch).2 (.start access) [] := by
    simp only [TrapTurn.perform, began]
  have dispatcher : (session.act beginDispatch).2.system.dispatcher =
      session.system.dispatcher := notes.dispatcher
  have same : (session.act beginDispatch).2.clients = session.clients := rfl
  have reactions := reactionsTo_congr same calls
  obtain ⟨outcome, serves⟩ := TrapTurn.run_serves _ _ turn (awaits.trans (by rw [dispatcher]))
    reactions.symm alone
  exact ⟨outcome.trans (congrArg _ (Nat.zero_add _)), serves⟩

/-- A dispatch reads the status, and that is all if no register has trapped. Otherwise it reads the
cycle, and the data if it is a write. It calls the registrations on the registers that have trapped
whose range and direction the cycle has, register by register and the oldest first. Last of all it
clears the status of these registers, and of no other, also if they have trapped meanwhile. -/
theorem dispatch_in_order (session : TrapSession) :
    let hardware := session.system.hardware
    let pending := hardware.status &&& 0xF
    let cycle : TrappedCycle := ⟨hardware.cycle.toBitVec⟩
    let data := if cycle.isWrite then hardware.data else 0
    let trapped := (List.finRange 4).filter fun i : Fin 4 => pending.toBitVec.getLsbD i
    let calls := trapped.flatMap fun i =>
      (session.system.dispatcher.entry i).records.filter fun record =>
        (record.request.address.toNat ≤ cycle.address.toNat ∧
          cycle.address.toNat < record.request.address.toNat + record.length.toNat) ∧
        record.request.direction.accepts cycle.isWrite = true
    let latched := latchedBits (session.reactionsTo calls)
    let answer := session.step .dispatch
    (pending = 0 → answer = (.dispatched 0, session.note .readStatus)) ∧
    (pending ≠ 0 → (∀ step ∈ session.reactionsTo calls, step.isHardware = true) →
      answer.1 = .dispatched calls.length ∧
      answer.2.system.accesses = session.system.accesses ++ [.readStatus, .readCycle] ++
        (if cycle.isWrite then [.readData] else []) ++
        calls.map (fun record => callEvent record data) ++ [.clearStatus pending] ∧
      answer.2.system.dispatcher = session.system.dispatcher ∧
      ∀ bit, answer.2.system.hardware.status.toBitVec.getLsbD bit =
        ((hardware.status.toBitVec.getLsbD bit || latched.toBitVec.getLsbD bit) &&
          !pending.toBitVec.getLsbD bit)) := by
  intro hardware pending cycle data trapped calls latched answer
  refine ⟨step_dispatch_idle, fun hit alone => ?_⟩
  have awaits : calls = (DispatchFrame.start ⟨pending, cycle.address, cycle.isWrite, data⟩).awaits
      session.system.dispatcher := by
    refine List.flatMap_congr fun i _ => List.filter_congr fun record _ => ?_
    rw [Bool.eq_iff_iff, decide_eq_true_iff]
    exact (record.isFor_iff cycle.address cycle.isWrite).symm
  obtain ⟨outcome, serves⟩ := step_dispatch_serves (trapped?_of_pending hit) awaits alone
  have notes := beginDispatch_notes session.system
  have looked : (session.act beginDispatch).2.system.accesses = _ := beginDispatch_accesses hit
  refine ⟨outcome, ?_, serves.dispatcher.trans notes.dispatcher, fun bit => ?_⟩
  · rw [serves.accesses, looked]
    rfl
  · have status : (session.act beginDispatch).2.system.hardware = hardware := notes.hardware
    rw [serves.status, status, UInt32.toBitVec_and, BitVec.getLsbD_and, UInt32.toBitVec_or,
      BitVec.getLsbD_or, UInt32.toBitVec_not, BitVec.getLsbD_not]
    by_cases inside : bit < 32
    · rw [decide_eq_true inside, Bool.true_and]
      rfl
    · rw [BitVec.getLsbD_of_ge hardware.status.toBitVec bit (Nat.le_of_not_lt inside),
        BitVec.getLsbD_of_ge latched.toBitVec bit (Nat.le_of_not_lt inside)]
      simp

/-- While the callback runs, its own register traps again and so does another one. -/
theorem dispatch_in_order_latched :
    let start := TrapSession.start [] []
    let registered := (start.make none (.register 0x60 4 .write [[.latch 9 0 0]])).2
    let session := (registered.make none (.latch 0x13 0x10060 0x1100)).2
    let answer := session.step .dispatch
    answer.1 = .dispatched 1 ∧
      answer.2.system.accesses = session.system.accesses ++
        [.readStatus, .readCycle, .readData, .call 0 (.ofSerial 1) 0x1100, .clearStatus 3] ∧
      answer.2.system.hardware.status = 0x18 := by
  intro start registered session answer
  obtain ⟨outcome, accesses, _, status⟩ :=
    session.dispatch_in_order.2 (by decide +kernel) (by decide +kernel)
  generalize found : List.flatMap _ _ = calls at outcome accesses status
  obtain rfl : calls = [⟨.ofSerial 1, ⟨0x60, 4, .write, 0, 0xF⟩, 4, .plain 0⟩] :=
    found.symm.trans (by decide +kernel)
  have write : (⟨session.system.hardware.cycle.toBitVec⟩ : TrappedCycle).isWrite = true := by
    decide +kernel
  have data : session.system.hardware.data = 0x1100 := by decide +kernel
  have pending : session.system.hardware.status &&& 0xF = 3 := by decide +kernel
  rw [write, data, pending] at accesses
  rw [pending] at status
  refine ⟨outcome, ?_, UInt32.toBitVec_inj.mp (BitVec.eq_of_getLsbD_eq fun bit inside => ?_)⟩
  · rw [accesses]
    simp only [List.append_assoc]
    rfl
  · rw [status bit]
    revert bit
    decide +kernel

end TrapSession

end PlatformFirmware
