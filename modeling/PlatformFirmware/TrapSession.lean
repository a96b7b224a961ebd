import PlatformFirmware.TrapDispatcher

namespace PlatformFirmware

/-- Which registration a step is about. -/
inductive TrapTarget
  /-- The registration attempt of that number, counted from 0. -/
  | registration (number : Nat)
  | handle (handle : TrapHandle)
  /-- The registration whose callback makes the step. -/
  | self
  deriving DecidableEq

/-- What clients of the dispatcher and the hardware around it do.

A registration brings along what its callback will do, one list of steps for each invocation. -/
inductive TrapStep
  | register (address length : UInt16) (direction : TrapDirection)
      (reactions : List (List TrapStep))
  | registerExtended (request : TrapRequest) (reactions : List (List TrapStep))
  | unregister (target : TrapTarget)
  | unregisterExtended (target : TrapTarget)
  | pause (target : TrapTarget)
  | resume (target : TrapTarget)
  | lock
  /-- The hardware traps a cycle. -/
  | latch (status cycle data : UInt32)
  /-- A register changes without the dispatcher. -/
  | setRegister (register : Fin 4) (value : TrapRegister)
  | dispatch

/-- One attempt to register. -/
structure TrapClient where
  /-- The handle it was given, also after it was unregistered. -/
  handle : Option TrapHandle := none
  /-- What its callback does at its coming invocations, and nothing after that. -/
  reactions : List (List TrapStep)

/-- A dispatcher together with all clients it has had so far. -/
structure TrapSession where
  system : TrapSystem
  clients : List TrapClient := []

/-- The access that a dispatch is about. -/
structure TrappedAccess where
  /-- The registers that had trapped, one bit for each. -/
  status : UInt32
  address : UInt16
  isWrite : Bool
  /-- The written data, 0 for a read. -/
  writeData : UInt32

/-- A dispatch that has begun and not ended. -/
structure DispatchFrame where
  access : TrappedAccess
  /-- The registers it has yet to look at. -/
  registers : List (Fin 4)
  /-- The registrations it has yet to call of the register it looked at last. -/
  pending : List TrapRecord := []
  invoked : Nat := 0
  /-- The client whose callback runs, and what that callback has yet to do. -/
  callback : Option (Nat × List TrapStep) := none

/-- A dispatch looks at the registers that have trapped, in ascending order. -/
def DispatchFrame.start (access : TrappedAccess) : DispatchFrame where
  access := access
  registers := (List.finRange 4).filter fun i => access.status.toBitVec.getLsbD i

namespace TrapSystem

/-- Bits 3:0 of the status, one for each register. -/
def trapStatusMask : UInt32 := 0xF

def latch (status cycle data : UInt32) : TrapAction Unit :=
  modify fun system =>
    { system with
      hardware := { system.hardware with
        status := system.hardware.status ||| status, cycle, data } }

def setRegister (i : Fin 4) (value : TrapRegister) : TrapAction Unit :=
  modify fun system => { system with hardware := system.hardware.setRegister i value }

/-- Reads what was trapped, if anything was. -/
def beginDispatch : TrapAction (Option TrappedAccess) := do
  let status := (← readStatus) &&& trapStatusMask
  if status == 0 then
    return none
  let cycle ← readCycle
  let address := cycle.address
  let isWrite := cycle.isWrite
  let writeData ← if isWrite then readData else pure 0
  log .trace ("I/O trap SMI: status " ++ hexText status.toNat ++ ", address " ++
    hexTextOfWidth 6 address.toNat ++ ", write " ++ toString isWrite)
  return some { status, address, isWrite, writeData }

end TrapSystem

/-- What an event adds to the log. -/
def TrapEvent.logRecord? : TrapEvent → Option LogRecord
  | .log record => some record
  | _ => none

namespace TrapOutcome

/-- The outcome of a call that was refused or halted, when refusals read as `refused` says. -/
def ofFault (refused : EfiError → TrapOutcome) : Fault → TrapOutcome
  | .refused reason => refused reason
  | .halted cause => halted cause

end TrapOutcome

namespace TrapSession

def note (session : TrapSession) (event : TrapEvent) : TrapSession :=
  { session with
    system := { session.system with events := session.system.events ++ [event] } }

def act {α : Type} (session : TrapSession) (action : TrapAction α) : α × TrapSession :=
  let answer := action session.system
  (answer.1, { session with system := answer.2 })

/-- The handle a step means, if there is one. -/
def handleOf? (session : TrapSession) (self : Option Nat) : TrapTarget → Option TrapHandle
  | .registration number => session.clients[number]?.bind fun client => client.handle
  | .handle handle => some handle
  | .self => (self.bind fun number => session.clients[number]?).bind fun client => client.handle

/-- Registers a new client through `action`, which learns the number of the client. -/
def enroll (session : TrapSession) (address : UInt16) (reactions : List (List TrapStep))
    (action : Nat → TrapM (TrapHandle × UInt16)) : TrapOutcome × TrapSession :=
  let (result, system) := action session.clients.length session.system
  let enrolled (handle : Option TrapHandle) : TrapSession :=
    { system, clients := session.clients ++ [{ handle, reactions }] }
  match result with
  | .ok (handle, chosen) => (.registered (.ok handle) chosen, enrolled handle)
  | .error fault =>
    (.ofFault (fun reason => .registered (.error reason) address) fault, enrolled none)

def callOn (session : TrapSession) (self : Option Nat) (target : TrapTarget)
    (action : TrapHandle → TrapM Unit) : TrapOutcome × TrapSession :=
  match session.handleOf? self target with
  | none => (.noHandle, session)
  | some handle =>
    let (result, system) := action handle session.system
    match result with
    | .ok () => (.completed (.ok ()), { session with system })
    | .error fault =>
      (.ofFault (fun reason => .completed (.error reason)) fault, { session with system })

/-- Takes the steps of the next invocation of a client's callback. -/
def takeReaction (session : TrapSession) (number : Nat) : List TrapStep × TrapSession :=
  ((session.clients[number]?.map fun client => client.reactions.headD []).getD [],
    { session with
      clients := session.clients.modify number fun client =>
        { client with reactions := client.reactions.tail } })

/-- The event of a callback that begins. -/
def callEvent (record : TrapRecord) (writeData : UInt32) : TrapEvent :=
  match record.callback with
  | .plain client => .call client record.handle writeData
  | .extended client => .callExtended client record.request

end TrapSession

/-- Where a step stands: inside a dispatch, innermost first, or at its end. -/
inductive TrapTurn
  | running (session : TrapSession) (frame : DispatchFrame) (outer : List DispatchFrame)
  | finished (session : TrapSession) (outcome : TrapOutcome)

namespace TrapTurn

open TrapSystem TrapSession

/-- Hands an outcome to the callback that waits for it. A halt ends all that is under way. -/
def deliver (frames : List DispatchFrame) : TrapOutcome × TrapSession → TrapTurn
  | (.halted cause, session) => .finished session (.halted cause)
  | (outcome, session) =>
    match frames with
    | [] => .finished session outcome
    | frame :: outer => .running (session.note (.nested outcome)) frame outer

/-- Makes one step, as a callback of the innermost dispatch or from outside. -/
def perform (session : TrapSession) (self : Option Nat) (frames : List DispatchFrame) :
    TrapStep → TrapTurn
  | .register address length direction reactions =>
    deliver frames <| session.enroll address reactions fun number =>
      register number address length direction
  | .registerExtended request reactions =>
    deliver frames <| session.enroll request.address reactions fun number =>
      return (← registerExtended number request, request.address)
  | .unregister target => deliver frames <| session.callOn self target unregister
  | .unregisterExtended target => deliver frames <| session.callOn self target unregisterExtended
  | .pause target => deliver frames <| session.callOn self target pause
  | .resume target => deliver frames <| session.callOn self target resume
  | .lock => deliver frames (.completed (.ok ()), (session.act lock).2)
  | .latch status cycle data =>
    deliver frames (.completed (.ok ()), (session.act (latch status cycle data)).2)
  | .setRegister register value =>
    deliver frames (.completed (.ok ()), (session.act (setRegister register value)).2)
  | .dispatch =>
    let (access, session) := session.act beginDispatch
    match access with
    | none => deliver frames (.dispatched 0, session)
    | some access => .running session (.start access) frames

/-- Goes on until the next thing has happened. -/
def next : TrapTurn → TrapTurn
  | .finished session outcome => .finished session outcome
  | .running session frame outer =>
    match frame.callback with
    | some (self, step :: steps) =>
      perform session (some self) ({ frame with callback := some (self, steps) } :: outer) step
    | some (_, []) => .running session { frame with callback := none } outer
    | none =>
      match frame.pending with
      | record :: pending =>
        let self := record.callback.client
        let (steps, session) :=
          (session.note (callEvent record frame.access.writeData)).takeReaction self
        .running session
          { frame with pending, invoked := frame.invoked + 1, callback := some (self, steps) } outer
      | [] =>
        match frame.registers with
        | i :: registers =>
          let { address, isWrite, .. } := frame.access
          let pending := session.system.dispatcher.matching i address isWrite
          .running session { frame with registers, pending } outer
        | [] =>
          let session := (session.act (clearStatus frame.access.status)).2
          deliver outer (.dispatched frame.invoked, session)

end TrapTurn

end PlatformFirmware
