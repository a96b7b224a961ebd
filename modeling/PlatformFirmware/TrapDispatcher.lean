import PlatformFirmware.EfiStatus
import PlatformFirmware.LogRecord
import PlatformFirmware.NumberText
import PlatformFirmware.TrapRequest

namespace PlatformFirmware

/-- All that the dispatcher remembers between calls. -/
structure TrapDispatcher where
  entries : Vector TrapEntry 4 := Vector.replicate 4 {}
  nextSerial : UInt32 := 1
  /-- Registrations may no longer change. -/
  isLocked : Bool := false
  deriving DecidableEq

namespace TrapDispatcher

def entry (dispatcher : TrapDispatcher) (i : Fin 4) : TrapEntry :=
  dispatcher.entries[i]

/-- The first register whose entry satisfies a test. -/
def findRegister? (dispatcher : TrapDispatcher) (test : TrapEntry → Bool) : Option (Fin 4) :=
  (List.finRange 4).find? fun i => test (dispatcher.entry i)

def unusedRegister? (dispatcher : TrapDispatcher) : Option (Fin 4) :=
  dispatcher.findRegister? fun entry => !entry.inUse

/-- The first shared window with room for `length` bytes, and where in it. -/
def sharedRoom? (dispatcher : TrapDispatcher) (length : UInt16) : Option (Fin 4 × UInt16) :=
  (List.finRange 4).findSome? fun i =>
    ((dispatcher.entry i).freeOffset? length).map fun offset => (i, offset)

/-- Where the first registration with a handle is kept. -/
def findRecord? (dispatcher : TrapDispatcher) (handle : TrapHandle) : Option (Fin 4 × Nat) :=
  (List.finRange 4).findSome? fun i =>
    ((dispatcher.entry i).records.findIdx? fun record => record.handle == handle).map
      fun place => (i, place)

/-- The register of a trap that can be paused: one that serves its caller's own range. -/
def controlRegister? (dispatcher : TrapDispatcher) (handle : TrapHandle) : Option (Fin 4) :=
  match dispatcher.findRecord? handle with
  | none => none
  | some (i, _) =>
    let entry := dispatcher.entry i
    if entry.isDedicated && entry.base != 0 then some i else none

def setEntry (dispatcher : TrapDispatcher) (i : Fin 4) (entry : TrapEntry) : TrapDispatcher :=
  { dispatcher with entries := dispatcher.entries.set i entry }

def modifyEntry (dispatcher : TrapDispatcher) (i : Fin 4) (change : TrapEntry → TrapEntry) :
    TrapDispatcher :=
  dispatcher.setEntry i (change (dispatcher.entry i))

def registersInUse (dispatcher : TrapDispatcher) : Nat :=
  dispatcher.entries.toList.countP fun entry => entry.inUse

/-- The registrations on a register that a cycle is for, oldest first. -/
def matching (dispatcher : TrapDispatcher) (i : Fin 4) (address : UInt16) (isWrite : Bool) :
    List TrapRecord :=
  (dispatcher.entry i).records.filter fun record => record.isFor address isWrite

end TrapDispatcher

/-- The trap registers and the description of the trapped cycle. -/
structure TrapHardware where
  registers : Vector TrapRegister 4 := Vector.replicate 4 .zero
  status : UInt32 := 0
  cycle : UInt32 := 0
  data : UInt32 := 0
  deriving DecidableEq

def TrapHardware.register (hardware : TrapHardware) (i : Fin 4) : TrapRegister :=
  hardware.registers[i]

def TrapHardware.setRegister (hardware : TrapHardware) (i : Fin 4) (value : TrapRegister) :
    TrapHardware :=
  { hardware with registers := hardware.registers.set i value }

/-- How a step of a trap client ended. -/
inductive TrapOutcome
  /-- Answers a registration, with the address the caller then sees. -/
  | registered (result : Except EfiError TrapHandle) (address : UInt16)
  | completed (result : Except EfiError Unit)
  /-- There is no handle to make the call with. -/
  | noHandle
  /-- Answers a dispatch, with the number of callbacks it ran. -/
  | dispatched (callbacks : Nat)
  | halted (cause : HaltCause)

/-- What the dispatcher does that others can see, in the order it happens. -/
inductive TrapEvent
  | readRegister (register : Fin 4)
  | writeRegister (register : Fin 4) (value : TrapRegister)
  | readStatus
  | clearStatus (mask : UInt32)
  | readCycle
  | readData
  | allocate (length alignment : UInt16)
  | free (base length : UInt16)
  | call (client : Nat) (handle : TrapHandle) (writeData : UInt32)
  | callExtended (client : Nat) (request : TrapRequest)
  /-- A callback has made a call of its own. -/
  | nested (outcome : TrapOutcome)
  | log (record : LogRecord)

/-- A dispatcher among the hardware it drives and the allocator it asks for I/O space.

The allocator is its coming answers. It has no window left after the last one, and takes every
window back. -/
structure TrapSystem where
  dispatcher : TrapDispatcher := {}
  hardware : TrapHardware := {}
  allocations : List (Except EfiError UInt16) := []
  releases : List (Except EfiError Unit) := []
  events : List TrapEvent := []

/-- What always succeeds on a system. -/
abbrev TrapAction := StateM TrapSystem

/-- Calls on a system. One that ends in a fault leaves what it had done by then. -/
abbrev TrapM := ExceptT Fault TrapAction

namespace TrapSystem

def note (event : TrapEvent) : TrapAction Unit :=
  modify fun system => { system with events := system.events ++ [event] }

def log (severity : Severity) (message : String) : TrapAction Unit :=
  note (.log ⟨severity, "io_trap", message⟩)

def refuse {α : Type} (reason : EfiError) : TrapM α :=
  throw (.refused reason)

def modifyDispatcher (change : TrapDispatcher → TrapDispatcher) : TrapAction Unit :=
  modify fun system => { system with dispatcher := change system.dispatcher }

def readRegister (i : Fin 4) : TrapAction TrapRegister := do
  note (.readRegister i)
  return (← get).hardware.register i

def writeRegister (i : Fin 4) (value : TrapRegister) : TrapAction Unit := do
  note (.writeRegister i value)
  modify fun system => { system with hardware := system.hardware.setRegister i value }

def readStatus : TrapAction UInt32 := do
  note .readStatus
  return (← get).hardware.status

def clearStatus (mask : UInt32) : TrapAction Unit := do
  note (.clearStatus mask)
  modify fun system =>
    { system with hardware.status := system.hardware.status &&& ~~~mask }

def readCycle : TrapAction TrappedCycle := do
  note .readCycle
  return ⟨(← get).hardware.cycle.toBitVec⟩

def readData : TrapAction UInt32 := do
  note .readData
  return (← get).hardware.data

def allocate (length alignment : UInt16) : TrapAction (Except EfiError UInt16) := do
  note (.allocate length alignment)
  modifyGet fun system =>
    (system.allocations.headD (.error .outOfResources),
      { system with allocations := system.allocations.tail })

def free (base length : UInt16) : TrapAction (Except EfiError Unit) := do
  note (.free base length)
  modifyGet fun system =>
    (system.releases.headD (.ok ()), { system with releases := system.releases.tail })

/-- Finds room in a shared window, or makes a register share a new one. -/
def claimShared (length : UInt16) : TrapM UInt16 := do
  let dispatcher := (← get).dispatcher
  match dispatcher.sharedRoom? length with
  | some (i, offset) =>
    modifyDispatcher fun d => d.modifyEntry i fun entry =>
      { entry with usedLength := offset + length }
    let base := (dispatcher.entry i).base
    if base.toNat + offset.toNat < UInt16.size then return base + offset
    else throw (.halted .arithmeticOverflow)
  | none =>
    match dispatcher.unusedRegister? with
    | none =>
      log .error "No I/O trap register left for a merged range."
      refuse .outOfResources
    | some i =>
      match ← allocate mergedTrapLength mergedTrapLength with
      | .error reason =>
        log .error ("Failed to allocate the merged I/O trap window: " ++ reason.debugText)
        refuse .outOfResources
      | .ok base =>
        writeRegister i (.ofRange base mergedTrapLength .readWrite)
        modifyDispatcher fun d => d.setEntry i
          { inUse := true, base, length := mergedTrapLength, usedLength := length }
        return base

/-- Programs an unused register with a range that the caller chose. -/
def claimDedicated (request : TrapRequest) (length : UInt16) : TrapM Unit := do
  let dispatcher := (← get).dispatcher
  let address := hexText request.address.toNat
  let range := hexText length.toNat
  if request.address % length ≠ 0 ||
      decide (request.address.toNat + length.toNat > UInt16.size) then
    log .error ("I/O trap address " ++ address ++ " is not aligned to " ++ range)
    refuse .invalidParameter
  if dispatcher.entries.any fun entry => entry.overlaps request.address length then
    log .error ("I/O trap range " ++ address ++ "/" ++ range ++ " is already in use")
    refuse .invalidParameter
  match dispatcher.unusedRegister? with
  | none =>
    log .error ("No I/O trap register left for " ++ address)
    refuse .outOfResources
  | some i =>
    let register := TrapRegister.ofRange request.address length request.direction
    writeRegister i <|
      (register.put .byteEnable (request.byteEnable.toBitVec.setWidth 4)).put
        .ignoredByteEnable (request.ignoredByteEnable.toBitVec.setWidth 4)
    modifyDispatcher fun d => d.setEntry i
      { inUse := true, base := request.address, length, usedLength := length,
        isDedicated := true, isCallerOwned := true }

/-- Finds the range of a registration: the caller's own, or one in a shared window. -/
def claimRange (callback : TrapCallback) (request : TrapRequest) (length : UInt16) :
    TrapM UInt16 := do
  if request.address == 0 then
    if callback.isExtended then
      log .error "A dedicated I/O trap needs an address."
      refuse .invalidParameter
    else claimShared length
  else
    claimDedicated request length
    return request.address

/-- Gives a registration its handle, and to the first register that its range overlaps. -/
def keepRecord (callback : TrapCallback) (request : TrapRequest) (length address : UInt16) :
    TrapM (TrapHandle × UInt16) := do
  let handle := TrapHandle.ofSerial (← get).dispatcher.nextSerial
  modifyDispatcher fun d => { d with nextSerial := d.nextSerial + 1 }
  match (← get).dispatcher.findRegister? fun entry => entry.overlaps address length with
  | none => refuse .outOfResources
  | some i =>
    let record : TrapRecord :=
      { handle, request := { request with address }, length, callback }
    modifyDispatcher fun d => d.modifyEntry i fun entry =>
      { entry with records := entry.records ++ [record] }
    log .info ("I/O trap " ++ request.direction.name ++ " registered at " ++
      hexTextOfWidth 6 address.toNat ++ "/" ++ hexText length.toNat ++ " on register " ++
      toString i.val)
    return (handle, address)

/-- Takes a registration on; answers its handle and its address. -/
def addRecord (callback : TrapCallback) (request : TrapRequest) : TrapM (TrapHandle × UInt16) := do
  if (← get).dispatcher.isLocked then
    log .error "Register is not allowed after SMM ready to lock."
    refuse .accessDenied
  if (request.address == 0 && request.length == 0) || maximumTrapLength < request.length then
    log .error ("Invalid I/O trap range " ++ hexText request.address.toNat ++ "/" ++
      hexText request.length.toNat)
    refuse .invalidParameter
  let length := roundedTrapLength request.length
  let address ← claimRange callback request length
  keepRecord callback request length address

/-- Registers a callback that learns its handle and the written data. -/
def register (client : Nat) (address length : UInt16) (direction : TrapDirection) :
    TrapM (TrapHandle × UInt16) :=
  addRecord (.plain client) { address, length, direction }

/-- Registers a callback for a range of its own, with a choice of byte enables. -/
def registerExtended (client : Nat) (request : TrapRequest) : TrapM TrapHandle :=
  return (← addRecord (.extended client) request).1

/-- Drops a registration, and with the last one of a register the register's range. -/
def dropRecord (handle : TrapHandle) (extended : Bool) : TrapM Unit := do
  let dispatcher := (← get).dispatcher
  if dispatcher.isLocked then
    log .error "Unregister is not allowed after SMM ready to lock."
    refuse .accessDenied
  if !handle.hasSignature then
    refuse .invalidParameter
  match dispatcher.findRecord? handle with
  | none => refuse .invalidParameter
  | some (i, place) =>
    let entry := dispatcher.entry i
    if (entry.records[place]?.any fun record => record.callback.isExtended) != extended then
      refuse .invalidParameter
    let rest := entry.records.eraseIdx place
    modifyDispatcher fun d => d.setEntry i { entry with records := rest }
    log .info ("I/O trap " ++ handle.debugText ++ " unregistered from register " ++
      toString i.val)
    if rest.isEmpty then
      writeRegister i .zero
      modifyDispatcher fun d => d.setEntry i {}
      if !entry.isCallerOwned then
        if let .error reason := ← free entry.base entry.length then
          log .error ("Failed to free I/O window " ++ hexText entry.base.toNat ++ ": " ++
            reason.debugText)

def unregister (handle : TrapHandle) : TrapM Unit :=
  dropRecord handle false

def unregisterExtended (handle : TrapHandle) : TrapM Unit :=
  dropRecord handle true

def setEnabled (handle : TrapHandle) (on : Bool) : TrapM Unit := do
  match (← get).dispatcher.controlRegister? handle with
  | none => refuse .invalidParameter
  | some i =>
    let register ← readRegister i
    if register.isEnabled == on then
      log .warn ("I/O trap " ++ handle.debugText ++ " already " ++
        if on then "running" else "paused")
      refuse .accessDenied
    writeRegister i (register.setEnabled on)

def pause (handle : TrapHandle) : TrapM Unit :=
  setEnabled handle false

def resume (handle : TrapHandle) : TrapM Unit :=
  setEnabled handle true

def lock : TrapAction Unit :=
  modifyDispatcher fun d => { d with isLocked := true }

end TrapSystem

end PlatformFirmware
