import PlatformFirmware.EfiStatus
import PlatformFirmware.Guid
import PlatformFirmware.LogRecord
import PlatformFirmware.VariableAttributes

namespace PlatformFirmware

/-- The protocol of the variable stores. -/
def variableProtocolGuid : Guid :=
  ⟨0xed32d533, 0x99e6, 0x4209, 0x9cc0, 0x2d72cdd998a7⟩

/-- The protocol that is installed when the boot services end. -/
def exitBootServicesGuid : Guid :=
  ⟨0x296eb418, 0xc4c8, 0x4e05, 0xab59, 0x39e8af56f00a⟩

structure VariableStorageInfo where
  maximumStorage : UInt64
  remainingStorage : UInt64
  maximumVariable : UInt64
  deriving DecidableEq

/-- What the writer asks of the variable stores and the services around it. -/
inductive VariableCall
  | locate (protocol : Guid)
  | registerNotify (protocol : Guid)
  | setVariable (store : Nat) (name : List UInt16) (vendor : Guid)
      (attributes : VariableAttributes) (data : List UInt8)
  | queryInfo (store : Nat) (attributes : VariableAttributes)
  deriving DecidableEq

/-- Writes variables to the store that was located first. -/
structure VariableWriter where
  store : Option Nat := none
  /-- The boot services have ended. -/
  atRuntime : Bool := false
  deriving DecidableEq

/-- A writer, the number of notifies it has handed out, and what it has done so far. -/
structure VariableSystem where
  writer : VariableWriter := {}
  notifies : Nat := 0
  calls : List VariableCall := []
  log : List LogRecord := []

abbrev VariableAction := StateM VariableSystem

abbrev VariableM := ExceptT EfiError VariableAction

/-- One use of the writer, with what others answer if they are asked. -/
inductive VariableStep
  | construct (located : Except EfiError Nat) (registered : Except EfiError Unit)
  /-- One of the notifies is called, by its number, with the protocol that it is told of. -/
  | notify (number : Nat) (protocol : Guid)
  | setVariable (name : List UInt16) (vendor : Guid) (attributes : VariableAttributes)
      (data : List UInt8) (answer : Except EfiError Unit)
  | queryInfo (attributes : VariableAttributes) (answer : Except EfiError VariableStorageInfo)
  | lockSupported
  | requestLock (name : List UInt16) (vendor : Guid)

inductive VariableOutcome
  | completed (result : Except EfiError Unit)
  | info (result : Except EfiError VariableStorageInfo)
  | supported (answer : Bool)
  | noNotify

namespace VariableSystem

def ask (call : VariableCall) : VariableAction Unit :=
  modify fun system => { system with calls := system.calls ++ [call] }

def report (severity : Severity) (message : String) : VariableAction Unit :=
  modify fun system =>
    { system with log := system.log ++ [⟨severity, "mm_variable", message⟩] }

def construct (located : Except EfiError Nat) (registered : Except EfiError Unit) :
    VariableM Unit := do
  ask (.locate variableProtocolGuid)
  match located with
  | .error reason =>
    report .error ("Failed to locate the SMM variable protocol: " ++ reason.debugText)
    throw reason
  | .ok store =>
    modify fun system =>
      { system with writer.store := system.writer.store <|> some store }
    ask (.registerNotify exitBootServicesGuid)
    modify fun system => { system with notifies := system.notifies + 1 }
    if let .error reason := registered then
      report .error ("Failed to register the exit boot services notify: " ++ reason.debugText)
      throw reason

/-- What every notify does, whatever protocol it is told of. -/
def exitBootServices (_protocol : Guid) : VariableAction Unit := do
  report .info "Exit boot services, only runtime variables may be written."
  modify fun system => { system with writer.atRuntime := true }

def locatedStore : VariableM Nat := do
  match (← get).writer.store with
  | some store => return store
  | none =>
    report .error "The SMM variable protocol has not been located."
    throw .notReady

/-- Writes a variable. At runtime it has to be one that can be used there. -/
def setVariable (name : List UInt16) (vendor : Guid) (attributes : VariableAttributes)
    (data : List UInt8) (answer : Except EfiError Unit) : VariableM Unit := do
  let store ← locatedStore
  if (← get).writer.atRuntime && !attributes.contains .runtimeAccess then
    report .warn ("Variable without runtime access written at runtime: " ++ attributes.debugText)
    throw .invalidParameter
  ask (.setVariable store name vendor attributes data)
  answer

def queryInfo (attributes : VariableAttributes) (answer : Except EfiError VariableStorageInfo) :
    VariableM VariableStorageInfo := do
  let store ← locatedStore
  ask (.queryInfo store attributes)
  answer

/-- Variables cannot be locked through the writer. -/
def lockSupported : Bool := false

def requestLock : Except EfiError Unit := .error .unsupported

def step : VariableStep → VariableAction VariableOutcome
  | .construct located registered => return .completed (← (construct located registered).run)
  | .notify number protocol => do
    if number < (← get).notifies then
      exitBootServices protocol
      return .completed (.ok ())
    else return .noNotify
  | .setVariable name vendor attributes data answer =>
    return .completed (← (setVariable name vendor attributes data answer).run)
  | .queryInfo attributes answer => return .info (← (queryInfo attributes answer).run)
  | .lockSupported => return .supported lockSupported
  | .requestLock _ _ => return .completed requestLock

end VariableSystem

end PlatformFirmware
