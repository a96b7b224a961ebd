import PlatformFirmware.CompletionCode
import PlatformFirmware.EfiStatus
import PlatformFirmware.LogRecord

namespace PlatformFirmware

/-- A command as it is handed to the management controller. -/
structure ChassisSubmission where
  netFunction : UInt8
  command : UInt8
  request : List UInt8
  /-- The buffer for the response, before anything is stored in it. -/
  response : List UInt8
  deriving DecidableEq

/-- What a transport does with a submission. -/
structure TransportReply where
  /-- The bytes it stores from the front of the response buffer, as far as that reaches. -/
  stored : List UInt8
  /-- The number of bytes it says it has stored. -/
  written : Except EfiError Nat

/-- The way to the management controller. -/
abbrev ChassisTransport := ChassisSubmission → TransportReply

/-- Bytes from the front of a buffer are replaced; its length stays. -/
def storeFront (buffer bytes : List UInt8) : List UInt8 :=
  bytes.take buffer.length ++ buffer.drop bytes.length

/-- What chassis commands have sent and logged. -/
structure ChassisTrace where
  submissions : List ChassisSubmission := []
  log : List LogRecord := []

abbrev ChassisAction := StateM ChassisTrace

abbrev ChassisM := ExceptT EfiError ChassisAction

inductive PowerControl
  | powerDown
  | powerUp
  | powerCycle
  | hardReset
  | pulseDiagnosticInterrupt
  | softShutdown
  deriving DecidableEq

def PowerControl.code : PowerControl → UInt8
  | powerDown => 0
  | powerUp => 1
  | powerCycle => 2
  | hardReset => 3
  | pulseDiagnosticInterrupt => 4
  | softShutdown => 5

/-- What becomes of the power when the supply comes back. -/
inductive PowerRestorePolicy
  | alwaysOff
  | previous
  | alwaysOn
  /-- Only asks which policies there are. -/
  | noChange
  deriving DecidableEq

def PowerRestorePolicy.code : PowerRestorePolicy → UInt8
  | alwaysOff => 0
  | previous => 1
  | alwaysOn => 2
  | noChange => 3

structure ChassisCapabilities where
  completion : CompletionCode
  flags : UInt8
  fruInfoAddress : UInt8
  sdrAddress : UInt8
  selAddress : UInt8
  systemManagementAddress : UInt8
  bridgeAddress : UInt8
  deriving DecidableEq

structure ChassisStatus where
  completion : CompletionCode
  powerState : UInt8
  lastPowerEvent : UInt8
  miscellaneous : UInt8
  frontPanelButtons : UInt8
  deriving DecidableEq

namespace ChassisStatus

def powerIsOn (status : ChassisStatus) : Bool :=
  status.powerState &&& 1 != 0

/-- Bits 6:5 of the power state. -/
def restorePolicy (status : ChassisStatus) : UInt8 :=
  (status.powerState >>> 5) &&& 3

end ChassisStatus

structure RestorePolicySupport where
  completion : CompletionCode
  /-- Bit n is set for policy n. -/
  policies : UInt8
  deriving DecidableEq

structure BootOptionHeader where
  completion : CompletionCode
  version : UInt8
  /-- Bit 7 marks the parameter invalid or locked, the others repeat its number. -/
  validity : UInt8
  deriving DecidableEq

namespace ChassisCommand

def netFunction : UInt8 := 0x00
def getCapabilities : UInt8 := 0x00
def getStatus : UInt8 := 0x01
def control : UInt8 := 0x02
def setRestorePolicy : UInt8 := 0x06
def setBootOptions : UInt8 := 0x08
def getBootOptions : UInt8 := 0x09

def bootOptionHeaderLength : Nat := 3

/-- Sends a command with an empty response buffer of `size` bytes; answers the buffer's content
afterwards, and how much of it is said to be stored. -/
def submit (transport : ChassisTransport) (command : UInt8) (request : List UInt8) (size : Nat) :
    ChassisAction (List UInt8 × Except EfiError Nat) := do
  let response := List.replicate size 0
  let submission : ChassisSubmission := ⟨netFunction, command, request, response⟩
  modify fun trace => { trace with submissions := trace.submissions ++ [submission] }
  let reply := transport submission
  return (storeFront response reply.stored, reply.written)

/-- A response that is too short is only worth a warning. -/
def checkLength (command : UInt8) (written expected : Nat) : ChassisAction Unit :=
  if written < expected then
    let message := "Chassis command " ++ hexTextOfWidth 4 command.toNat ++ " returned " ++
      toString written ++ " bytes, expected at least " ++ toString expected ++ "."
    modify fun trace => { trace with log := trace.log ++ [⟨.warn, "ipmi", message⟩] }
  else pure ()

/-- Sends a command with a response of fixed size. -/
def exchange (transport : ChassisTransport) (command : UInt8) (request : List UInt8)
    (size : Nat) : ChassisM (List UInt8) := do
  let (response, written) ← submit transport command request size
  let written ← written
  checkLength command written size
  return response

def completion (response : List UInt8) : CompletionCode :=
  ⟨response.getD 0 0⟩

def chassisCapabilities (transport : ChassisTransport) : ChassisM ChassisCapabilities := do
  let response ← exchange transport getCapabilities [] 7
  return ⟨completion response, response.getD 1 0, response.getD 2 0, response.getD 3 0,
    response.getD 4 0, response.getD 5 0, response.getD 6 0⟩

def chassisStatus (transport : ChassisTransport) : ChassisM ChassisStatus := do
  let response ← exchange transport getStatus [] 5
  return ⟨completion response, response.getD 1 0, response.getD 2 0, response.getD 3 0,
    response.getD 4 0⟩

def chassisControl (transport : ChassisTransport) (action : UInt8) : ChassisM CompletionCode :=
  return completion (← exchange transport control [action] 1)

/-- Says what shall become of the power when the supply comes back. -/
def restorePolicy (transport : ChassisTransport) (policy : UInt8) :
    ChassisM RestorePolicySupport := do
  let response ← exchange transport setRestorePolicy [policy] 2
  return ⟨completion response, response.getD 1 0⟩

def storeBootOption (transport : ChassisTransport) (selector : UInt8) (data : List UInt8) :
    ChassisM CompletionCode :=
  return completion (← exchange transport setBootOptions (selector :: data) 1)

/-- Reads a boot option into the caller's buffer. Answers its header, how many bytes of the buffer
were received, and the buffer afterwards. -/
def loadBootOption (transport : ChassisTransport) (selector set block : UInt8)
    (buffer : List UInt8) :
    ChassisAction (Except EfiError (BootOptionHeader × Nat) × List UInt8) := do
  let (response, written) ← submit transport getBootOptions [selector, set, block]
    (bootOptionHeaderLength + buffer.length)
  match written with
  | .error reason => return (.error reason, buffer)
  | .ok written =>
    checkLength getBootOptions written bootOptionHeaderLength
    let header : BootOptionHeader :=
      ⟨completion response, response.getD 1 0, response.getD 2 0⟩
    let received := min (written - bootOptionHeaderLength) buffer.length
    let data := (response.drop bootOptionHeaderLength).take received
    return (.ok (header, received), storeFront buffer data)

end ChassisCommand

end PlatformFirmware
