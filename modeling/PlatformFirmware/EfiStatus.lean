import PlatformFirmware.NumberText

namespace PlatformFirmware

/-- Why a firmware service refuses a call. -/
inductive EfiError
  | loadError
  | invalidParameter
  | unsupported
  | badBufferSize
  | bufferTooSmall
  | notReady
  | deviceError
  | writeProtected
  | outOfResources
  | notFound
  | accessDenied
  | noResponse
  | timeout
  | notStarted
  | alreadyStarted
  | aborted
  | protocolError
  | securityViolation
  /-- A status without a name of its own, kept as it came. -/
  | unknown (status : UInt64)
  deriving DecidableEq

namespace EfiError

/-- The errors that have a name, in the order they are declared. -/
def named : List EfiError :=
  [loadError, invalidParameter, unsupported, badBufferSize, bufferTooSmall, notReady,
    deviceError, writeProtected, outOfResources, notFound, accessDenied, noResponse, timeout,
    notStarted, alreadyStarted, aborted, protocolError, securityViolation]

/-- Bit 63 of a status marks an error; the low bits number it. -/
def errorStatus (code : UInt64) : UInt64 :=
  0x8000000000000000 ||| code

def toStatus : EfiError → UInt64
  | loadError => errorStatus 1
  | invalidParameter => errorStatus 2
  | unsupported => errorStatus 3
  | badBufferSize => errorStatus 4
  | bufferTooSmall => errorStatus 5
  | notReady => errorStatus 6
  | deviceError => errorStatus 7
  | writeProtected => errorStatus 8
  | outOfResources => errorStatus 9
  | notFound => errorStatus 14
  | accessDenied => errorStatus 15
  | noResponse => errorStatus 16
  | timeout => errorStatus 18
  | notStarted => errorStatus 19
  | alreadyStarted => errorStatus 20
  | aborted => errorStatus 21
  | protocolError => errorStatus 24
  | securityViolation => errorStatus 26
  | unknown status => status

/-- The statuses that mean an error with a name, each beside its error. -/
def statusRows : List (UInt64 × EfiError) :=
  [(errorStatus 1, loadError),
    (errorStatus 2, invalidParameter),
    (errorStatus 3, unsupported),
    (errorStatus 4, badBufferSize),
    (errorStatus 5, bufferTooSmall),
    (errorStatus 6, notReady),
    (errorStatus 7, deviceError),
    (errorStatus 8, writeProtected),
    (errorStatus 9, outOfResources),
    (errorStatus 14, notFound),
    (errorStatus 15, accessDenied),
    (errorStatus 16, noResponse),
    (errorStatus 18, timeout),
    (errorStatus 19, notStarted),
    (errorStatus 20, alreadyStarted),
    (errorStatus 21, aborted),
    (errorStatus 24, protocolError),
    (errorStatus 26, securityViolation)]

def name : EfiError → String
  | loadError => "LoadError"
  | invalidParameter => "InvalidParameter"
  | unsupported => "Unsupported"
  | badBufferSize => "BadBufferSize"
  | bufferTooSmall => "BufferTooSmall"
  | notReady => "NotReady"
  | deviceError => "DeviceError"
  | writeProtected => "WriteProtected"
  | outOfResources => "OutOfResources"
  | notFound => "NotFound"
  | accessDenied => "AccessDenied"
  | noResponse => "NoResponse"
  | timeout => "Timeout"
  | notStarted => "NotStarted"
  | alreadyStarted => "AlreadyStarted"
  | aborted => "Aborted"
  | protocolError => "ProtocolError"
  | securityViolation => "SecurityViolation"
  | unknown _ => "Unknown"

/-- What a caller reads of an error. -/
def message : EfiError → String
  | unknown status => "Unknown EFI status " ++ hexText status.toNat
  | error => error.name

/-- What the log says of an error. -/
def debugText : EfiError → String
  | unknown status => "Unknown(Status(" ++ toString status.toNat ++ "))"
  | error => error.name

end EfiError

/-- The status of a call that did what it was asked. -/
def successStatus : UInt64 := 0

/-- Every status but success is an error, warnings included. -/
def statusResult (status : UInt64) : Except EfiError Unit :=
  if status = successStatus then .ok ()
  else .error ((EfiError.statusRows.lookup status).getD (.unknown status))

/-- The error a status stands for. Success stands for none, and is kept as it came. -/
def EfiError.ofStatus (status : UInt64) : EfiError :=
  match statusResult status with
  | .ok () => .unknown status
  | .error error => error

/-- Conditions that firmware does not answer: it stops. -/
inductive HaltCause
  /-- A sum does not fit its word. -/
  | arithmeticOverflow
  /-- A range reaches past the end of what it is taken from. -/
  | outOfRange
  /-- A buffer is larger than any address space. -/
  | capacityOverflow
  /-- A device tree breaks off or is not built as one. -/
  | malformedTree
  deriving DecidableEq

/-- How a call ends without a value: refused with an error, or halted. -/
inductive Fault
  | refused (reason : EfiError)
  | halted (cause : HaltCause)
  deriving DecidableEq

end PlatformFirmware
