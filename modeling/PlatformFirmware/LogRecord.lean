import PlatformFirmware.EfiStatus

namespace PlatformFirmware

inductive Severity
  | error
  | warn
  | info
  | debug
  | trace
  deriving DecidableEq

/-- One line of the firmware log. -/
structure LogRecord where
  severity : Severity
  target : String
  message : String
  deriving DecidableEq

/-- What always succeeds, and adds to the log. -/
abbrev LogAction := StateM (List LogRecord)

/-- What can end in a fault, and keeps what it has logged by then. -/
abbrev LogM := ExceptT Fault LogAction

def writeLog (severity : Severity) (target message : String) : LogAction Unit :=
  modify fun log => log ++ [⟨severity, target, message⟩]

def LogM.refuse {α : Type} (reason : EfiError) : LogM α :=
  throw (.refused reason)

def LogM.ofHalting {α : Type} : Except HaltCause α → LogM α
  | .ok value => pure value
  | .error cause => throw (.halted cause)

end PlatformFirmware
