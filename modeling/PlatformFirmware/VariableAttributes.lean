import PlatformFirmware.NumberText

namespace PlatformFirmware

/-- The attributes of a firmware variable; bits without a meaning are kept. -/
structure VariableAttributes where
  bits : UInt32
  deriving DecidableEq

namespace VariableAttributes

/-- The variable can be used after the boot services have ended. -/
def runtimeAccess : VariableAttributes := ⟨4⟩

/-- The attributes with a meaning, from bit 0 upwards. -/
def flags : List (String × UInt32) :=
  [("NON_VOLATILE", 1), ("BOOTSERVICE_ACCESS", 2), ("RUNTIME_ACCESS", runtimeAccess.bits),
    ("HARDWARE_ERROR_RECORD", 8), ("AUTHENTICATED_WRITE_ACCESS", 16),
    ("TIME_BASED_AUTHENTICATED_WRITE_ACCESS", 32), ("APPEND_WRITE", 64)]

def known : UInt32 :=
  flags.foldl (fun bits flag => bits ||| flag.2) 0

def contains (attributes other : VariableAttributes) : Bool :=
  attributes.bits &&& other.bits == other.bits

def truncated (attributes : VariableAttributes) : VariableAttributes :=
  ⟨attributes.bits &&& known⟩

def ofBits? (bits : UInt32) : Option VariableAttributes :=
  if bits &&& ~~~known = 0 then some ⟨bits⟩ else none

def debugText (attributes : VariableAttributes) : String :=
  let names := (flags.filter fun flag => attributes.contains ⟨flag.2⟩).map Prod.fst
  let rest := attributes.bits &&& ~~~known
  let parts := if rest = 0 then names else names ++ [hexText rest.toNat]
  let body := if parts.isEmpty then "0x0" else " | ".intercalate parts
  "VariableAttributes(" ++ body ++ ")"

end VariableAttributes

end PlatformFirmware
