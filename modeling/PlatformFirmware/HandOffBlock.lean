import PlatformFirmware.ByteOrder
import PlatformFirmware.Guid
import PlatformFirmware.LogRecord

namespace PlatformFirmware

/-- What every hand-off block begins with. -/
structure HandOffHeader where
  kind : UInt16
  /-- The length of the block with its data. -/
  length : UInt16
  reserved : UInt32
  deriving DecidableEq

/-- A block that describes a range of addresses. -/
structure ResourceBlock where
  header : HandOffHeader
  owner : Guid
  resourceType : UInt32
  attributes : UInt32
  start : UInt64
  length : UInt64
  deriving DecidableEq

/-- A block that holds data of its own, known by its name. -/
structure GuidBlock where
  header : HandOffHeader
  name : Guid
  deriving DecidableEq

/-- What is handed to later phases: blocks in the order they are built, with their data. -/
inductive HandOffBlock
  | resource (block : ResourceBlock)
  | guid (block : GuidBlock) (data : List UInt8)
  deriving DecidableEq

def ResourceBlock.build (owner : Guid) (resourceType attributes : UInt32)
    (start length : UInt64) : ResourceBlock :=
  { header := { kind := 3, length := 48, reserved := 0 }
    owner, resourceType, attributes, start, length }

/-- The bytes of a named block before its data. -/
def GuidBlock.headerLength : Nat := 24

/-- The block for `size` bytes of data, if it is not too long to be described. -/
def GuidBlock.build (name : Guid) (size : UInt64) : LogM GuidBlock := do
  let needed := headerLength + size.toNat
  let rounded := roundUp needed 8
  if needed < UInt64.size ∧ UInt64.size ≤ rounded then
    throw (.halted .arithmeticOverflow)
  if rounded < UInt16.size then
    return { header := { kind := 4, length := UInt16.ofNat rounded, reserved := 0 }, name }
  else
    writeLog .error "hob"
      ("GUID HOB data of " ++ toString size.toNat ++ " bytes does not fit in a HOB.")
    .refuse .badBufferSize

end PlatformFirmware
