import PlatformFirmware.ByteOrder
import PlatformFirmware.TrapRegister

namespace PlatformFirmware

/-- Where the trap registers are: the chipset's private space, and the port they answer on. -/
structure TrapConfig where
  spaceBase : UInt64 := 0xFD000000
  port : UInt8 := 0x89

/-- The base of the trap registers, if it is an address. -/
def TrapConfig.registerBase? (config : TrapConfig) : Option UInt64 :=
  let base := config.spaceBase.toNat + config.port.toNat * 0x10000
  if base < UInt64.size then some (UInt64.ofNat base) else none

def trapRegisterCount : Nat := 4

/-- The length of the window that a shared register covers. -/
def mergedTrapLength : UInt16 := 0x100

/-- The longest range that one registration may trap. -/
def maximumTrapLength : UInt16 := 0x100

/-- The lengths that one register can cover. -/
def trapLengths : List UInt16 := [4, 8, 16, 32, 64, 128, 256]

/-- The least length that a register can cover and that reaches `length`. -/
def roundedTrapLength (length : UInt16) : UInt16 :=
  (trapLengths.find? fun covered => length ≤ covered).getD maximumTrapLength

/-- Spells `IOTP`. -/
def trapInstanceSignature : UInt32 := signature 0x49 0x4F 0x54 0x50

/-- Spells `ITRC`. -/
def trapRecordSignature : UInt32 := signature 0x49 0x54 0x52 0x43

/-- Names a registration to the caller that made it. -/
structure TrapHandle where
  value : UInt64
  deriving DecidableEq

namespace TrapHandle

def ofSerial (serial : UInt32) : TrapHandle :=
  ⟨trapRecordSignature.toUInt64 <<< 32 ||| serial.toUInt64⟩

def debugText (handle : TrapHandle) : String :=
  "DispatchHandle(" ++ toString handle.value.toNat ++ ")"

/-- Whether a dispatcher can have given the handle out. -/
def hasSignature (handle : TrapHandle) : Bool :=
  (handle.value >>> 32).toUInt32 == trapRecordSignature

end TrapHandle

/-- What a caller wants trapped; address 0 lets the dispatcher choose one. -/
structure TrapRequest where
  address : UInt16
  length : UInt16
  direction : TrapDirection
  /-- The byte enables to match. -/
  byteEnable : UInt8 := 0
  /-- The byte enables to ignore. -/
  ignoredByteEnable : UInt8 := 0xF
  deriving DecidableEq

/-- What to call when a trap is taken: one of the clients, through one of two interfaces. -/
inductive TrapCallback
  /-- Takes the handle and the written data. -/
  | plain (client : Nat)
  /-- Takes the request it was registered with. -/
  | extended (client : Nat)
  deriving DecidableEq

namespace TrapCallback

def client : TrapCallback → Nat
  | plain client => client
  | extended client => client

def isExtended : TrapCallback → Bool
  | plain _ => false
  | extended _ => true

end TrapCallback

/-- A registration that is in force. -/
structure TrapRecord where
  handle : TrapHandle
  /-- The request, with the address that was chosen for it. -/
  request : TrapRequest
  /-- The length that is trapped, at least the one asked for. -/
  length : UInt16
  callback : TrapCallback
  deriving DecidableEq

/-- Whether a cycle is one that the registration asked for. -/
def TrapRecord.isFor (record : TrapRecord) (address : UInt16) (isWrite : Bool) : Bool :=
  decide (record.request.address ≤ address) &&
    decide (address.toNat < record.request.address.toNat + record.length.toNat) &&
    record.request.direction.accepts isWrite

/-- What the dispatcher knows of one trap register. -/
structure TrapEntry where
  /-- The registrations it serves, oldest first. -/
  records : List TrapRecord := []
  inUse : Bool := false
  base : UInt16 := 0
  length : UInt16 := 0
  /-- How much of a shared window is handed out. -/
  usedLength : UInt16 := 0
  /-- The register serves one registration alone. -/
  isDedicated : Bool := false
  /-- The range is the caller's own, not one the dispatcher allocated. -/
  isCallerOwned : Bool := false
  deriving DecidableEq

namespace TrapEntry

instance : Inhabited TrapEntry := ⟨{}⟩

def overlaps (entry : TrapEntry) (address length : UInt16) : Bool :=
  entry.inUse && decide (address.toNat < entry.base.toNat + entry.length.toNat) &&
    decide (entry.base.toNat < address.toNat + length.toNat)

/-- The next free multiple of `length` in a shared window, if that many bytes are left there. -/
def freeOffset? (entry : TrapEntry) (length : UInt16) : Option UInt16 :=
  let offset := roundUp entry.usedLength.toNat length.toNat
  if entry.inUse && !entry.isDedicated &&
      decide (offset + length.toNat ≤ mergedTrapLength.toNat) then
    some (UInt16.ofNat offset)
  else none

end TrapEntry

end PlatformFirmware
