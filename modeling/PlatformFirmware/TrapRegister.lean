import PlatformFirmware.BitField

namespace PlatformFirmware

/-- The I/O cycles a trap is for. -/
inductive TrapDirection
  | write
  | read
  | readWrite
  deriving DecidableEq

namespace TrapDirection

def accepts : TrapDirection → Bool → Bool
  | write, isWrite => isWrite
  | read, isWrite => !isWrite
  | readWrite, _ => true

def name : TrapDirection → String
  | write => "Write"
  | read => "Read"
  | readWrite => "ReadWrite"

end TrapDirection

/-- The 64-bit register that tells the chipset which I/O cycles to trap. -/
structure TrapRegister where
  word : BitVec 64
  deriving DecidableEq

namespace TrapRegister

/-- The fields of a trap register, from bit 0 upwards. -/
inductive Field
  /-- Traps are taken at all. -/
  | enable
  | reserved0
  /-- I/O address bits 15:2. -/
  | dwordAddress
  | reserved1
  /-- A set bit ignores the address bit two places above it. -/
  | ignoredAddress
  | reserved2
  | byteEnable
  /-- A set bit ignores that byte enable. -/
  | ignoredByteEnable
  | reserved3
  /-- Reads are trapped, not writes. -/
  | readCycles
  /-- Reads and writes are trapped alike. -/
  | anyDirection
  | reserved4
  deriving DecidableEq

namespace Field

@[reducible]
def span : Field → BitField
  | enable => ⟨0, 1⟩
  | reserved0 => ⟨1, 1⟩
  | dwordAddress => ⟨2, 14⟩
  | reserved1 => ⟨16, 2⟩
  | ignoredAddress => ⟨18, 6⟩
  | reserved2 => ⟨24, 8⟩
  | byteEnable => ⟨32, 4⟩
  | ignoredByteEnable => ⟨36, 4⟩
  | reserved3 => ⟨40, 8⟩
  | readCycles => ⟨48, 1⟩
  | anyDirection => ⟨49, 1⟩
  | reserved4 => ⟨50, 14⟩

end Field

def zero : TrapRegister := ⟨0⟩

instance : Inhabited TrapRegister := ⟨zero⟩

def get (register : TrapRegister) (field : Field) : BitVec field.span.width :=
  field.span.get register.word

def put (register : TrapRegister) (field : Field) (value : BitVec field.span.width) :
    TrapRegister :=
  ⟨field.span.put register.word value⟩

/-- Sets a field to a number, if the number fits the field. -/
def put? (register : TrapRegister) (field : Field) (value : Nat) : Option TrapRegister :=
  (field.span.fit? value).map (register.put field)

def isEnabled (register : TrapRegister) : Bool :=
  register.get .enable != 0

def setEnabled (register : TrapRegister) (on : Bool) : TrapRegister :=
  register.put .enable (BitVec.ofBool on)

/-- The first I/O address of the trapped range. -/
def address (register : TrapRegister) : UInt16 :=
  ⟨(register.get .dwordAddress).setWidth 16 <<< 2⟩

/-- The number of trapped I/O addresses, when the ignored bits are the lowest ones. -/
def length (register : TrapRegister) : UInt16 :=
  ⟨(register.get .ignoredAddress).setWidth 16 <<< 2⟩ + 4

/-- Directions are told apart by two bits, of which one overrides the other. -/
def putDirection (register : TrapRegister) : TrapDirection → TrapRegister
  | .write => (register.put .readCycles 0).put .anyDirection 0
  | .read => (register.put .readCycles 1).put .anyDirection 0
  | .readWrite => register.put .anyDirection 1

/-- An enabled trap on the `length` addresses from `address`, whatever the byte enables. -/
def ofRange (address length : UInt16) (direction : TrapDirection) : TrapRegister :=
  let span := length - min length 1
  let range := ((zero.put .enable 1).put .dwordAddress (address.toBitVec.extractLsb' 2 14)).put
    .ignoredAddress (span.toBitVec.extractLsb' 2 6)
  (range.put .ignoredByteEnable 0xF).putDirection direction

end TrapRegister

/-- The 32-bit register in which the chipset describes the cycle it trapped. -/
structure TrappedCycle where
  word : BitVec 32
  deriving DecidableEq

namespace TrappedCycle

/-- The fields of a trapped cycle, from bit 0 upwards. -/
inductive Field
  | reserved0
  /-- I/O address bits 15:2. -/
  | dwordAddress
  /-- The bytes of the dword that the cycle is for. -/
  | byteEnable
  | reserved1
  | readCycle
  | reserved2
  deriving DecidableEq

namespace Field

@[reducible]
def span : Field → BitField
  | reserved0 => ⟨0, 2⟩
  | dwordAddress => ⟨2, 14⟩
  | byteEnable => ⟨16, 4⟩
  | reserved1 => ⟨20, 4⟩
  | readCycle => ⟨24, 1⟩
  | reserved2 => ⟨25, 7⟩

end Field

def get (cycle : TrappedCycle) (field : Field) : BitVec field.span.width :=
  field.span.get cycle.word

def put (cycle : TrappedCycle) (field : Field) (value : BitVec field.span.width) : TrappedCycle :=
  ⟨field.span.put cycle.word value⟩

/-- Sets a field to a number, if the number fits the field. -/
def put? (cycle : TrappedCycle) (field : Field) (value : Nat) : Option TrappedCycle :=
  (field.span.fit? value).map (cycle.put field)

/-- The place of the lowest set bit of four, and 0 if none is set. -/
def lowestEnabled (enables : BitVec 4) : UInt16 :=
  if enables.getLsbD 0 then 0
  else if enables.getLsbD 1 then 1
  else if enables.getLsbD 2 then 2
  else if enables.getLsbD 3 then 3
  else 0

/-- The address of the first enabled byte. -/
def address (cycle : TrappedCycle) : UInt16 :=
  ⟨(cycle.get .dwordAddress).setWidth 16 <<< 2⟩ + lowestEnabled (cycle.get .byteEnable)

def isWrite (cycle : TrappedCycle) : Bool :=
  cycle.get .readCycle == 0

end TrappedCycle

end PlatformFirmware
