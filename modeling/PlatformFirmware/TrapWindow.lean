import PlatformFirmware.LogRecord
import PlatformFirmware.NumberText
import PlatformFirmware.TrapRegister

namespace PlatformFirmware

/-- The memory in which the chipset shows its trap registers, in words of 32 bits. -/
abbrev TrapWindow := Vector (BitVec 32) 0x800

namespace TrapWindow

/-- Byte offsets of the registers. Trap register `n` is `8 * n` bytes after the first. -/
def registerOffset : Nat := 0x1E80
def statusOffset : Nat := 0x1E00
def cycleOffset : Nat := 0x1E10
def dataOffset : Nat := 0x1E18

/-- The number of trap registers that lie inside the window. -/
abbrev registerCount : Nat := 48

def blank : TrapWindow := Vector.replicate 0x800 0

def load (window : TrapWindow) (offset : Nat) : BitVec 32 :=
  window[offset / 4]?.getD 0

def store (window : TrapWindow) (offset : Nat) (value : BitVec 32) : TrapWindow :=
  window.setIfInBounds (offset / 4) value

def readRegister (window : TrapWindow) (index : Fin registerCount) : TrapRegister :=
  let offset := registerOffset + 8 * index
  ⟨window.load (offset + 4) ++ window.load offset⟩

/-- The stores that write a register: the half with the enable bit goes last. -/
def registerStores (index : Fin registerCount) (value : TrapRegister) : List (Nat × BitVec 32) :=
  let offset := registerOffset + 8 * index
  [(offset + 4, value.word.extractLsb' 32 32), (offset, value.word.extractLsb' 0 32)]

/-- What the log says of a register that is written. -/
def writeText (index : Fin registerCount) (value : TrapRegister) : String :=
  "TRPREG" ++ toString index.val ++ " = " ++ hexTextOfWidth 18 value.word.toNat

def writeRegister (window : TrapWindow) (index : Fin registerCount) (value : TrapRegister) :
    LogAction TrapWindow := do
  let written :=
    (registerStores index value).foldl (fun w (offset, word) => w.store offset word) window
  writeLog .trace "io_trap" (writeText index value)
  return written

def status (window : TrapWindow) : BitVec 32 :=
  window.load statusOffset

def clearStatus (window : TrapWindow) (mask : BitVec 32) : TrapWindow :=
  window.store statusOffset mask

def cycle (window : TrapWindow) : TrappedCycle :=
  ⟨window.load cycleOffset⟩

def data (window : TrapWindow) : BitVec 32 :=
  window.load dataOffset

/-- The words that are not zero, with their byte offsets, in ascending order. -/
def nonzeroWords (window : TrapWindow) : List (Nat × BitVec 32) :=
  (window.toList.zipIdx.map fun (word, i) => (4 * i, word)).filter fun entry => entry.2 != 0

end TrapWindow

end PlatformFirmware
