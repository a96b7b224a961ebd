import PlatformFirmware.DeviceTree
import PlatformFirmware.Guid
import PlatformFirmware.LogRecord

namespace PlatformFirmware

/-- Names the platform information among the hand-off blocks. -/
def platformInfoGuid : Guid :=
  ⟨0x3ed4e4a6, 0x0cbe, 0x4b8c, 0x9d3a, 0x6f21775b0e4c⟩

/-- What the trusted firmware tells about the board. -/
structure PlatformInfo where
  /-- The size of the memory of this chip, in bytes. -/
  localMemory : UInt64
  /-- The size of the memory of the other chips, in bytes. -/
  remoteMemory : UInt64
  remoteChips : UInt8
  /-- 0 for a single chip, 1 for chip to chip. -/
  mode : UInt8
  /-- The system configuration register. -/
  sccConfig : UInt32
  deriving DecidableEq

namespace PlatformInfo

/-- The information in memory, with two reserved bytes before the last field. -/
def toBytes (info : PlatformInfo) : List UInt8 :=
  littleEndian 8 info.localMemory.toNat ++ littleEndian 8 info.remoteMemory.toNat ++
    [info.remoteChips, info.mode, 0, 0] ++ littleEndian 4 info.sccConfig.toNat

/-- What the log says of the information, all numbers in hexadecimal. -/
def debugText (info : PlatformInfo) : String :=
  let fields :=
    ["local_ddr_size: " ++ hexDigits info.localMemory.toNat,
      "remote_ddr_size: " ++ hexDigits info.remoteMemory.toNat,
      "remote_chip_count: " ++ hexDigits info.remoteChips.toNat,
      "mode: " ++ hexDigits info.mode.toNat, "_reserved: [0, 0]",
      "scc_config: " ++ hexDigits info.sccConfig.toNat]
  "PlatInfoSoc \x7b " ++ ", ".intercalate fields ++ " \x7d"

def complain {α : Type} (message : String) : LogM α := do
  writeLog .error "platform_info" message
  .refuse .invalidParameter

/-- The number at the front of a property, highest byte first. -/
def readNumber (tree : DeviceTree) (content : List UInt8) (name : String) (size : Nat) :
    LogM Nat := do
  match ← .ofHalting (tree.property? name.toUTF8.toList content) with
  | none => complain (name ++ " property not found")
  | some value =>
    if value.length < size then
      complain (name ++ " property is " ++ toString value.length ++ " bytes, expected " ++
        toString size)
    else return ofBigEndian (value.take size)

/-- Reads the information from the bytes of a device tree. -/
def ofTree (bytes : List UInt8) : LogM PlatformInfo := do
  match DeviceTree.ofBytes bytes with
  | .error reason => complain ("Invalid DTB passed: " ++ reason.name)
  | .ok tree =>
    let some content ← .ofHalting (tree.node? "/platform-info")
      | complain "Invalid DTB: platform-info node not found"
    let read := readNumber tree content
    let localMemory := UInt64.ofNat (← read "local-ddr-size" 8)
    let remoteMemory := UInt64.ofNat (← read "remote-ddr-size" 8)
    let remoteChips := UInt8.ofNat (← read "remote-chip-count" 4)
    let mode := UInt8.ofNat (← read "multichip-mode" 4)
    let sccConfig := UInt32.ofNat (← read "scc-config" 4)
    let info : PlatformInfo := { localMemory, remoteMemory, remoteChips, mode, sccConfig }
    writeLog .debug "platform_info" ("Platform info: " ++ info.debugText)
    return info

/-- Reads the information from the device tree that was located, if one was. -/
def locate (located : Except EfiError (List UInt8)) : LogM PlatformInfo :=
  match located with
  | .error reason =>
    complain ("Locating NT_FW_CONFIG failed with error " ++ reason.debugText)
  | .ok bytes => ofTree bytes

end PlatformInfo

end PlatformFirmware
