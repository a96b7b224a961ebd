import PlatformFirmware.Board
import PlatformFirmware.HandOffBlock
import PlatformFirmware.MemoryMap
import PlatformFirmware.PlatformInfo

namespace PlatformFirmware

/-- The most descriptors of a chip's table, the one at the end included. -/
def chipMaxDescriptors : Nat := 21

/-- The most descriptors of the model board's table without a frame buffer. -/
def modelMaxDescriptors : Nat := 18

/-- Tested memory that is present and can be cached in every way. -/
def dramBlock2Attributes : UInt32 := 0x3807

/-- Memory, among the resources that blocks describe. -/
def systemMemoryType : UInt32 := 0

/-- Building a map while hand-off blocks are produced.

The producer is its coming answers. It takes all blocks after the last one. -/
structure BoardTrace where
  answers : List (Except EfiError Unit) := []
  /-- The blocks that were handed to the producer, also those it did not take. -/
  blocks : List HandOffBlock := []
  log : List LogRecord := []

abbrev BoardM := ExceptT Fault (StateM BoardTrace)

abbrev MapBuilder := StateT MemoryMap LogM

namespace BoardMap

def logging {α : Type} (action : LogM α) : BoardM α := do
  let trace ← get
  let (result, log) := action trace.log
  set { trace with log }
  result

def produce (block : HandOffBlock) : BoardM Unit := do
  let trace ← get
  set { trace with answers := trace.answers.tail, blocks := trace.blocks ++ [block] }
  match trace.answers.headD (.ok ()) with
  | .ok () => return ()
  | .error reason => throw (.refused reason)

def place (description : String) (base length : UInt64) (attributes : MemoryAttributes) :
    MapBuilder Unit := do
  set (← (← get).push description base length attributes)

def placePeripheral (description : String) (peripheral : Peripheral)
    (attributes : MemoryAttributes) : MapBuilder Unit :=
  place description peripheral.base peripheral.size attributes

def placeCommonPeripherals : MapBuilder Unit := do
  placePeripheral "Generic Watchdog" Board.genericWatchdog .device
  placePeripheral "REFCLK CNTRead" Board.refclkCounter .device
  placePeripheral "AP_REFCLK CNTCL" Board.apRefclkCounter .device
  placePeripheral "AP_REFCLK_NS CNTCTL" Board.apRefclkNonSecureCounter .device
  placePeripheral "GIC-600" Board.gic .device
  placePeripheral "GICITS-600" Board.gicIts .device
  placePeripheral "GICR-600" Board.gicRedistributor .device
  placePeripheral "SMMU" Board.smmu .device
  placePeripheral "non-secure SRAM" Board.nonSecureSram .uncachedUnbuffered
  placePeripheral "UART0" Board.uart0 .device

def placeHostBridge (name : String) (bridge : HostBridge) : MapBuilder Unit := do
  place (name ++ " ECAM Region") bridge.ecamBase bridge.ecamSize .device
  place (name ++ " MMIO32 & IO Region") bridge.mmio32Base.toUInt64 bridge.mmio32RegionSize .device
  place (name ++ " MMIO64 Region") bridge.mmio64Base bridge.mmio64Size .device

/-- The second block of memory is only there if it is not empty. -/
def placeDramBlock2 (config : MemoryConfig) (size : UInt64) : MapBuilder Unit := do
  if size ≠ 0 then
    place "DDR Secondary" config.dramBlock2Base size .writeBack

def placeChip (config : MemoryConfig) (block2Size : UInt64) : MapBuilder Unit := do
  placeCommonPeripherals
  place "DDR Primary" config.systemMemoryBase config.systemMemorySize .writeBack
  placeDramBlock2 config block2Size
  placePeripheral "AP QSPI flash device" Board.qspiFlash .device
  placePeripheral "Expansion Peripherals" Board.expansion .device
  placeHostBridge "PCIe" config.pcie
  placeHostBridge "CCIX" config.ccix

/-- The last address of the primary memory, at most the last address of all. -/
def primaryLast (config : MemoryConfig) : Nat :=
  min (config.systemMemoryBase.toNat + config.systemMemorySize.toNat) (UInt64.size - 1) - 1

/-- A frame buffer has to lie above the primary memory. It is not cached, so that copying to it
cannot fail for alignment. -/
def placeGopBuffer (config : MemoryConfig) : MapBuilder Unit := do
  if config.gopBufferSize ≠ 0 then
    let last := primaryLast config
    if config.gopBufferBase.toNat ≤ last then
      writeLog .error "memory_map" ("GOP buffer at " ++ hexText config.gopBufferBase.toNat ++
        " overlaps primary DDR ending at " ++ hexText last)
      (LogM.refuse .invalidParameter : LogM Unit)
    place "DDR GOP carve out" config.gopBufferBase config.gopBufferSize.toUInt64
      .uncachedUnbuffered

def placeModel (config : MemoryConfig) (block2Size : UInt64) : MapBuilder Unit := do
  placeCommonPeripherals
  place "Mali D71" config.displayBase.toUInt64 config.displaySize.toUInt64 .device
  place "DDR Primary" config.systemMemoryBase config.systemMemorySize .writeBack
  placeGopBuffer config
  placeDramBlock2 config block2Size
  placePeripheral "Expansion Peripherals" Board.expansion .device
  placeHostBridge "PCI" config.pcie

def build (maxDescriptors : Nat) (builder : MapBuilder Unit) : LogM MemoryMap := do
  let map ← .ofHalting (MemoryMap.withMaxDescriptors maxDescriptors)
  return (← builder.run map).2

def produceDramBlock2 (config : MemoryConfig) (size : UInt64) : BoardM Unit := do
  if size ≠ 0 then
    produce (.resource (.build ⟨0, 0, 0, 0, 0⟩ systemMemoryType dramBlock2Attributes
      config.dramBlock2Base size))

/-- The memory map of a chip. Once it is complete, the platform information and the second block
of memory are reported. -/
def chip (config : MemoryConfig) (located : Except EfiError (List UInt8)) : BoardM MemoryMap := do
  let info ← logging (PlatformInfo.locate located)
  let bytes := info.toBytes
  let block ← logging (GuidBlock.build platformInfoGuid (UInt64.ofNat bytes.length))
  let size := Board.dramBlock2Size info.localMemory
  let map ← logging (build chipMaxDescriptors (placeChip config size))
  produce (.guid block bytes)
  produceDramBlock2 config size
  logging (.lift map.writeTable)
  return map

/-- The memory map of the model board, which tells the size of its local memory. -/
def model (config : MemoryConfig) (located : Except EfiError UInt64) : BoardM MemoryMap := do
  match located with
  | .error reason =>
    logging do
      writeLog .error "memory_map"
        ("Failed to locate the FVP platform info: " ++ reason.debugText)
      .refuse reason
  | .ok localMemory =>
    let size := Board.dramBlock2Size localMemory
    let maxDescriptors := modelMaxDescriptors + if config.gopBufferSize ≠ 0 then 1 else 0
    let map ← logging (build maxDescriptors (placeModel config size))
    produceDramBlock2 config size
    logging (.lift map.writeTable)
    return map

end BoardMap

end PlatformFirmware
