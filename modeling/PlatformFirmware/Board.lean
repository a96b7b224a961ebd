import PlatformFirmware.NumberText

namespace PlatformFirmware

def size64KB : UInt64 := 0x10000
def size128KB : UInt64 := 0x20000
def size256KB : UInt64 := 0x40000
def size512KB : UInt64 := 0x80000
def size1MB : UInt64 := 0x100000
def size64MB : UInt64 := 0x4000000
def size2GB : UInt64 := 0x80000000

/-- A device of the board, and the addresses it answers on. -/
structure Peripheral where
  symbol : String
  base : UInt64
  size : UInt64
  deriving DecidableEq

namespace Board

def uart0 : Peripheral := ⟨"UART0", 0x2A400000, size64KB⟩
def refclkCounter : Peripheral := ⟨"REFCLK_CNT", 0x2A430000, size64KB⟩
def genericWatchdog : Peripheral := ⟨"GENERIC_WDOG", 0x2A440000, size128KB⟩
def apRefclkCounter : Peripheral := ⟨"AP_REFCLK_CNT", 0x2A810000, size64KB⟩
def apRefclkNonSecureCounter : Peripheral := ⟨"AP_REFCLK_NS_CNT", 0x2A820000, size64KB⟩
def gic : Peripheral := ⟨"GIC", 0x30000000, size256KB⟩
def gicIts : Peripheral := ⟨"GICITS", 0x30040000, size512KB⟩
def gicRedistributor : Peripheral := ⟨"GICR", 0x300C0000, size1MB⟩
def smmu : Peripheral := ⟨"SMMU", 0x4F000000, 0xE00000⟩
def nonSecureSram : Peripheral := ⟨"NON_SECURE_SRAM", 0x06000000, size64KB⟩
def expansion : Peripheral := ⟨"EXP_PERIPH", 0x1C000000, 0x1300000⟩
def qspiFlash : Peripheral := ⟨"AP_QSPI_AHB", 0x18000000, size64MB⟩

def peripherals : List Peripheral :=
  [uart0, refclkCounter, genericWatchdog, apRefclkCounter, apRefclkNonSecureCounter, gic,
    gicIts, gicRedistributor, smmu, nonSecureSram, expansion, qspiFlash]

/-- The size of the first block of memory. Local memory beyond it is in the second block. -/
def dramBlock1Size : UInt64 := size2GB

def dramBlock2Size (localMemory : UInt64) : UInt64 :=
  localMemory - min localMemory dramBlock1Size

end Board

structure HostBridge where
  ecamBase : UInt64
  busMin : UInt8
  busMax : UInt8
  mmio32Base : UInt32
  mmio32Size : UInt32
  /-- The size of the I/O window, which follows the 32-bit window. -/
  ioSize : UInt32
  mmio64Base : UInt64
  mmio64Size : UInt64
  deriving DecidableEq

namespace HostBridge

/-- Each bus takes 1 MiB of configuration space. -/
def ecamSize (bridge : HostBridge) : UInt64 :=
  ((bridge.busMax - min bridge.busMax bridge.busMin).toUInt64 + 1) * size1MB

/-- The 32-bit window together with the I/O window. -/
def mmio32RegionSize (bridge : HostBridge) : UInt64 :=
  bridge.mmio32Size.toUInt64 + bridge.ioSize.toUInt64

end HostBridge

/-- Where the parts of the board that can be configured are. -/
structure MemoryConfig where
  systemMemoryBase : UInt64 := 0x80000000
  systemMemorySize : UInt64 := 0x7F000000
  /-- Where the local memory beyond the first 2 GiB begins. -/
  dramBlock2Base : UInt64 := 0x8080000000
  pcie : HostBridge :=
    { ecamBase := 0x28C0000000, busMin := 0, busMax := 255
      mmio32Base := 0x60000000, mmio32Size := 0x0FFF0000, ioSize := 0x10000
      mmio64Base := 0x900000000, mmio64Size := 0x1F00000000 }
  ccix : HostBridge :=
    { ecamBase := 0x2CC0000000, busMin := 0, busMax := 255
      mmio32Base := 0x70000000, mmio32Size := 0x0FFF0000, ioSize := 0x10000
      mmio64Base := 0x3000000000, mmio64Size := 0x1000000000 }
  /-- The registers of the display processor of the model board. -/
  displayBase : UInt32 := 0x2CC00000
  displaySize : UInt32 := 0x20000
  /-- The frame buffer of the model board; it has none if the size is 0. -/
  gopBufferBase : UInt64 := 0xFF000000
  gopBufferSize : UInt32 := 0x800000
  deriving DecidableEq

end PlatformFirmware
