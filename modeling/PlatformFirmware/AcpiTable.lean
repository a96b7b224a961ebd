import PlatformFirmware.ByteOrder

namespace PlatformFirmware

/-- What makes an ACPI table. -/
inductive TableGenerator
  | reserved
  /-- Takes the table as it is. -/
  | raw
  | fadt
  | madt
  | gtdt
  | spcr
  | dbg2
  | iort
  | mcfg
  | ssdtSerialPort
  | ssdtCpuTopology
  | ssdtPciExpress
  | pptt
  deriving DecidableEq

namespace TableGenerator

/-- All generators, in the order of their numbers. -/
def all : List TableGenerator :=
  [reserved, raw, fadt, madt, gtdt, spcr, dbg2, iort, mcfg, ssdtSerialPort, ssdtCpuTopology,
    ssdtPciExpress, pptt]

def number : TableGenerator → UInt32
  | reserved => 0
  | raw => 1
  | fadt => 2
  | madt => 3
  | gtdt => 4
  | spcr => 5
  | dbg2 => 6
  | iort => 7
  | mcfg => 8
  | ssdtSerialPort => 9
  | ssdtCpuTopology => 10
  | ssdtPciExpress => 11
  | pptt => 12

def name : TableGenerator → String
  | reserved => "Reserved"
  | raw => "Raw"
  | fadt => "Fadt"
  | madt => "Madt"
  | gtdt => "Gtdt"
  | spcr => "Spcr"
  | dbg2 => "Dbg2"
  | iort => "Iort"
  | mcfg => "Mcfg"
  | ssdtSerialPort => "SsdtSerialPort"
  | ssdtCpuTopology => "SsdtCpuTopology"
  | ssdtPciExpress => "SsdtPciExpress"
  | pptt => "Pptt"

end TableGenerator

/-- A kind of table that has a signature of its own. -/
structure TableKind where
  /-- What the standard calls the kind. -/
  symbol : String
  signature : UInt32

namespace TableKind

/-- Spells `FACP`. -/
def fixedDescription : TableKind :=
  ⟨"EFI_ACPI_6_4_FIXED_ACPI_DESCRIPTION_TABLE", PlatformFirmware.signature 0x46 0x41 0x43 0x50⟩

/-- Spells `GTDT`. -/
def genericTimer : TableKind :=
  ⟨"EFI_ACPI_6_4_GENERIC_TIMER_DESCRIPTION_TABLE",
    PlatformFirmware.signature 0x47 0x54 0x44 0x54⟩

/-- Spells `APIC`. -/
def multipleApic : TableKind :=
  ⟨"EFI_ACPI_6_4_MULTIPLE_APIC_DESCRIPTION_TABLE",
    PlatformFirmware.signature 0x41 0x50 0x49 0x43⟩

/-- Spells `SPCR`. -/
def serialConsole : TableKind :=
  ⟨"EFI_ACPI_6_4_SERIAL_PORT_CONSOLE_REDIRECTION_TABLE",
    PlatformFirmware.signature 0x53 0x50 0x43 0x52⟩

/-- Spells `DSDT`. -/
def differentiated : TableKind :=
  ⟨"EFI_ACPI_6_4_DIFFERENTIATED_SYSTEM_DESCRIPTION_TABLE",
    PlatformFirmware.signature 0x44 0x53 0x44 0x54⟩

/-- Spells `SSDT`. -/
def secondary : TableKind :=
  ⟨"EFI_ACPI_6_4_SECONDARY_SYSTEM_DESCRIPTION_TABLE",
    PlatformFirmware.signature 0x53 0x53 0x44 0x54⟩

/-- Spells `DBG2`. -/
def debugPort : TableKind :=
  ⟨"EFI_ACPI_6_4_DEBUG_PORT_2_TABLE", PlatformFirmware.signature 0x44 0x42 0x47 0x32⟩

/-- Spells `PPTT`. -/
def processorTopology : TableKind :=
  ⟨"EFI_ACPI_6_4_PROCESSOR_PROPERTIES_TOPOLOGY_TABLE_STRUCTURE",
    PlatformFirmware.signature 0x50 0x50 0x54 0x54⟩

/-- Spells `IORT`. -/
def ioRemapping : TableKind :=
  ⟨"EFI_ACPI_6_4_IO_REMAPPING_TABLE", PlatformFirmware.signature 0x49 0x4F 0x52 0x54⟩

/-- Spells `MCFG`. -/
def pciConfiguration : TableKind :=
  ⟨"EFI_ACPI_6_4_PCI_EXPRESS_MEMORY_MAPPED_CONFIGURATION_SPACE_BASE_ADDRESS_DESCRIPTION_TABLE",
    PlatformFirmware.signature 0x4D 0x43 0x46 0x47⟩

def all : List TableKind :=
  [fixedDescription, genericTimer, multipleApic, serialConsole, differentiated, secondary,
    debugPort, processorTopology, ioRemapping, pciConfiguration]

end TableKind

/-- A number that the standard gives a name. -/
structure AcpiNumber where
  symbol : String
  value : UInt32

namespace AcpiNumber

def fixedDescriptionRevision : AcpiNumber :=
  ⟨"EFI_ACPI_6_4_FIXED_ACPI_DESCRIPTION_TABLE_REVISION", 6⟩

def fixedDescriptionMinorRevision : AcpiNumber :=
  ⟨"EFI_ACPI_6_4_FIXED_ACPI_DESCRIPTION_TABLE_MINOR_REVISION", 4⟩

def genericTimerRevision : AcpiNumber :=
  ⟨"EFI_ACPI_6_4_GENERIC_TIMER_DESCRIPTION_TABLE_REVISION", 3⟩

def multipleApicRevision : AcpiNumber :=
  ⟨"EFI_ACPI_6_4_MULTIPLE_APIC_DESCRIPTION_TABLE_REVISION", 5⟩

def serialConsoleRevision : AcpiNumber :=
  ⟨"EFI_ACPI_SERIAL_PORT_CONSOLE_REDIRECTION_TABLE_REVISION", 2⟩

def debugPortRevision : AcpiNumber :=
  ⟨"EFI_ACPI_DBG2_DEBUG_DEVICE_INFORMATION_STRUCT_REVISION", 0⟩

def processorTopologyRevision : AcpiNumber :=
  ⟨"EFI_ACPI_6_4_PROCESSOR_PROPERTIES_TOPOLOGY_TABLE_REVISION", 3⟩

def ioRemappingRevision : AcpiNumber :=
  ⟨"EFI_ACPI_IO_REMAPPING_TABLE_REVISION_00", 0⟩

def pciConfigurationRevision : AcpiNumber :=
  ⟨"EFI_ACPI_MEMORY_MAPPED_CONFIGURATION_SPACE_ACCESS_TABLE_REVISION", 1⟩

/-- The unit takes part in keeping caches coherent, whatever its registers say. -/
def smmuCoherent : AcpiNumber :=
  ⟨"EFI_ACPI_IORT_SMMUV3_FLAG_COHAC_OVERRIDE", 1⟩

def smmuGenericModel : AcpiNumber :=
  ⟨"EFI_ACPI_IORT_SMMUV3_MODEL_GENERIC", 0⟩

def cacheCoherentAccess : AcpiNumber :=
  ⟨"EFI_ACPI_IORT_MEM_ACCESS_PROP_CCA", 1⟩

def coherentPathToMemory : AcpiNumber :=
  ⟨"EFI_ACPI_IORT_MEM_ACCESS_FLAGS_CPM", 1⟩

def addressTranslationUnsupported : AcpiNumber :=
  ⟨"EFI_ACPI_IORT_ROOT_COMPLEX_ATS_UNSUPPORTED", 0⟩

/-- The mapping is for a single identifier. -/
def singleMapping : AcpiNumber :=
  ⟨"EFI_ACPI_IORT_ID_MAPPING_FLAGS_SINGLE", 1⟩

def all : List AcpiNumber :=
  [fixedDescriptionRevision, fixedDescriptionMinorRevision, genericTimerRevision,
    multipleApicRevision, serialConsoleRevision, debugPortRevision, processorTopologyRevision,
    ioRemappingRevision, pciConfigurationRevision, smmuCoherent, smmuGenericModel,
    cacheCoherentAccess, coherentPathToMemory, addressTranslationUnsupported, singleMapping]

end AcpiNumber

/-- A table that shall be installed, and what makes it. -/
structure AcpiTable where
  signature : UInt32
  revision : UInt8
  generator : UInt32
  /-- The finished table, for one that is taken as it is. -/
  content : Option (List UInt8) := none
  oemTableId : UInt64 := 0
  oemRevision : UInt32 := 0
  minorRevision : UInt8 := 0
  deriving DecidableEq

namespace AcpiTable

def build (signature : UInt32) (revision : UInt8) (generator : TableGenerator) : AcpiTable :=
  { signature, revision, generator := generator.number }

def withContent (table : AcpiTable) (content : List UInt8) : AcpiTable :=
  { table with content := some content }

def withMinorRevision (table : AcpiTable) (minorRevision : UInt8) : AcpiTable :=
  { table with minorRevision }

end AcpiTable

end PlatformFirmware
