import PlatformFirmware.Board
import PlatformFirmware.ConfigObject

namespace PlatformFirmware

/-- Where the objects of a board come from. -/
structure ConfigRepository where
  standardObject : ObjectId → ObjectToken → LogM ConfigAnswer
  armObject : ObjectId → ObjectToken → LogM ConfigAnswer

/-- The tables of every board: from the fixed description to the processor topology. -/
def commonTables (dsdt : List UInt8) : List AcpiTable :=
  let table (kind : TableKind) (revision : AcpiNumber) (generator : TableGenerator) : AcpiTable :=
    .build kind.signature revision.value.toUInt8 generator
  [(table .fixedDescription .fixedDescriptionRevision .fadt).withMinorRevision
      AcpiNumber.fixedDescriptionMinorRevision.value.toUInt8,
    table .genericTimer .genericTimerRevision .gtdt,
    table .multipleApic .multipleApicRevision .madt,
    table .serialConsole .serialConsoleRevision .spcr,
    (AcpiTable.build TableKind.differentiated.signature 0 .raw).withContent dsdt,
    table .debugPort .debugPortRevision .dbg2,
    table .processorTopology .processorTopologyRevision .pptt]

/-- Answers the list of tables, which is all there is in the standard namespace. -/
def answerTables (tables : List AcpiTable) (id : ObjectId) : LogM ConfigAnswer :=
  match StandardObject.ofNumber? id.object with
  | some .acpiTables => answerAll id (.acpiTables tables)
  | _ => .refuse .notFound

/-- The model board has neither PCI nor address translation, so it only has tables. -/
def modelRepository (dsdt : List UInt8) : ConfigRepository where
  standardObject := fun id _ => answerTables (commonTables dsdt) id
  armObject := fun _ _ => .refuse .notFound

structure ChipObjects where
  tables : List AcpiTable
  gicIts : List GicIts
  itsGroups : List ItsGroup
  itsIdentifiers : List ItsIdentifier
  smmus : List SmmuNode
  rootComplexes : List RootComplex
  /-- Three groups of two. -/
  idMappings : List IdMapping
  pciWindows : List PciWindow
  deriving DecidableEq

namespace ChipObjects

def mappingGroupSize : Nat := 2
def mappingCount : Nat := 6
def smmuMappingCount : Nat := 2
def rootComplexMappingCount : Nat := 1

def mappingIndex (group index : Nat) : Nat :=
  group * mappingGroupSize + index

/-- The runs of mappings that a node refers to: where they begin, and how long they are. -/
def mappingRuns : List (Nat × Nat) :=
  [(mappingIndex 0 0, smmuMappingCount), (mappingIndex 1 0, rootComplexMappingCount),
    (mappingIndex 1 1, rootComplexMappingCount), (mappingIndex 2 0, smmuMappingCount)]

def mappingToken (group index : Nat) : ObjectToken :=
  referenceToken .idMappingArray (UInt64.ofNat (mappingIndex group index))

def itsGroupToken (index : Nat) : ObjectToken :=
  referenceToken .itsGroup (UInt64.ofNat index)

def itsIdentifierToken (index : Nat) : ObjectToken :=
  referenceToken .gicItsIdentifierArray (UInt64.ofNat index)

def smmuToken (index : Nat) : ObjectToken :=
  referenceToken .smmuV3 (UInt64.ofNat index)

def rootComplexToken (index : Nat) : ObjectToken :=
  referenceToken .rootComplex (UInt64.ofNat index)

/-- The token of a mapping in a group, if group and place can be counted. -/
def mappingToken? (group index : Nat) : Option ObjectToken :=
  let place := mappingIndex group index
  if place < UInt64.size then referenceToken? .idMappingArray place else none

def itsGroup (index : Nat) : ItsGroup :=
  { token := itsGroupToken index, identifierCount := 1, identifiers := itsIdentifierToken index }

/-- An address translator; its interrupts are those for events, pages, errors and commands. -/
def smmu (index group : Nat) (base : UInt64) (event pri gerr sync : UInt32) : SmmuNode :=
  { token := smmuToken index
    mappingCount := UInt32.ofNat smmuMappingCount
    mappings := mappingToken group 0
    base
    flags := AcpiNumber.smmuCoherent.value
    vatosAddress := 0
    model := AcpiNumber.smmuGenericModel.value
    eventInterrupt := event
    priInterrupt := pri
    gerrInterrupt := gerr
    syncInterrupt := sync
    proximityDomain := 0
    ownMapping := 1 }

def rootComplex (index : Nat) : RootComplex :=
  { token := rootComplexToken index
    mappingCount := UInt32.ofNat rootComplexMappingCount
    mappings := mappingToken 1 index
    cacheCoherent := AcpiNumber.cacheCoherentAccess.value
    allocationHints := 0
    memoryAccessFlags := AcpiNumber.coherentPathToMemory.value.toUInt8
    atsAttribute := AcpiNumber.addressTranslationUnsupported.value
    segment := UInt32.ofNat index
    memoryAddressSize := 42 }

def idMapping (count : UInt32) (output : ObjectToken) (flags : UInt32) : IdMapping :=
  { inputBase := 0, count, outputBase := 0, output, flags }

def pciWindow (bridge : HostBridge) (segment : UInt16) : PciWindow :=
  { base := bridge.ecamBase, segment, startBus := bridge.busMin, endBus := bridge.busMax }

def build (config : MemoryConfig) (dsdt ssdtPci : List UInt8) : ChipObjects where
  tables := commonTables dsdt ++
    [.build TableKind.ioRemapping.signature AcpiNumber.ioRemappingRevision.value.toUInt8 .iort,
      .build TableKind.pciConfiguration.signature
        AcpiNumber.pciConfigurationRevision.value.toUInt8 .mcfg,
      (AcpiTable.build TableKind.secondary.signature 0 .raw).withContent ssdtPci]
  gicIts :=
    [⟨0, 0x30060000, 0⟩, ⟨1, 0x300A0000, 0⟩, ⟨2, 0x30040000, 0⟩, ⟨3, 0x30080000, 0⟩]
  itsGroups := [itsGroup 0, itsGroup 1, itsGroup 2, itsGroup 3]
  itsIdentifiers := [⟨0⟩, ⟨1⟩, ⟨2⟩, ⟨3⟩]
  smmus := [smmu 0 0 0x4F400000 267 72 269 268, smmu 1 2 0x4F000000 260 73 262 261]
  rootComplexes := [rootComplex 0, rootComplex 1]
  idMappings :=
    [idMapping 0xFFFF (itsGroupToken 1) 0,
      idMapping 1 (itsGroupToken 0) AcpiNumber.singleMapping.value,
      idMapping 0xFFFF (smmuToken 0) 0,
      idMapping 0xFFFF (smmuToken 1) 0,
      idMapping 0xFFFF (itsGroupToken 3) 0,
      idMapping 1 (itsGroupToken 2) AcpiNumber.singleMapping.value]
  pciWindows := [pciWindow config.pcie 0, pciWindow config.ccix 1]

/-- `count` objects from place `start`, if they are all there. -/
def run? {α : Type} (objects : List α) (start count : Nat) : Option (List α) :=
  if start + count ≤ objects.length then some ((objects.drop start).take count) else none

def mappingRun (objects : ChipObjects) (id : ObjectId) (token : ObjectToken) :
    LogM ConfigAnswer := do
  writeConfigLog .info ("DeviceIdMapping - Token = " ++ hexText token.toNat)
  let found := (tokenIndex? .idMappingArray token mappingCount).bind fun index =>
    mappingRuns.find? fun run => run.1 == index
  match found with
  | none =>
    writeConfigLog .info "DeviceIdMapping - Not Found"
    .refuse .notFound
  | some (index, count) =>
    writeConfigLog .info ("DeviceIdMapping - Found DeviceIdMapping[" ++
      toString (index / mappingGroupSize) ++ "][" ++ toString (index % mappingGroupSize) ++ "]")
    match run? objects.idMappings index count with
    | none => .refuse .notFound
    | some mappings => return .of id (.idMappings mappings)

def itsIdentifierAt (objects : ChipObjects) (id : ObjectId) (token : ObjectToken) :
    LogM ConfigAnswer :=
  let found := (tokenIndex? .gicItsIdentifierArray token objects.itsIdentifiers.length).bind
    fun index => run? objects.itsIdentifiers index 1
  match found with
  | none => .refuse .notFound
  | some identifiers => return .of id (.itsIdentifiers identifiers)

def itsGroupAt (objects : ChipObjects) (id : ObjectId) (token : ObjectToken) :
    LogM ConfigAnswer :=
  let found := (tokenIndex? .itsGroup token objects.itsGroups.length).bind
    fun index => run? objects.itsGroups index 1
  match found with
  | none => .refuse .notFound
  | some groups => return .of id (.itsGroups groups)

def armObject (objects : ChipObjects) (id : ObjectId) (token : ObjectToken) :
    LogM ConfigAnswer :=
  match ArmObject.ofNumber? id.object with
  | some .gicItsInfo => answerAll id (.gicIts objects.gicIts)
  | some .smmuV3 => answerAll id (.smmus objects.smmus)
  | some .itsGroup =>
    answerByToken id (.itsGroups objects.itsGroups) token objects.itsGroupAt
  | some .gicItsIdentifierArray =>
    answerByToken id (.itsIdentifiers objects.itsIdentifiers) token objects.itsIdentifierAt
  | some .rootComplex => answerAll id (.rootComplexes objects.rootComplexes)
  | some .idMappingArray =>
    answerByToken id (.idMappings objects.idMappings) token objects.mappingRun
  | some .pciConfigSpaceInfo => answerAll id (.pciWindows objects.pciWindows)
  | _ => .refuse .notFound

def repository (objects : ChipObjects) : ConfigRepository where
  standardObject := fun id _ => answerTables objects.tables id
  armObject := objects.armObject

end ChipObjects

end PlatformFirmware
