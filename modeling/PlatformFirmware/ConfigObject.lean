import PlatformFirmware.AcpiTable
import PlatformFirmware.LogRecord
import PlatformFirmware.ObjectId

namespace PlatformFirmware

/-- What the configuration manager tells of itself. -/
structure ManagerInfo where
  revision : UInt32
  oemId : List UInt8
  deriving DecidableEq

/-- A unit that translates interrupts. -/
structure GicIts where
  id : UInt32
  physicalBase : UInt64
  proximityDomain : UInt32
  deriving DecidableEq

/-- A group of interrupt translators that others refer to. -/
structure ItsGroup where
  token : ObjectToken
  identifierCount : UInt32
  identifiers : ObjectToken
  deriving DecidableEq

structure ItsIdentifier where
  id : UInt32
  deriving DecidableEq

/-- A unit that translates the addresses of devices. -/
structure SmmuNode where
  token : ObjectToken
  mappingCount : UInt32
  mappings : ObjectToken
  base : UInt64
  flags : UInt32
  vatosAddress : UInt64
  model : UInt32
  eventInterrupt : UInt32
  priInterrupt : UInt32
  gerrInterrupt : UInt32
  syncInterrupt : UInt32
  proximityDomain : UInt32
  /-- Which of its mappings is for the unit itself. -/
  ownMapping : UInt32
  deriving DecidableEq

/-- The root of a PCI hierarchy. -/
structure RootComplex where
  token : ObjectToken
  mappingCount : UInt32
  mappings : ObjectToken
  cacheCoherent : UInt32
  allocationHints : UInt8
  memoryAccessFlags : UInt8
  atsAttribute : UInt32
  segment : UInt32
  memoryAddressSize : UInt8
  deriving DecidableEq

/-- Device identifiers, and the node that they are mapped to. -/
structure IdMapping where
  inputBase : UInt32
  count : UInt32
  outputBase : UInt32
  output : ObjectToken
  flags : UInt32
  deriving DecidableEq

/-- The configuration space of a PCI segment. -/
structure PciWindow where
  base : UInt64
  segment : UInt16
  startBus : UInt8
  endBus : UInt8
  deriving DecidableEq

/-- Objects of one kind. -/
inductive ConfigData
  | managerInfo (objects : List ManagerInfo)
  | acpiTables (objects : List AcpiTable)
  | gicIts (objects : List GicIts)
  | itsGroups (objects : List ItsGroup)
  | itsIdentifiers (objects : List ItsIdentifier)
  | smmus (objects : List SmmuNode)
  | rootComplexes (objects : List RootComplex)
  | idMappings (objects : List IdMapping)
  | pciWindows (objects : List PciWindow)
  deriving DecidableEq

namespace ConfigData

def length : ConfigData → Nat
  | managerInfo objects => objects.length
  | acpiTables objects => objects.length
  | gicIts objects => objects.length
  | itsGroups objects => objects.length
  | itsIdentifiers objects => objects.length
  | smmus objects => objects.length
  | rootComplexes objects => objects.length
  | idMappings objects => objects.length
  | pciWindows objects => objects.length

def objectSize : ConfigData → Nat
  | managerInfo _ => 12
  | acpiTables _ => 48
  | gicIts _ => 24
  | itsGroups _ => 24
  | itsIdentifiers _ => 4
  | smmus _ => 80
  | rootComplexes _ => 48
  | idMappings _ => 32
  | pciWindows _ => 16

def kind : ConfigData → String
  | managerInfo _ => "CfgMgrInfo"
  | acpiTables _ => "AcpiTableList"
  | gicIts _ => "GicItsInfo"
  | itsGroups _ => "ItsGroup"
  | itsIdentifiers _ => "ItsIdentifier"
  | smmus _ => "SmmuV3"
  | rootComplexes _ => "RootComplex"
  | idMappings _ => "IdMapping"
  | pciWindows _ => "PciConfigSpace"

end ConfigData

/-- Objects that answer a request. -/
structure ConfigAnswer where
  /-- What was asked for. -/
  id : ObjectId
  count : UInt32
  data : ConfigData
  deriving DecidableEq

namespace ConfigAnswer

def of (id : ObjectId) (data : ConfigData) : ConfigAnswer :=
  ⟨id, UInt32.ofNat data.length, data⟩

def size (answer : ConfigAnswer) : Nat :=
  answer.count.toNat * answer.data.objectSize

def sizeText (answer : ConfigAnswer) : String :=
  "Size = " ++ toString answer.size ++ ", Count = " ++ toString answer.count.toNat

end ConfigAnswer

def writeConfigLog (severity : Severity) (message : String) : LogAction Unit :=
  writeLog severity "config_manager" message

/-- Answers with all objects there are. Where they are is not told. -/
def answerAll (id : ObjectId) (data : ConfigData) : LogAction ConfigAnswer := do
  let answer := ConfigAnswer.of id data
  writeConfigLog .info (id.debugText ++ ": Ptr = *, " ++ answer.sizeText)
  return answer

/-- Answers with all objects for the null token, and with what `find` finds for any other. -/
def answerByToken {m : Type → Type} [Monad m] [MonadLiftT LogAction m] (id : ObjectId)
    (data : ConfigData) (token : ObjectToken) (find : ObjectId → ObjectToken → m ConfigAnswer) :
    m ConfigAnswer := do
  if token = nullToken then
    answerAll id data
  else
    let answer ← find id token
    writeConfigLog .info
      (id.debugText ++ ": Token = " ++ hexText token.toNat ++ ", " ++ answer.sizeText)
    return answer

end PlatformFirmware
