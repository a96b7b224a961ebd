import PlatformFirmware.NumberText

namespace PlatformFirmware

/-- The parts that object numbers are divided into. -/
inductive ObjectNamespace
  | standard
  | arm
  | oem
  deriving DecidableEq

namespace ObjectNamespace

def number : ObjectNamespace → UInt32
  | standard => 0
  | arm => 1
  | oem => 8

def ofNumber? (number : UInt32) : Option ObjectNamespace :=
  if number = 0 then some standard
  else if number = 1 then some arm
  else if number = 8 then some oem
  else none

def name : ObjectNamespace → String
  | standard => "Standard"
  | arm => "Arm"
  | oem => "Oem"

end ObjectNamespace

/-- The objects of the standard namespace. -/
inductive StandardObject
  | managerInfo
  | acpiTables
  | smbiosTables
  deriving DecidableEq

namespace StandardObject

/-- All objects, in the order of their numbers. -/
def all : List StandardObject :=
  [managerInfo, acpiTables, smbiosTables]

def number : StandardObject → UInt32
  | managerInfo => 0
  | acpiTables => 1
  | smbiosTables => 2

def ofNumber? (number : UInt32) : Option StandardObject :=
  all[number.toNat]?

def name : StandardObject → String
  | managerInfo => "CfgMgrInfo"
  | acpiTables => "AcpiTableList"
  | smbiosTables => "SmbiosTableList"

end StandardObject

/-- The objects of the Arm namespace. -/
inductive ArmObject
  | reserved
  | bootArchInfo
  | cpuInfo
  | powerManagementProfileInfo
  | gicCInfo
  | gicDInfo
  | gicMsiFrameInfo
  | gicRedistributorInfo
  | gicItsInfo
  | serialConsolePortInfo
  | serialDebugPortInfo
  | genericTimerInfo
  | platformGtBlockInfo
  | gtBlockTimerFrameInfo
  | platformGenericWatchdogInfo
  | pciConfigSpaceInfo
  | hypervisorVendorIdentity
  | fixedFeatureFlags
  | itsGroup
  | namedComponent
  | rootComplex
  | smmuV1SmmuV2
  | smmuV3
  | pmcgInfo
  | gicItsIdentifierArray
  | idMappingArray
  | smmuInterruptArray
  | procHierarchyInfo
  | cacheInfo
  deriving DecidableEq

namespace ArmObject

/-- All objects, in the order of their numbers. -/
def all : List ArmObject :=
  [reserved, bootArchInfo, cpuInfo, powerManagementProfileInfo, gicCInfo, gicDInfo,
    gicMsiFrameInfo, gicRedistributorInfo, gicItsInfo, serialConsolePortInfo, serialDebugPortInfo,
    genericTimerInfo, platformGtBlockInfo, gtBlockTimerFrameInfo, platformGenericWatchdogInfo,
    pciConfigSpaceInfo, hypervisorVendorIdentity, fixedFeatureFlags, itsGroup, namedComponent,
    rootComplex, smmuV1SmmuV2, smmuV3, pmcgInfo, gicItsIdentifierArray, idMappingArray,
    smmuInterruptArray, procHierarchyInfo, cacheInfo]

def number : ArmObject → UInt32
  | reserved => 0
  | bootArchInfo => 1
  | cpuInfo => 2
  | powerManagementProfileInfo => 3
  | gicCInfo => 4
  | gicDInfo => 5
  | gicMsiFrameInfo => 6
  | gicRedistributorInfo => 7
  | gicItsInfo => 8
  | serialConsolePortInfo => 9
  | serialDebugPortInfo => 10
  | genericTimerInfo => 11
  | platformGtBlockInfo => 12
  | gtBlockTimerFrameInfo => 13
  | platformGenericWatchdogInfo => 14
  | pciConfigSpaceInfo => 15
  | hypervisorVendorIdentity => 16
  | fixedFeatureFlags => 17
  | itsGroup => 18
  | namedComponent => 19
  | rootComplex => 20
  | smmuV1SmmuV2 => 21
  | smmuV3 => 22
  | pmcgInfo => 23
  | gicItsIdentifierArray => 24
  | idMappingArray => 25
  | smmuInterruptArray => 26
  | procHierarchyInfo => 27
  | cacheInfo => 28

def ofNumber? (number : UInt32) : Option ArmObject :=
  all[number.toNat]?

def name : ArmObject → String
  | reserved => "Reserved"
  | bootArchInfo => "BootArchInfo"
  | cpuInfo => "CpuInfo"
  | powerManagementProfileInfo => "PowerManagementProfileInfo"
  | gicCInfo => "GicCInfo"
  | gicDInfo => "GicDInfo"
  | gicMsiFrameInfo => "GicMsiFrameInfo"
  | gicRedistributorInfo => "GicRedistributorInfo"
  | gicItsInfo => "GicItsInfo"
  | serialConsolePortInfo => "SerialConsolePortInfo"
  | serialDebugPortInfo => "SerialDebugPortInfo"
  | genericTimerInfo => "GenericTimerInfo"
  | platformGtBlockInfo => "PlatformGtBlockInfo"
  | gtBlockTimerFrameInfo => "GtBlockTimerFrameInfo"
  | platformGenericWatchdogInfo => "PlatformGenericWatchdogInfo"
  | pciConfigSpaceInfo => "PciConfigSpaceInfo"
  | hypervisorVendorIdentity => "HypervisorVendorIdentity"
  | fixedFeatureFlags => "FixedFeatureFlags"
  | itsGroup => "ItsGroup"
  | namedComponent => "NamedComponent"
  | rootComplex => "RootComplex"
  | smmuV1SmmuV2 => "SmmuV1SmmuV2"
  | smmuV3 => "SmmuV3"
  | pmcgInfo => "PmcgInfo"
  | gicItsIdentifierArray => "GicItsIdentifierArray"
  | idMappingArray => "IdMappingArray"
  | smmuInterruptArray => "SmmuInterruptArray"
  | procHierarchyInfo => "ProcHierarchyInfo"
  | cacheInfo => "CacheInfo"

end ArmObject

/-- Says what object is meant: the namespace in bits 31:28, the object in bits 7:0. -/
structure ObjectId where
  value : UInt32
  deriving DecidableEq

namespace ObjectId

def build (namespaceNumber object : UInt32) : ObjectId :=
  ⟨((namespaceNumber &&& 0xF) <<< 28) ||| (object &&& 0xFF)⟩

def standard (object : StandardObject) : ObjectId :=
  build ObjectNamespace.standard.number object.number

def arm (object : ArmObject) : ObjectId :=
  build ObjectNamespace.arm.number object.number

def namespaceNumber (id : ObjectId) : UInt32 :=
  (id.value >>> 28) &&& 0xF

def objectNamespace? (id : ObjectId) : Option ObjectNamespace :=
  ObjectNamespace.ofNumber? id.namespaceNumber

def object (id : ObjectId) : UInt32 :=
  id.value &&& 0xFF

def debugText (id : ObjectId) : String :=
  "CmObjectId(" ++ hexTextOfWidth 10 id.value.toNat ++ ": ns " ++
    toString id.namespaceNumber.toNat ++ ", obj " ++ toString id.object.toNat ++ ")"

end ObjectId

/-- Says what object of an array is meant, or what run of objects. -/
abbrev ObjectToken := UInt64

/-- The token of no object. -/
def nullToken : ObjectToken := 0

/-- The token of an element of an array: the array, and the place of the element counted from 1.

A place of more than 16 bits runs into the bits of the array. -/
def referenceToken (object : ArmObject) (index : UInt64) : ObjectToken :=
  ((ObjectId.arm object).value.toUInt64 <<< 16) ||| (index + 1)

/-- The token of an element, if its place can be counted. -/
def referenceToken? (object : ArmObject) (index : Nat) : Option ObjectToken :=
  if index + 1 < UInt64.size then some (referenceToken object (UInt64.ofNat index)) else none

/-- The element that a token means, of an array of `count` elements. -/
def tokenIndex? (object : ArmObject) (token : ObjectToken) (count : Nat) : Option Nat :=
  let place := (token &&& 0xFFFF).toNat
  if token >>> 16 ≠ (ObjectId.arm object).value.toUInt64 ∨ place = 0 ∨ count < place then none
  else some (place - 1)

/-- A revision from its two parts. -/
def revisionOf (major minor : UInt16) : UInt32 :=
  (major.toUInt32 <<< 16) ||| minor.toUInt32

end PlatformFirmware
