import PlatformFirmware.LogRecord
import PlatformFirmware.NumberText

namespace PlatformFirmware

/-- How the memory of a region may be used. -/
inductive MemoryAttributes
  | uncachedUnbuffered
  | nonSecureUncachedUnbuffered
  | writeBack
  | nonSecureWriteBack
  | writeBackNonShareable
  | nonSecureWriteBackNonShareable
  | writeThrough
  | nonSecureWriteThrough
  | device
  | nonSecureDevice
  deriving DecidableEq

namespace MemoryAttributes

/-- All attributes, in the order of their numbers. -/
def all : List MemoryAttributes :=
  [uncachedUnbuffered, nonSecureUncachedUnbuffered, writeBack, nonSecureWriteBack,
    writeBackNonShareable, nonSecureWriteBackNonShareable, writeThrough, nonSecureWriteThrough,
    device, nonSecureDevice]

def number : MemoryAttributes → UInt32
  | uncachedUnbuffered => 0
  | nonSecureUncachedUnbuffered => 1
  | writeBack => 2
  | nonSecureWriteBack => 3
  | writeBackNonShareable => 4
  | nonSecureWriteBackNonShareable => 5
  | writeThrough => 6
  | nonSecureWriteThrough => 7
  | device => 8
  | nonSecureDevice => 9

def name : MemoryAttributes → String
  | uncachedUnbuffered => "UNCACHED_UNBUFFERED"
  | nonSecureUncachedUnbuffered => "NONSECURE_UNCACHED_UNBUFFERED"
  | writeBack => "WRITE_BACK"
  | nonSecureWriteBack => "NONSECURE_WRITE_BACK"
  | writeBackNonShareable => "WB_NONSHAREABLE"
  | nonSecureWriteBackNonShareable => "NONSECURE_WB_NONSHAREABLE"
  | writeThrough => "WRITE_THROUGH"
  | nonSecureWriteThrough => "NONSECURE_WRITE_THROUGH"
  | device => "DEVICE"
  | nonSecureDevice => "NONSECURE_DEVICE"

end MemoryAttributes

/-- A range of physical addresses and where it is seen. -/
structure MemoryDescriptor where
  physicalBase : UInt64 := 0
  virtualBase : UInt64 := 0
  length : UInt64 := 0
  attributes : MemoryAttributes := .uncachedUnbuffered
  deriving DecidableEq

namespace MemoryDescriptor

/-- The end of a table. -/
def empty : MemoryDescriptor := {}

/-- Addresses that are seen where they are. -/
def identity (base length : UInt64) (attributes : MemoryAttributes) : MemoryDescriptor :=
  { physicalBase := base, virtualBase := base, length, attributes }

/-- The first address after the range, at most the last address of all. -/
def endAddress (descriptor : MemoryDescriptor) : Nat :=
  min (descriptor.physicalBase.toNat + descriptor.length.toNat) (UInt64.size - 1)

end MemoryDescriptor

/-- A range with the name of what lies there. -/
structure MemoryRegion where
  description : String
  descriptor : MemoryDescriptor
  deriving DecidableEq

/-- The row of a region in the table that is logged. -/
def MemoryRegion.text (region : MemoryRegion) : String :=
  let address (value : Nat) : String := hexTextOfWidth 18 value
  fillRight ' ' 32 region.description ++ ": " ++
    address region.descriptor.physicalBase.toNat ++ " - " ++
    address (region.descriptor.endAddress - 1) ++ " [ " ++
    address region.descriptor.length.toNat ++ " ] \x7b " ++
    fillRight ' ' 29 region.descriptor.attributes.name ++ " \x7d"

/-- The regions of a board, in the order they were added. -/
structure MemoryMap where
  regions : List MemoryRegion := []
  /-- The most entries its table may have, the one at the end included. -/
  maxDescriptors : Nat
  deriving DecidableEq

namespace MemoryMap

/-- The bytes that a map sets aside for each entry. -/
def entryBytes : Nat := 48

/-- An empty map. No buffer can be as large as half of the address space. -/
def withMaxDescriptors (maxDescriptors : Nat) : Except HaltCause MemoryMap :=
  if maxDescriptors * entryBytes < UInt64.size / 2 then .ok { maxDescriptors }
  else .error .capacityOverflow

/-- Adds a region that is seen where it is, if the table has an entry left for it. -/
def push (map : MemoryMap) (description : String) (base length : UInt64)
    (attributes : MemoryAttributes) : LogM MemoryMap := do
  if map.maxDescriptors ≤ map.regions.length + 1 then
    writeLog .error "memory_map" ("No descriptor left for " ++ description ++
      ", the map holds at most " ++ toString map.maxDescriptors ++ " entries.")
    .refuse .outOfResources
  else
    return { map with
      regions := map.regions ++ [⟨description, .identity base length attributes⟩] }

/-- The range of the first region with a description. -/
def find? (map : MemoryMap) (description : String) : Option MemoryDescriptor :=
  (map.regions.find? fun region => region.description == description).map
    MemoryRegion.descriptor

/-- The ranges in order, with an empty one at the end. -/
def terminatedTable (map : MemoryMap) : List MemoryDescriptor :=
  map.regions.map MemoryRegion.descriptor ++ [.empty]

/-- Fills a text up on both sides; of an odd number of places, one more on the right. -/
def fillAround (width : Nat) (text : String) : String :=
  let missing := width - text.length
  fillRight ' ' width (fillLeft ' ' (text.length + missing / 2) text)

def tableHead : String :=
  fillRight ' ' 32 "Description" ++ ": " ++ fillLeft ' ' 18 "START" ++ " - " ++
    fillRight ' ' 18 "END" ++ " [ " ++ fillAround 18 "SIZE" ++ " ] \x7b " ++
    fillAround 29 "ATTR" ++ " \x7d"

/-- Logs the map as a table. -/
def writeTable (map : MemoryMap) : LogAction Unit := do
  writeLog .info "memory_map"
    " Memory Map\n----------------------------------------------------------"
  writeLog .info "memory_map" tableHead
  map.regions.forM fun region => writeLog .info "memory_map" region.text
  writeLog .debug "memory_map" "Virtual Memory Table setup complete."

end MemoryMap

end PlatformFirmware
