import PlatformFirmware.MemoryMap
import PlatformFirmware.Proofs.Effects

namespace PlatformFirmware

namespace MemoryDescriptor

/-- All four fields are zero, as they are at the end of a table. -/
def IsZero (range : MemoryDescriptor) : Prop :=
  range.physicalBase = 0 ∧ range.virtualBase = 0 ∧ range.length = 0 ∧ range.attributes.number = 0

instance : DecidablePred IsZero :=
  fun _ => inferInstanceAs (Decidable (_ ∧ _))

theorem isZero_empty : empty.IsZero :=
  ⟨rfl, rfl, rfl, rfl⟩

end MemoryDescriptor

/-- A region that a map is asked to take. -/
structure MapRequest where
  description : String
  base : UInt64
  length : UInt64
  attributes : MemoryAttributes

/-- The region asked for is seen where it is. -/
def MapRequest.region (request : MapRequest) : MemoryRegion where
  description := request.description
  descriptor :=
    { physicalBase := request.base
      virtualBase := request.base
      length := request.length
      attributes := request.attributes }

namespace MemoryMap

/-- The answer to a request, and the map that is there afterwards. A refusal brings no map, so the
one that was asked stays in use. -/
def ask (map : MemoryMap) (request : MapRequest) : LogAction (Except Fault Unit × MemoryMap) := do
  match ← (map.push request.description request.base request.length request.attributes).run with
  | .ok larger => return (.ok (), larger)
  | .error fault => return (.error fault, map)

/-- The requests that were granted, in order. -/
def granted (requests : List MapRequest) (answers : List (Except Fault Unit)) : List MapRequest :=
  ((requests.zip answers).filter fun asked => asked.2.isOk).map Prod.fst

/-- How many regions a map can still take. One entry of its table is for the end. -/
def room (map : MemoryMap) : Nat :=
  map.maxDescriptors - (map.regions.length + 1)

theorem terminatedTable_length (map : MemoryMap) :
    map.terminatedTable.length = map.regions.length + 1 := by
  rw [terminatedTable, List.length_append, List.length_map, List.length_singleton]

end MemoryMap

end PlatformFirmware
