import PlatformFirmware.Proofs.BoardPciWindows
import PlatformFirmware.Proofs.BoundedMap

namespace PlatformFirmware

namespace MemoryDescriptor

/-- Reads a table up to its first entry of zeros, if it has one. -/
def readTable? : List MemoryDescriptor → Option (List MemoryDescriptor)
  | [] => none
  | range :: table => if range.IsZero then some [] else (readTable? table).map (range :: ·)

theorem readTable?_concat {ranges : List MemoryDescriptor}
    (told : ∀ range ∈ ranges, ¬range.IsZero) {last : MemoryDescriptor} (zero : last.IsZero) :
    readTable? (ranges ++ [last]) = some ranges := by
  induction ranges with
  | nil => exact if_pos zero
  | cons range ranges ih =>
    obtain ⟨first, rest⟩ := List.forall_mem_cons.mp told
    rw [List.cons_append, readTable?, if_neg first, ih rest]
    rfl

end MemoryDescriptor

/-- The table of a map can be read back: the end of it is the first entry that looks like one. -/
structure MemoryMap.ReadsBack (map : MemoryMap) (limit : Nat) : Prop where
  read : MemoryDescriptor.readTable? map.terminatedTable =
    some (map.regions.map MemoryRegion.descriptor)
  length : map.terminatedTable.length = map.regions.length + 1
  limited : map.terminatedTable.length ≤ limit

/-- A region whose entry in a table does not look like the end of it. -/
def MemoryRegion.Shows (region : MemoryRegion) : Prop :=
  ¬region.descriptor.IsZero

instance : DecidablePred MemoryRegion.Shows :=
  fun _ => inferInstanceAs (Decidable (¬_))

theorem MemoryMap.ReadsBack.of_shows {map : MemoryMap}
    (visible : ∀ region ∈ map.regions, region.Shows)
    (room : map.regions.length < map.maxDescriptors) : map.ReadsBack map.maxDescriptors where
  read := MemoryDescriptor.readTable?_concat (List.forall_mem_map.mpr visible)
    MemoryDescriptor.isZero_empty
  length := map.terminatedTable_length
  limited := by
    rw [map.terminatedTable_length]
    exact room

namespace BoardMap

section

variable {description : String} {base length : UInt64} {attributes : MemoryAttributes}

theorem shows_of_attributes (marked : attributes.number ≠ 0) :
    (MemoryRegion.identity description base length attributes).Shows :=
  fun zero => marked zero.2.2.2

theorem shows_of_length (filled : length ≠ 0) :
    (MemoryRegion.identity description base length attributes).Shows :=
  fun zero => filled zero.2.2.1

end

theorem commonRegions_show : ∀ region ∈ commonRegions, region.Shows := by decide

theorem bridgeRegions_show (name : String) (bridge : HostBridge) :
    ∀ region ∈ bridgeRegions name bridge, region.Shows := by
  have marked : MemoryAttributes.device.number ≠ 0 := by decide
  simp only [bridgeRegions, List.forall_mem_cons]
  exact ⟨shows_of_attributes marked, shows_of_attributes marked, shows_of_attributes marked,
    List.forall_mem_nil _⟩

theorem dramBlock2Regions_show (config : MemoryConfig) (size : UInt64) :
    ∀ region ∈ dramBlock2Regions config size, region.Shows := by
  unfold dramBlock2Regions
  split
  · exact nofun
  · exact List.forall_mem_singleton.mpr (shows_of_attributes (by decide))

/-- The frame buffer is uncached and may be at any address, but it is only mapped if it is not
empty. -/
theorem gopRegions_show (config : MemoryConfig) :
    ∀ region ∈ gopRegions config, region.Shows := by
  unfold gopRegions
  split
  next => exact nofun
  next enabled =>
    have filled : config.gopBufferSize.toUInt64 ≠ 0 := fun none =>
      enabled (UInt32.toUInt64_inj.mp none)
    exact List.forall_mem_singleton.mpr (shows_of_length filled)

theorem chipRegions_show (config : MemoryConfig) (block2Size : UInt64) :
    ∀ region ∈ chipRegions config block2Size, region.Shows := by
  have primary : (primaryRegion config).Shows := shows_of_attributes (by decide)
  have flash : flashRegion.Shows := by decide
  have expansion : expansionRegion.Shows := by decide
  simp only [chipRegions, List.forall_mem_append, List.forall_mem_singleton]
  exact ⟨commonRegions_show, primary, dramBlock2Regions_show config block2Size, flash, expansion,
    bridgeRegions_show _ _, bridgeRegions_show _ _⟩

theorem modelRegions_show (config : MemoryConfig) (block2Size : UInt64) :
    ∀ region ∈ modelRegions config block2Size, region.Shows := by
  have display : (displayRegion config).Shows := shows_of_attributes (by decide)
  have primary : (primaryRegion config).Shows := shows_of_attributes (by decide)
  have expansion : expansionRegion.Shows := by decide
  simp only [modelRegions, List.forall_mem_append, List.forall_mem_singleton]
  exact ⟨commonRegions_show, display, primary, gopRegions_show config,
    dramBlock2Regions_show config block2Size, expansion, bridgeRegions_show _ _⟩

theorem model_built {config : MemoryConfig} {located : Except EfiError UInt64}
    {trace : BoardTrace} {map : MemoryMap} (built : (model config located trace).1 = .ok map) :
    ∃ localMemory, map = modelMap config localMemory := by
  cases located with
  | error reason => cases built
  | ok localMemory =>
    by_cases rejected : GopRejected config
    · obtain ⟨log, refused⟩ := model_rejected rejected localMemory trace
      rw [refused] at built
      cases built
    · obtain done | ⟨reason, refused, -⟩ := model_returns rejected localMemory trace
      · exact ⟨localMemory, Except.ok.inj (built.symm.trans done)⟩
      · cases built.symm.trans refused

/-- The table of every map that is built for a board can be read back, whatever the configuration:
only the frame buffer has attributes and an address that may be zero, and then it is not empty. -/
theorem table_read_back (config : MemoryConfig) (trace : BoardTrace) (map : MemoryMap) :
    (∀ located, (chip config located trace).1 = .ok map → map.ReadsBack 21) ∧
      ∀ located, (model config located trace).1 = .ok map →
        map.ReadsBack (18 + if config.gopBufferSize = 0 then 0 else 1) := by
  refine ⟨fun located built => ?_, fun located built => ?_⟩
  · obtain ⟨localMemory, rfl⟩ := chip_built built
    exact .of_shows (chipRegions_show config _) (chipRegions_length config _)
  · obtain ⟨localMemory, rfl⟩ := model_built built
    have limit : modelDescriptors config = 18 + if config.gopBufferSize = 0 then 0 else 1 := by
      rw [modelDescriptors, ite_not]
      rfl
    rw [← limit]
    exact .of_shows (modelRegions_show config _) (modelRegions_length config _)

/-- Also with nothing but zeros for a configuration, and with a frame buffer on a board whose table
is full. -/
theorem table_read_back_zeros :
    let bare : HostBridge := ⟨0, 0, 0, 0, 0, 0, 0, 0⟩
    (∃ map, (chip ⟨0, 0, 0, bare, bare, 0, 0, 0, 0⟩ (.ok PlatformInfo.sampleTree) {}).1 = .ok map ∧
      map.regions.length = 20 ∧ map.ReadsBack 21) ∧
      ∃ map, (model {} (.ok 0xC0000000) {}).1 = .ok map ∧
        map.regions.length = 18 ∧ map.ReadsBack 19 ∧ map.terminatedTable.length = 19 := by
  intro bare
  let config : MemoryConfig := ⟨0, 0, 0, bare, bare, 0, 0, 0, 0⟩
  have accepted : ¬GopRejected {} := by decide
  have modelBuilt : (model {} (.ok 0xC0000000) {}).1 = .ok (modelMap {} 0xC0000000) :=
    (model_returns accepted 0xC0000000 {}).of_taken nofun
  have regions : (modelMap {} 0xC0000000).regions.length = 18 :=
    (modelMap_laidOut {} _).regions_length.trans (by decide)
  have read := (table_read_back {} {} _).2 _ modelBuilt
  refine ⟨⟨_, chip_sample config, ?_, (table_read_back config {} _).1 _ (chip_sample config)⟩,
    _, modelBuilt, regions, read, ?_⟩
  · exact (chipMap_laidOut config _).regions_length.trans (by decide)
  · rw [read.length, regions]

end BoardMap

end PlatformFirmware
