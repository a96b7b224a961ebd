import PlatformFirmware.Proofs.BoardHandOff
import PlatformFirmware.Proofs.BoundedMap

namespace PlatformFirmware

/-- A row of the table that describes a board, in whole numbers. -/
structure LayoutRow where
  description : String
  physicalBase : Nat
  virtualBase : Nat
  length : Nat
  attributes : MemoryAttributes
  deriving DecidableEq

/-- What is seen where it is. -/
def LayoutRow.identity (description : String) (base length : Nat)
    (attributes : MemoryAttributes) : LayoutRow :=
  ⟨description, base, base, length, attributes⟩

def MemoryRegion.row (region : MemoryRegion) : LayoutRow :=
  ⟨region.description, region.descriptor.physicalBase.toNat,
    region.descriptor.virtualBase.toNat, region.descriptor.length.toNat,
    region.descriptor.attributes⟩

namespace BoardMap

def commonLayout : List LayoutRow :=
  [.identity "Generic Watchdog" 0x2A440000 0x20000 .device,
    .identity "REFCLK CNTRead" 0x2A430000 0x10000 .device,
    .identity "AP_REFCLK CNTCL" 0x2A810000 0x10000 .device,
    .identity "AP_REFCLK_NS CNTCTL" 0x2A820000 0x10000 .device,
    .identity "GIC-600" 0x30000000 0x40000 .device,
    .identity "GICITS-600" 0x30040000 0x80000 .device,
    .identity "GICR-600" 0x300C0000 0x100000 .device,
    .identity "SMMU" 0x4F000000 0xE00000 .device,
    .identity "non-secure SRAM" 0x06000000 0x10000 .uncachedUnbuffered,
    .identity "UART0" 0x2A400000 0x10000 .device]

def primaryLayout (config : MemoryConfig) : LayoutRow :=
  .identity "DDR Primary" config.systemMemoryBase.toNat config.systemMemorySize.toNat .writeBack

/-- Memory beyond the first 2 GiB. -/
def secondaryLayout (config : MemoryConfig) (localMemory : UInt64) : List LayoutRow :=
  if 0x80000000 < localMemory.toNat then
    [.identity "DDR Secondary" config.dramBlock2Base.toNat (localMemory.toNat - 0x80000000)
      .writeBack]
  else []

def gopLayout (config : MemoryConfig) : List LayoutRow :=
  if config.gopBufferSize = 0 then []
  else
    [.identity "DDR GOP carve out" config.gopBufferBase.toNat config.gopBufferSize.toNat
      .uncachedUnbuffered]

def expansionLayout : LayoutRow :=
  .identity "Expansion Peripherals" 0x1C000000 0x1300000 .device

/-- Configuration space of 1 MiB for each bus, the 32-bit window with the I/O window behind it,
and the 64-bit window. -/
def bridgeLayout (name : String) (bridge : HostBridge) : List LayoutRow :=
  let buses := max bridge.busMax.toNat bridge.busMin.toNat - bridge.busMin.toNat + 1
  [.identity (name ++ " ECAM Region") bridge.ecamBase.toNat (buses * 0x100000) .device,
    .identity (name ++ " MMIO32 & IO Region") bridge.mmio32Base.toNat
      (bridge.mmio32Size.toNat + bridge.ioSize.toNat) .device,
    .identity (name ++ " MMIO64 Region") bridge.mmio64Base.toNat bridge.mmio64Size.toNat .device]

def chipLayout (config : MemoryConfig) (localMemory : UInt64) : List LayoutRow :=
  commonLayout ++ [primaryLayout config] ++ secondaryLayout config localMemory ++
    [.identity "AP QSPI flash device" 0x18000000 0x4000000 .device, expansionLayout] ++
    bridgeLayout "PCIe" config.pcie ++ bridgeLayout "CCIX" config.ccix

def modelLayout (config : MemoryConfig) (localMemory : UInt64) : List LayoutRow :=
  commonLayout ++
    [.identity "Mali D71" config.displayBase.toNat config.displaySize.toNat .device,
      primaryLayout config] ++
    gopLayout config ++ secondaryLayout config localMemory ++ [expansionLayout] ++
    bridgeLayout "PCI" config.pcie

/-- A map has exactly the regions of a layout, in its order, and its table with the empty entry at
the end is not longer than `limit`. -/
structure LaidOut (map : MemoryMap) (layout : List LayoutRow) (limit : Nat) : Prop where
  rows : map.regions.map MemoryRegion.row = layout
  limited : map.maxDescriptors = limit
  fits : map.terminatedTable.length ≤ limit

theorem toNat_min_byte (a b : UInt8) : (min a b).toNat = min a.toNat b.toNat := by
  change (if a ≤ b then a else b).toNat = _
  split
  next below => exact (Nat.min_eq_left (UInt8.le_iff_toNat_le.mp below)).symm
  next above =>
    exact (Nat.min_eq_right (Nat.le_of_not_le fun below =>
      above (UInt8.le_iff_toNat_le.mpr below))).symm

theorem ecamSize_toNat (bridge : HostBridge) :
    bridge.ecamSize.toNat =
      (max bridge.busMax.toNat bridge.busMin.toNat - bridge.busMin.toNat + 1) * 0x100000 := by
  have high := bridge.busMax.toNat_lt
  have least : (min bridge.busMax bridge.busMin).toNat ≤ bridge.busMax.toNat := by
    rw [toNat_min_byte]
    exact Nat.min_le_left _ _
  -- The highest bus less the lower one counts the buses also when the two are the wrong way round.
  have buses : (bridge.busMax - min bridge.busMax bridge.busMin).toNat =
      max bridge.busMax.toNat bridge.busMin.toNat - bridge.busMin.toNat := by
    rw [UInt8.toNat_sub_of_le _ _ (UInt8.le_iff_toNat_le.mpr least), toNat_min_byte]
    omega
  rw [HostBridge.ecamSize, UInt64.toNat_mul, UInt64.toNat_add, UInt8.toNat_toUInt64, buses]
  change (_ + 1) % 2 ^ 64 * 0x100000 % 2 ^ 64 = _
  omega

theorem mmio32RegionSize_toNat (bridge : HostBridge) :
    bridge.mmio32RegionSize.toNat = bridge.mmio32Size.toNat + bridge.ioSize.toNat := by
  have memory := bridge.mmio32Size.toNat_lt
  have ports := bridge.ioSize.toNat_lt
  rw [HostBridge.mmio32RegionSize, UInt64.toNat_add, UInt32.toNat_toUInt64,
    UInt32.toNat_toUInt64]
  omega

theorem identity_row (description : String) (base length : UInt64)
    (attributes : MemoryAttributes) :
    (MemoryRegion.identity description base length attributes).row =
      .identity description base.toNat length.toNat attributes := rfl

theorem commonRegions_rows : commonRegions.map MemoryRegion.row = commonLayout := rfl

theorem bridgeRegions_rows (name : String) (bridge : HostBridge) :
    (bridgeRegions name bridge).map MemoryRegion.row = bridgeLayout name bridge := by
  simp only [bridgeRegions, bridgeLayout, List.map_cons, List.map_nil, identity_row,
    ecamSize_toNat, mmio32RegionSize_toNat, UInt32.toNat_toUInt64]

theorem gopRegions_rows (config : MemoryConfig) :
    (gopRegions config).map MemoryRegion.row = gopLayout config := by
  unfold gopRegions gopLayout
  split
  · rfl
  · rw [List.map_singleton, identity_row, UInt32.toNat_toUInt64]

theorem dramBlock2Regions_rows (config : MemoryConfig) (localMemory : UInt64) :
    (dramBlock2Regions config (Board.dramBlock2Size localMemory)).map MemoryRegion.row =
      secondaryLayout config localMemory := by
  rw [dramBlock2Regions_eq, secondaryLayout]
  by_cases within : localMemory ≤ size2GB
  · have : ¬0x80000000 < localMemory.toNat := Nat.not_lt.mpr (UInt64.le_iff_toNat_le.mp within)
    rw [if_pos within, if_neg this]
    rfl
  · have beyond : 0x80000000 < localMemory.toNat :=
      Nat.lt_of_not_le fun low => within (UInt64.le_iff_toNat_le.mpr low)
    have least : size2GB ≤ localMemory := UInt64.le_iff_toNat_le.mpr (Nat.le_of_lt beyond)
    rw [if_neg within, if_pos beyond, List.map_singleton, identity_row,
      UInt64.toNat_sub_of_le _ _ least]
    rfl

theorem chipRegions_rows (config : MemoryConfig) (localMemory : UInt64) :
    (chipRegions config (Board.dramBlock2Size localMemory)).map MemoryRegion.row =
      chipLayout config localMemory := by
  simp only [chipRegions, chipLayout, List.map_append, commonRegions_rows,
    dramBlock2Regions_rows, bridgeRegions_rows, List.append_assoc]
  rfl

theorem modelRegions_rows (config : MemoryConfig) (localMemory : UInt64) :
    (modelRegions config (Board.dramBlock2Size localMemory)).map MemoryRegion.row =
      modelLayout config localMemory := by
  simp only [modelRegions, modelLayout, List.map_append, commonRegions_rows, gopRegions_rows,
    dramBlock2Regions_rows, bridgeRegions_rows, List.append_assoc]
  rfl

theorem LaidOut.of_room {map : MemoryMap} {layout : List LayoutRow}
    (rows : map.regions.map MemoryRegion.row = layout)
    (room : map.regions.length < map.maxDescriptors) : LaidOut map layout map.maxDescriptors where
  rows
  limited := rfl
  fits := by
    rw [map.terminatedTable_length]
    exact room

theorem LaidOut.regions_length {map : MemoryMap} {layout : List LayoutRow} {limit : Nat}
    (laid : LaidOut map layout limit) : map.regions.length = layout.length := by
  rw [← laid.rows, List.length_map]

theorem chipMap_laidOut (config : MemoryConfig) (localMemory : UInt64) :
    LaidOut (chipMap config localMemory) (chipLayout config localMemory) 21 :=
  .of_room (chipRegions_rows config localMemory) (chipRegions_length config _)

theorem modelMap_laidOut (config : MemoryConfig) (localMemory : UInt64) :
    LaidOut (modelMap config localMemory) (modelLayout config localMemory)
      (if config.gopBufferSize = 0 then 18 else 19) := by
  have limit : modelDescriptors config = if config.gopBufferSize = 0 then 18 else 19 := by
    rw [modelDescriptors, ite_not]
    split <;> rfl
  rw [← limit]
  exact .of_room (modelRegions_rows config localMemory) (modelRegions_length config _)

theorem HandsOver.fault_mem {answers : List (Except EfiError Unit)}
    {plan made : List HandOffBlock} {fault : Fault}
    (h : HandsOver answers plan made (.error fault)) :
    ∃ reason, fault = .refused reason ∧ .error reason ∈ answers := by
  cases h with
  | @upTo i reason inside taken fails =>
    rw [List.getD_eq_getElem?_getD] at fails
    cases given : answers[i]? with
    | none =>
      rw [given] at fails
      cases fails
    | some answer =>
      rw [given] at fails
      exact ⟨reason, rfl, fails ▸ List.mem_of_getElem? given⟩

/-- A result is the map that was built, unless the producer has not taken a block. -/
def Returns (map : MemoryMap) (trace : BoardTrace) (result : Except Fault MemoryMap) : Prop :=
  result = .ok map ∨
    ∃ reason, result = .error (.refused reason) ∧ .error reason ∈ trace.answers

theorem Returns.of_taken {map : MemoryMap} {trace : BoardTrace} {result : Except Fault MemoryMap}
    (h : Returns map trace result) (taken : ∀ answer ∈ trace.answers, answer = .ok ()) :
    result = .ok map := by
  rcases h with done | ⟨reason, -, given⟩
  · exact done
  · cases taken _ given

theorem Returns.refused_mem {map : MemoryMap} {trace : BoardTrace}
    {result : Except Fault MemoryMap} {reason : EfiError} (h : Returns map trace result)
    (refused : result = .error (.refused reason)) : .error reason ∈ trace.answers := by
  subst refused
  rcases h with done | ⟨other, same, given⟩
  · cases done
  · cases same
    exact given

theorem report_returns (plan : List HandOffBlock) (map : MemoryMap) (trace : BoardTrace) :
    Returns map trace (report plan map trace).1 := by
  obtain ⟨made, -, taken, found⟩ := report_hands_over plan map trace
  cases result : (report plan map trace).1 with
  | ok built => exact .inl (congrArg _ (found built result))
  | error fault =>
    rw [result] at taken
    obtain ⟨reason, rfl, given⟩ := HandsOver.fault_mem taken
    exact .inr ⟨reason, rfl, given⟩

theorem chip_returns {config : MemoryConfig} {located : Except EfiError (List UInt8)}
    {trace : BoardTrace} {info : PlatformInfo}
    (obtained : (PlatformInfo.locate located trace.log).1 = .ok info) :
    Returns (chipMap config info.localMemory) trace (chip config located trace).1 := by
  rw [chip_obtained (Prod.ext obtained rfl)]
  exact report_returns _ _ { trace with log := (PlatformInfo.locate located trace.log).2 }

/-- A chip that is told of 3 GiB of memory, by a producer that takes every block. -/
theorem chip_sample (config : MemoryConfig) :
    (chip config (.ok PlatformInfo.sampleTree) {}).1 = .ok (chipMap config 0xC0000000) :=
  (chip_returns (PlatformInfo.locate_sample _)).of_taken nofun

theorem model_returns {config : MemoryConfig} (accepted : ¬GopRejected config)
    (localMemory : UInt64) (trace : BoardTrace) :
    Returns (modelMap config localMemory) trace (model config (.ok localMemory) trace).1 := by
  rw [model_accepted accepted]
  exact report_returns _ _ trace

/-- Of a chip with its platform information, and of a model board with room for its frame buffer,
the map is what the board is laid out as, whatever the configuration and the size of the memory.
Neither table is ever full. -/
theorem regions_as_laid_out (config : MemoryConfig) (trace : BoardTrace) :
    ((∀ answer ∈ trace.answers, answer = .ok ()) →
      (∀ located info, (PlatformInfo.locate located trace.log).1 = .ok info →
        ∃ map, (chip config located trace).1 = .ok map ∧
          LaidOut map (chipLayout config info.localMemory) 21) ∧
      ∀ localMemory, ¬GopRejected config →
        ∃ map, (model config (.ok localMemory) trace).1 = .ok map ∧
          LaidOut map (modelLayout config localMemory)
            (if config.gopBufferSize = 0 then 18 else 19)) ∧
      (∀ located, (chip config located trace).1 = .error (.refused .outOfResources) →
        .error .outOfResources ∈ trace.answers) ∧
      ∀ localMemory,
        (model config (.ok localMemory) trace).1 = .error (.refused .outOfResources) →
          .error .outOfResources ∈ trace.answers := by
  refine ⟨fun taken => ⟨fun located info obtained => ?_, fun localMemory accepted => ?_⟩,
    fun located full => ?_, fun localMemory full => ?_⟩
  · exact ⟨_, (chip_returns obtained).of_taken taken, chipMap_laidOut config info.localMemory⟩
  · exact ⟨_, (model_returns accepted localMemory trace).of_taken taken,
      modelMap_laidOut config localMemory⟩
  · cases obtained : (PlatformInfo.locate located trace.log).1 with
    | ok info => exact (chip_returns obtained).refused_mem full
    | error fault =>
      rw [chip_missing (Prod.ext obtained rfl)] at full
      cases full
      cases PlatformInfo.locate_refuses located trace.log _ obtained
  · by_cases rejected : GopRejected config
    · obtain ⟨log, refused⟩ := model_rejected rejected localMemory trace
      rw [refused] at full
      cases full
    · exact (model_returns rejected localMemory trace).refused_mem full

/-- With 3 GiB of memory, and a frame buffer on the model board, either table has as many entries
as it may have. -/
theorem regions_as_laid_out_full :
    (∃ map, (chip {} (.ok PlatformInfo.sampleTree) {}).1 = .ok map ∧
        LaidOut map (chipLayout {} 0xC0000000) 21 ∧ map.terminatedTable.length = 21) ∧
      ∃ map, (model {} (.ok 0xC0000000) {}).1 = .ok map ∧
        LaidOut map (modelLayout {} 0xC0000000) 19 ∧ map.terminatedTable.length = 19 := by
  obtain ⟨chips, models⟩ := (regions_as_laid_out {} {}).1 nofun
  constructor
  · obtain ⟨map, done, laid⟩ := chips _ _ (PlatformInfo.locate_sample _)
    refine ⟨map, done, laid, ?_⟩
    rw [map.terminatedTable_length, laid.regions_length]
    decide
  · obtain ⟨map, done, laid⟩ := models 0xC0000000 (by decide)
    refine ⟨map, done, laid, ?_⟩
    rw [map.terminatedTable_length, laid.regions_length]
    decide

end BoardMap

end PlatformFirmware
