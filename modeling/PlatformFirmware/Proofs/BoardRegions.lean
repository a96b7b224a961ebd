import PlatformFirmware.BoardMap
import PlatformFirmware.Proofs.Effects

namespace PlatformFirmware

/-- A region that is seen where it is. -/
def MemoryRegion.identity (description : String) (base length : UInt64)
    (attributes : MemoryAttributes) : MemoryRegion :=
  ⟨description, .identity base length attributes⟩

namespace BoardMap

def commonRegions : List MemoryRegion :=
  let region (description : String) (peripheral : Peripheral) (attributes : MemoryAttributes) :=
    MemoryRegion.identity description peripheral.base peripheral.size attributes
  [region "Generic Watchdog" Board.genericWatchdog .device,
    region "REFCLK CNTRead" Board.refclkCounter .device,
    region "AP_REFCLK CNTCL" Board.apRefclkCounter .device,
    region "AP_REFCLK_NS CNTCTL" Board.apRefclkNonSecureCounter .device,
    region "GIC-600" Board.gic .device,
    region "GICITS-600" Board.gicIts .device,
    region "GICR-600" Board.gicRedistributor .device,
    region "SMMU" Board.smmu .device,
    region "non-secure SRAM" Board.nonSecureSram .uncachedUnbuffered,
    region "UART0" Board.uart0 .device]

def bridgeRegions (name : String) (bridge : HostBridge) : List MemoryRegion :=
  [.identity (name ++ " ECAM Region") bridge.ecamBase bridge.ecamSize .device,
    .identity (name ++ " MMIO32 & IO Region") bridge.mmio32Base.toUInt64 bridge.mmio32RegionSize
      .device,
    .identity (name ++ " MMIO64 Region") bridge.mmio64Base bridge.mmio64Size .device]

def primaryRegion (config : MemoryConfig) : MemoryRegion :=
  .identity "DDR Primary" config.systemMemoryBase config.systemMemorySize .writeBack

def dramBlock2Regions (config : MemoryConfig) (size : UInt64) : List MemoryRegion :=
  if size = 0 then [] else [.identity "DDR Secondary" config.dramBlock2Base size .writeBack]

def gopRegions (config : MemoryConfig) : List MemoryRegion :=
  if config.gopBufferSize = 0 then []
  else [.identity "DDR GOP carve out" config.gopBufferBase config.gopBufferSize.toUInt64
    .uncachedUnbuffered]

def flashRegion : MemoryRegion :=
  .identity "AP QSPI flash device" Board.qspiFlash.base Board.qspiFlash.size .device

def expansionRegion : MemoryRegion :=
  .identity "Expansion Peripherals" Board.expansion.base Board.expansion.size .device

def displayRegion (config : MemoryConfig) : MemoryRegion :=
  .identity "Mali D71" config.displayBase.toUInt64 config.displaySize.toUInt64 .device

def chipRegions (config : MemoryConfig) (block2Size : UInt64) : List MemoryRegion :=
  commonRegions ++ ([primaryRegion config] ++ (dramBlock2Regions config block2Size ++
    ([flashRegion] ++ ([expansionRegion] ++
      (bridgeRegions "PCIe" config.pcie ++ bridgeRegions "CCIX" config.ccix)))))

def modelRegions (config : MemoryConfig) (block2Size : UInt64) : List MemoryRegion :=
  commonRegions ++ ([displayRegion config] ++ ([primaryRegion config] ++ (gopRegions config ++
    (dramBlock2Regions config block2Size ++
      ([expansionRegion] ++ bridgeRegions "PCI" config.pcie)))))

/-- The frame buffer is not above the primary memory. -/
def GopRejected (config : MemoryConfig) : Prop :=
  config.gopBufferSize ≠ 0 ∧ config.gopBufferBase.toNat ≤ primaryLast config

instance (config : MemoryConfig) : Decidable (GopRejected config) :=
  inferInstanceAs (Decidable (_ ∧ _))

/-- A builder adds regions to every map that has entries left for them, and logs nothing. -/
structure Places (builder : MapBuilder Unit) (regions : List MemoryRegion) : Prop where
  ran : ∀ (map : MemoryMap) (log : List LogRecord),
    map.regions.length + regions.length < map.maxDescriptors →
      builder map log = (.ok ((), { map with regions := map.regions ++ regions }), log)

/-- A builder refuses every map that has `room` entries left. -/
structure Refuses (builder : MapBuilder Unit) (room : Nat) (reason : EfiError) : Prop where
  ran : ∀ (map : MemoryMap) (log : List LogRecord),
    map.regions.length + room < map.maxDescriptors →
      ∃ after, builder map log = (.error (.refused reason), after)

theorem builder_bind {α β : Type} (first : MapBuilder α) (after : α → MapBuilder β)
    (map : MemoryMap) (log : List LogRecord) :
    (first >>= after) map log =
      match first map log with
      | (.ok (value, map), log) => after value map log
      | (.error fault, log) => (.error fault, log) := by
  refine (bind_state (first map) (fun found => after found.1 found.2) log).trans ?_
  rcases first map log with ⟨_ | ⟨_, _⟩, _⟩ <;> rfl

theorem builder_lift {α : Type} (action : LogM α) (map : MemoryMap) (log : List LogRecord) :
    (liftM action : MapBuilder α) map log =
      match action log with
      | (.ok value, log) => (.ok (value, map), log)
      | (.error fault, log) => (.error fault, log) := by
  refine (bind_state action (fun value => pure (value, map)) log).trans ?_
  rcases action log with ⟨_ | _, _⟩ <;> rfl

theorem place_places {description : String} {base length : UInt64}
    {attributes : MemoryAttributes} :
    Places (place description base length attributes)
      [.identity description base length attributes] := by
  refine ⟨fun map log room => ?_⟩
  have free : ¬map.maxDescriptors ≤ map.regions.length + 1 := Nat.not_le.mpr room
  change ((liftM (map.push description base length attributes) : MapBuilder MemoryMap) >>= set)
    map log = _
  rw [builder_bind, builder_lift, MemoryMap.push, if_neg free]
  rfl

theorem Places.nothing : Places (pure ()) [] := by
  refine ⟨fun map log _ => ?_⟩
  rw [List.append_nil]
  rfl

theorem Places.bind {first second : MapBuilder Unit} {regions more : List MemoryRegion}
    (hf : Places first regions) (hs : Places second more) :
    Places (first >>= fun _ => second) (regions ++ more) := by
  refine ⟨fun map log room => ?_⟩
  rw [List.length_append] at room
  have left : (map.regions ++ regions).length + more.length < map.maxDescriptors := by
    rw [List.length_append]
    omega
  rw [builder_bind, hf.ran map log (by omega), ← List.append_assoc]
  exact hs.ran _ log left

theorem Places.bind_refuses {first second : MapBuilder Unit} {regions : List MemoryRegion}
    {room : Nat} {reason : EfiError} (hf : Places first regions)
    (hs : Refuses second room reason) :
    Refuses (first >>= fun _ => second) (regions.length + room) reason := by
  refine ⟨fun map log enough => ?_⟩
  have left : (map.regions ++ regions).length + room < map.maxDescriptors := by
    rw [List.length_append]
    omega
  rw [builder_bind, hf.ran map log (by omega)]
  exact hs.ran _ log left

theorem Refuses.bind {first second : MapBuilder Unit} {room : Nat} {reason : EfiError}
    (h : Refuses first room reason) : Refuses (first >>= fun _ => second) room reason := by
  refine ⟨fun map log left => ?_⟩
  obtain ⟨after, refused⟩ := h.ran map log left
  exact ⟨after, by rw [builder_bind, refused]⟩

theorem placeCommonPeripherals_places : Places placeCommonPeripherals commonRegions :=
  place_places.bind <| place_places.bind <| place_places.bind <|
    place_places.bind <| place_places.bind <| place_places.bind <|
      place_places.bind <| place_places.bind <| place_places.bind <|
        place_places

theorem placeHostBridge_places (name : String) (bridge : HostBridge) :
    Places (placeHostBridge name bridge) (bridgeRegions name bridge) :=
  place_places.bind <| place_places.bind <| place_places

theorem placeDramBlock2_places (config : MemoryConfig) (size : UInt64) :
    Places (placeDramBlock2 config size) (dramBlock2Regions config size) := by
  unfold placeDramBlock2 dramBlock2Regions
  by_cases empty : size = 0
  · rw [if_neg (fun filled => filled empty), if_pos empty]
    exact .nothing
  · rw [if_pos empty, if_neg empty]
    exact place_places

theorem placeGopBuffer_places {config : MemoryConfig} (accepted : ¬GopRejected config) :
    Places (placeGopBuffer config) (gopRegions config) := by
  unfold placeGopBuffer gopRegions
  by_cases empty : config.gopBufferSize = 0
  · rw [if_neg (fun filled => filled empty), if_pos empty]
    exact .nothing
  · have above : ¬config.gopBufferBase.toNat ≤ primaryLast config := fun low =>
      accepted ⟨empty, low⟩
    rw [if_pos empty, if_neg empty]
    dsimp only
    rw [if_neg above]
    exact place_places

theorem placeGopBuffer_refuses {config : MemoryConfig} (rejected : GopRejected config) :
    Refuses (placeGopBuffer config) 0 .invalidParameter := by
  refine ⟨fun map log _ => ?_⟩
  unfold placeGopBuffer
  dsimp only
  rw [if_pos rejected.1, if_pos rejected.2]
  exact ⟨_, rfl⟩

theorem placeChip_places (config : MemoryConfig) (block2Size : UInt64) :
    Places (placeChip config block2Size) (chipRegions config block2Size) :=
  placeCommonPeripherals_places.bind <| place_places.bind <|
    (placeDramBlock2_places config block2Size).bind <| place_places.bind <|
      place_places.bind <| (placeHostBridge_places "PCIe" config.pcie).bind <|
        placeHostBridge_places "CCIX" config.ccix

theorem placeModel_places {config : MemoryConfig} (accepted : ¬GopRejected config)
    (block2Size : UInt64) :
    Places (placeModel config block2Size) (modelRegions config block2Size) :=
  placeCommonPeripherals_places.bind <| place_places.bind <| place_places.bind <|
    (placeGopBuffer_places accepted).bind <|
      (placeDramBlock2_places config block2Size).bind <| place_places.bind <|
        placeHostBridge_places "PCI" config.pcie

theorem placeModel_refuses {config : MemoryConfig} (rejected : GopRejected config)
    (block2Size : UInt64) : Refuses (placeModel config block2Size) 12 .invalidParameter :=
  placeCommonPeripherals_places.bind_refuses <| place_places.bind_refuses <|
    place_places.bind_refuses <| (placeGopBuffer_refuses rejected).bind

theorem dramBlock2Size_eq (localMemory : UInt64) :
    Board.dramBlock2Size localMemory =
      if localMemory ≤ size2GB then 0 else localMemory - size2GB := by
  change localMemory - (if localMemory ≤ size2GB then localMemory else size2GB) = _
  split
  · exact UInt64.sub_self localMemory
  · rfl

theorem dramBlock2Size_eq_zero {localMemory : UInt64} :
    Board.dramBlock2Size localMemory = 0 ↔ localMemory ≤ size2GB := by
  rw [dramBlock2Size_eq]
  split
  next within => exact ⟨fun _ => within, fun _ => rfl⟩
  next beyond =>
    rw [UInt64.sub_eq_iff_eq_add, UInt64.zero_add]
    exact ⟨fun same => UInt64.le_of_eq same, fun within => absurd within beyond⟩

theorem dramBlock2Regions_eq (config : MemoryConfig) (localMemory : UInt64) :
    dramBlock2Regions config (Board.dramBlock2Size localMemory) =
      if localMemory ≤ size2GB then []
      else [.identity "DDR Secondary" config.dramBlock2Base (localMemory - size2GB)
        .writeBack] := by
  unfold dramBlock2Regions
  by_cases within : localMemory ≤ size2GB
  · rw [if_pos (dramBlock2Size_eq_zero.mpr within), if_pos within]
  · rw [if_neg fun none => within (dramBlock2Size_eq_zero.mp none), if_neg within,
      dramBlock2Size_eq, if_neg within]

theorem dramBlock2Regions_length (config : MemoryConfig) (size : UInt64) :
    (dramBlock2Regions config size).length ≤ 1 := by
  unfold dramBlock2Regions
  split
  · exact Nat.zero_le 1
  · exact Nat.le_refl 1

theorem gopRegions_length (config : MemoryConfig) :
    (gopRegions config).length = if config.gopBufferSize ≠ 0 then 1 else 0 := by
  unfold gopRegions
  by_cases empty : config.gopBufferSize = 0
  · rw [if_pos empty, if_neg (fun filled => filled empty)]
    rfl
  · rw [if_neg empty, if_pos empty]
    rfl

theorem chipRegions_length (config : MemoryConfig) (block2Size : UInt64) :
    (chipRegions config block2Size).length < chipMaxDescriptors := by
  have block2 := dramBlock2Regions_length config block2Size
  simp only [chipRegions, List.length_append]
  change 10 + (1 + (_ + (1 + (1 + (3 + 3))))) < 21
  omega

def modelDescriptors (config : MemoryConfig) : Nat :=
  modelMaxDescriptors + if config.gopBufferSize ≠ 0 then 1 else 0

theorem modelRegions_length (config : MemoryConfig) (block2Size : UInt64) :
    (modelRegions config block2Size).length < modelDescriptors config := by
  have block2 := dramBlock2Regions_length config block2Size
  simp only [modelRegions, List.length_append, gopRegions_length]
  change 10 + (1 + (1 + (_ + (_ + (1 + 3))))) < 18 + _
  omega

theorem modelDescriptors_small (config : MemoryConfig) :
    modelDescriptors config * MemoryMap.entryBytes < UInt64.size / 2 := by
  unfold modelDescriptors
  split <;> decide

theorem build_apply {maxDescriptors : Nat}
    (small : maxDescriptors * MemoryMap.entryBytes < UInt64.size / 2) (builder : MapBuilder Unit)
    (log : List LogRecord) :
    build maxDescriptors builder log =
      match builder { maxDescriptors } log with
      | (.ok (_, map), log) => (.ok map, log)
      | (.error fault, log) => (.error fault, log) := by
  have map : MemoryMap.withMaxDescriptors maxDescriptors = .ok { maxDescriptors } := if_pos small
  unfold build
  rw [map, bind_state]
  refine (bind_state (builder { maxDescriptors }) (fun built => pure built.2) log).trans ?_
  rcases builder { maxDescriptors } log with ⟨_ | ⟨_, _⟩, _⟩ <;> rfl

theorem Places.build {builder : MapBuilder Unit} {regions : List MemoryRegion}
    {maxDescriptors : Nat} (h : Places builder regions)
    (small : maxDescriptors * MemoryMap.entryBytes < UInt64.size / 2)
    (room : regions.length < maxDescriptors) (log : List LogRecord) :
    build maxDescriptors builder log = (.ok ⟨regions, maxDescriptors⟩, log) := by
  rw [build_apply small, h.ran _ log (by rw [List.length_nil, Nat.zero_add]; exact room)]
  rfl

/-- There is an entry for every region of a chip, whatever its configuration and its memory. -/
theorem build_chip (config : MemoryConfig) (block2Size : UInt64) (log : List LogRecord) :
    build chipMaxDescriptors (placeChip config block2Size) log =
      (.ok ⟨chipRegions config block2Size, chipMaxDescriptors⟩, log) :=
  (placeChip_places config block2Size).build (by decide)
    (chipRegions_length config block2Size) log

theorem build_model {config : MemoryConfig} (accepted : ¬GopRejected config)
    (block2Size : UInt64) (log : List LogRecord) :
    build (modelDescriptors config) (placeModel config block2Size) log =
      (.ok ⟨modelRegions config block2Size, modelDescriptors config⟩, log) :=
  (placeModel_places accepted block2Size).build (modelDescriptors_small config)
    (modelRegions_length config block2Size) log

theorem build_model_rejected {config : MemoryConfig} (rejected : GopRejected config)
    (block2Size : UInt64) (log : List LogRecord) :
    ∃ after, build (modelDescriptors config) (placeModel config block2Size) log =
      (.error (.refused .invalidParameter), after) := by
  have room : 12 < modelDescriptors config :=
    Nat.lt_of_lt_of_le (by decide) (Nat.le_add_right modelMaxDescriptors _)
  obtain ⟨after, refused⟩ := (placeModel_refuses rejected block2Size).ran
    { maxDescriptors := modelDescriptors config } log room
  exact ⟨after, by rw [build_apply (modelDescriptors_small config), refused]⟩

end BoardMap

end PlatformFirmware
