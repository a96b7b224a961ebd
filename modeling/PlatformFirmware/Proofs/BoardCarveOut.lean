import PlatformFirmware.Proofs.BoardLayout

namespace PlatformFirmware

/-- Whether an address is among those of a range, which may go past the last address of all. -/
def MemoryDescriptor.Holds (descriptor : MemoryDescriptor) (address : Nat) : Prop :=
  descriptor.physicalBase.toNat ≤ address ∧
    address < descriptor.physicalBase.toNat + descriptor.length.toNat

def MemoryMap.named (map : MemoryMap) (description : String) : List MemoryRegion :=
  map.regions.filter fun region => region.description == description

namespace MemoryConfig

/-- The first address after the primary memory, also if there is no such address. -/
def primaryEnd (config : MemoryConfig) : Nat :=
  config.systemMemoryBase.toNat + config.systemMemorySize.toNat

/-- The primary memory reaches the last address of all, and the frame buffer begins there. -/
def GopAtTop (config : MemoryConfig) : Prop :=
  UInt64.size ≤ config.primaryEnd ∧ config.gopBufferBase.toNat = UInt64.size - 1

end MemoryConfig

namespace BoardMap

def gopRegion (config : MemoryConfig) : MemoryRegion :=
  .identity "DDR GOP carve out" config.gopBufferBase config.gopBufferSize.toUInt64
    .uncachedUnbuffered

theorem modelMap_named_primary (config : MemoryConfig) (localMemory : UInt64) :
    (modelMap config localMemory).named "DDR Primary" = [primaryRegion config] := by
  unfold modelMap modelRegions gopRegions dramBlock2Regions
  split <;> split <;> rfl

theorem modelMap_named_gop {config : MemoryConfig} (enabled : config.gopBufferSize ≠ 0)
    (localMemory : UInt64) :
    (modelMap config localMemory).named "DDR GOP carve out" = [gopRegion config] := by
  unfold modelMap modelRegions gopRegions dramBlock2Regions
  rw [if_neg enabled]
  split <;> rfl

theorem gopRegion_holds {config : MemoryConfig} {address : Nat} :
    (gopRegion config).descriptor.Holds address ↔ config.gopBufferBase.toNat ≤ address ∧
      address < config.gopBufferBase.toNat + config.gopBufferSize.toNat := Iff.rfl

theorem primaryRegion_holds {config : MemoryConfig} {address : Nat} :
    (primaryRegion config).descriptor.Holds address ↔
      config.systemMemoryBase.toNat ≤ address ∧ address < config.primaryEnd := Iff.rfl

/-- A frame buffer is rejected if it does not lie above the primary memory, unless it begins at the
last address of all. -/
theorem gopRejected_iff {config : MemoryConfig} (enabled : config.gopBufferSize ≠ 0)
    (filled : config.systemMemorySize ≠ 0) :
    GopRejected config ↔
      config.gopBufferBase.toNat ≤ config.primaryEnd - 1 ∧ ¬config.GopAtTop := by
  have size : 0 < config.systemMemorySize.toNat :=
    Nat.pos_of_ne_zero fun none => filled (UInt64.toNat_inj.mp none)
  have base : config.gopBufferBase.toNat < UInt64.size := config.gopBufferBase.toNat_lt
  rw [GopRejected, and_iff_right enabled, primaryLast, MemoryConfig.GopAtTop,
    MemoryConfig.primaryEnd]
  unfold UInt64.size at *
  omega

/-- The sum that is checked stops at the last address of all, so one less than it is not always the
last address of the primary memory. -/
theorem holds_both_iff {config : MemoryConfig} (enabled : config.gopBufferSize ≠ 0)
    (accepted : ¬GopRejected config) :
    (∃ address, (gopRegion config).descriptor.Holds address ∧
      (primaryRegion config).descriptor.Holds address) ↔ config.GopAtTop := by
  have size : 0 < config.gopBufferSize.toNat :=
    Nat.pos_of_ne_zero fun none => enabled (UInt32.toNat_inj.mp none)
  have low : config.systemMemoryBase.toNat < UInt64.size := config.systemMemoryBase.toNat_lt
  have base : config.gopBufferBase.toNat < UInt64.size := config.gopBufferBase.toNat_lt
  have above : primaryLast config < config.gopBufferBase.toNat :=
    Nat.lt_of_not_le fun below => accepted ⟨enabled, below⟩
  rw [primaryLast] at above
  simp only [gopRegion_holds, primaryRegion_holds, MemoryConfig.GopAtTop,
    MemoryConfig.primaryEnd]
  unfold UInt64.size at *
  constructor
  · rintro ⟨address, ⟨fromGop, -⟩, -, beforeEnd⟩
    omega
  · rintro ⟨top, last⟩
    exact ⟨config.gopBufferBase.toNat, by omega, by omega⟩

/-- On a map that is returned, the frame buffer and the primary memory are apart unless the memory
reaches the last address of all and the frame buffer begins there. Otherwise a frame buffer is
refused exactly if it does not begin after the last byte of the primary memory. -/
theorem carve_out_apart (config : MemoryConfig) (enabled : config.gopBufferSize ≠ 0)
    (localMemory : UInt64) (trace : BoardTrace)
    (taken : ∀ answer ∈ trace.answers, answer = .ok ()) :
    let result := (model config (.ok localMemory) trace).1
    (∀ map, result = .ok map → ∃ gop primary, map.named "DDR GOP carve out" = [gop] ∧
      map.named "DDR Primary" = [primary] ∧
        ((∃ address, gop.descriptor.Holds address ∧ primary.descriptor.Holds address) ↔
          config.GopAtTop)) ∧
      (config.systemMemorySize ≠ 0 →
        (result = .error (.refused .invalidParameter) ↔
          config.gopBufferBase.toNat ≤ config.primaryEnd - 1 ∧ ¬config.GopAtTop)) := by
  intro result
  by_cases rejected : GopRejected config
  · obtain ⟨log, refused⟩ := model_rejected rejected localMemory trace
    have refused : result = .error (.refused .invalidParameter) := congrArg Prod.fst refused
    refine ⟨fun map done => ?_, fun filled => ?_⟩
    · rw [refused] at done
      cases done
    · exact iff_of_true refused ((gopRejected_iff enabled filled).mp rejected)
  · have done : result = .ok (modelMap config localMemory) :=
      (model_returns rejected localMemory trace).of_taken taken
    refine ⟨fun map given => ?_, fun filled => ?_⟩
    · cases Except.ok.inj (done.symm.trans given)
      exact ⟨_, _, modelMap_named_gop enabled localMemory,
        modelMap_named_primary config localMemory, holds_both_iff enabled rejected⟩
    · rw [done]
      exact iff_of_false nofun fun low => rejected ((gopRejected_iff enabled filled).mpr low)

/-- A frame buffer may begin right behind the primary memory, but not a byte before its end. -/
theorem carve_out_apart_adjacent :
    let below : MemoryConfig := { gopBufferBase := 0xFEFFFFFF }
    (∃ map gop primary, (model {} (.ok 0) {}).1 = .ok map ∧
      map.named "DDR GOP carve out" = [gop] ∧ map.named "DDR Primary" = [primary] ∧
        ¬∃ address, gop.descriptor.Holds address ∧ primary.descriptor.Holds address) ∧
      (model below (.ok 0) {}).1 = .error (.refused .invalidParameter) := by
  intro below
  constructor
  · have kept := carve_out_apart {} (by decide) 0 {} nofun
    have accepted : ¬GopRejected {} := by decide
    have done := (model_returns accepted 0 {}).of_taken nofun
    obtain ⟨gop, primary, buffer, memory, both⟩ := kept.1 _ done
    have low : ¬({} : MemoryConfig).GopAtTop := fun top => absurd top.1 (by decide)
    exact ⟨_, gop, primary, done, buffer, memory, fun shared => low (both.mp shared)⟩
  · have kept := carve_out_apart below (by decide) 0 {} nofun
    have low : ¬below.GopAtTop := fun top => absurd top.1 (by decide)
    exact (kept.2 (by decide)).mpr ⟨by decide, low⟩

/-- The primary memory ends with the last address of all, and the frame buffer that begins at this
address is accepted. -/
theorem carve_out_inside_memory :
    let config : MemoryConfig :=
      { systemMemoryBase := 0x8000000000000000, systemMemorySize := 0x8000000000000000
        gopBufferBase := 0xFFFFFFFFFFFFFFFF, gopBufferSize := 1 }
    config.primaryEnd = UInt64.size ∧ config.gopBufferBase.toNat ≤ config.primaryEnd - 1 ∧
      ∃ map gop primary, (model config (.ok 0) {}).1 = .ok map ∧
        map.named "DDR GOP carve out" = [gop] ∧ map.named "DDR Primary" = [primary] ∧
          gop.descriptor.Holds 0xFFFFFFFFFFFFFFFF ∧
            primary.descriptor.Holds 0xFFFFFFFFFFFFFFFF := by
  intro config
  have accepted : ¬GopRejected config := by decide
  have done := (model_returns accepted 0 {}).of_taken nofun
  have ends : config.primaryEnd = UInt64.size := by decide
  have low : config.gopBufferBase.toNat ≤ config.primaryEnd - 1 := by decide
  have buffer : (gopRegion config).descriptor.Holds 0xFFFFFFFFFFFFFFFF :=
    gopRegion_holds.mpr (by decide)
  have memory : (primaryRegion config).descriptor.Holds 0xFFFFFFFFFFFFFFFF :=
    primaryRegion_holds.mpr (by decide)
  exact ⟨ends, low, _, _, _, done, modelMap_named_gop (by decide) 0,
    modelMap_named_primary config 0, buffer, memory⟩

end BoardMap

end PlatformFirmware
