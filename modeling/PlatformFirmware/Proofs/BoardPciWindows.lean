import Mathlib.Data.List.Forall2
import PlatformFirmware.Proofs.BoardLayout
import PlatformFirmware.Proofs.ConfigResolution
import PlatformFirmware.Proofs.PlatformInfoFields

namespace PlatformFirmware

/-- A range of memory is the configuration space of a window: 1 MiB for each of its buses. -/
structure MemoryDescriptor.Configures (range : MemoryDescriptor) (window : PciWindow) : Prop where
  physical : range.physicalBase = window.base
  virtual : range.virtualBase = window.base
  ordered : window.startBus ≤ window.endBus
  length : range.length.toNat =
    (window.endBus.toNat - window.startBus.toNat + 1) * 0x100000
  most : range.length.toNat ≤ 256 * 0x100000

/-- The configuration space of a bridge, as it is mapped. -/
def HostBridge.ecamRange (bridge : HostBridge) : MemoryDescriptor :=
  .identity bridge.ecamBase bridge.ecamSize .device

theorem HostBridge.ecamRange_configures {bridge : HostBridge}
    (ordered : bridge.busMin ≤ bridge.busMax) (segment : UInt16) :
    bridge.ecamRange.Configures (ChipObjects.pciWindow bridge segment) := by
  have above := UInt8.le_iff_toNat_le.mp ordered
  have length : bridge.ecamSize.toNat =
      (bridge.busMax.toNat - bridge.busMin.toNat + 1) * 0x100000 := by
    rw [BoardMap.ecamSize_toNat, Nat.max_eq_left above]
  refine ⟨rfl, rfl, ordered, length, ?_⟩
  have last := bridge.busMax.toNat_lt
  change bridge.ecamSize.toNat ≤ _
  omega

namespace BoardMap

theorem chip_built {config : MemoryConfig} {located : Except EfiError (List UInt8)}
    {trace : BoardTrace} {map : MemoryMap} (built : (chip config located trace).1 = .ok map) :
    ∃ localMemory, map = chipMap config localMemory := by
  cases obtained : (PlatformInfo.locate located trace.log).1 with
  | error fault =>
    rw [chip_missing (Prod.ext obtained rfl)] at built
    cases built
  | ok info =>
    obtain done | ⟨reason, refused, -⟩ := chip_returns obtained
    · exact ⟨info.localMemory, Except.ok.inj (built.symm.trans done)⟩
    · cases built.symm.trans refused

theorem chipMap_find_pcie (config : MemoryConfig) (localMemory : UInt64) :
    (chipMap config localMemory).find? "PCIe ECAM Region" = some config.pcie.ecamRange := by
  unfold chipMap chipRegions dramBlock2Regions
  split <;> rfl

theorem chipMap_find_ccix (config : MemoryConfig) (localMemory : UInt64) :
    (chipMap config localMemory).find? "CCIX ECAM Region" = some config.ccix.ecamRange := by
  unfold chipMap chipRegions dramBlock2Regions
  split <;> rfl

end BoardMap

theorem ChipObjects.pciWindows_served (config : MemoryConfig) (dsdt ssdtPci : List UInt8)
    {id : ObjectId} (space : id.value.toBitVec.extractLsb 31 28 = 1)
    (object : id.value.toBitVec.extractLsb 7 0 = 15) (token : ObjectToken)
    (log : List LogRecord) :
    ((ConfigManager.of (build config dsdt ssdtPci).repository).getObject id token log).1 =
      .ok (.of id (.pciWindows [pciWindow config.pcie 0, pciWindow config.ccix 1])) := by
  rw [(build_addressable config dsdt ssdtPci).getObject_fst, space, object]
  rfl

namespace BoardMap

/-- The windows that the chip's manager serves are the regions that its map has for the
configuration spaces of the two bridges, in the same order. -/
theorem windows_mapped {config : MemoryConfig} (pcie : config.pcie.busMin ≤ config.pcie.busMax)
    (ccix : config.ccix.busMin ≤ config.ccix.busMax)
    {located : Except EfiError (List UInt8)} {trace : BoardTrace} {map : MemoryMap}
    (built : (chip config located trace).1 = .ok map) (dsdt ssdtPci : List UInt8)
    (id : ObjectId) (space : id.value.toBitVec.extractLsb 31 28 = 1)
    (object : id.value.toBitVec.extractLsb 7 0 = 15) (token : ObjectToken)
    (log : List LogRecord) :
    ∃ answer windows,
      ((ConfigManager.of (ChipObjects.build config dsdt ssdtPci).repository).getObject id token
          log).1 = .ok answer ∧
        answer.data = .pciWindows windows ∧
        List.Forall₂
          (fun description window =>
            ∃ range, map.find? description = some range ∧ range.Configures window)
          ["PCIe ECAM Region", "CCIX ECAM Region"] windows := by
  obtain ⟨localMemory, rfl⟩ := chip_built built
  refine ⟨_, _, ChipObjects.pciWindows_served config dsdt ssdtPci space object token log, rfl, ?_⟩
  refine .cons ⟨_, chipMap_find_pcie config localMemory, ?_⟩
    (.cons ⟨_, chipMap_find_ccix config localMemory, ?_⟩ .nil)
  · exact HostBridge.ecamRange_configures pcie 0
  · exact HostBridge.ecamRange_configures ccix 1

/-- The windows of the board as it is, once its map is built from the sample of a device tree. -/
theorem windows_mapped_default :
    ∃ map answer windows, (chip {} (.ok PlatformInfo.sampleTree) {}).1 = .ok map ∧
      ((ConfigManager.of (ChipObjects.build {} [] []).repository).getObject
          (.arm .pciConfigSpaceInfo) nullToken []).1 = .ok answer ∧
        answer.data = .pciWindows windows ∧ windows.length = 2 ∧
        List.Forall₂
          (fun description window =>
            ∃ range, map.find? description = some range ∧ range.Configures window)
          ["PCIe ECAM Region", "CCIX ECAM Region"] windows := by
  have built := chip_sample {}
  obtain ⟨answer, windows, answered, data, regions⟩ :=
    windows_mapped (by decide) (by decide) built [] [] (.arm .pciConfigSpaceInfo) (by decide)
      (by decide) nullToken []
  exact ⟨_, answer, windows, built, answered, data, regions.length_eq.symm, regions⟩

end BoardMap

end PlatformFirmware
