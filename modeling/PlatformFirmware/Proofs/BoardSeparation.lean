import Mathlib.Data.List.Forall2
import PlatformFirmware.Proofs.BoardCarveOut
import PlatformFirmware.Proofs.PlatformInfoFields

namespace PlatformFirmware

/-- The same bridge with other buses, from the first to the last. -/
def HostBridge.withBuses (bridge : HostBridge) (buses : UInt8 × UInt8) : HostBridge :=
  { bridge with busMin := buses.1, busMax := buses.2 }

/-- The board as it is, but for the buses behind its bridges and the size of its frame buffer. -/
def MemoryConfig.fitted (pcieBuses ccixBuses : UInt8 × UInt8) (gopBufferSize : UInt32) :
    MemoryConfig :=
  let board : MemoryConfig := {}
  { board with
    pcie := board.pcie.withBuses pcieBuses
    ccix := board.ccix.withBuses ccixBuses
    gopBufferSize }

/-- Every region has addresses, and no address is in two of them. -/
structure MemoryMap.Separate (map : MemoryMap) : Prop where
  filled : ∀ region ∈ map.regions, ∃ address, region.descriptor.Holds address
  apart : map.regions.Pairwise fun first second =>
    ¬∃ address, first.descriptor.Holds address ∧ second.descriptor.Holds address

section

variable {α β : Type} {R : α → β → Prop} {xs xs' : List α} {ys ys' : List β}

theorem sublistForall₂_append (front : List.SublistForall₂ R xs ys)
    (back : List.SublistForall₂ R xs' ys') : List.SublistForall₂ R (xs ++ xs') (ys ++ ys') := by
  obtain ⟨_, related, among⟩ := List.sublistForall₂_iff.mp front
  obtain ⟨_, related', among'⟩ := List.sublistForall₂_iff.mp back
  exact List.sublistForall₂_iff.mpr
    ⟨_, List.rel_append related related', among.append among'⟩

theorem sublistForall₂_skip (back : List.SublistForall₂ R xs ys') :
    List.SublistForall₂ R xs (ys ++ ys') :=
  sublistForall₂_append .nil back

theorem sublistForall₂_mem (h : List.SublistForall₂ R xs ys) {x : α} (mem : x ∈ xs) :
    ∃ y ∈ ys, R x y := by
  induction h with
  | nil => cases mem
  | cons first _ ih =>
    rcases List.mem_cons.mp mem with rfl | mem
    · exact ⟨_, List.mem_cons_self, first⟩
    · obtain ⟨y, among, related⟩ := ih mem
      exact ⟨y, List.mem_cons_of_mem _ among, related⟩
  | cons_right _ ih =>
    obtain ⟨y, among, related⟩ := ih mem
    exact ⟨y, List.mem_cons_of_mem _ among, related⟩

end

namespace LayoutRow

def Apart (first second : LayoutRow) : Prop :=
  first.physicalBase + first.length ≤ second.physicalBase ∨
    second.physicalBase + second.length ≤ first.physicalBase

instance : DecidableRel Apart :=
  fun _ _ => inferInstanceAs (Decidable (_ ∨ _))

/-- A row has addresses, from the beginning of another row on and at most to its end. -/
structure FitsIn (row room : LayoutRow) : Prop where
  base : row.physicalBase = room.physicalBase
  filled : 0 < row.length
  within : row.length ≤ room.length

theorem FitsIn.self {row : LayoutRow} (filled : 0 < row.length) : row.FitsIn row :=
  ⟨rfl, filled, Nat.le_refl _⟩

theorem FitsIn.identity {description description' : String} {base length room : Nat}
    {attributes attributes' : MemoryAttributes} (filled : 0 < length) (within : length ≤ room) :
    (identity description base length attributes).FitsIn
      (identity description' base room attributes') :=
  ⟨rfl, filled, within⟩

theorem FitsIn.apart {first second room room' : LayoutRow} (hf : first.FitsIn room)
    (hs : second.FitsIn room') (apart : room.Apart room') : first.Apart second := by
  have := hf.base
  have := hf.within
  have := hs.base
  have := hs.within
  unfold Apart at *
  omega

/-- Rows that have rooms of their own in a plan are apart if the rooms are. -/
theorem apart_of_fits {rows plan : List LayoutRow} (fits : List.SublistForall₂ FitsIn rows plan)
    (apart : plan.Pairwise Apart) : rows.Pairwise Apart := by
  induction fits with
  | nil => exact .nil
  | cons first rest ih =>
    obtain ⟨firstApart, restApart⟩ := List.pairwise_cons.mp apart
    refine List.pairwise_cons.mpr ⟨fun other mem => ?_, ih restApart⟩
    obtain ⟨room, among, fit⟩ := sublistForall₂_mem rest mem
    exact first.apart fit (firstApart room among)
  | cons_right _ ih => exact ih (List.pairwise_cons.mp apart).2

end LayoutRow

theorem MemoryRegion.holds_iff {region : MemoryRegion} {address : Nat} :
    region.descriptor.Holds address ↔ region.row.physicalBase ≤ address ∧
      address < region.row.physicalBase + region.row.length := Iff.rfl

theorem MemoryMap.Separate.of_fits {map : MemoryMap} {plan : List LayoutRow}
    (fits : List.SublistForall₂ LayoutRow.FitsIn (map.regions.map MemoryRegion.row) plan)
    (apart : plan.Pairwise LayoutRow.Apart) : map.Separate where
  filled region mem := by
    obtain ⟨room, -, fit⟩ := sublistForall₂_mem fits (List.mem_map_of_mem mem)
    exact ⟨region.row.physicalBase, MemoryRegion.holds_iff.mpr
      ⟨Nat.le_refl _, Nat.lt_add_of_pos_right fit.filled⟩⟩
  apart := by
    refine (List.pairwise_map.mp (LayoutRow.apart_of_fits fits apart)).imp ?_
    rintro first second rowsApart ⟨address, inFirst, inSecond⟩
    rw [MemoryRegion.holds_iff] at inFirst inSecond
    unfold LayoutRow.Apart at rowsApart
    omega

namespace BoardMap

open LayoutRow List

theorem commonLayout_fits : SublistForall₂ FitsIn commonLayout commonLayout := by
  have filled : ∀ row ∈ commonLayout, 0 < row.length := by decide
  exact sublistForall₂_iff.mpr
    ⟨_, forall₂_same.mpr fun row mem => .self (filled row mem), .refl _⟩

theorem secondaryLayout_fits (config : MemoryConfig) {localMemory most : UInt64}
    (le : localMemory ≤ most) :
    SublistForall₂ FitsIn (secondaryLayout config localMemory) (secondaryLayout config most) := by
  have le := UInt64.le_iff_toNat_le.mp le
  unfold secondaryLayout
  by_cases beyond : 0x80000000 < localMemory.toNat
  · have filled : 0 < localMemory.toNat - 0x80000000 := Nat.sub_pos_of_lt beyond
    have within : localMemory.toNat - 0x80000000 ≤ most.toNat - 0x80000000 :=
      Nat.sub_le_sub_right le _
    rw [if_pos beyond, if_pos (Nat.lt_of_lt_of_le beyond le)]
    exact .cons (.identity filled within) .nil
  · rw [if_neg beyond]
    exact .nil

theorem gopLayout_fits {config roomy : MemoryConfig}
    (base : config.gopBufferBase = roomy.gopBufferBase)
    (size : config.gopBufferSize ≤ roomy.gopBufferSize) :
    SublistForall₂ FitsIn (gopLayout config) (gopLayout roomy) := by
  have size := UInt32.le_iff_toNat_le.mp size
  unfold gopLayout
  by_cases empty : config.gopBufferSize = 0
  · rw [if_pos empty]
    exact .nil
  · have filled : 0 < config.gopBufferSize.toNat :=
      Nat.pos_of_ne_zero fun none => empty (UInt32.toNat_inj.mp none)
    have roomyFilled : roomy.gopBufferSize ≠ 0 := fun none => by
      rw [none] at size
      exact absurd filled (Nat.not_lt.mpr size)
    rw [if_neg empty, if_neg roomyFilled, base]
    exact .cons (.identity filled size) .nil

/-- A bridge has at most 256 buses, also if its last bus comes before its first. -/
theorem bridgeLayout_fits (name name' : String) {bridge : HostBridge} (buses : UInt8 × UInt8)
    (window32 : 0 < bridge.mmio32Size.toNat + bridge.ioSize.toNat)
    (window64 : 0 < bridge.mmio64Size.toNat) :
    SublistForall₂ FitsIn (bridgeLayout name (bridge.withBuses buses))
      (bridgeLayout name' (bridge.withBuses (0, 255))) := by
  have last := buses.2.toNat_lt
  have most : (max buses.2.toNat buses.1.toNat - buses.1.toNat + 1) * 0x100000 ≤
      256 * 0x100000 := Nat.mul_le_mul_right _ (by omega)
  exact .cons (.identity (Nat.mul_pos (Nat.succ_pos _) (by decide)) most) <|
    .cons (.identity window32 (Nat.le_refl _)) <|
      .cons (.identity window64 (Nat.le_refl _)) .nil

/-- Room for all that either board maps: every bus behind its bridges, the largest frame buffer,
and as much memory as a word of 64 bits can tell. -/
def plan : List LayoutRow :=
  let fullest := MemoryConfig.fitted (0, 255) (0, 255) 0xFFFFFFFF
  commonLayout ++
    ([.identity "Mali D71" fullest.displayBase.toNat fullest.displaySize.toNat .device] ++
      ([primaryLayout fullest] ++ (gopLayout fullest ++
        (secondaryLayout fullest 0xFFFFFFFFFFFFFFFF ++
          ([.identity "AP QSPI flash device" 0x18000000 0x4000000 .device] ++
            ([expansionLayout] ++
              (bridgeLayout "PCIe" fullest.pcie ++ bridgeLayout "CCIX" fullest.ccix)))))))

theorem plan_apart : plan.Pairwise Apart := by decide

section

variable (pcieBuses ccixBuses : UInt8 × UInt8) (gopBufferSize : UInt32) (localMemory : UInt64)

theorem chipLayout_fits :
    SublistForall₂ FitsIn (chipLayout (.fitted pcieBuses ccixBuses gopBufferSize) localMemory)
      plan := by
  have most : localMemory ≤ 0xFFFFFFFFFFFFFFFF :=
    UInt64.le_iff_toNat_le.mpr (Nat.le_of_lt_succ localMemory.toNat_lt)
  have primary : 0 < (primaryLayout {}).length := by decide
  unfold chipLayout plan
  simp only [append_assoc, cons_append, nil_append]
  -- The display and the frame buffer are not on the chip.
  refine sublistForall₂_append commonLayout_fits (.cons_right (.cons (.self primary) ?_))
  refine sublistForall₂_skip (sublistForall₂_append (secondaryLayout_fits _ most) ?_)
  refine .cons (.self (by decide)) (.cons (.self (by decide)) ?_)
  exact sublistForall₂_append (bridgeLayout_fits _ _ _ (by decide) (by decide))
    (bridgeLayout_fits _ _ _ (by decide) (by decide))

theorem modelLayout_fits :
    SublistForall₂ FitsIn (modelLayout (.fitted pcieBuses ccixBuses gopBufferSize) localMemory)
      plan := by
  have most : localMemory ≤ 0xFFFFFFFFFFFFFFFF :=
    UInt64.le_iff_toNat_le.mpr (Nat.le_of_lt_succ localMemory.toNat_lt)
  have largest : gopBufferSize ≤ 0xFFFFFFFF :=
    UInt32.le_iff_toNat_le.mpr (Nat.le_of_lt_succ gopBufferSize.toNat_lt)
  have display : 0 < ({} : MemoryConfig).displaySize.toNat := by decide
  have primary : 0 < (primaryLayout {}).length := by decide
  unfold modelLayout plan
  simp only [append_assoc, cons_append, nil_append]
  refine sublistForall₂_append commonLayout_fits (.cons (.identity display (Nat.le_refl _)) ?_)
  refine .cons (.self primary) (sublistForall₂_append (gopLayout_fits rfl largest) ?_)
  refine sublistForall₂_append (secondaryLayout_fits _ most) (.cons_right ?_)
  -- The model board has neither the flash nor the second bridge.
  refine .cons (.self (by decide)) ?_
  rw [← append_nil (bridgeLayout "PCI" _)]
  exact sublistForall₂_append (bridgeLayout_fits _ _ _ (by decide) (by decide)) .nil

theorem fitted_accepted : ¬GopRejected (.fitted pcieBuses ccixBuses gopBufferSize) := by
  have above : ¬({} : MemoryConfig).gopBufferBase.toNat ≤ primaryLast {} := by decide
  exact fun rejected => above rejected.2

theorem chipMap_separate :
    (chipMap (.fitted pcieBuses ccixBuses gopBufferSize) localMemory).Separate := by
  refine .of_fits ?_ plan_apart
  rw [(chipMap_laidOut _ localMemory).rows]
  exact chipLayout_fits pcieBuses ccixBuses gopBufferSize localMemory

theorem modelMap_separate :
    (modelMap (.fitted pcieBuses ccixBuses gopBufferSize) localMemory).Separate := by
  refine .of_fits ?_ plan_apart
  rw [(modelMap_laidOut _ localMemory).rows]
  exact modelLayout_fits pcieBuses ccixBuses gopBufferSize localMemory

end

/-- The regions of either board do not collide, whatever buses its bridges have, how large its
frame buffer is, and how much memory it is told of. -/
theorem regions_separate (pcieBuses ccixBuses : UInt8 × UInt8) (gopBufferSize : UInt32)
    (trace : BoardTrace) (taken : ∀ answer ∈ trace.answers, answer = .ok ()) :
    let config := MemoryConfig.fitted pcieBuses ccixBuses gopBufferSize
    (∀ located info, (PlatformInfo.locate located trace.log).1 = .ok info →
        ∃ map, (chip config located trace).1 = .ok map ∧ map.Separate) ∧
      ∀ localMemory, ∃ map, (model config (.ok localMemory) trace).1 = .ok map ∧
        map.Separate := by
  intro config
  refine ⟨fun located info obtained => ?_, fun localMemory => ?_⟩
  · exact ⟨_, (chip_returns obtained).of_taken taken,
      chipMap_separate pcieBuses ccixBuses gopBufferSize info.localMemory⟩
  · have accepted := fitted_accepted pcieBuses ccixBuses gopBufferSize
    exact ⟨_, (model_returns accepted localMemory trace).of_taken taken,
      modelMap_separate pcieBuses ccixBuses gopBufferSize localMemory⟩

/-- The largest frame buffer, buses the wrong way round, and all the memory that can be told of:
none of the 18 regions of the model board collide, and none of the 20 of a chip with 3 GiB. -/
theorem regions_separate_fullest :
    let config := MemoryConfig.fitted (0, 255) (9, 3) 0xFFFFFFFF
    (∃ map, (chip config (.ok PlatformInfo.sampleTree) {}).1 = .ok map ∧
        map.regions.length = 20 ∧ map.Separate) ∧
      ∃ map, (model config (.ok 0xFFFFFFFFFFFFFFFF) {}).1 = .ok map ∧
        map.regions.length = 18 ∧ map.Separate := by
  intro config
  have accepted : ¬GopRejected config := fitted_accepted (0, 255) (9, 3) 0xFFFFFFFF
  have modelBuilt : (model config (.ok 0xFFFFFFFFFFFFFFFF) {}).1 =
      .ok (modelMap config 0xFFFFFFFFFFFFFFFF) :=
    (model_returns accepted 0xFFFFFFFFFFFFFFFF {}).of_taken nofun
  obtain ⟨chips, models⟩ := regions_separate (0, 255) (9, 3) 0xFFFFFFFF {} nofun
  constructor
  · obtain ⟨map, done, separate⟩ := chips _ _ (PlatformInfo.locate_sample _)
    obtain rfl := Except.ok.inj ((chip_sample config).symm.trans done)
    exact ⟨_, done, (chipMap_laidOut config _).regions_length.trans (by decide), separate⟩
  · obtain ⟨map, done, separate⟩ := models 0xFFFFFFFFFFFFFFFF
    obtain rfl := Except.ok.inj (modelBuilt.symm.trans done)
    exact ⟨_, done, (modelMap_laidOut config _).regions_length.trans (by decide), separate⟩

end BoardMap

end PlatformFirmware
