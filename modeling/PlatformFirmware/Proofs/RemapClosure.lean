import PlatformFirmware.Proofs.ConfigResolution
import PlatformFirmware.Proofs.RemapGraph

namespace PlatformFirmware

theorem referredTo_subset {α : Type} {object : ArmObject} {objects found : List α}
    {runs : List (Nat × Nat)} {token : ObjectToken}
    (h : referredTo object objects runs token = .ok found) {element : α}
    (listed : element ∈ found) : element ∈ objects := by
  unfold referredTo at h
  split_ifs at h
  · cases h
    exact listed
  · split at h
    · cases h
      exact List.mem_of_mem_drop (List.mem_of_mem_take listed)
    · cases h

/-- The token of an element refers to that element alone. -/
theorem referredTo_single {α : Type} (object : ArmObject) {objects : List α} {element : α}
    {index : Nat} (small : objects.length ≤ 0xFFFF) (placed : objects[index]? = some element) :
    referredTo object objects (singleRuns objects) (referenceToken object (UInt64.ofNat index)) =
      .ok [element] := by
  obtain ⟨inside, rfl⟩ := List.getElem?_eq_some_iff.mp placed
  have counted : index < 0xFFFF := Nat.lt_of_lt_of_le inside small
  have meant : tokenIndex? object (referenceToken object (UInt64.ofNat index)) objects.length =
      some index := tokenIndex?_eq_some.mpr ⟨counted, inside, rfl⟩
  rw [(ChipObjects.RunsInside.singleRuns small).referredTo_eq
      (referenceToken_ne_null object counted), ChipObjects.runAt?_singleRuns, meant,
    Option.bind_some, ChipObjects.run?, if_pos (Nat.succ_le_of_lt inside),
    List.drop_eq_getElem_cons inside]
  rfl

theorem ArmObject.space_toNat (object : ArmObject) :
    ((ObjectId.arm object).value.toBitVec.extractLsb 31 28).toNat = 1 := by
  cases object <;> rfl

theorem ArmObject.object_toNat (object : ArmObject) :
    ((ObjectId.arm object).value.toBitVec.extractLsb 7 0).toNat = object.number.toNat := by
  rw [← ObjectId.object_toNat, ObjectId.object_arm]

namespace ChipObjects

def remapGraph (objects : ChipObjects) : RemapGraph where
  roots := objects.rootComplexes
  smmus := objects.smmus
  groups := objects.itsGroups
  units := objects.gicIts
  windows := objects.pciWindows

theorem Addressable.answers_iff {objects : ChipObjects} (whole : objects.Addressable)
    {object : ArmObject} {token : ObjectToken} {data : ConfigData} :
    (ConfigManager.of objects.repository).Answers object token data ↔
      objects.servedArm token object.number.toNat = .ok data := by
  have resolves (log : List LogRecord) := whole.getObject_fst (.arm object) token log
  simp only [object.space_toNat, object.object_toNat, served] at resolves
  unfold ConfigManager.Answers
  simp only [resolves]
  cases objects.servedArm token object.number.toNat with
  | error fault =>
    constructor
    · intro h
      cases h []
    · intro h
      cases h
  | ok found =>
    constructor
    · intro h
      exact congrArg Except.ok (congrArg ConfigAnswer.data (Except.ok.inj (h [])))
    · rintro ⟨⟩ log
      rfl

theorem Addressable.remapGraph_served {objects : ChipObjects} (whole : objects.Addressable) :
    objects.remapGraph.Served (.of objects.repository) where
  roots _ := whole.answers_iff.mpr rfl
  smmus _ := whole.answers_iff.mpr rfl
  groups := whole.answers_iff.mpr rfl
  among token found read group listed := by
    have served := whole.answers_iff.mp read
    change (referredTo _ _ _ token).map ConfigData.itsGroups = _ at served
    cases answered :
        referredTo .itsGroup objects.itsGroups (singleRuns objects.itsGroups) token with
    | error fault =>
      rw [answered] at served
      cases served
    | ok groups =>
      rw [answered] at served
      cases served
      exact referredTo_subset answered listed
  units _ := whole.answers_iff.mpr rfl
  windows _ := whole.answers_iff.mpr rfl

section

variable (config : MemoryConfig) (dsdt ssdtPci : List UInt8)

theorem rootComplex_placed {i : Nat} {root : RootComplex}
    (h : (build config dsdt ssdtPci).rootComplexes[i]? = some root) :
    i < 2 ∧ root = rootComplex i := by
  obtain ⟨inside, rfl⟩ := List.getElem?_eq_some_iff.mp h
  refine ⟨inside, ?_⟩
  match i with
  | 0 | 1 => rfl

theorem itsGroup_placed {i : Nat} {group : ItsGroup}
    (h : (build config dsdt ssdtPci).itsGroups[i]? = some group) :
    i < 4 ∧ group = itsGroup i := by
  obtain ⟨inside, rfl⟩ := List.getElem?_eq_some_iff.mp h
  refine ⟨inside, ?_⟩
  match i with
  | 0 | 1 | 2 | 3 => rfl

theorem smmu_placed {i : Nat} {node : SmmuNode}
    (h : (build config dsdt ssdtPci).smmus[i]? = some node) :
    i < 2 ∧ ∃ base event pri gerr sync, node = smmu i (2 * i) base event pri gerr sync := by
  obtain ⟨inside, rfl⟩ := List.getElem?_eq_some_iff.mp h
  refine ⟨inside, ?_⟩
  match i with
  | 0 | 1 => exact ⟨_, _, _, _, _, rfl⟩

/-- A root complex has one mapping, to the address translator in its own place. -/
theorem rootMappings_answered {i : Nat} (inside : i < 2) :
    (ConfigManager.of (build config dsdt ssdtPci).repository).Answers .idMappingArray
      (mappingToken 1 i) (.idMappings [idMapping 0xFFFF (smmuToken i) 0]) := by
  refine (build_addressable config dsdt ssdtPci).answers_iff.mpr ?_
  match i with
  | 0 | 1 => rfl

theorem smmuMappings_answered {i : Nat} (inside : i < 2) :
    (ConfigManager.of (build config dsdt ssdtPci).repository).Answers .idMappingArray
      (mappingToken (2 * i) 0)
      (.idMappings [idMapping 0xFFFF (itsGroupToken (2 * i + 1)) 0,
        idMapping 1 (itsGroupToken (2 * i)) AcpiNumber.singleMapping.value]) := by
  refine (build_addressable config dsdt ssdtPci).answers_iff.mpr ?_
  match i with
  | 0 | 1 => rfl

theorem itsGroup_named {i : Nat} (inside : i < 4) :
    (build config dsdt ssdtPci).itsGroups[i]? = some (itsGroup i) ∧
      (build config dsdt ssdtPci).itsGroups.filter (fun other => other.token = itsGroupToken i) =
        [itsGroup i] := by
  match i with
  | 0 | 1 | 2 | 3 => exact ⟨rfl, rfl⟩

theorem itsGroup_answered {i : Nat} (inside : i < 4) :
    (ConfigManager.of (build config dsdt ssdtPci).repository).Answers .itsGroup (itsGroupToken i)
      (.itsGroups [itsGroup i]) := by
  have whole := build_addressable config dsdt ssdtPci
  have found := referredTo_single .itsGroup whole.itsGroups
    (itsGroup_named config dsdt ssdtPci inside).1
  exact whole.answers_iff.mpr (congrArg (Except.map ConfigData.itsGroups) found)

theorem itsIdentifier_answered {i : Nat} (inside : i < 4) :
    (ConfigManager.of (build config dsdt ssdtPci).repository).Answers .gicItsIdentifierArray
      (itsIdentifierToken i) (.itsIdentifiers [⟨UInt32.ofNat i⟩]) := by
  have placed : (build config dsdt ssdtPci).itsIdentifiers[i]? = some ⟨UInt32.ofNat i⟩ := by
    match i with
    | 0 | 1 | 2 | 3 => rfl
  have whole := build_addressable config dsdt ssdtPci
  have found := referredTo_single .gicItsIdentifierArray whole.itsIdentifiers placed
  exact whole.answers_iff.mpr (congrArg (Except.map ConfigData.itsIdentifiers) found)

theorem smmu_named {i : Nat} (inside : i < 2) :
    ∃ node : SmmuNode, (build config dsdt ssdtPci).smmus[i]? = some node ∧
      (build config dsdt ssdtPci).smmus.filter (fun other => other.token = smmuToken i) =
        [node] := by
  match i with
  | 0 | 1 => exact ⟨_, rfl, rfl⟩

theorem gicIts_named {i : Nat} (inside : i < 4) :
    ∃ unit : GicIts, (build config dsdt ssdtPci).gicIts[i]? = some unit ∧
      unit.id = UInt32.ofNat i := by
  match i with
  | 0 | 1 | 2 | 3 => exact ⟨_, rfl, rfl⟩

theorem remapGraph_node {node : RemapNode}
    (there : node ∈ (build config dsdt ssdtPci).remapGraph.nodes) :
    (∃ i < 2, node = .root (rootComplex i)) ∨
      (∃ i < 2, ∃ base event pri gerr sync,
        node = .smmu (smmu i (2 * i) base event pri gerr sync)) ∨
      ∃ i < 4, node = .group (itsGroup i) := by
  rcases List.mem_append.mp there with there | there
  · rcases List.mem_append.mp there with there | there
    · obtain ⟨root, listed, rfl⟩ := List.mem_map.mp there
      obtain ⟨i, placed⟩ := List.mem_iff_getElem?.mp listed
      obtain ⟨inside, rfl⟩ := rootComplex_placed config dsdt ssdtPci placed
      exact .inl ⟨i, inside, rfl⟩
    · obtain ⟨node, listed, rfl⟩ := List.mem_map.mp there
      obtain ⟨i, placed⟩ := List.mem_iff_getElem?.mp listed
      obtain ⟨inside, base, event, pri, gerr, sync, rfl⟩ :=
        smmu_placed config dsdt ssdtPci placed
      exact .inr (.inl ⟨i, inside, base, event, pri, gerr, sync, rfl⟩)
  · obtain ⟨group, listed, rfl⟩ := List.mem_map.mp there
    obtain ⟨i, placed⟩ := List.mem_iff_getElem?.mp listed
    obtain ⟨inside, rfl⟩ := itsGroup_placed config dsdt ssdtPci placed
    exact .inr (.inr ⟨i, inside, rfl⟩)

theorem remapGraph_tokens :
    (build config dsdt ssdtPci).remapGraph.nodes.map RemapNode.token? =
      [some (rootComplexToken 0), some (rootComplexToken 1), some (smmuToken 0),
        some (smmuToken 1), some (itsGroupToken 0), some (itsGroupToken 1),
        some (itsGroupToken 2), some (itsGroupToken 3)] := rfl

end

theorem idMapping_isSingle (count : UInt32) (output : ObjectToken) :
    (idMapping count output AcpiNumber.singleMapping.value).IsSingle :=
  (by decide : AcpiNumber.singleMapping.value &&& AcpiNumber.singleMapping.value ≠ 0)

theorem idMapping_not_isSingle (count : UInt32) (output : ObjectToken) :
    ¬(idMapping count output 0).IsSingle :=
  (by decide : ¬(0 &&& AcpiNumber.singleMapping.value ≠ 0))

theorem remapGraph_closed (config : MemoryConfig) (dsdt ssdtPci : List UInt8) :
    (build config dsdt ssdtPci).remapGraph.Closed
      (.of (build config dsdt ssdtPci).repository) where
  distinct := by
    rw [remapGraph_tokens]
    decide
  notNull node there null := by
    rcases remapGraph_node config dsdt ssdtPci there with
      ⟨i, inside, rfl⟩ | ⟨i, inside, _, _, _, _, _, rfl⟩ | ⟨i, inside, rfl⟩ <;>
    exact referenceToken_ne_null _ (by omega) (Option.some.inj null)
  unitsDistinct := (by decide : ([0, 1, 2, 3] : List UInt32).Nodup)
  segments := rfl
  counted node there token count owns := by
    rcases remapGraph_node config dsdt ssdtPci there with
      ⟨i, inside, rfl⟩ | ⟨i, inside, _, _, _, _, _, rfl⟩ | ⟨i, inside, rfl⟩
    · cases owns
      exact ⟨_, rootMappings_answered config dsdt ssdtPci inside, rfl, List.cons_ne_nil _ _⟩
    · cases owns
      exact ⟨_, smmuMappings_answered config dsdt ssdtPci inside, rfl, List.cons_ne_nil _ _⟩
    · cases owns
  toSmmu root listed run read mapping chosen := by
    obtain ⟨i, placed⟩ := List.mem_iff_getElem?.mp listed
    obtain ⟨inside, rfl⟩ := rootComplex_placed config dsdt ssdtPci placed
    cases read.unique (rootMappings_answered config dsdt ssdtPci inside)
    cases List.mem_singleton.mp chosen
    have segment : (rootComplex i).segment.toNat = i :=
      UInt32.toNat_ofNat_of_lt' (Nat.lt_trans inside (by decide))
    rw [segment]
    exact smmu_named config dsdt ssdtPci inside
  toGroup i smmu placed run read mapping chosen := by
    obtain ⟨inside, _, _, _, _, _, rfl⟩ := smmu_placed config dsdt ssdtPci placed
    cases read.unique (smmuMappings_answered config dsdt ssdtPci inside)
    rcases List.mem_pair.mp chosen with rfl | rfl
    · rw [if_neg (idMapping_not_isSingle _ _)]
      obtain ⟨there, only⟩ := itsGroup_named config dsdt ssdtPci (show 2 * i + 1 < 4 by omega)
      exact ⟨_, there, only, itsGroup_answered config dsdt ssdtPci (by omega)⟩
    · rw [if_pos (idMapping_isSingle _ _)]
      obtain ⟨there, only⟩ := itsGroup_named config dsdt ssdtPci (show 2 * i < 4 by omega)
      exact ⟨_, there, only, itsGroup_answered config dsdt ssdtPci (by omega)⟩
  ownMapping smmu listed := by
    obtain ⟨i, placed⟩ := List.mem_iff_getElem?.mp listed
    obtain ⟨inside, _, _, _, _, _, rfl⟩ := smmu_placed config dsdt ssdtPci placed
    refine ⟨(by decide : (1 : UInt32) < UInt32.ofNat smmuMappingCount), ?_⟩
    intro run read j mapping chosen
    cases read.unique (smmuMappings_answered config dsdt ssdtPci inside)
    match j with
    | 0 =>
      cases chosen
      exact iff_of_false (idMapping_not_isSingle _ _) Nat.zero_ne_one
    | 1 =>
      cases chosen
      exact iff_of_true (idMapping_isSingle _ _) rfl
  toUnit i group placed := by
    obtain ⟨inside, rfl⟩ := itsGroup_placed config dsdt ssdtPci placed
    refine ⟨_, itsIdentifier_answered config dsdt ssdtPci inside, rfl, List.cons_ne_nil _ _, ?_⟩
    intro identifier chosen
    cases List.mem_singleton.mp chosen
    exact gicIts_named config dsdt ssdtPci inside

/-- References among what a chip serves lead to what they shall lead to, and all walks from a root
complex to one of the two interrupt translators of its segment. -/
theorem references_closed (config : MemoryConfig) (dsdt ssdtPci : List UInt8) :
    let objects := build config dsdt ssdtPci
    let manager := ConfigManager.of objects.repository
    let graph := objects.remapGraph
    graph.Served manager ∧ graph.Closed manager ∧
      ∀ root ∈ graph.roots, ∀ path : List RemapNode,
        (RemapNode.root root :: path).IsChain (graph.Refers manager) →
          ∃ (smmu : SmmuNode) (place : Nat) (group : ItsGroup) (unit : GicIts),
            path <+: [.smmu smmu, .group group, .its unit] ∧
              place / 2 = root.segment.toNat ∧ graph.units[place]? = some unit ∧
                [RemapNode.root root, .smmu smmu, .group group, .its unit].IsChain
                  (graph.Refers manager) := by
  intro objects manager graph
  have closed : graph.Closed manager := remapGraph_closed config dsdt ssdtPci
  refine ⟨(build_addressable config dsdt ssdtPci).remapGraph_served, closed, ?_⟩
  intro root listed path walk
  exact closed.walk_from_root listed walk

/-- Devices of the second segment come by way of the last of the interrupt translators. -/
theorem references_closed_second :
    let objects := build {} [] []
    let refers := objects.remapGraph.Refers (.of objects.repository)
    let walk : List RemapNode :=
      [.root (rootComplex 1), .smmu (smmu 1 2 0x4F000000 260 73 262 261), .group (itsGroup 3)]
    walk.IsChain refers ∧
      ∃ unit ∈ objects.gicIts, (walk ++ [RemapNode.its unit]).IsChain refers := by
  intro objects refers walk
  have first : refers (.root (rootComplex 1)) (.smmu (smmu 1 2 0x4F000000 260 73 262 261)) :=
    .mapped rfl (rootMappings_answered {} [] [] (by decide)) (.head _)
      (RemapGraph.smmu_mem (.tail _ (.head _))) rfl
  have second : refers (.smmu (smmu 1 2 0x4F000000 260 73 262 261)) (.group (itsGroup 3)) :=
    .mapped rfl (smmuMappings_answered {} [] [] (i := 1) (by decide)) (.head _)
      (RemapGraph.group_mem (.tail _ (.tail _ (.tail _ (.head _))))) rfl
  have chain : walk.IsChain refers :=
    List.isChain_cons_cons.mpr ⟨first, List.isChain_pair.mpr second⟩
  obtain ⟨-, -, walks⟩ := references_closed {} [] []
  obtain ⟨_, place, _, unit, ends, -, there, whole⟩ :=
    walks (rootComplex 1) (.tail _ (.head _)) _ chain
  obtain ⟨rest, onward⟩ := ends
  cases onward
  exact ⟨chain, unit, List.mem_of_getElem? there, whole⟩

end ChipObjects

end PlatformFirmware
