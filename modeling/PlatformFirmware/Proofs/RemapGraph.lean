import Mathlib.Data.List.Chain
import Mathlib.Data.List.Nodup
import PlatformFirmware.ConfigManager

namespace PlatformFirmware

/-- What a manager answers a request, whatever it has logged before. -/
def ConfigManager.Answers (manager : ConfigManager) (object : ArmObject) (token : ObjectToken)
    (data : ConfigData) : Prop :=
  ∀ log, (manager.getObject (.arm object) token log).1 = .ok (.of (.arm object) data)

theorem ConfigManager.Answers.unique {manager : ConfigManager} {object : ArmObject}
    {token : ObjectToken} {data other : ConfigData} (h : manager.Answers object token data)
    (h' : manager.Answers object token other) : data = other :=
  congrArg ConfigAnswer.data (Except.ok.inj ((h []).symm.trans (h' [])))

def IdMapping.IsSingle (mapping : IdMapping) : Prop :=
  mapping.flags &&& AcpiNumber.singleMapping.value ≠ 0

instance (mapping : IdMapping) : Decidable mapping.IsSingle :=
  inferInstanceAs (Decidable (_ ≠ _))

/-- A node that the remapping of identifiers comes by, up to the interrupt translators. -/
inductive RemapNode
  | root (node : RootComplex)
  | smmu (node : SmmuNode)
  | group (node : ItsGroup)
  | its (unit : GicIts)

namespace RemapNode

def token? : RemapNode → Option ObjectToken
  | root node => some node.token
  | smmu node => some node.token
  | group node => some node.token
  | its _ => none

/-- The token of the run of mappings that a node has, and how many there shall be. -/
def mappings? : RemapNode → Option (ObjectToken × UInt32)
  | root node => some (node.mappings, node.mappingCount)
  | smmu node => some (node.mappings, node.mappingCount)
  | group _ | its _ => none

end RemapNode

structure RemapGraph where
  roots : List RootComplex
  smmus : List SmmuNode
  groups : List ItsGroup
  units : List GicIts
  windows : List PciWindow

namespace RemapGraph

/-- All nodes with a token of their own. -/
def nodes (graph : RemapGraph) : List RemapNode :=
  graph.roots.map .root ++ graph.smmus.map .smmu ++ graph.groups.map .group

/-- The graph consists of what a manager serves. -/
structure Served (graph : RemapGraph) (manager : ConfigManager) : Prop where
  roots : ∀ token, manager.Answers .rootComplex token (.rootComplexes graph.roots)
  smmus : ∀ token, manager.Answers .smmuV3 token (.smmus graph.smmus)
  groups : manager.Answers .itsGroup nullToken (.itsGroups graph.groups)
  among : ∀ token found, manager.Answers .itsGroup token (.itsGroups found) →
    ∀ group ∈ found, group ∈ graph.groups
  units : ∀ token, manager.Answers .gicItsInfo token (.gicIts graph.units)
  windows : ∀ token, manager.Answers .pciConfigSpaceInfo token (.pciWindows graph.windows)

/-- One reference that can be followed: by a mapping to the node whose token it has for output, or
from a group to a translator with one of its identifiers. -/
inductive Refers (graph : RemapGraph) (manager : ConfigManager) : RemapNode → RemapNode → Prop
  | mapped {node next : RemapNode} {token : ObjectToken} {count : UInt32}
      {run : List IdMapping} {mapping : IdMapping} (owns : node.mappings? = some (token, count))
      (read : manager.Answers .idMappingArray token (.idMappings run)) (listed : mapping ∈ run)
      (known : next ∈ graph.nodes) (named : next.token? = some mapping.output) :
      Refers graph manager node next
  | identified {group : ItsGroup} {unit : GicIts} {found : List ItsIdentifier}
      {identifier : ItsIdentifier}
      (read : manager.Answers .gicItsIdentifierArray group.identifiers (.itsIdentifiers found))
      (listed : identifier ∈ found) (known : unit ∈ graph.units)
      (named : unit.id = identifier.id) : Refers graph manager (.group group) (.its unit)

/-- Every reference of the graph leads to the one node it shall lead to. The address translator of
a root complex is the one in the place of its segment; of the interrupt translators, the first of
two is for an address translator itself and the second for the devices behind it. -/
structure Closed (graph : RemapGraph) (manager : ConfigManager) : Prop where
  distinct : (graph.nodes.map RemapNode.token?).Nodup
  notNull : ∀ node ∈ graph.nodes, node.token? ≠ some nullToken
  unitsDistinct : (graph.units.map GicIts.id).Nodup
  segments : graph.roots.map (fun root => root.segment.toNat) =
    graph.windows.map fun window => window.segment.toNat
  counted : ∀ node ∈ graph.nodes, ∀ token count, node.mappings? = some (token, count) →
    ∃ run, manager.Answers .idMappingArray token (.idMappings run) ∧
      run.length = count.toNat ∧ run ≠ []
  toSmmu : ∀ root ∈ graph.roots, ∀ run,
    manager.Answers .idMappingArray root.mappings (.idMappings run) → ∀ mapping ∈ run,
      ∃ smmu : SmmuNode, graph.smmus[root.segment.toNat]? = some smmu ∧
        graph.smmus.filter (fun other => other.token = mapping.output) = [smmu]
  toGroup : ∀ (i : Nat) (smmu : SmmuNode), graph.smmus[i]? = some smmu → ∀ run,
    manager.Answers .idMappingArray smmu.mappings (.idMappings run) → ∀ mapping ∈ run,
      ∃ group : ItsGroup,
        graph.groups[2 * i + if mapping.IsSingle then 0 else 1]? = some group ∧
          graph.groups.filter (fun other => other.token = mapping.output) = [group] ∧
            manager.Answers .itsGroup mapping.output (.itsGroups [group])
  ownMapping : ∀ smmu ∈ graph.smmus, smmu.ownMapping < smmu.mappingCount ∧ ∀ run,
    manager.Answers .idMappingArray smmu.mappings (.idMappings run) →
      ∀ (i : Nat) (mapping : IdMapping), run[i]? = some mapping →
        (mapping.IsSingle ↔ i = smmu.ownMapping.toNat)
  toUnit : ∀ (i : Nat) (group : ItsGroup), graph.groups[i]? = some group → ∃ found,
    manager.Answers .gicItsIdentifierArray group.identifiers (.itsIdentifiers found) ∧
      found.length = group.identifierCount.toNat ∧ found ≠ [] ∧ ∀ identifier ∈ found,
        ∃ unit : GicIts, graph.units[i]? = some unit ∧ unit.id = identifier.id

section

variable {graph : RemapGraph} {manager : ConfigManager}

theorem root_mem {root : RootComplex} (h : root ∈ graph.roots) : .root root ∈ graph.nodes :=
  List.mem_append_left _ (List.mem_append_left _ (List.mem_map_of_mem h))

theorem smmu_mem {smmu : SmmuNode} (h : smmu ∈ graph.smmus) : .smmu smmu ∈ graph.nodes :=
  List.mem_append_left _ (List.mem_append_right _ (List.mem_map_of_mem h))

theorem group_mem {group : ItsGroup} (h : group ∈ graph.groups) : .group group ∈ graph.nodes :=
  List.mem_append_right _ (List.mem_map_of_mem h)

theorem Closed.node_unique (closed : graph.Closed manager) {node other : RemapNode}
    (hn : node ∈ graph.nodes) (ho : other ∈ graph.nodes) (same : node.token? = other.token?) :
    node = other :=
  List.inj_on_of_nodup_map closed.distinct hn ho same

theorem Closed.unit_unique (closed : graph.Closed manager) {unit other : GicIts}
    (hu : unit ∈ graph.units) (ho : other ∈ graph.units) (same : unit.id = other.id) :
    unit = other :=
  List.inj_on_of_nodup_map closed.unitsDistinct hu ho same

theorem mem_of_filter_eq {α : Type} {objects : List α} {meant : α → Bool} {object : α}
    (only : objects.filter meant = [object]) : object ∈ objects ∧ meant object :=
  List.mem_filter.mp (only ▸ List.mem_singleton_self object)

/-- A root complex refers to the address translator of its segment, and to nothing else. -/
theorem Closed.next_of_root (closed : graph.Closed manager) {root : RootComplex}
    (listed : root ∈ graph.roots) {next : RemapNode}
    (step : graph.Refers manager (.root root) next) :
    ∃ smmu : SmmuNode, next = .smmu smmu ∧ graph.smmus[root.segment.toNat]? = some smmu := by
  cases step with
  | mapped owns read chosen known named =>
    cases owns
    obtain ⟨smmu, placed, only⟩ := closed.toSmmu root listed _ read _ chosen
    obtain ⟨there, token⟩ := mem_of_filter_eq only
    refine ⟨smmu, closed.node_unique known (smmu_mem there) ?_, placed⟩
    rw [named, RemapNode.token?, of_decide_eq_true token]

theorem Closed.next_of_smmu (closed : graph.Closed manager) {i : Nat} {smmu : SmmuNode}
    (placed : graph.smmus[i]? = some smmu) {next : RemapNode}
    (step : graph.Refers manager (.smmu smmu) next) :
    ∃ (place : Nat) (group : ItsGroup), place / 2 = i ∧ next = .group group ∧
      graph.groups[place]? = some group := by
  cases step with
  | mapped owns read chosen known named =>
    cases owns
    obtain ⟨group, there, only, -⟩ := closed.toGroup i smmu placed _ read _ chosen
    obtain ⟨there', token⟩ := mem_of_filter_eq only
    refine ⟨_, group, ?_, closed.node_unique known (group_mem there') ?_, there⟩
    · split <;> omega
    · rw [named, RemapNode.token?, of_decide_eq_true token]

theorem Closed.next_of_group (closed : graph.Closed manager) {i : Nat} {group : ItsGroup}
    (placed : graph.groups[i]? = some group) {next : RemapNode}
    (step : graph.Refers manager (.group group) next) :
    ∃ unit : GicIts, next = .its unit ∧ graph.units[i]? = some unit := by
  cases step with
  | mapped owns => cases owns
  | identified read chosen known named =>
    obtain ⟨found, read', -, -, leads⟩ := closed.toUnit i group placed
    cases read.unique read'
    obtain ⟨unit, there, same⟩ := leads _ chosen
    refine ⟨unit, congrArg RemapNode.its ?_, there⟩
    exact closed.unit_unique known (List.mem_of_getElem? there) (named.trans same.symm)

theorem no_next_of_its {unit : GicIts} {next : RemapNode} :
    ¬graph.Refers manager (.its unit) next := by
  intro step
  cases step with
  | mapped owns => cases owns

theorem Closed.mapped (closed : graph.Closed manager) {node : RemapNode}
    (there : node ∈ graph.nodes) {token : ObjectToken} {count : UInt32}
    (owns : node.mappings? = some (token, count)) :
    ∃ (run : List IdMapping) (mapping : IdMapping),
      manager.Answers .idMappingArray token (.idMappings run) ∧ mapping ∈ run := by
  obtain ⟨run, read, -, some⟩ := closed.counted node there token count owns
  obtain ⟨mapping, listed⟩ := List.exists_mem_of_ne_nil run some
  exact ⟨run, mapping, read, listed⟩

theorem Closed.root_refers (closed : graph.Closed manager) {root : RootComplex}
    (listed : root ∈ graph.roots) : ∃ next, graph.Refers manager (.root root) next := by
  obtain ⟨run, mapping, read, chosen⟩ := closed.mapped (root_mem listed) rfl
  obtain ⟨smmu, -, only⟩ := closed.toSmmu root listed run read mapping chosen
  obtain ⟨there, token⟩ := mem_of_filter_eq only
  exact ⟨_, .mapped rfl read chosen (smmu_mem there) (congrArg some (of_decide_eq_true token))⟩

theorem Closed.smmu_refers (closed : graph.Closed manager) {i : Nat} {smmu : SmmuNode}
    (placed : graph.smmus[i]? = some smmu) : ∃ next, graph.Refers manager (.smmu smmu) next := by
  obtain ⟨run, mapping, read, chosen⟩ :=
    closed.mapped (smmu_mem (List.mem_of_getElem? placed)) rfl
  obtain ⟨group, -, only, -⟩ := closed.toGroup i smmu placed run read mapping chosen
  obtain ⟨there, token⟩ := mem_of_filter_eq only
  exact ⟨_, .mapped rfl read chosen (group_mem there) (congrArg some (of_decide_eq_true token))⟩

theorem Closed.group_refers (closed : graph.Closed manager) {i : Nat} {group : ItsGroup}
    (placed : graph.groups[i]? = some group) :
    ∃ next, graph.Refers manager (.group group) next := by
  obtain ⟨found, read, -, some, leads⟩ := closed.toUnit i group placed
  obtain ⟨identifier, listed⟩ := List.exists_mem_of_ne_nil found some
  obtain ⟨unit, there, same⟩ := leads identifier listed
  exact ⟨_, .identified read listed (List.mem_of_getElem? there) same⟩

/-- The first step of a walk, or one that it can take if it has not begun. -/
theorem walk_head {node : RemapNode} {path : List RemapNode}
    (walk : (node :: path).IsChain (graph.Refers manager))
    (onward : ∃ next, graph.Refers manager node next) :
    ∃ next rest, graph.Refers manager node next ∧
      (next :: rest).IsChain (graph.Refers manager) ∧ path <+: next :: rest := by
  cases path with
  | nil =>
    obtain ⟨next, step⟩ := onward
    exact ⟨next, [], step, List.isChain_singleton next, List.nil_prefix⟩
  | cons next rest =>
    obtain ⟨step, walk⟩ := List.isChain_cons_cons.mp walk
    exact ⟨next, rest, step, walk, List.prefix_refl _⟩

theorem walk_from_its {unit : GicIts} {path : List RemapNode}
    (walk : (RemapNode.its unit :: path).IsChain (graph.Refers manager)) : path = [] := by
  cases path with
  | nil => rfl
  | cons next rest => exact absurd (List.isChain_cons_cons.mp walk).1 no_next_of_its

theorem Closed.walk_from_group (closed : graph.Closed manager) {i : Nat} {group : ItsGroup}
    (placed : graph.groups[i]? = some group) {path : List RemapNode}
    (walk : (RemapNode.group group :: path).IsChain (graph.Refers manager)) :
    ∃ unit : GicIts, path <+: [.its unit] ∧ graph.units[i]? = some unit ∧
      [RemapNode.group group, .its unit].IsChain (graph.Refers manager) := by
  obtain ⟨next, rest, step, walk, ahead⟩ := walk_head walk (closed.group_refers placed)
  obtain ⟨unit, rfl, there⟩ := closed.next_of_group placed step
  cases walk_from_its walk
  exact ⟨unit, ahead, there, List.isChain_pair.mpr step⟩

theorem Closed.walk_from_smmu (closed : graph.Closed manager) {i : Nat} {smmu : SmmuNode}
    (placed : graph.smmus[i]? = some smmu) {path : List RemapNode}
    (walk : (RemapNode.smmu smmu :: path).IsChain (graph.Refers manager)) :
    ∃ (place : Nat) (group : ItsGroup) (unit : GicIts), path <+: [.group group, .its unit] ∧
      place / 2 = i ∧ graph.units[place]? = some unit ∧
        [RemapNode.smmu smmu, .group group, .its unit].IsChain (graph.Refers manager) := by
  obtain ⟨next, rest, step, walk, ahead⟩ := walk_head walk (closed.smmu_refers placed)
  obtain ⟨place, group, own, rfl, there⟩ := closed.next_of_smmu placed step
  obtain ⟨unit, ends, found, onward⟩ := closed.walk_from_group there walk
  exact ⟨place, group, unit, ahead.trans (List.cons_prefix_cons.mpr ⟨rfl, ends⟩), own, found,
    List.isChain_cons_cons.mpr ⟨step, onward⟩⟩

/-- A walk from a root complex is part of one to an interrupt translator, which ends there. -/
theorem Closed.walk_from_root (closed : graph.Closed manager) {root : RootComplex}
    (listed : root ∈ graph.roots) {path : List RemapNode}
    (walk : (RemapNode.root root :: path).IsChain (graph.Refers manager)) :
    ∃ (smmu : SmmuNode) (place : Nat) (group : ItsGroup) (unit : GicIts),
      path <+: [.smmu smmu, .group group, .its unit] ∧ place / 2 = root.segment.toNat ∧
        graph.units[place]? = some unit ∧
          [RemapNode.root root, .smmu smmu, .group group, .its unit].IsChain
            (graph.Refers manager) := by
  obtain ⟨next, rest, step, walk, ahead⟩ := walk_head walk (closed.root_refers listed)
  obtain ⟨smmu, rfl, there⟩ := closed.next_of_root listed step
  obtain ⟨place, group, unit, ends, own, found, onward⟩ := closed.walk_from_smmu there walk
  exact ⟨smmu, place, group, unit, ahead.trans (List.cons_prefix_cons.mpr ⟨rfl, ends⟩), own,
    found, List.isChain_cons_cons.mpr ⟨step, onward⟩⟩

end

end RemapGraph

end PlatformFirmware
