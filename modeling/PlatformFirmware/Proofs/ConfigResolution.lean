import Mathlib.Data.List.Find
import PlatformFirmware.ConfigManager
import PlatformFirmware.Proofs.Effects
import PlatformFirmware.Proofs.ObjectToken

namespace PlatformFirmware

/-- All objects for the null token; for another one, the run whose first object it refers to. A
run is the place of its first object, and its length. -/
def referredTo {α : Type} (object : ArmObject) (objects : List α) (runs : List (Nat × Nat))
    (token : ObjectToken) : Except EfiError (List α) :=
  if token = nullToken then .ok objects
  else
    match runs.find? fun run => token = referenceToken object (UInt64.ofNat run.1) with
    | some (start, count) => .ok ((objects.drop start).take count)
    | none => .error .notFound

/-- Each object as a run of its own. -/
def singleRuns {α : Type} (objects : List α) : List (Nat × Nat) :=
  (List.range objects.length).map fun index => (index, 1)

namespace ChipObjects

def servedStandard (objects : ChipObjects) : Nat → Except EfiError ConfigData
  | 0 => .ok (.managerInfo [⟨0x10000, [0x41, 0x52, 0x4D, 0x4C, 0x54, 0x44]⟩])
  | 1 => .ok (.acpiTables objects.tables)
  | _ => .error .notFound

def servedArm (objects : ChipObjects) (token : ObjectToken) : Nat → Except EfiError ConfigData
  | 8 => .ok (.gicIts objects.gicIts)
  | 15 => .ok (.pciWindows objects.pciWindows)
  | 18 =>
    (referredTo .itsGroup objects.itsGroups (singleRuns objects.itsGroups) token).map .itsGroups
  | 20 => .ok (.rootComplexes objects.rootComplexes)
  | 22 => .ok (.smmus objects.smmus)
  | 24 =>
    (referredTo .gicItsIdentifierArray objects.itsIdentifiers
      (singleRuns objects.itsIdentifiers) token).map .itsIdentifiers
  | 25 =>
    (referredTo .idMappingArray objects.idMappings [(0, 2), (2, 1), (3, 1), (4, 2)] token).map
      .idMappings
  | _ => .error .notFound

/-- What a chip serves for a token, by the numbers of the namespace and of the object. -/
def served (objects : ChipObjects) (token : ObjectToken) (space object : Nat) :
    Except EfiError ConfigData :=
  match space with
  | 0 => objects.servedStandard object
  | 1 => objects.servedArm token object
  | 8 => .error .notFound
  | _ => .error .invalidParameter

end ChipObjects

/-- Among runs that start inside an array of objects, looking one up by its place finds what
looking it up by its token does. -/
theorem find_run {object : ArmObject} {token : ObjectToken} {count : Nat}
    {runs : List (Nat × Nat)} (small : count ≤ 0xFFFF) (inside : ∀ run ∈ runs, run.1 < count) :
    ((tokenIndex? object token count).bind fun index => runs.find? fun run => run.1 == index) =
      runs.find? fun run => token = referenceToken object (UInt64.ofNat run.1) := by
  cases meant : tokenIndex? object token count with
  | none =>
    rw [Option.bind_none, eq_comm, List.find?_eq_none]
    intro run listed same
    have place := tokenIndex?_eq_some.mpr
      ⟨Nat.lt_of_lt_of_le (inside run listed) small, inside run listed, of_decide_eq_true same⟩
    rw [meant] at place
    cases place
  | some index =>
    obtain ⟨-, -, rfl⟩ := tokenIndex?_eq_some.mp meant
    rw [Option.bind_some]
    -- Two places of the array cannot have the same token, since a token means one place.
    refine List.find?_congr fun run listed => ?_
    rw [Bool.eq_iff_iff, beq_iff_eq, decide_eq_true_iff]
    constructor
    · rintro rfl
      rfl
    · intro same
      have place := tokenIndex?_eq_some.mpr
        ⟨Nat.lt_of_lt_of_le (inside run listed) small, inside run listed, same⟩
      exact Option.some.inj (place.symm.trans meant)

theorem answerByToken_fst (id : ObjectId) (data : ConfigData) (token : ObjectToken)
    (find : ObjectId → ObjectToken → LogM ConfigAnswer) (log : List LogRecord) :
    (answerByToken id data token find log).1 =
      if token = nullToken then .ok (.of id data) else (find id token log).1 := by
  unfold answerByToken
  split
  · rfl
  · rw [bind_state]
    rcases find id token log with ⟨_ | _, _⟩ <;> rfl

namespace ChipObjects

/-- The run that starts at the object that a token means, if the whole of it is there. -/
def runAt? {α : Type} (object : ArmObject) (objects : List α) (runs : List (Nat × Nat))
    (token : ObjectToken) : Option (List α) :=
  ((tokenIndex? object token objects.length).bind fun index =>
    runs.find? fun run => run.1 == index).bind fun run => run? objects run.1 run.2

/-- The runs lie inside an array whose places can all be counted in a token. -/
structure RunsInside {α : Type} (objects : List α) (runs : List (Nat × Nat)) : Prop where
  small : objects.length ≤ 0xFFFF
  inside : ∀ run ∈ runs, run.1 < objects.length ∧ run.1 + run.2 ≤ objects.length

theorem RunsInside.singleRuns {α : Type} {objects : List α} (small : objects.length ≤ 0xFFFF) :
    RunsInside objects (singleRuns objects) where
  small
  inside := by
    intro run listed
    obtain ⟨place, inside, rfl⟩ := List.mem_map.mp listed
    have := List.mem_range.mp inside
    exact ⟨this, this⟩

theorem RunsInside.referredTo_eq {α : Type} {object : ArmObject} {objects : List α}
    {runs : List (Nat × Nat)} {token : ObjectToken} (fits : RunsInside objects runs)
    (other : token ≠ nullToken) :
    referredTo object objects runs token =
      (runAt? object objects runs token).elim (.error .notFound) .ok := by
  rw [runAt?, find_run fits.small fun run listed => (fits.inside run listed).1, referredTo,
    if_neg other]
  cases found : runs.find? fun run => token = referenceToken object (UInt64.ofNat run.1) with
  | none => rfl
  | some run =>
    rw [Option.bind_some, run?, if_pos (fits.inside run (List.mem_of_find?_eq_some found)).2]
    rfl

/-- Among runs of one object each, every object is found at its place. -/
theorem runAt?_singleRuns {α : Type} (object : ArmObject) (objects : List α)
    (token : ObjectToken) :
    runAt? object objects (singleRuns objects) token =
      (tokenIndex? object token objects.length).bind fun index => run? objects index 1 := by
  rw [runAt?, Option.bind_assoc]
  congr 1
  funext index
  rw [singleRuns, List.find?_map]
  cases found : (List.range objects.length).find?
      ((fun run : Nat × Nat => run.1 == index) ∘ fun place => (place, 1)) with
  | none =>
    have outside : ¬index < objects.length := fun inside =>
      List.find?_eq_none.mp found index (List.mem_range.mpr inside) (beq_self_eq_true index)
    exact (if_neg outside).symm
  | some place =>
    have same := List.find?_some found
    cases eq_of_beq same
    rfl

theorem RunsInside.answerByToken_fst {α : Type} {object : ArmObject} {objects : List α}
    {runs : List (Nat × Nat)} (fits : RunsInside objects runs) (data : List α → ConfigData)
    {find : ObjectId → ObjectToken → LogM ConfigAnswer} {id : ObjectId} {token : ObjectToken}
    {log : List LogRecord}
    (finds : (find id token log).1 =
      (runAt? object objects runs token).elim (.error (.refused .notFound)) fun found =>
        .ok (.of id (data found))) :
    (answerByToken id (data objects) token find log).1 =
      (((referredTo object objects runs token).map data).map
        (ConfigAnswer.of id)).mapError .refused := by
  rw [PlatformFirmware.answerByToken_fst]
  by_cases null : token = nullToken
  · rw [if_pos null, referredTo, if_pos null]
    rfl
  · rw [if_neg null, finds, fits.referredTo_eq null]
    cases runAt? object objects runs token <;> rfl

theorem itsGroupAt_fst (objects : ChipObjects) (id : ObjectId) (token : ObjectToken)
    (log : List LogRecord) :
    (objects.itsGroupAt id token log).1 =
      (runAt? .itsGroup objects.itsGroups (singleRuns objects.itsGroups) token).elim
        (.error (.refused .notFound)) fun groups => .ok (.of id (.itsGroups groups)) := by
  rw [runAt?_singleRuns]
  unfold itsGroupAt
  cases (tokenIndex? .itsGroup token objects.itsGroups.length).bind fun index =>
    run? objects.itsGroups index 1 <;> rfl

theorem itsIdentifierAt_fst (objects : ChipObjects) (id : ObjectId) (token : ObjectToken)
    (log : List LogRecord) :
    (objects.itsIdentifierAt id token log).1 =
      (runAt? .gicItsIdentifierArray objects.itsIdentifiers
          (singleRuns objects.itsIdentifiers) token).elim
        (.error (.refused .notFound)) fun found => .ok (.of id (.itsIdentifiers found)) := by
  rw [runAt?_singleRuns]
  unfold itsIdentifierAt
  cases (tokenIndex? .gicItsIdentifierArray token objects.itsIdentifiers.length).bind
    fun index => run? objects.itsIdentifiers index 1 <;> rfl

theorem mappingRun_fst {objects : ChipObjects} (all : objects.idMappings.length = mappingCount)
    (id : ObjectId) (token : ObjectToken) (log : List LogRecord) :
    (objects.mappingRun id token log).1 =
      (runAt? .idMappingArray objects.idMappings mappingRuns token).elim
        (.error (.refused .notFound)) fun mappings => .ok (.of id (.idMappings mappings)) := by
  simp only [mappingRun, runAt?, all]
  rw [bind_state]
  cases (tokenIndex? .idMappingArray token mappingCount).bind fun index =>
    mappingRuns.find? fun run => run.1 == index with
  | none => rfl
  | some run =>
    simp only [Option.bind_some]
    cases run? objects.idMappings run.1 run.2 <;> rfl

/-- The places of every array can be counted in a token, and there is a mapping for every place
that a run of mappings has. -/
structure Addressable (objects : ChipObjects) : Prop where
  tables : objects.tables.length ≤ 0xFFFF
  gicIts : objects.gicIts.length ≤ 0xFFFF
  itsGroups : objects.itsGroups.length ≤ 0xFFFF
  itsIdentifiers : objects.itsIdentifiers.length ≤ 0xFFFF
  smmus : objects.smmus.length ≤ 0xFFFF
  rootComplexes : objects.rootComplexes.length ≤ 0xFFFF
  idMappings : objects.idMappings.length = mappingCount
  pciWindows : objects.pciWindows.length ≤ 0xFFFF

theorem build_addressable (config : MemoryConfig) (dsdt ssdtPci : List UInt8) :
    (build config dsdt ssdtPci).Addressable where
  tables := (by decide : 10 ≤ 0xFFFF)
  gicIts := (by decide : 4 ≤ 0xFFFF)
  itsGroups := (by decide : 4 ≤ 0xFFFF)
  itsIdentifiers := (by decide : 4 ≤ 0xFFFF)
  smmus := (by decide : 2 ≤ 0xFFFF)
  rootComplexes := (by decide : 2 ≤ 0xFFFF)
  idMappings := rfl
  pciWindows := (by decide : 2 ≤ 0xFFFF)

theorem Addressable.mappingRuns_inside {objects : ChipObjects} (whole : objects.Addressable) :
    RunsInside objects.idMappings mappingRuns := by
  constructor
  · rw [whole.idMappings]
    decide
  · rw [whole.idMappings]
    decide

theorem Addressable.armObject_fst {objects : ChipObjects} (whole : objects.Addressable)
    (id : ObjectId) (token : ObjectToken) (log : List LogRecord) :
    (objects.armObject id token log).1 =
      ((objects.servedArm token id.object.toNat).map (ConfigAnswer.of id)).mapError .refused := by
  unfold armObject
  cases named : ArmObject.ofNumber? id.object with
  | none =>
    have beyond : 29 ≤ id.object.toNat := List.getElem?_eq_none_iff.mp named
    have nothing : objects.servedArm token id.object.toNat = .error .notFound := by
      unfold servedArm
      split <;> first | rfl | omega
    rw [nothing]
    rfl
  | some object =>
    rw [ArmObject.ofNumber?_eq_some.mp named]
    cases object with
    | itsGroup =>
      exact (RunsInside.singleRuns whole.itsGroups).answerByToken_fst .itsGroups
        (objects.itsGroupAt_fst id token log)
    | gicItsIdentifierArray =>
      exact (RunsInside.singleRuns whole.itsIdentifiers).answerByToken_fst .itsIdentifiers
        (objects.itsIdentifierAt_fst id token log)
    | idMappingArray =>
      exact whole.mappingRuns_inside.answerByToken_fst .idMappings
        (mappingRun_fst whole.idMappings id token log)
    -- The token plays no part: the whole array is served, or there is none.
    | _ => rfl

theorem standardObject_fst (objects : ChipObjects) (id : ObjectId) (token : ObjectToken)
    (log : List LogRecord) :
    ((ConfigManager.of objects.repository).standardObject id token log).1 =
      ((objects.servedStandard id.object.toNat).map (ConfigAnswer.of id)).mapError .refused := by
  unfold ConfigManager.standardObject
  cases named : StandardObject.ofNumber? id.object with
  | none =>
    have beyond : 3 ≤ id.object.toNat := List.getElem?_eq_none_iff.mp named
    have nothing : objects.servedStandard id.object.toNat = .error .notFound := by
      unfold servedStandard
      split <;> first | rfl | omega
    change (answerTables objects.tables id log).1 = _
    rw [answerTables, named, nothing]
    rfl
  | some object =>
    rw [StandardObject.ofNumber?_eq_some.mp named]
    cases object with
    | managerInfo => rfl
    | acpiTables | smbiosTables =>
      change (answerTables objects.tables id log).1 = _
      rw [answerTables, named]
      rfl

end ChipObjects

/-- Whether a missing object is logged does not change the answer. -/
theorem ConfigManager.getObject_fst (manager : ConfigManager) (id : ObjectId)
    (token : ObjectToken) (log : List LogRecord) :
    (manager.getObject id token log).1 = (manager.namespaceObject id token log).1 := by
  rw [getObject, bind_state, lift_state, ExceptT.run]
  rcases manager.namespaceObject id token log with ⟨fault | _, _⟩
  · cases fault with
    | halted => rfl
    | refused reason => cases reason <;> rfl
  · rfl

theorem ChipObjects.Addressable.getObject_fst {objects : ChipObjects}
    (whole : objects.Addressable) (id : ObjectId) (token : ObjectToken) (log : List LogRecord) :
    ((ConfigManager.of objects.repository).getObject id token log).1 =
      ((objects.served token (id.value.toBitVec.extractLsb 31 28).toNat
        (id.value.toBitVec.extractLsb 7 0).toNat).map (ConfigAnswer.of id)).mapError .refused := by
  rw [ConfigManager.getObject_fst, ← id.namespaceNumber_toNat, ← id.object_toNat,
    ConfigManager.namespaceObject, ObjectId.objectNamespace?]
  cases named : ObjectNamespace.ofNumber? id.namespaceNumber with
  | none =>
    have unknown : objects.served token id.namespaceNumber.toNat id.object.toNat =
        .error .invalidParameter := by
      have other (space : ObjectNamespace) : id.namespaceNumber.toNat ≠ space.number.toNat :=
        fun same => ObjectNamespace.ofNumber?_eq_none.mp named space (UInt32.toNat_inj.mp same)
      unfold served
      split
      next standard => exact absurd standard (other .standard)
      next arm => exact absurd arm (other .arm)
      next oem => exact absurd oem (other .oem)
      next => rfl
    rw [unknown]
    rfl
  | some space =>
    rw [ObjectNamespace.ofNumber?_eq_some.mp named]
    cases space with
    | standard => exact objects.standardObject_fst id token log
    | arm => exact whole.armObject_fst id token log
    | oem => rfl

end PlatformFirmware
