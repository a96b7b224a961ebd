import PlatformFirmware.Proofs.BoardRegions
import PlatformFirmware.Proofs.PlatformInfoFields

namespace PlatformFirmware

/-- What becomes of a plan of blocks that a producer is asked for: it gets all of them, or those up
to the first that it does not take. -/
inductive HandsOver (answers : List (Except EfiError Unit)) (plan : List HandOffBlock) :
    List HandOffBlock → Except Fault Unit → Prop
  | all (taken : ∀ i < plan.length, answers.getD i (.ok ()) = .ok ()) :
      HandsOver answers plan plan (.ok ())
  | upTo {i : Nat} {reason : EfiError} (inside : i < plan.length)
      (taken : ∀ j < i, answers.getD j (.ok ()) = .ok ())
      (fails : answers.getD i (.ok ()) = .error reason) :
      HandsOver answers plan (plan.take (i + 1)) (.error (.refused reason))

/-- The memory that a block describes: where it begins, and how long it is. -/
def HandOffBlock.span? : HandOffBlock → Option (UInt64 × UInt64)
  | .resource block => some (block.start, block.length)
  | .guid _ _ => none

def MemoryMap.spans (map : MemoryMap) (description : String) : List (UInt64 × UInt64) :=
  (map.regions.filter fun region => region.description == description).map fun region =>
    (region.descriptor.physicalBase, region.descriptor.length)

theorem HandsOver.made_initial {answers : List (Except EfiError Unit)} {plan made : List HandOffBlock}
    {result : Except Fault Unit} (h : HandsOver answers plan made result) : made <+: plan := by
  cases h with
  | all => exact List.prefix_refl plan
  | upTo => exact List.take_prefix _ plan

theorem HandsOver.ok_iff {answers : List (Except EfiError Unit)} {plan made : List HandOffBlock}
    {result : Except Fault Unit} (h : HandsOver answers plan made result) :
    result = .ok () ↔ ∀ i < plan.length, answers.getD i (.ok ()) = .ok () := by
  cases h with
  | all taken => exact ⟨fun _ => taken, fun _ => rfl⟩
  | upTo inside _ fails =>
    refine ⟨nofun, fun taken => ?_⟩
    rw [taken _ inside] at fails
    cases fails

theorem HandsOver.all_made {answers : List (Except EfiError Unit)}
    {plan made : List HandOffBlock} (h : HandsOver answers plan made (.ok ())) : made = plan := by
  cases h
  rfl

theorem getD_tail {α : Type} (values : List α) (i : Nat) (default : α) :
    values.tail.getD i default = values.getD (i + 1) default := by
  cases values <;> rfl

theorem HandsOver.cons {answers : List (Except EfiError Unit)} {plan made : List HandOffBlock}
    {result : Except Fault Unit} (block : HandOffBlock)
    (taken : answers.getD 0 (.ok ()) = .ok ()) (h : HandsOver answers.tail plan made result) :
    HandsOver answers (block :: plan) (block :: made) result := by
  cases h with
  | all rest =>
    refine .all fun i hi => ?_
    cases i with
    | zero => exact taken
    | succ i => exact getD_tail answers i _ ▸ rest i (Nat.lt_of_succ_lt_succ hi)
  | upTo inside rest fails =>
    refine .upTo (Nat.succ_lt_succ inside) (fun j hj => ?_) (getD_tail answers _ _ ▸ fails)
    cases j with
    | zero => exact taken
    | succ j => exact getD_tail answers j _ ▸ rest j (Nat.lt_of_succ_lt_succ hj)

namespace BoardMap

theorem logging_apply {α : Type} (action : LogM α) (trace : BoardTrace) :
    logging action trace =
      ((action trace.log).1, { trace with log := (action trace.log).2 }) := rfl

theorem produce_apply (block : HandOffBlock) (trace : BoardTrace) :
    produce block trace =
      ((trace.answers.getD 0 (.ok ())).mapError .refused,
        { trace with answers := trace.answers.tail, blocks := trace.blocks ++ [block] }) := by
  obtain ⟨answers, blocks, log⟩ := trace
  rcases answers with _ | ⟨_ | _, _⟩ <;> rfl

/-- Asking for the blocks of a plan one after the other, as long as they are taken. -/
theorem forM_produce (plan : List HandOffBlock) (trace : BoardTrace) :
    ∃ made, (forM plan produce trace).2.blocks = trace.blocks ++ made ∧
      HandsOver trace.answers plan made (forM plan produce trace).1 := by
  induction plan generalizing trace with
  | nil => exact ⟨[], (List.append_nil _).symm, .all nofun⟩
  | cons block plan ih =>
    rw [List.forM_cons, bind_state, produce_apply]
    cases answer : trace.answers.getD 0 (.ok ()) with
    | error reason =>
      exact ⟨[block], rfl, .upTo (Nat.succ_pos _) (fun j none => absurd none (Nat.not_lt_zero j))
        answer⟩
    | ok =>
      -- The answer is used up, so the rest of the plan meets the answers that follow it.
      obtain ⟨made, blocks, rest⟩ := ih
        { trace with answers := trace.answers.tail, blocks := trace.blocks ++ [block] }
      refine ⟨block :: made, blocks.trans ?_, rest.cons block answer⟩
      rw [List.append_assoc]
      rfl

def dramBlock2Plan (config : MemoryConfig) (localMemory : UInt64) : List HandOffBlock :=
  if localMemory ≤ size2GB then []
  else
    [.resource
      { header := { kind := 3, length := 48, reserved := 0 }
        owner := ⟨0, 0, 0, 0, 0⟩
        resourceType := systemMemoryType
        attributes := dramBlock2Attributes
        start := config.dramBlock2Base
        length := localMemory - size2GB }]

def chipPlan (config : MemoryConfig) (info : PlatformInfo) : List HandOffBlock :=
  .guid ⟨{ kind := 4, length := 48, reserved := 0 }, platformInfoGuid⟩ info.toBytes ::
    dramBlock2Plan config info.localMemory

theorem produceDramBlock2_eq (config : MemoryConfig) (localMemory : UInt64) :
    produceDramBlock2 config (Board.dramBlock2Size localMemory) =
      forM (dramBlock2Plan config localMemory) produce := by
  unfold produceDramBlock2 dramBlock2Plan
  by_cases within : localMemory ≤ size2GB
  · rw [if_neg fun filled => filled (dramBlock2Size_eq_zero.mpr within), if_pos within]
    rfl
  · rw [if_pos fun none => within (dramBlock2Size_eq_zero.mp none), if_neg within,
      dramBlock2Size_eq, if_neg within, List.forM_cons, List.forM_nil]
    exact (bind_pure_unit (x := _)).symm

theorem toBytes_length (info : PlatformInfo) : info.toBytes.length = 24 := rfl

theorem guidBlock_build (name : Guid) (log : List LogRecord) :
    GuidBlock.build name (UInt64.ofNat 24) log = (.ok ⟨⟨4, 48, 0⟩, name⟩, log) := rfl

/-- The end of building a map, once it is complete: a plan of blocks is handed over, and the map
is logged. -/
def report (plan : List HandOffBlock) (map : MemoryMap) : BoardM MemoryMap := do
  forM plan produce
  logging (.lift map.writeTable)
  return map

theorem report_hands_over (plan : List HandOffBlock) (map : MemoryMap) (trace : BoardTrace) :
    ∃ made, (report plan map trace).2.blocks = trace.blocks ++ made ∧
      HandsOver trace.answers plan made ((report plan map trace).1.map fun _ => ()) ∧
      ∀ found, (report plan map trace).1 = .ok found → found = map := by
  obtain ⟨made, blocks, taken⟩ := forM_produce plan trace
  unfold report
  rw [bind_state]
  rcases ran : forM plan produce trace with ⟨fault | _, after⟩
  · rw [ran] at blocks taken
    exact ⟨made, blocks, taken, nofun⟩
  · rw [ran] at blocks taken
    refine ⟨made, blocks, taken, ?_⟩
    rintro found ⟨⟩
    rfl

def chipMap (config : MemoryConfig) (localMemory : UInt64) : MemoryMap :=
  ⟨chipRegions config (Board.dramBlock2Size localMemory), chipMaxDescriptors⟩

def modelMap (config : MemoryConfig) (localMemory : UInt64) : MemoryMap :=
  ⟨modelRegions config (Board.dramBlock2Size localMemory), modelDescriptors config⟩

theorem chip_obtained {config : MemoryConfig} {located : Except EfiError (List UInt8)}
    {trace : BoardTrace} {info : PlatformInfo} {log : List LogRecord}
    (h : PlatformInfo.locate located trace.log = (.ok info, log)) :
    chip config located trace =
      report (chipPlan config info) (chipMap config info.localMemory) { trace with log } := by
  unfold chip report chipPlan
  rw [List.forM_cons, bind_assoc, ← produceDramBlock2_eq, bind_state, logging_apply, h]
  dsimp only
  rw [bind_state, logging_apply, toBytes_length, guidBlock_build]
  dsimp only
  rw [bind_state, logging_apply, build_chip]
  rfl

theorem chip_missing {config : MemoryConfig} {located : Except EfiError (List UInt8)}
    {trace : BoardTrace} {fault : Fault} {log : List LogRecord}
    (h : PlatformInfo.locate located trace.log = (.error fault, log)) :
    chip config located trace = (.error fault, { trace with log }) := by
  unfold chip
  rw [bind_state, logging_apply, h]

theorem model_accepted {config : MemoryConfig} (accepted : ¬GopRejected config)
    (localMemory : UInt64) (trace : BoardTrace) :
    model config (.ok localMemory) trace =
      report (dramBlock2Plan config localMemory) (modelMap config localMemory) trace := by
  unfold model report
  rw [← produceDramBlock2_eq]
  dsimp only
  rw [bind_state, logging_apply, ← modelDescriptors, build_model accepted]
  rfl

theorem model_rejected {config : MemoryConfig} (rejected : GopRejected config)
    (localMemory : UInt64) (trace : BoardTrace) :
    ∃ log, model config (.ok localMemory) trace =
      (.error (.refused .invalidParameter), { trace with log }) := by
  obtain ⟨log, refused⟩ :=
    build_model_rejected rejected (Board.dramBlock2Size localMemory) trace.log
  refine ⟨log, ?_⟩
  unfold model
  dsimp only
  rw [bind_state, logging_apply, ← modelDescriptors, refused]

theorem model_missing (config : MemoryConfig) (reason : EfiError) (trace : BoardTrace) :
    ∃ log, model config (.error reason) trace = (.error (.refused reason), { trace with log }) :=
  ⟨_, rfl⟩

theorem chipMap_spans (config : MemoryConfig) (info : PlatformInfo) :
    (chipMap config info.localMemory).spans "DDR Secondary" =
      (chipPlan config info).filterMap HandOffBlock.span? := by
  unfold chipMap chipRegions chipPlan dramBlock2Plan
  rw [dramBlock2Regions_eq]
  by_cases within : info.localMemory ≤ size2GB
  · rw [if_pos within, if_pos within]
    rfl
  · rw [if_neg within, if_neg within]
    rfl

theorem modelMap_spans (config : MemoryConfig) (localMemory : UInt64) :
    (modelMap config localMemory).spans "DDR Secondary" =
      (dramBlock2Plan config localMemory).filterMap HandOffBlock.span? := by
  unfold modelMap modelRegions gopRegions dramBlock2Plan
  rw [dramBlock2Regions_eq]
  by_cases within : localMemory ≤ size2GB
  · rw [if_pos within, if_pos within]
    split <;> rfl
  · rw [if_neg within, if_neg within]
    split <;> rfl

/-- What the chip means to hand over, if the platform information can be read. -/
def chipPlanned (config : MemoryConfig) (located : Except EfiError (List UInt8))
    (log : List LogRecord) : Except Fault (List HandOffBlock) :=
  (PlatformInfo.locate located log).1.map (chipPlan config)

/-- What the model board means to hand over, if its memory is known and has room for the frame
buffer. -/
def modelPlanned (config : MemoryConfig) (located : Except EfiError UInt64) :
    Except Fault (List HandOffBlock) :=
  match located with
  | .error reason => .error (.refused reason)
  | .ok localMemory =>
    if GopRejected config then .error (.refused .invalidParameter)
    else .ok (dramBlock2Plan config localMemory)

/-- What building a map does to the producer, and how that goes with its result. -/
structure Reports (planned : Except Fault (List HandOffBlock)) (before : BoardTrace)
    (ran : Except Fault MemoryMap × BoardTrace) (made : List HandOffBlock) : Prop where
  blocks : ran.2.blocks = before.blocks ++ made
  unplanned : ∀ fault, planned = .error fault → made = [] ∧ ran.1 = .error fault
  initial : ∀ plan, planned = .ok plan → made <+: plan
  carriedOut : ∀ plan, planned = .ok plan →
    HandsOver before.answers plan made (ran.1.map fun _ => ())
  built : (∃ map, ran.1 = .ok map) ↔
    ∃ plan, planned = .ok plan ∧ ∀ i < plan.length, before.answers.getD i (.ok ()) = .ok ()
  secondary : ∀ map, ran.1 = .ok map →
    map.spans "DDR Secondary" = made.filterMap HandOffBlock.span?

theorem Reports.of_fault {before : BoardTrace} {fault : Fault} {log : List LogRecord} :
    Reports (.error fault) before (.error fault, { before with log }) [] where
  blocks := (List.append_nil _).symm
  unplanned := by
    rintro _ ⟨⟩
    exact ⟨rfl, rfl⟩
  initial := nofun
  carriedOut := nofun
  built := ⟨nofun, nofun⟩
  secondary := nofun

theorem Reports.of_report {plan : List HandOffBlock} {map : MemoryMap}
    (same : map.spans "DDR Secondary" = plan.filterMap HandOffBlock.span?)
    (before : BoardTrace) (log : List LogRecord) :
    ∃ made, Reports (.ok plan) before (report plan map { before with log }) made := by
  obtain ⟨made, blocks, taken, found⟩ := report_hands_over plan map { before with log }
  refine ⟨made, blocks, nofun, ?_, ?_, ?_, ?_⟩
  · rintro _ ⟨⟩
    exact taken.made_initial
  · rintro _ ⟨⟩
    exact taken
  · rw [← map_unit_eq_ok, taken.ok_iff]
    refine ⟨fun all => ⟨plan, rfl, all⟩, ?_⟩
    rintro ⟨_, ⟨⟩, all⟩
    exact all
  · intro built done
    -- A map is only returned once the whole plan is taken.
    rw [done] at taken
    rw [found built done, same, taken.all_made]

theorem chip_reports (config : MemoryConfig) (located : Except EfiError (List UInt8))
    (trace : BoardTrace) :
    ∃ made, Reports (chipPlanned config located trace.log) trace (chip config located trace)
      made := by
  unfold chipPlanned
  rcases obtained : PlatformInfo.locate located trace.log with ⟨fault | info, log⟩
  · rw [chip_missing obtained]
    exact ⟨[], .of_fault⟩
  · rw [chip_obtained obtained]
    exact Reports.of_report (chipMap_spans config info) trace log

theorem model_reports (config : MemoryConfig) (located : Except EfiError UInt64)
    (trace : BoardTrace) :
    ∃ made, Reports (modelPlanned config located) trace (model config located trace) made := by
  cases located with
  | error reason =>
    obtain ⟨log, missing⟩ := model_missing config reason trace
    rw [missing]
    exact ⟨[], .of_fault⟩
  | ok localMemory =>
    unfold modelPlanned
    by_cases rejected : GopRejected config
    · obtain ⟨log, refused⟩ := model_rejected rejected localMemory trace
      rw [refused]
      dsimp only
      rw [if_pos rejected]
      exact ⟨[], .of_fault⟩
    · rw [model_accepted rejected]
      dsimp only
      rw [if_neg rejected]
      exact Reports.of_report (modelMap_spans config localMemory) trace trace.log

/-- Building either map hands over what is planned, in order and up to the first block that is not
taken. Nothing is planned without the platform information, or for a frame buffer that is
rejected. What is reported of the second block of memory is what is mapped of it. -/
theorem hands_over (config : MemoryConfig) (trace : BoardTrace) :
    (∀ located, ∃ made,
        Reports (chipPlanned config located trace.log) trace (chip config located trace) made) ∧
      (∀ located, ∃ made,
        Reports (modelPlanned config located) trace (model config located trace) made) ∧
      ∀ located log reason, chipPlanned config located log = .error (.refused reason) →
        reason = .invalidParameter := by
  refine ⟨fun located => chip_reports config located trace,
    fun located => model_reports config located trace, fun located log reason refused => ?_⟩
  apply PlatformInfo.locate_refuses located log
  unfold chipPlanned at refused
  cases obtained : (PlatformInfo.locate located log).1 with
  | error fault =>
    rw [obtained] at refused
    cases refused
    rfl
  | ok info =>
    rw [obtained] at refused
    cases refused

/-- With 3 GiB of memory the chip hands over its platform information and a block of memory, and
the model board only the latter. A producer that does not take it ends the map. -/
theorem hands_over_refused :
    let memory : HandOffBlock := .resource
      { header := { kind := 3, length := 48, reserved := 0 }
        owner := ⟨0, 0, 0, 0, 0⟩
        resourceType := 0
        attributes := 0x3807
        start := 0x8080000000
        length := 0x40000000 }
    let information : HandOffBlock := .guid
      { header := { kind := 4, length := 48, reserved := 0 }
        name := ⟨0x3ed4e4a6, 0x0cbe, 0x4b8c, 0x9d3a, 0x6f21775b0e4c⟩ }
      [0, 0, 0, 0xC0, 0, 0, 0, 0, 0, 0, 0, 0, 0, 0, 0, 0, 0, 0, 0, 0, 0, 0, 0, 0]
    let told := chip {} (.ok PlatformInfo.sampleTree) {}
    let ran := model {} (.ok 0xC0000000) { answers := [.error .outOfResources] }
    (told.2.blocks = [information, memory] ∧ ∃ map, told.1 = .ok map ∧
        map.spans "DDR Secondary" = [(0x8080000000, 0x40000000)]) ∧
      ran.2.blocks = [memory] ∧ ¬∃ map, ran.1 = .ok map := by
  intro memory information told ran
  constructor
  · obtain ⟨made, reports⟩ := (hands_over {} {}).1 (.ok PlatformInfo.sampleTree)
    have planned : chipPlanned {} (.ok PlatformInfo.sampleTree) [] = .ok [information, memory] := by
      unfold chipPlanned
      rw [PlatformInfo.locate_sample]
      rfl
    obtain ⟨map, done⟩ := reports.built.mpr ⟨_, planned, fun _ _ => rfl⟩
    have taken := reports.carriedOut _ planned
    rw [done] at taken
    refine ⟨reports.blocks.trans taken.all_made, map, done, ?_⟩
    rw [reports.secondary map done, taken.all_made]
    rfl
  · obtain ⟨made, reports⟩ :=
      (hands_over {} { answers := [.error .outOfResources] }).2.1 (.ok 0xC0000000)
    have planned : modelPlanned {} (.ok 0xC0000000) = .ok [memory] := rfl
    constructor
    · rw [reports.blocks]
      have given := reports.carriedOut _ planned
      generalize ran.1.map (fun _ => ()) = result at given
      cases given with
      | all => rfl
      | upTo inside =>
        cases Nat.lt_one_iff.mp inside
        rfl
    · rw [reports.built]
      rintro ⟨plan, same, taken⟩
      rw [planned] at same
      cases same
      cases taken 0 (by decide)

end BoardMap

end PlatformFirmware
