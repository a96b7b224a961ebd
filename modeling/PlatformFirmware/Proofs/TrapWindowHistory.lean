import Mathlib.Data.List.Basic
import Mathlib.Data.List.Induction
import PlatformFirmware.Proofs.TrapWindowSteps

namespace PlatformFirmware

namespace TrapWindow

def run (window : TrapWindow) (steps : List Step) : LogAction TrapWindow :=
  steps.foldlM perform window

/-- The memory after some steps. -/
def after (window : TrapWindow) (steps : List Step) : TrapWindow :=
  (window.run steps []).1

/-- All stores of some steps, in the order in which they are made. -/
def storesOf (steps : List Step) : List (Nat × BitVec 32) :=
  steps.flatMap Step.stores

def lastWritten? (index : Fin registerCount) (steps : List Step) : Option TrapRegister :=
  (steps.filterMap (Step.written? index)).getLast?

def lastCleared? (steps : List Step) : Option (BitVec 32) :=
  (steps.filterMap Step.cleared?).getLast?

/-- What is read after some steps, told from the first content of the memory. -/
structure Recalls (window : TrapWindow) (steps : List Step) : Prop where
  registers : ∀ index, (window.after steps).readRegister index =
    (lastWritten? index steps).getD
      ⟨window.load (registerOffset + 8 * index + 4) ++ window.load (registerOffset + 8 * index)⟩
  status : (window.after steps).status = (lastCleared? steps).getD (window.load statusOffset)
  cycle : (window.after steps).cycle = ⟨window.load cycleOffset⟩
  data : (window.after steps).data = window.load dataOffset
  /-- Only the writes are logged, in order. What is in the log before makes no difference. -/
  logged : ∀ log,
    window.run steps log = (window.after steps, log ++ steps.filterMap Step.record?)
  /-- No other word is changed. -/
  kept : ∀ offset, Untouched (storesOf steps) offset →
    (window.after steps).load offset = window.load offset
  /-- The words that are read and stored are aligned and lie inside the memory. -/
  placed : ∀ index : Fin registerCount,
    4 ∣ registerOffset + 8 * index.val ∧ registerOffset + 8 * index.val + 8 ≤ 0x2000
  inside : ∀ stored ∈ storesOf steps, 4 ∣ stored.1 ∧ stored.1 + 4 ≤ 0x2000

/-- What the memory shows when some stores of a run are made: it is between two steps, or in the
middle of a write. Then the register has its new upper half, but still its old lower one. -/
inductive Passes (window : TrapWindow) (steps : List Step) (made : List (Nat × BitVec 32))
    (seen : TrapWindow) : Prop
  | between (past : List Step) (done : past <+: steps) (stored : made = storesOf past)
      (shown : seen = window.after past)
  | halfway (past : List Step) (index : Fin registerCount) (value : TrapRegister)
      (next : past ++ [.write index value] <+: steps)
      (stored : made = storesOf past ++ [(registerOffset + 8 * index + 4, value.upper)])
      (shown : seen = (window.after past).store (registerOffset + 8 * index + 4) value.upper)
      (upper : (seen.readRegister index).upper = value.upper)
      (lower : (seen.readRegister index).lower = ((window.after past).readRegister index).lower)
      (others : ∀ other, other ≠ index →
        seen.readRegister other = (window.after past).readRegister other)

theorem storesOf_append (past future : List Step) :
    storesOf (past ++ future) = storesOf past ++ storesOf future :=
  List.flatMap_append

theorem storesOf_concat (past : List Step) (next : Step) :
    storesOf (past ++ [next]) = storesOf past ++ next.stores := by
  rw [storesOf_append]
  exact congrArg _ (List.append_nil _)

theorem storesOf_write (past : List Step) (index : Fin registerCount) (value : TrapRegister) :
    storesOf (past ++ [.write index value]) =
      storesOf past ++ [(registerOffset + 8 * index.val + 4, value.upper)] ++
        [(registerOffset + 8 * index.val, value.lower)] := by
  rw [storesOf_concat, stores_write, List.append_cons]

theorem storeAll_append (window : TrapWindow) (first second : List (Nat × BitVec 32)) :
    window.storeAll (first ++ second) = (window.storeAll first).storeAll second :=
  List.foldl_append

theorem filterMap_concat {Value : Type} (find? : Step → Option Value) (past : List Step)
    (next : Step) :
    (past ++ [next]).filterMap find? = past.filterMap find? ++ (find? next).toList := by
  rw [List.filterMap_eq_flatMap_toList, List.filterMap_eq_flatMap_toList, List.flatMap_append,
    List.flatMap_singleton]

theorem run_concat (window : TrapWindow) (past : List Step) (next : Step) (log : List LogRecord) :
    window.run (past ++ [next]) log =
      (window.run past log).1.perform next (window.run past log).2 := by
  unfold run
  rw [List.foldlM_append]
  rfl

theorem run_eq (window : TrapWindow) (steps : List Step) (log : List LogRecord) :
    window.run steps log =
      (window.storeAll (storesOf steps), log ++ steps.filterMap Step.record?) := by
  induction steps using List.reverseRecOn with
  | nil => exact congrArg (Prod.mk window) (List.append_nil log).symm
  | append_singleton past next ih =>
    rw [run_concat, ih, perform_eq, storesOf_concat, storeAll_append, filterMap_concat,
      List.append_assoc]

theorem after_eq (window : TrapWindow) (steps : List Step) :
    window.after steps = window.storeAll (storesOf steps) :=
  congrArg Prod.fst (window.run_eq steps [])

theorem after_concat (window : TrapWindow) (past : List Step) (next : Step) :
    window.after (past ++ [next]) = (window.after past).storeAll next.stores := by
  rw [after_eq, after_eq, storesOf_concat, storeAll_append]

/-- What one step renews or keeps is, after some steps, what the last of them made of it. -/
theorem read_after {Value : Type} (read : TrapWindow → Value) (new? : Step → Option Value)
    (renews : ∀ window (step : Step),
      read (window.storeAll step.stores) = (new? step).getD (read window))
    (window : TrapWindow) (steps : List Step) :
    read (window.after steps) = (steps.filterMap new?).getLast?.getD (read window) := by
  induction steps using List.reverseRecOn with
  | nil => rfl
  | append_singleton past next ih =>
    rw [after_concat, renews, ih, filterMap_concat, List.getLast?_append, Option.getD_or]
    cases new? next <;> rfl

theorem untouched_storesOf {steps : List Step} {offset : Nat}
    (h : ∀ step ∈ steps, Untouched step.stores offset) : Untouched (storesOf steps) offset := by
  intro stored mem
  obtain ⟨step, listed, mem⟩ := List.mem_flatMap.mp mem
  exact h step listed stored mem

theorem recalls (window : TrapWindow) (steps : List Step) : Recalls window steps := by
  have kept : ∀ offset, Untouched (storesOf steps) offset →
      (window.after steps).load offset = window.load offset := by
    intro offset untouched
    rw [after_eq, load_storeAll untouched]
  have low : ∀ offset, offset + 4 ≤ registerOffset → offset / 4 ≠ statusOffset / 4 →
      (window.after steps).load offset = window.load offset := fun offset below other =>
    kept offset (untouched_storesOf fun _ _ => Step.untouched_low below (.inr other))
  exact {
    registers := fun index =>
      read_after (fun window => window.readRegister index) (Step.written? index)
        (fun window step => readRegister_stores window step index) window steps
    status := read_after status Step.cleared? status_stores window steps
    cycle := congrArg TrappedCycle.mk (low cycleOffset (by decide) (by decide))
    data := low dataOffset (by decide) (by decide)
    logged := fun log => by rw [run_eq, after_eq]
    kept
    placed := register_inside
    inside := fun stored mem => by
      obtain ⟨step, -, mem⟩ := List.mem_flatMap.mp mem
      exact Step.stores_inside mem }

theorem Passes.append {window seen : TrapWindow} {past : List Step}
    {made : List (Nat × BitVec 32)} (h : Passes window past made seen) (future : List Step) :
    Passes window (past ++ future) made seen := by
  cases h with
  | between past done stored shown =>
    exact .between past (done.trans (List.prefix_append _ _)) stored shown
  | halfway past index value next stored shown upper lower others =>
    exact .halfway past index value (next.trans (List.prefix_append _ _)) stored shown upper lower
      others

theorem passes_done (window : TrapWindow) (steps : List Step) :
    Passes window steps (storesOf steps) (window.storeAll (storesOf steps)) :=
  .between steps List.prefix_rfl rfl (window.after_eq steps).symm

theorem passes_halfway (window : TrapWindow) (past : List Step) (index : Fin registerCount)
    (value : TrapRegister) :
    let made := storesOf past ++ [(registerOffset + 8 * index.val + 4, value.upper)]
    Passes window (past ++ [.write index value]) made (window.storeAll made) := by
  intro made
  have shown : window.storeAll made =
      (window.after past).store (registerOffset + 8 * index.val + 4) value.upper := by
    rw [after_eq]
    exact storeAll_append _ _ _
  obtain ⟨upper, lower⟩ := (window.after past).readRegister_halfway index value
  refine .halfway past index value List.prefix_rfl rfl shown ?_ ?_ fun other different => ?_
  · rw [shown, upper]
  · rw [shown, lower]
  · rw [shown, readRegister_halfway_other _ different]

theorem passes (window : TrapWindow) {steps : List Step} {made : List (Nat × BitVec 32)}
    (h : made <+: storesOf steps) : Passes window steps made (window.storeAll made) := by
  induction steps using List.reverseRecOn with
  | nil =>
    obtain rfl := List.prefix_nil.mp h
    exact window.passes_done []
  | append_singleton past next ih =>
    have whole := window.passes_done (past ++ [next])
    -- A step makes one store or two. Without the last one, there are the stores before it.
    cases next with
    | write index value =>
      rw [storesOf_write] at h whole
      rcases List.prefix_concat_iff.mp h with rfl | h
      · exact whole
      rcases List.prefix_concat_iff.mp h with rfl | h
      · exact window.passes_halfway past index value
      · exact (ih h).append _
    | clear mask =>
      rw [storesOf_concat] at h whole
      rcases List.prefix_concat_iff.mp h with rfl | h
      · exact whole
      · exact (ih h).append _

/-- The store that enables a register is the last one of a write, so the whole register is there. -/
theorem enabled_by_write {window : TrapWindow} {steps : List Step} {made : List (Nat × BitVec 32)}
    {stored : Nat × BitVec 32} (h : made ++ [stored] <+: storesOf steps)
    {index : Fin registerCount}
    (off : ((window.storeAll made).readRegister index).isEnabled = false)
    (on : ((window.storeAll (made ++ [stored])).readRegister index).isEnabled = true) :
    ∃ past value, past ++ [.write index value] <+: steps ∧
      made ++ [stored] = storesOf (past ++ [.write index value]) ∧
        (window.storeAll (made ++ [stored])).readRegister index = value := by
  have place : stored.1 / 4 = (registerOffset + 8 * index) / 4 := by
    rw [storeAll_append] at on
    exact offset_of_enabled off on
  have aligned : 4 ∣ registerOffset := by decide
  -- Of all stores only the second one of a write of this register is at that place.
  cases window.passes h with
  | between past done same shown =>
    cases past using List.reverseRecOn with
    | nil => exact absurd same (List.append_ne_nil_of_right_ne_nil _ (List.cons_ne_nil _ _))
    | append_singleton past last =>
      cases last with
      | write other value =>
        have ends := same.trans (storesOf_write past other value)
        obtain rfl := List.singleton_inj.mp (List.append_inj_right' ends rfl)
        obtain rfl : other = index := Fin.ext (by omega)
        refine ⟨past, value, done, same, ?_⟩
        rw [shown, after_concat]
        exact (window.after past).readRegister_write other value
      | clear mask =>
        have ends := same.trans (storesOf_concat past (.clear mask))
        obtain rfl := List.singleton_inj.mp (List.append_inj_right' ends rfl)
        have below : statusOffset / 4 < registerOffset / 4 := by decide
        omega
  | halfway past other value next same =>
    obtain rfl := List.singleton_inj.mp (List.append_inj_right' same rfl)
    omega

/-- The memory is a file of registers: after any steps each register reads as it was written last,
and status, cycle and data as their own words. At no time in between, store by store, does a
register have its new lower half with its old upper one, so none is enabled before it is
complete. -/
theorem registers_recalled (window : TrapWindow) (steps : List Step) :
    Recalls window steps ∧
      (∀ made, made <+: storesOf steps → Passes window steps made (window.storeAll made)) ∧
      ∀ made stored, made ++ [stored] <+: storesOf steps → ∀ index,
        ((window.storeAll made).readRegister index).isEnabled = false →
          ((window.storeAll (made ++ [stored])).readRegister index).isEnabled = true →
            ∃ past value, past ++ [.write index value] <+: steps ∧
              made ++ [stored] = storesOf (past ++ [.write index value]) ∧
                (window.storeAll (made ++ [stored])).readRegister index = value :=
  ⟨window.recalls steps, fun _ first => window.passes first,
    fun _ _ first _ off on => enabled_by_write first off on⟩

/-- The last register is enabled by its second store, and keeps its value when the status is
cleared. -/
theorem registers_recalled_last :
    let value : TrapRegister := ⟨0x0002000F000C1041⟩
    let steps : List Step := [.write 47 value, .clear 0x4]
    let made := [(registerOffset + 8 * 47 + 4, value.upper)]
    let stored := (registerOffset + 8 * 47, value.lower)
    (blank.after steps).readRegister 47 = value ∧ (blank.after steps).status = 0x4 ∧
      (blank.run steps []).2 = [⟨.trace, "io_trap", "TRPREG47 = 0x0002000f000c1041"⟩] ∧
      made <+: storesOf steps ∧ made ++ [stored] <+: storesOf steps ∧
      Passes blank steps made (blank.storeAll made) ∧
      ((blank.storeAll made).readRegister 47).isEnabled = false ∧
      ((blank.storeAll (made ++ [stored])).readRegister 47).isEnabled = true ∧
      (blank.storeAll (made ++ [stored])).readRegister 47 = value := by
  intro value steps made stored
  obtain ⟨recalls, passes, enabled⟩ := registers_recalled blank steps
  have first : made <+: storesOf steps := ⟨_, rfl⟩
  have second : made ++ [stored] <+: storesOf steps := ⟨_, rfl⟩
  have off : ((blank.storeAll made).readRegister 47).isEnabled = false := by
    have lower : ((blank.storeAll made).readRegister 47).lower = (blank.readRegister 47).lower :=
      (blank.readRegister_halfway 47 value).2
    rw [TrapRegister.isEnabled_lower, lower, readRegister_lower, load_blank]
    rfl
  have on : ((blank.storeAll (made ++ [stored])).readRegister 47).isEnabled = true := by
    have whole : (blank.storeAll (made ++ [stored])).readRegister 47 = value :=
      blank.readRegister_write 47 value
    rw [whole]
    exact (by decide : TrapRegister.isEnabled ⟨0x0002000F000C1041⟩ = true)
  obtain ⟨past, written, begun, -, whole⟩ := enabled made stored second 47 off on
  have complete : written = value := by
    obtain ⟨rest, run⟩ := begun
    rcases past with _ | ⟨_, _ | ⟨_, _⟩⟩
    · exact (TrapWindow.Step.write.inj (List.cons.inj run).1).2
    · cases (List.cons.inj (List.cons.inj run).2).1
    · simp [steps] at run
  have logged : (blank.run steps []).2 = [⟨.trace, "io_trap", writeText 47 value⟩] :=
    congrArg Prod.snd (recalls.logged [])
  have text : writeText 47 value = "TRPREG47 = 0x0002000f000c1041" := by decide
  rw [text] at logged
  exact ⟨recalls.registers 47, recalls.status, logged, first, second, passes made first, off, on,
    whole.trans complete⟩

end TrapWindow

end PlatformFirmware
