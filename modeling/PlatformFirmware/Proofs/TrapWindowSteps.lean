import PlatformFirmware.Proofs.BitFieldTiling
import PlatformFirmware.TrapWindow

namespace PlatformFirmware

namespace TrapRegister

/-- The half of a register that has its enable bit. -/
def lower (register : TrapRegister) : BitVec 32 :=
  register.word.extractLsb' 0 32

def upper (register : TrapRegister) : BitVec 32 :=
  register.word.extractLsb' 32 32

/-- The bits of each half, the lower one first. -/
def halfSpan : Bool → BitField
  | false => ⟨0, 32⟩
  | true => ⟨32, 32⟩

theorem halves_tile : BitField.Tiles halfSpan [false, true] 64 :=
  ⟨fun isUpper => by cases isUpper <;> decide, by decide⟩

theorem eq_of_halves {first second : TrapRegister} (upper : first.upper = second.upper)
    (lower : first.lower = second.lower) : first = second := by
  apply congrArg TrapRegister.mk
  apply halves_tile.eq_of_get
  intro isUpper
  cases isUpper with
  | false => exact lower
  | true => exact upper

theorem isEnabled_lower (register : TrapRegister) :
    register.isEnabled = (register.lower.extractLsb' 0 1 != 0) := by
  have bit : register.get .enable = register.lower.extractLsb' 0 1 := by
    apply BitVec.eq_of_getLsbD_eq
    intro k inside
    obtain rfl : k = 0 := Nat.lt_one_iff.mp inside
    simp [get, BitField.get, lower]
  exact congrArg (· != 0) bit

end TrapRegister

namespace TrapWindow

/-- What is done to the memory: a register is written, or the status is cleared. -/
inductive Step
  | write (index : Fin registerCount) (value : TrapRegister)
  | clear (mask : BitVec 32)

namespace Step

/-- The stores that a step consists of, each a byte offset with the word stored there. -/
def stores : Step → List (Nat × BitVec 32)
  | write index value => registerStores index value
  | clear mask => [(statusOffset, mask)]

/-- What a step writes to a register. -/
def written? (index : Fin registerCount) : Step → Option TrapRegister
  | write other value => if other = index then some value else none
  | clear _ => none

/-- What a step stores in the status. -/
def cleared? : Step → Option (BitVec 32)
  | write _ _ => none
  | clear mask => some mask

/-- What a step adds to the log. -/
def record? : Step → Option LogRecord
  | write index value => some ⟨.trace, "io_trap", writeText index value⟩
  | clear _ => none

end Step

def perform (window : TrapWindow) : Step → LogAction TrapWindow
  | .write index value => window.writeRegister index value
  | .clear mask => return window.clearStatus mask

def storeAll (window : TrapWindow) (stores : List (Nat × BitVec 32)) : TrapWindow :=
  stores.foldl (fun window stored => window.store stored.1 stored.2) window

/-- The word at an offset is none of those that are stored to. -/
def Untouched (stores : List (Nat × BitVec 32)) (offset : Nat) : Prop :=
  ∀ stored ∈ stores, stored.1 / 4 ≠ offset / 4

theorem perform_eq (window : TrapWindow) (step : Step) (log : List LogRecord) :
    window.perform step log =
      (window.storeAll step.stores, log ++ step.record?.toList) := by
  cases step with
  | write index value => rfl
  | clear mask => exact congrArg (Prod.mk _) (List.append_nil log).symm

theorem load_blank (offset : Nat) : blank.load offset = 0 := by
  unfold load blank
  rw [Vector.getElem?_replicate]
  split <;> rfl

theorem load_store {offset : Nat} (inside : offset / 4 < 0x800) (window : TrapWindow)
    (value : BitVec 32) : (window.store offset value).load offset = value := by
  unfold load store
  rw [Vector.getElem?_setIfInBounds, if_pos rfl, if_pos inside]
  rfl

theorem load_store_other {offset other : Nat} (apart : offset / 4 ≠ other / 4)
    (window : TrapWindow) (value : BitVec 32) :
    (window.store offset value).load other = window.load other := by
  unfold load store
  rw [Vector.getElem?_setIfInBounds, if_neg apart]

theorem load_storeAll {stores : List (Nat × BitVec 32)} {offset : Nat}
    (untouched : Untouched stores offset) (window : TrapWindow) :
    (window.storeAll stores).load offset = window.load offset := by
  induction stores generalizing window with
  | nil => rfl
  | cons stored stores ih =>
    obtain ⟨first, rest⟩ := List.forall_mem_cons.mp untouched
    exact (ih rest _).trans (load_store_other first _ _)

theorem readRegister_upper (window : TrapWindow) (index : Fin registerCount) :
    (window.readRegister index).upper = window.load (registerOffset + 8 * index + 4) :=
  BitVec.extractLsb'_append_eq_left

theorem readRegister_lower (window : TrapWindow) (index : Fin registerCount) :
    (window.readRegister index).lower = window.load (registerOffset + 8 * index) :=
  BitVec.extractLsb'_append_eq_right

/-- The two words of a register are aligned and lie inside the memory. -/
theorem register_inside (index : Fin registerCount) :
    4 ∣ registerOffset + 8 * index.val ∧ registerOffset + 8 * index.val + 8 ≤ 0x2000 := by
  have bound : index.val < 48 := index.isLt
  unfold registerOffset
  omega

theorem stores_write (index : Fin registerCount) (value : TrapRegister) :
    (Step.write index value).stores = [(registerOffset + 8 * index + 4, value.upper),
      (registerOffset + 8 * index, value.lower)] := rfl

theorem Step.stores_inside {step : Step} {stored : Nat × BitVec 32}
    (mem : stored ∈ step.stores) : 4 ∣ stored.1 ∧ stored.1 + 4 ≤ 0x2000 := by
  cases step with
  | write index value =>
    obtain ⟨aligned, inside⟩ := register_inside index
    simp only [stores_write, List.mem_cons, List.not_mem_nil, or_false] at mem
    rcases mem with rfl | rfl
    · exact ⟨by omega, by omega⟩
    · exact ⟨by omega, by omega⟩
  | clear mask =>
    obtain rfl := List.mem_singleton.mp mem
    exact (by decide : 4 ∣ statusOffset ∧ statusOffset + 4 ≤ 0x2000)

/-- A step that does not write a register stores to neither of its words. -/
theorem Step.untouched {step : Step} {index : Fin registerCount} (h : step.written? index = none) :
    Untouched step.stores (registerOffset + 8 * index + 4) ∧
      Untouched step.stores (registerOffset + 8 * index) := by
  cases step with
  | write other value =>
    have different : other.val ≠ index.val := fun same => by
      simp [written?, Fin.ext same] at h
    rw [stores_write]
    unfold Untouched
    simp only [List.forall_mem_cons, List.not_mem_nil, false_implies, implies_true, and_true]
    unfold registerOffset
    omega
  | clear mask =>
    have status : statusOffset < registerOffset := by decide
    have aligned : 4 ∣ statusOffset ∧ 4 ∣ registerOffset := by decide
    simp only [stores, Untouched, List.mem_singleton, forall_eq]
    omega

/-- Below the registers a step stores to the status only, if it clears it. -/
theorem Step.untouched_low {step : Step} {offset : Nat} (low : offset + 4 ≤ registerOffset)
    (other : step.cleared? = none ∨ offset / 4 ≠ statusOffset / 4) :
    Untouched step.stores offset := by
  intro stored mem
  cases step with
  | write index value =>
    simp only [stores_write, List.mem_cons, List.not_mem_nil, or_false] at mem
    rcases mem with rfl | rfl <;> simp only <;> omega
  | clear mask =>
    obtain rfl := List.mem_singleton.mp mem
    exact (other.resolve_left (Option.some_ne_none mask)).symm

theorem readRegister_storeAll {stores : List (Nat × BitVec 32)} {index : Fin registerCount}
    (untouched : Untouched stores (registerOffset + 8 * index + 4) ∧
      Untouched stores (registerOffset + 8 * index)) (window : TrapWindow) :
    (window.storeAll stores).readRegister index = window.readRegister index := by
  apply TrapRegister.eq_of_halves
  · rw [readRegister_upper, readRegister_upper, load_storeAll untouched.1]
  · rw [readRegister_lower, readRegister_lower, load_storeAll untouched.2]

/-- After the first of the two stores a register has its new upper half and its old lower one. -/
theorem readRegister_halfway (window : TrapWindow) (index : Fin registerCount)
    (value : TrapRegister) :
    let seen := window.store (registerOffset + 8 * index + 4) value.upper
    (seen.readRegister index).upper = value.upper ∧
      (seen.readRegister index).lower = (window.readRegister index).lower := by
  have := register_inside index
  constructor
  · rw [readRegister_upper, load_store (by omega)]
  · rw [readRegister_lower, readRegister_lower, load_store_other (by omega)]

theorem readRegister_halfway_other (window : TrapWindow) {index other : Fin registerCount}
    (different : other ≠ index) (word : BitVec 32) :
    (window.store (registerOffset + 8 * index + 4) word).readRegister other =
      window.readRegister other := by
  have places : other.val ≠ index.val := fun same => different (Fin.ext same)
  apply TrapRegister.eq_of_halves
  · rw [readRegister_upper, readRegister_upper, load_store_other (by omega)]
  · rw [readRegister_lower, readRegister_lower, load_store_other (by omega)]

theorem readRegister_write (window : TrapWindow) (index : Fin registerCount)
    (value : TrapRegister) :
    (window.storeAll (Step.write index value).stores).readRegister index = value := by
  have := register_inside index
  have halfway := (window.readRegister_halfway index value).1
  rw [readRegister_upper] at halfway
  apply TrapRegister.eq_of_halves
  · rw [readRegister_upper]
    exact (load_store_other (by omega) _ _).trans halfway
  · rw [readRegister_lower]
    exact load_store (by omega) _ _

/-- A store that enables a register is one to its lower half. -/
theorem offset_of_enabled {window : TrapWindow} {offset : Nat} {word : BitVec 32}
    {index : Fin registerCount} (off : (window.readRegister index).isEnabled = false)
    (on : ((window.store offset word).readRegister index).isEnabled = true) :
    offset / 4 = (registerOffset + 8 * index) / 4 := by
  by_contra apart
  have same : ((window.store offset word).readRegister index).lower =
      (window.readRegister index).lower := by
    rw [readRegister_lower, readRegister_lower, load_store_other apart]
  rw [TrapRegister.isEnabled_lower, same, ← TrapRegister.isEnabled_lower, off] at on
  cases on

theorem readRegister_stores (window : TrapWindow) (step : Step) (index : Fin registerCount) :
    (window.storeAll step.stores).readRegister index =
      (step.written? index).getD (window.readRegister index) := by
  cases new : step.written? index with
  | none => rw [readRegister_storeAll (Step.untouched new), Option.getD_none]
  | some value =>
    cases step with
    | write other written =>
      rw [Step.written?, Option.ite_none_right_eq_some] at new
      obtain ⟨rfl, same⟩ := new
      rw [Option.getD_some, ← Option.some.inj same]
      exact window.readRegister_write other written
    | clear mask => cases new

theorem status_stores (window : TrapWindow) (step : Step) :
    (window.storeAll step.stores).status = step.cleared?.getD window.status := by
  cases step with
  | write index value => exact load_storeAll (Step.untouched_low (by decide) (.inl rfl)) window
  | clear mask =>
    have inside : statusOffset / 4 < 0x800 := by decide
    exact load_store inside window mask

end TrapWindow

end PlatformFirmware
