import Mathlib.Data.List.Induction
import PlatformFirmware.Proofs.VariableSteps

namespace PlatformFirmware

namespace VariableSystem

/-- A new system after some steps. -/
def after (steps : List VariableStep) : VariableSystem :=
  steps.foldl (fun system next => (step next system).2) {}

/-- The stores located by some steps. Each time one is located, a notify is handed out. -/
def locatedStores (steps : List VariableStep) : List Nat :=
  steps.filterMap VariableStep.located?

/-- A notify was called that had been handed out by then, whatever protocol it was told of. -/
def Notified (steps : List VariableStep) : Prop :=
  ∃ past number protocol, past ++ [.notify number protocol] <+: steps ∧
    number < (locatedStores past).length

/-- What a system knows of the steps that led to it. -/
structure Follows (steps : List VariableStep) (system : VariableSystem) : Prop where
  store_eq : system.writer.store = (locatedStores steps).head?
  notifies_eq : system.notifies = (locatedStores steps).length
  atRuntime_iff : system.writer.atRuntime = true ↔ Notified steps
  /-- Every call to a store was one to the store located first. -/
  calls_first : ∀ call ∈ system.calls, ∀ store, call.store? = some store →
    (locatedStores steps).head? = some store

theorem after_append (past future : List VariableStep) :
    after (past ++ future) =
      future.foldl (fun system next => (step next system).2) (after past) :=
  List.foldl_append

theorem locatedStores_append (past future : List VariableStep) :
    locatedStores (past ++ future) = locatedStores past ++ locatedStores future :=
  List.filterMap_append

theorem notified_nil : ¬Notified [] := by
  rintro ⟨past, number, protocol, h, _⟩
  simp at h

theorem Notified.append {past : List VariableStep} (h : Notified past)
    (future : List VariableStep) : Notified (past ++ future) := by
  obtain ⟨front, number, protocol, h, known⟩ := h
  exact ⟨front, number, protocol, h.trans (List.prefix_append _ _), known⟩

theorem Notified.located {past : List VariableStep} (h : Notified past) :
    ∃ store, (locatedStores past).head? = some store := by
  obtain ⟨front, number, protocol, ⟨back, rfl⟩, known⟩ := h
  rw [locatedStores_append, locatedStores_append, List.append_assoc, List.head?_append]
  cases hs : locatedStores front with
  | nil => simp [hs] at known
  | cons store _ => exact ⟨store, rfl⟩

theorem notified_concat {past : List VariableStep} {next : VariableStep} :
    Notified (past ++ [next]) ↔ Notified past ∨
      ∃ number protocol, next = .notify number protocol ∧
        number < (locatedStores past).length := by
  constructor
  · rintro ⟨front, number, protocol, h, known⟩
    rcases List.prefix_concat_iff.mp h with he | he
    · obtain ⟨rfl, hn⟩ := List.append_inj' he rfl
      exact .inr ⟨number, protocol, (List.singleton_inj.mp hn).symm, known⟩
    · exact .inl ⟨front, number, protocol, he, known⟩
  · rintro (h | ⟨number, protocol, rfl, known⟩)
    · exact h.append _
    · exact ⟨past, number, protocol, List.prefix_rfl, known⟩

theorem Follows.performs {past : List VariableStep} {before after : VariableSystem}
    {next : VariableStep} {outcome : VariableOutcome} (follows : Follows past before)
    (h : Performs before next outcome after) : Follows (past ++ [next]) after := by
  have located : locatedStores (past ++ [next]) = locatedStores past ++ next.located?.toList := by
    rw [locatedStores_append]
    cases hn : next.located? <;> simp [locatedStores, hn]
  have first : (locatedStores (past ++ [next])).head? =
      before.writer.store.or next.located? := by
    rw [located, List.head?_append, follows.store_eq, Option.head?_toList]
  obtain ⟨made, calls, ready, _⟩ := h.calls_eq
  refine ⟨?_, ?_, ?_, ?_⟩
  · rw [h.store_eq, first]
  · rw [h.notifies_eq, located, List.length_append, follows.notifies_eq]
  · rw [h.atRuntime_iff, notified_concat, follows.atRuntime_iff, follows.notifies_eq]
  · intro call hc store hs
    have used : before.writer.store = some store := by
      rw [calls] at hc
      rcases List.mem_append.mp hc with old | new
      · exact follows.store_eq.trans (follows.calls_first call old store hs)
      · exact ready call new store hs
    rw [first, used, Option.some_or]

theorem follows (steps : List VariableStep) : Follows steps (after steps) := by
  induction steps using List.reverseRecOn with
  | nil => exact ⟨rfl, rfl, by simp [after, notified_nil], by simp [after]⟩
  | append_singleton past next ih =>
    rw [after_append]
    exact ih.performs (step_performs _ next)

end VariableSystem

end PlatformFirmware
