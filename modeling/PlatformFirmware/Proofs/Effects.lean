import PlatformFirmware.LogRecord

namespace PlatformFirmware

/-- An action goes on from the state that the one before leaves, unless that one has failed. -/
theorem bind_state {ε σ α β : Type} (first : ExceptT ε (StateM σ) α)
    (after : α → ExceptT ε (StateM σ) β) (state : σ) :
    (first >>= after) state =
      match first state with
      | (.ok value, state) => after value state
      | (.error fault, state) => (.error fault, state) := by
  simp only [bind, ExceptT.bind, ExceptT.mk, StateT.bind]
  rcases first state with ⟨_ | _, _⟩ <;> rfl

theorem lift_state {ε σ α : Type} (action : StateM σ α) (state : σ) :
    (ExceptT.lift action : ExceptT ε (StateM σ) α) state =
      (.ok (action state).1, (action state).2) := rfl

theorem map_unit_eq_ok {ε α : Type} {result : Except ε α} :
    (result.map fun _ => ()) = .ok () ↔ ∃ value, result = .ok value := by
  cases result with
  | error fault => exact ⟨nofun, nofun⟩
  | ok value => exact ⟨fun _ => ⟨value, rfl⟩, fun _ => rfl⟩

/-- How an action ends, whatever is in the log: with a result or in a fault. -/
def Ends {α : Type} (action : LogM α) (returned : α → Prop) (failed : Fault → Prop) : Prop :=
  ∀ log, match (action log).1 with
    | .ok value => returned value
    | .error fault => failed fault

section

variable {α β : Type} {middle : α → Prop} {returned : β → Prop} {failed : Fault → Prop}

theorem Ends.of_ok {action : LogM β} (h : Ends action returned failed) {log : List LogRecord}
    {value : β} (done : (action log).1 = .ok value) : returned value := by
  have ended := h log
  rw [done] at ended
  exact ended

theorem Ends.of_error {action : LogM β} (h : Ends action returned failed) {log : List LogRecord}
    {fault : Fault} (stopped : (action log).1 = .error fault) : failed fault := by
  have ended := h log
  rw [stopped] at ended
  exact ended

theorem Ends.bind {first : LogM α} {after : α → LogM β} (hf : Ends first middle failed)
    (ha : ∀ value, middle value → Ends (after value) returned failed) :
    Ends (first >>= after) returned failed := by
  intro log
  rw [bind_state]
  rcases ran : first log with ⟨fault | value, next⟩
  · exact hf.of_error (congrArg Prod.fst ran)
  · exact ha value (hf.of_ok (congrArg Prod.fst ran)) next

end

/-- An action that only refuses for one reason. It may also halt. -/
def RefusesOnly {α : Type} (action : LogM α) (reason : EfiError) : Prop :=
  ∀ (log : List LogRecord) (other : EfiError),
    (action log).1 = .error (.refused other) → other = reason

end PlatformFirmware
