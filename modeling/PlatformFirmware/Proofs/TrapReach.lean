import PlatformFirmware.Proofs.TrapMove

namespace PlatformFirmware

open TrapSystem

/-- The moves lead a new dispatcher, with any allocator, to the turn. -/
inductive TrapReach : List TrapMove → TrapTurn → Prop
  | start (allocations : List (Except EfiError UInt16)) (releases : List (Except EfiError Unit)) :
      TrapReach [] (.finished (.start allocations releases) (.completed (.ok ())))
  | step {history session outcome step} : TrapReach history (.finished session outcome) →
      TrapReach (history ++ [.make session none step]) (.perform session none [] step)
  | next {history turn} : TrapReach history turn →
      TrapReach (history ++ turn.move?.toList) turn.next

namespace TrapTurn

section

variable {P : TrapSession → Prop}
  (nested : ∀ {session} outcome, P session → P (session.note (.nested outcome)))

include nested

theorem deliver_holds (frames : List DispatchFrame) (answer : TrapOutcome × TrapSession)
    (h : P answer.2) : P (deliver frames answer).session := by
  rcases deliver_eq frames answer with ⟨_, he⟩ | ⟨_, _, _, he⟩
  · rw [he]
    exact h
  · rw [he]
    exact nested _ h

theorem perform_holds {session : TrapSession} {self : Option Nat} {step : TrapStep}
    (frames : List DispatchFrame) (h : P (session.make self step).2) :
    P (perform session self frames step).session := by
  rcases perform_eq session self frames step with he | ⟨_, he⟩
  · rw [he]
    exact deliver_holds nested frames _ h
  · rw [he]
    exact h

end

/-- What a turn does to its session: it makes its move, or only goes on with a dispatch. -/
theorem next_holds {P : Option TrapMove → TrapSession → Prop} {turn : TrapTurn}
    (make : ∀ self step, turn.move? = some (.make turn.session self step) →
      P (some (.make turn.session self step)) (turn.session.make self step).2)
    (call : ∀ record writeData, P (some (.call turn.session record writeData))
      ((turn.session.note (TrapSession.callEvent record writeData)).takeReaction
        record.callback.client).2)
    (idle : P none turn.session)
    (clear : ∀ mask, P none (turn.session.act (clearStatus mask)).2)
    (nested : ∀ {move session} outcome, P move session →
      P move (session.note (.nested outcome))) : P turn.move? turn.next.session := by
  match turn with
  | .finished _ _ => exact idle
  | .running session ⟨_, _, _, _, some (self, made :: _)⟩ _ =>
    exact perform_holds nested _ (make (some self) made rfl)
  | .running _ ⟨_, _, _, _, some (_, [])⟩ _ => exact idle
  | .running session ⟨access, _, record :: _, _, none⟩ _ => exact call record access.writeData
  | .running _ ⟨_, _ :: _, [], _, none⟩ _ => exact idle
  | .running session ⟨access, [], [], invoked, none⟩ outer =>
    exact deliver_holds nested outer (.dispatched invoked, _) (clear access.status)

end TrapTurn

/-- What holds of a new session and is kept by all that happens to one holds of every turn that is
reached. -/
theorem TrapReach.session_induction {P : List TrapMove → TrapSession → Prop}
    (start : ∀ allocations releases, P [] (.start allocations releases))
    (make : ∀ {history session} self step, P history session →
      P (history ++ [.make session self step]) (session.make self step).2)
    (call : ∀ {history session} record writeData, P history session →
      P (history ++ [.call session record writeData])
        ((session.note (TrapSession.callEvent record writeData)).takeReaction
          record.callback.client).2)
    (clear : ∀ {history session} mask, P history session →
      P history (session.act (clearStatus mask)).2)
    (nested : ∀ {history session} outcome, P history session →
      P history (session.note (.nested outcome)))
    {history : List TrapMove} {turn : TrapTurn} (reach : TrapReach history turn) :
    P history turn.session := by
  induction reach with
  | start allocations releases => exact start allocations releases
  | step _ ih => exact TrapTurn.perform_holds nested [] (make none _ ih)
  | @next history turn _ ih =>
    refine TrapTurn.next_holds (P := fun move session => P (history ++ move.toList) session)
      ?_ ?_ ?_ ?_ nested
    · exact fun self step _ => make self step ih
    · exact fun record writeData => call record writeData ih
    · simpa using ih
    · simpa using fun mask => clear mask ih

/-- What holds of a new session and is kept by every move holds of every turn that is reached. -/
theorem TrapReach.holds {P : List TrapMove → TrapSession → Prop}
    (start : ∀ allocations releases, P [] (.start allocations releases))
    (make : ∀ {history session} self step, P history session →
      P (history ++ [.make session self step]) (session.make self step).2)
    (call : ∀ {history before after} record writeData, TrapSession.SameTraps before after →
      after.system.callbacks =
        before.system.callbacks ++ [TrapSession.callEvent record writeData] →
      P history before → P (history ++ [.call before record writeData]) after)
    (same : ∀ {history before after}, TrapSession.SameTraps before after →
      after.system.callbacks = before.system.callbacks → P history before → P history after)
    {history : List TrapMove} {turn : TrapTurn} (reach : TrapReach history turn) :
    P history turn.session := by
  refine TrapReach.session_induction start make ?_ ?_ ?_ reach
  · intro history session record writeData ih
    exact call record writeData
      ((session.sameTraps_note _).trans (TrapSession.sameTraps_takeReaction _ _))
      (session.callbacks_call record writeData) ih
  · intro history session mask ih
    exact same (session.sameTraps_clearStatus mask) (session.callbacks_clearStatus mask) ih
  · intro history session outcome ih
    exact same (session.sameTraps_note _) (TrapSession.callbacks_note rfl) ih

/-- What every allowed move keeps holds as long as all moves are allowed. -/
theorem TrapReach.invariant {A : TrapMove → Prop} {P : List TrapMove → TrapSession → Prop}
    (start : ∀ allocations releases, P [] (.start allocations releases))
    (make : ∀ {history session} self step, A (.make session self step) → P history session →
      P (history ++ [.make session self step]) (session.make self step).2)
    (call : ∀ {history session} record writeData, P history session →
      P (history ++ [.call session record writeData]) session)
    (same : ∀ {history before after}, TrapSession.SameTraps before after → P history before →
      P history after)
    {history : List TrapMove} {turn : TrapTurn} (reach : TrapReach history turn)
    (allowed : ∀ move ∈ history, A move) : P history turn.session := by
  have earlier {front back : List TrapMove} (h : ∀ move ∈ front ++ back, A move) :
      ∀ move ∈ front, A move :=
    fun move hm => h move (List.mem_append_left back hm)
  refine TrapReach.holds (P := fun history session => (∀ move ∈ history, A move) →
    P history session) ?_ ?_ ?_ ?_ reach allowed
  · intro allocations releases _
    exact start allocations releases
  · intro history session self step ih h
    exact make self step (h _ (by simp)) (ih (earlier h))
  · intro history before after record writeData traps _ ih h
    exact same traps (call record writeData (ih (earlier h)))
  · intro history before after traps _ ih h
    exact same traps (ih h)

theorem last_or_earlier {α : Type} {front past future : List α} {last move : α}
    (h : front ++ [last] = past ++ move :: future) :
    (front = past ∧ last = move ∧ future = []) ∨
      ∃ rest, front = past ++ move :: rest ∧ future = rest ++ [last] := by
  rcases List.eq_nil_or_concat future with rfl | ⟨rest, final, rfl⟩
  · obtain ⟨hf, hm⟩ := List.append_inj' h rfl
    exact .inl ⟨hf, List.singleton_inj.mp hm, rfl⟩
  · have snoc : front ++ [last] = (past ++ move :: rest) ++ [final] := by simpa using h
    obtain ⟨front_eq, last_eq⟩ := List.append_inj' snoc rfl
    exact .inr ⟨rest, front_eq, by rw [last_eq, List.concat_eq_append]⟩

/-- Every move of a history is made at a turn that is reached, or is a step from outside. -/
theorem TrapReach.earlier {history : List TrapMove} {turn : TrapTurn}
    (reach : TrapReach history turn) {past future : List TrapMove} {move : TrapMove}
    (h : history = past ++ move :: future) :
    (∃ earlier, TrapReach past earlier ∧ earlier.move? = some move) ∨
      ∃ session step, move = .make session none step := by
  induction reach generalizing future with
  | start => simp at h
  | step reach ih =>
    rcases last_or_earlier h with ⟨_, rfl, _⟩ | ⟨rest, he, _⟩
    · exact .inr ⟨_, _, rfl⟩
    · exact ih he
  | @next history turn reach ih =>
    cases hm : turn.move? with
    | none =>
      rw [hm] at h
      exact ih (by simpa using h)
    | some made =>
      rw [hm] at h
      rcases last_or_earlier h with ⟨rfl, rfl, _⟩ | ⟨rest, he, _⟩
      · exact .inl ⟨turn, reach, hm⟩
      · exact ih he

/-- Every move of a history is made on a session that the moves before it reach. -/
theorem TrapReach.before {history : List TrapMove} {turn : TrapTurn}
    (reach : TrapReach history turn) {past future : List TrapMove} {move : TrapMove}
    (h : history = past ++ move :: future) :
    ∃ earlier, TrapReach past earlier ∧ earlier.session = move.session := by
  induction reach generalizing future with
  | start => simp at h
  | step reach ih =>
    rcases last_or_earlier h with ⟨rfl, rfl, _⟩ | ⟨rest, he, _⟩
    · exact ⟨_, reach, rfl⟩
    · exact ih he
  | @next history turn reach ih =>
    cases hm : turn.move? with
    | none =>
      rw [hm] at h
      exact ih (by simpa using h)
    | some made =>
      rw [hm] at h
      rcases last_or_earlier h with ⟨rfl, rfl, _⟩ | ⟨rest, he, _⟩
      · exact ⟨turn, reach, (TrapTurn.move?_session hm).symm⟩
      · exact ih he

theorem TrapReach.made {history : List TrapMove} {session : TrapSession} {outcome : TrapOutcome}
    (reach : TrapReach history (.finished session outcome)) (step : TrapStep)
    (h : step ≠ .dispatch) :
    TrapReach (history ++ [.make session none step])
      (.finished (session.make none step).2 (session.make none step).1) := by
  have stepped : TrapReach _ (TrapTurn.perform session none [] step) := reach.step
  rwa [TrapTurn.perform_of_ne session none [] h, TrapTurn.deliver_nil] at stepped

theorem TrapReach.run {history : List TrapMove} {turn : TrapTurn} (reach : TrapReach history turn) :
    ∃ future, TrapReach (history ++ future) (.finished turn.run.2 turn.run.1) := by
  induction turn using TrapTurn.run.induct generalizing history with
  | case1 session outcome => exact ⟨[], by simpa [TrapTurn.run] using reach⟩
  | case2 session frame outer ih =>
    obtain ⟨future, h⟩ := ih reach.next
    rw [TrapTurn.run]
    exact ⟨_, by simpa [List.append_assoc] using h⟩

theorem TrapReach.performed {history : List TrapMove} {session : TrapSession}
    {outcome : TrapOutcome} (reach : TrapReach history (.finished session outcome))
    (step : TrapStep) :
    ∃ future, TrapReach (history ++ future)
      (.finished (session.step step).2 (session.step step).1) := by
  obtain ⟨future, h⟩ := (TrapReach.step reach).run
  rw [List.append_assoc] at h
  exact ⟨_, h⟩

/-- Every session that a list of steps leaves is reached. -/
theorem TrapReach.played {history : List TrapMove} {session : TrapSession} {outcome : TrapOutcome}
    (reach : TrapReach history (.finished session outcome)) {steps : List TrapStep}
    {answer : TrapOutcome × TrapSession} (h : answer ∈ session.play steps) :
    ∃ future, TrapReach (history ++ future) (.finished answer.2 answer.1) := by
  induction steps generalizing history session outcome with
  | nil => simp [TrapSession.play] at h
  | cons step steps ih =>
    obtain ⟨first, here⟩ := reach.performed step
    have next : answer = session.step step ∨ answer ∈ (session.step step).2.play steps := by
      simp only [TrapSession.play] at h
      split at h
      next he => exact .inl (by rw [he]; simpa using h)
      next he =>
        rw [he]
        simpa using h
    rcases next with rfl | h
    · exact ⟨first, here⟩
    · obtain ⟨second, there⟩ := ih here h
      exact ⟨first ++ second, by simpa [List.append_assoc] using there⟩

end PlatformFirmware
