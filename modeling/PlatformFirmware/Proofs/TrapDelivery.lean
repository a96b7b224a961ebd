import PlatformFirmware.Proofs.TrapReach
import PlatformFirmware.Proofs.TrapTable

namespace PlatformFirmware

open TrapSystem

def TrapMove.called? : TrapMove → Option TrapRecord
  | call _ record _ => some record
  | make _ _ _ => none

/-- The registrations that a dispatch has yet to call if no entry changes until it ends. -/
def DispatchFrame.awaits (frame : DispatchFrame) (dispatcher : TrapDispatcher) :
    List TrapRecord :=
  frame.pending ++ frame.registers.flatMap fun i =>
    dispatcher.matching i frame.access.address frame.access.isWrite

/-- The registrations that the dispatch with `depth` others around it has yet to call. -/
def awaited (dispatcher : TrapDispatcher) (depth : Nat) : List DispatchFrame → List TrapRecord
  | [] => []
  | frame :: outer =>
    if outer.length = depth then frame.awaits dispatcher else awaited dispatcher depth outer

/-- The same session with callbacks that do nothing. -/
def TrapSession.silenced (session : TrapSession) : TrapSession :=
  { session with clients := session.clients.map fun client => { client with reactions := [] } }

def TrapSession.Silent (session : TrapSession) : Prop :=
  ∀ client ∈ session.clients, client.reactions = []

namespace TrapTurn

def frames : TrapTurn → List DispatchFrame
  | .finished _ _ => []
  | .running _ frame outer => frame :: outer

/-- The registrations that the dispatch with `depth` others around it calls until it ends. -/
def deliveries (depth : Nat) : TrapTurn → List TrapRecord
  | .finished _ _ => []
  | .running session frame outer =>
    let turn := running session frame outer
    if outer.length < depth then []
    else (if outer.length = depth then (turn.move?.bind TrapMove.called?).toList else []) ++
      deliveries depth turn.next
termination_by turn => turn.cost
decreasing_by exact next_cost_lt session frame outer

/-- Turns between which dispatches go on, and no step that is made changes an entry. -/
structure Steady (K : TrapTurn → Prop) : Prop where
  next {turn : TrapTurn} : K turn → K turn.next
  make {turn : TrapTurn} {self : Option Nat} {step : TrapStep} : K turn →
    turn.move? = some (.make turn.session self step) →
    (∀ cause, (turn.session.make self step).1 ≠ .halted cause) ∧
      (turn.session.make self step).2.system.dispatcher.entries =
        turn.session.system.dispatcher.entries

end TrapTurn

/-- The registrations that are called by a dispatch that is begun now. -/
def TrapSession.deliveries (session : TrapSession) : List TrapRecord :=
  (TrapTurn.perform session none [] .dispatch).deliveries 0

theorem DispatchFrame.awaits_congr {before after : TrapDispatcher}
    (h : after.entries = before.entries) (frame : DispatchFrame) :
    frame.awaits after = frame.awaits before := by
  simp only [awaits, TrapDispatcher.matching, TrapDispatcher.entry_congr h]

theorem awaited_congr {before after : TrapDispatcher} (h : after.entries = before.entries)
    (depth : Nat) (frames : List DispatchFrame) :
    awaited after depth frames = awaited before depth frames := by
  induction frames with
  | nil => rfl
  | cons frame outer ih => simp only [awaited, frame.awaits_congr h, ih]

theorem awaited_head {dispatcher : TrapDispatcher} {frame other : DispatchFrame}
    (h : other.awaits dispatcher = frame.awaits dispatcher) (depth : Nat)
    (outer : List DispatchFrame) :
    awaited dispatcher depth (other :: outer) = awaited dispatcher depth (frame :: outer) := by
  simp only [awaited, h]

theorem awaited_of_length_le {dispatcher : TrapDispatcher} {depth : Nat}
    {frames : List DispatchFrame} (h : frames.length ≤ depth) :
    awaited dispatcher depth frames = [] := by
  induction frames with
  | nil => rfl
  | cons frame outer ih =>
    rw [List.length_cons] at h
    rw [awaited, if_neg (by omega)]
    exact ih (by omega)

theorem awaited_append (dispatcher : TrapDispatcher) (inner : List DispatchFrame)
    (frame : DispatchFrame) (outer : List DispatchFrame) :
    awaited dispatcher outer.length (inner ++ frame :: outer) = frame.awaits dispatcher := by
  induction inner with
  | nil => simp [awaited]
  | cons first inner ih =>
    have longer : (inner ++ frame :: outer).length ≠ outer.length := by
      simp
      omega
    rw [List.cons_append, awaited, if_neg longer, ih]

namespace TrapTurn

theorem deliver_cons {answer : TrapOutcome × TrapSession}
    (h : ∀ cause, answer.1 ≠ .halted cause) (frame : DispatchFrame)
    (outer : List DispatchFrame) :
    deliver (frame :: outer) answer =
      .running (answer.2.note (.nested answer.1)) frame outer := by
  obtain ⟨outcome, session⟩ := answer
  cases outcome with
  | halted cause => exact absurd rfl (h cause)
  | registered | completed | noHandle | dispatched => rfl

theorem awaited_deliver {frames : List DispatchFrame} {answer : TrapOutcome × TrapSession}
    (h : ∀ cause, answer.1 ≠ .halted cause) (depth : Nat) :
    awaited (deliver frames answer).session.system.dispatcher depth (deliver frames answer).frames =
      awaited answer.2.system.dispatcher depth frames := by
  cases frames with
  | nil =>
    rw [deliver_nil]
    rfl
  | cons frame outer =>
    rw [deliver_cons h]
    rfl

/-- What a dispatch awaits is what it calls next, and what it awaits then. -/
theorem awaited_next {session : TrapSession} {frame : DispatchFrame}
    {outer : List DispatchFrame} {depth : Nat} (le : depth ≤ outer.length)
    (steady : ∀ self step, (running session frame outer).move? = some (.make session self step) →
      (∀ cause, (session.make self step).1 ≠ .halted cause) ∧
        (session.make self step).2.system.dispatcher.entries = session.system.dispatcher.entries) :
    let turn := running session frame outer
    (if outer.length = depth then (turn.move?.bind TrapMove.called?).toList else []) ++
        awaited turn.next.session.system.dispatcher depth turn.next.frames =
      awaited session.system.dispatcher depth (frame :: outer) := by
  have uncalled {turn : TrapTurn} (h : turn.move?.bind TrapMove.called? = none) :
      (if outer.length = depth then (turn.move?.bind TrapMove.called?).toList else []) = [] := by
    rw [h, Option.toList_none, ite_self]
  match frame, steady with
  | ⟨access, registers, pending, invoked, some (self, step :: steps)⟩, steady =>
    intro turn
    obtain ⟨goes, entries⟩ := steady (some self) step rfl
    let waiting : DispatchFrame :=
      { access, registers, pending, invoked, callback := some (self, steps) }
    have next : turn.next = perform session (some self) (waiting :: outer) step := rfl
    have quiet : turn.move?.bind TrapMove.called? = none := rfl
    rw [uncalled quiet, List.nil_append, next]
    refine Eq.trans ?_ (@awaited_head _ _ waiting rfl depth outer)
    rw [← awaited_congr entries]
    rcases perform_eq session (some self) (waiting :: outer) step with he | ⟨inner, he⟩
    · rw [he]
      exact awaited_deliver goes depth
    · -- The dispatch that was begun is inside of the one that is counted.
      rw [he]
      exact if_neg (by rw [List.length_cons]; omega)
  | ⟨access, registers, pending, invoked, some (self, [])⟩, _ =>
    intro turn
    have quiet : turn.move?.bind TrapMove.called? = none := rfl
    rw [uncalled quiet, List.nil_append]
    exact awaited_head rfl depth outer
  | ⟨access, registers, record :: pending, invoked, none⟩, _ =>
    intro turn
    have called : turn.move?.bind TrapMove.called? = some record := rfl
    have dispatcher : turn.next.session.system.dispatcher = session.system.dispatcher := rfl
    rw [called, dispatcher]
    by_cases h : outer.length = depth
    · simp only [turn, TrapTurn.next, frames, awaited, if_pos h]
      rfl
    · simp only [turn, TrapTurn.next, frames, awaited, if_neg h, List.nil_append]
  | ⟨access, i :: registers, [], invoked, none⟩, _ =>
    intro turn
    have quiet : turn.move?.bind TrapMove.called? = none := rfl
    rw [uncalled quiet, List.nil_append]
    refine awaited_head ?_ depth outer
    simp [DispatchFrame.awaits, turn, TrapTurn.next, TrapTurn.session]
  | ⟨access, [], [], invoked, none⟩, _ =>
    intro turn
    have next : turn.next = deliver outer (.dispatched invoked,
      (session.act (clearStatus access.status)).2) := rfl
    have quiet : turn.move?.bind TrapMove.called? = none := rfl
    rw [uncalled quiet, List.nil_append, next, awaited_deliver (by simp), awaited]
    split
    next h => exact awaited_of_length_le (Nat.le_of_eq h)
    next => rfl

/-- As long as no entry changes, all dispatches under way call what they await. -/
theorem Steady.deliveries_eq {K : TrapTurn → Prop} (steady : Steady K) {turn : TrapTurn}
    (here : K turn) (depth : Nat) :
    turn.deliveries depth = awaited turn.session.system.dispatcher depth turn.frames := by
  induction turn using TrapTurn.run.induct with
  | case1 session outcome =>
    rw [deliveries]
    rfl
  | case2 session frame outer ih =>
    rw [deliveries]
    split
    -- The dispatch that is counted has ended.
    next lt => exact (awaited_of_length_le lt).symm
    next ge =>
      rw [ih (steady.next here)]
      exact awaited_next (Nat.le_of_not_lt ge) fun self step => steady.make here

end TrapTurn

theorem TrapTurn.Steady.session_deliveries {K : TrapTurn → Prop} (steady : Steady K)
    {session : TrapSession} (here : K (perform session none [] .dispatch)) :
    session.deliveries = match trapped? session.system.hardware with
      | none => []
      | some access => (DispatchFrame.start access).awaits session.system.dispatcher := by
  have first : (session.act beginDispatch).1 = trapped? session.system.hardware :=
    beginDispatch_fst _
  have dispatcher : (session.act beginDispatch).2.system.dispatcher = session.system.dispatcher :=
    (beginDispatch_notes session.system).dispatcher
  rw [TrapSession.deliveries, steady.deliveries_eq here]
  cases h : trapped? session.system.hardware with
  | none =>
    simp only [perform, first, h]
    rfl
  | some access =>
    simp only [perform, first, h]
    simp only [TrapTurn.session, frames, dispatcher]
    rfl

namespace TrapSession

theorem silent_silenced (session : TrapSession) : session.silenced.Silent := by
  intro client hc
  obtain ⟨_, _, rfl⟩ := List.mem_map.mp hc
  rfl

theorem Silent.takeReaction {session : TrapSession} (silent : session.Silent) (number : Nat) :
    (session.takeReaction number).1 = [] ∧ (session.takeReaction number).2.Silent := by
  constructor
  · simp only [TrapSession.takeReaction]
    cases h : session.clients[number]? with
    | none => rfl
    | some client => simp [silent client (List.mem_of_getElem? h)]
  · intro client hc
    simp only [TrapSession.takeReaction] at hc
    obtain ⟨i, hi⟩ := List.mem_iff_getElem?.mp hc
    rw [List.getElem?_modify] at hi
    cases h : session.clients[i]? with
    | none => simp [h] at hi
    | some old =>
      have none := silent old (List.mem_of_getElem? h)
      rw [h] at hi
      split at hi
      next =>
        obtain rfl := Option.some.inj hi
        simp [none]
      next =>
        obtain rfl := Option.some.inj hi
        exact none

end TrapSession

namespace TrapTurn

structure Silent (turn : TrapTurn) : Prop where
  clients : turn.session.Silent
  callbacks : ∀ frame ∈ turn.frames, ∀ self steps, frame.callback = some (self, steps) → steps = []

theorem Silent.move?_ne {turn : TrapTurn} (silent : turn.Silent) {session : TrapSession}
    {self : Option Nat} {step : TrapStep} : turn.move? ≠ some (.make session self step) := by
  intro h
  unfold move? at h
  split at h
  next => cases h
  next here frame outer =>
    split at h
    next running =>
      cases silent.callbacks frame (by simp [frames]) _ _ running
    next => cases h
    next => cases h

theorem Silent.deliver {frames : List DispatchFrame} {answer : TrapOutcome × TrapSession}
    (clients : answer.2.Silent)
    (callbacks : ∀ frame ∈ frames, ∀ self steps, frame.callback = some (self, steps) →
      steps = []) : (deliver frames answer).Silent := by
  rcases deliver_eq frames answer with ⟨_, he⟩ | ⟨_, _, rfl, he⟩
  · rw [he]
    exact ⟨clients, by simp [TrapTurn.frames]⟩
  · rw [he]
    exact ⟨clients, callbacks⟩

theorem Silent.next {turn : TrapTurn} (silent : turn.Silent) : turn.next.Silent := by
  match turn, silent with
  | .finished _ _, silent => exact silent
  | .running _ ⟨_, _, _, _, some (_, step :: steps)⟩ _, silent =>
    cases silent.callbacks _ List.mem_cons_self _ _ rfl
  | .running _ ⟨_, _, _, _, some (_, [])⟩ _, ⟨clients, callbacks⟩ =>
    refine ⟨clients, fun frame hf self steps running => ?_⟩
    rcases List.mem_cons.mp hf with rfl | hf
    · cases running
    · exact callbacks frame (List.mem_cons_of_mem _ hf) self steps running
  | .running session ⟨access, _, record :: _, _, none⟩ _, ⟨clients, callbacks⟩ =>
    have noted : (session.note (TrapSession.callEvent record access.writeData)).Silent := clients
    obtain ⟨none, clients⟩ := noted.takeReaction record.callback.client
    refine ⟨clients, fun frame hf self steps running => ?_⟩
    rcases List.mem_cons.mp hf with rfl | hf
    · obtain ⟨_, rfl⟩ := Prod.mk.inj (Option.some.inj running)
      exact none
    · exact callbacks frame (List.mem_cons_of_mem _ hf) self steps running
  | .running _ ⟨_, _ :: _, [], _, none⟩ _, ⟨clients, callbacks⟩ =>
    refine ⟨clients, fun frame hf self steps running => ?_⟩
    rcases List.mem_cons.mp hf with rfl | hf
    · cases running
    · exact callbacks frame (List.mem_cons_of_mem _ hf) self steps running
  | .running session ⟨access, [], [], invoked, none⟩ outer, ⟨clients, callbacks⟩ =>
    let answer := (TrapOutcome.dispatched invoked, (session.act (clearStatus access.status)).2)
    have cleared : answer.2.Silent := clients
    refine Silent.deliver cleared fun frame hf => ?_
    exact callbacks frame (List.mem_cons_of_mem _ hf)

theorem steady_silent : Steady Silent where
  next silent := silent.next
  make silent made := absurd made silent.move?_ne

theorem Silent.dispatch {session : TrapSession} (silent : session.Silent) :
    (perform session none [] .dispatch).Silent := by
  rcases perform_eq session none [] .dispatch with he | ⟨access, he⟩
  · rw [he]
    exact Silent.deliver silent (by simp)
  · rw [he]
    refine ⟨silent, fun frame hf self steps running => ?_⟩
    obtain rfl := List.mem_singleton.mp hf
    cases running

end TrapTurn

end PlatformFirmware
