import PlatformFirmware.Proofs.TrapCallbacks
import PlatformFirmware.Proofs.TrapRoster

namespace PlatformFirmware

open TrapSystem

/-- A cycle is for at most one of several records that are apart. -/
theorem length_le_one_of_apart {records : List TrapRecord} {address : UInt16} {isWrite : Bool}
    (apart : records.Pairwise TrapRecord.Apart)
    (covers : ∀ record ∈ records, record.isFor address isWrite = true) : records.length ≤ 1 := by
  rcases records with _ | ⟨first, _ | ⟨second, rest⟩⟩
  · exact Nat.zero_le 1
  · exact Nat.le_refl 1
  · have here := covers first (by simp)
    have there := covers second (by simp)
    have between := (List.pairwise_cons.mp apart).1 second (by simp)
    simp only [TrapRecord.isFor, Bool.and_eq_true, decide_eq_true_eq,
      UInt16.le_iff_toNat_le] at here there
    unfold TrapRecord.Apart RangesApart at between
    omega

theorem TrapDispatcher.Tidy.matching_length {dispatcher : TrapDispatcher}
    (tidy : dispatcher.Tidy) (i : Fin 4) (address : UInt16) (isWrite : Bool) :
    (dispatcher.matching i address isWrite).length ≤ 1 :=
  length_le_one_of_apart ((tidy.entries i).apart.filter _) fun _ hr => (List.mem_filter.mp hr).2

theorem TrapDispatcher.matching_live {dispatcher : TrapDispatcher} {i : Fin 4}
    {address : UInt16} {isWrite : Bool} {record : TrapRecord}
    (h : record ∈ dispatcher.matching i address isWrite) : record ∈ dispatcher.liveRecords :=
  mem_liveRecords.mpr ⟨i, (List.mem_filter.mp h).1⟩

namespace TrapTurn

/-- At most one registration is yet to be called, and it is in force. None is while a callback
runs, whatever the callback does. -/
def PendingLive : TrapTurn → Prop
  | .finished _ _ => True
  | .running session frame outer =>
    (∀ waiting ∈ outer, waiting.pending = []) ∧
      (frame.callback.isSome = true → frame.pending = []) ∧ frame.pending.length ≤ 1 ∧
      ∀ record ∈ frame.pending, record ∈ session.system.dispatcher.liveRecords

theorem pendingLive_deliver {frames : List DispatchFrame}
    (h : ∀ waiting ∈ frames, waiting.pending = []) (answer : TrapOutcome × TrapSession) :
    (deliver frames answer).PendingLive := by
  rcases deliver_eq frames answer with ⟨_, he⟩ | ⟨frame, outer, rfl, he⟩
  · rw [he]
    trivial
  · rw [he]
    have empty := h frame (by simp)
    exact ⟨fun waiting hw => h waiting (by simp [hw]), fun _ => empty, by simp [empty],
      by simp [empty]⟩

theorem pendingLive_perform {frames : List DispatchFrame}
    (h : ∀ waiting ∈ frames, waiting.pending = []) (session : TrapSession) (self : Option Nat)
    (step : TrapStep) : (perform session self frames step).PendingLive := by
  rcases perform_eq session self frames step with he | ⟨access, he⟩
  · rw [he]
    exact pendingLive_deliver h _
  · rw [he]
    exact ⟨h, fun _ => rfl, by simp [DispatchFrame.start], by simp [DispatchFrame.start]⟩

theorem pendingLive_next {turn : TrapTurn} (tidy : turn.session.system.dispatcher.Tidy)
    (h : turn.PendingLive) : turn.next.PendingLive := by
  match turn, h with
  | .finished _ _, _ => trivial
  | .running session ⟨_, _, pending, _, some (self, made :: _)⟩ outer, ⟨waits, idle, _, _⟩ =>
    refine pendingLive_perform ?_ session (some self) made
    intro waiting hw
    rcases List.mem_cons.mp hw with rfl | hw
    · exact idle rfl
    · exact waits waiting hw
  | .running _ ⟨_, _, _, _, some (_, [])⟩ _, ⟨waits, idle, le, live⟩ =>
    exact ⟨waits, fun _ => idle rfl, le, live⟩
  -- The record that is called now was the only one, so the callback may unregister what it likes.
  | .running _ ⟨_, _, record :: pending, _, none⟩ _, ⟨waits, _, le, _⟩ =>
    have empty : pending = [] := by
      simp only [List.length_cons] at le
      exact List.length_eq_zero_iff.mp (by omega)
    subst empty
    exact ⟨waits, fun _ => rfl, by simp, by simp⟩
  -- The next register is looked up as it is now, not as it was when the dispatch began.
  | .running session ⟨access, i :: _, [], _, none⟩ _, ⟨waits, _, _, _⟩ =>
    refine ⟨waits, fun running => ?_, tidy.matching_length i _ _, fun record hr => ?_⟩
    · cases running
    · exact TrapDispatcher.matching_live hr
  | .running session ⟨access, [], [], invoked, none⟩ outer, ⟨waits, _, _, _⟩ =>
    exact pendingLive_deliver waits
      (.dispatched invoked, (session.act (clearStatus access.status)).2)

end TrapTurn

theorem TrapReach.pendingLive {history : List TrapMove} {turn : TrapTurn}
    (reach : TrapReach history turn) (granted : ∀ move ∈ history, move.GrantsApart) :
    turn.PendingLive := by
  induction reach with
  | start => trivial
  | step reach ih => exact TrapTurn.pendingLive_perform (by simp) _ none _
  | next reach ih =>
    have past := fun move hm => granted move (List.mem_append_left _ hm)
    exact TrapTurn.pendingLive_next (reach.tidy past) (ih past)

/-- No registration in force is of a client whose registration was ended. -/
structure TrapSession.Parted (history : List TrapMove) (session : TrapSession) : Prop where
  roster : session.Roster
  gone : ∀ move ∈ history, ∀ record, move.released? = some record →
    record.callback.client < session.clients.length ∧
      ∀ other ∈ session.system.dispatcher.liveRecords,
        other.callback.client ≠ record.callback.client

namespace TrapSession

theorem Parted.quiet {history : List TrapMove} {before after : TrapSession} {move : TrapMove}
    (parted : before.Parted history) (roster : after.Roster) (quiet : move.released? = none)
    (le : before.clients.length ≤ after.clients.length)
    (live : ∀ other ∈ after.system.dispatcher.liveRecords,
      other ∈ before.system.dispatcher.liveRecords ∨
        before.clients.length ≤ other.callback.client) :
    after.Parted (history ++ [move]) := by
  refine ⟨roster, fun made hm record hr => ?_⟩
  rcases List.mem_append.mp hm with hm | hm
  · obtain ⟨lt, absent⟩ := parted.gone made hm record hr
    refine ⟨Nat.lt_of_lt_of_le lt le, fun other ho => ?_⟩
    rcases live other ho with ho | fresh
    · exact absent other ho
    · omega
  · obtain rfl := List.mem_singleton.mp hm
    exact absurd (quiet.symm.trans hr) (by simp)

theorem Parted.step {history : List TrapMove} {before after : TrapSession} {self : Option Nat}
    {step : TrapStep} (parted : before.Parted history) (h : before.Changes self step after) :
    after.Parted (history ++ [.make before self step]) := by
  have roster := h.roster parted.roster
  have le := h.clients_le
  cases h with
  | same quiet _ entries =>
    refine parted.quiet roster quiet le fun other ho => .inl ?_
    rw [TrapDispatcher.liveRecords_eq entries] at ho
    exact ho
  | added quiet _ hr places =>
    refine parted.quiet roster quiet le fun other ho => ?_
    rcases (places.mem_liveRecords parted.roster.tidy other).mp ho with ho | rfl
    · exact .inl ho
    · exact .inr (Nat.le_of_eq (TrapStep.registration?_client hr).symm)
  | @dropped i place record released _ placed hd _ clients =>
    have mem := TrapDispatcher.mem_liveRecords.mpr ⟨i, List.mem_of_getElem? placed⟩
    have live (other : TrapRecord) (ho : other ∈ after.system.dispatcher.liveRecords) :
        other ∈ before.system.dispatcher.liveRecords ∧ other ≠ record := by
      rw [hd] at ho
      exact parted.roster.tidy.live_without placed ho
    refine ⟨roster, fun made hm ended hr => ?_⟩
    rw [clients]
    rcases List.mem_append.mp hm with hm | hm
    · obtain ⟨lt, absent⟩ := parted.gone made hm ended hr
      exact ⟨lt, fun other ho => absent other (live other ho).1⟩
    · obtain rfl := List.mem_singleton.mp hm
      obtain rfl := Option.some.inj (released.symm.trans hr)
      refine ⟨parted.roster.enrolled record mem, fun other ho same => ?_⟩
      obtain ⟨hbefore, hne⟩ := live other ho
      exact hne (parted.roster.distinct other hbefore record mem same)
  | switched quiet _ _ _ hd =>
    refine parted.quiet roster quiet le fun other ho => .inl ?_
    rw [hd] at ho
    exact ho
  | replaced _ quiet _ hd =>
    refine parted.quiet roster quiet le fun other ho => .inl ?_
    rw [hd] at ho
    exact ho

end TrapSession

theorem TrapReach.parted {history : List TrapMove} {turn : TrapTurn}
    (reach : TrapReach history turn) (granted : ∀ move ∈ history, move.GrantsApart) :
    turn.session.Parted history := by
  refine TrapReach.invariant (P := fun history session => session.Parted history)
    ?_ ?_ ?_ ?_ reach granted
  · intro allocations releases
    exact ⟨(TrapReach.start allocations releases).roster (by simp), by simp⟩
  · intro history session self step grants parted
    exact parted.step (session.make_changes self step parted.roster.tidy grants)
  · intro history session record writeData parted
    exact parted.quiet parted.roster rfl (Nat.le_refl _) fun other ho => .inl ho
  · intro history before after same parted
    refine ⟨parted.roster.of_eq (by rw [same.dispatcher]) (Nat.le_of_eq same.clients.symm), ?_⟩
    rw [same.dispatcher, same.clients]
    exact parted.gone

/-- A callback begins only while its registration is in force, and never after it was ended. -/
theorem TrapReach.calls_registered {history : List TrapMove} {turn : TrapTurn}
    (reach : TrapReach history turn) (granted : ∀ move ∈ history, move.GrantsApart) :
    turn.session.system.callbacks = history.filterMap TrapMove.callback? ∧
    ∀ past session record writeData future,
      history = past ++ .call session record writeData :: future →
      record ∈ session.system.dispatcher.liveRecords ∧
      ∀ move ∈ past, ∀ ended, move.released? = some ended →
        record.callback.client ≠ ended.callback.client := by
  refine ⟨reach.callbacks_eq, ?_⟩
  intro past session record writeData future h
  have early : ∀ move ∈ past, move.GrantsApart := by
    intro move hm
    exact granted move (by simp [h, hm])
  rcases reach.earlier h with ⟨turn, before, made⟩ | ⟨_, _, made⟩
  · have pending := before.pendingLive early
    have parted := before.parted early
    have live : turn.session = session ∧ record ∈ session.system.dispatcher.liveRecords := by
      unfold TrapTurn.move? at made
      split at made
      next => cases made
      next here frame outer =>
        split at made
        next => cases made
        next waiting =>
          cases made
          exact ⟨rfl, pending.2.2.2 record (by simp [waiting])⟩
        next => cases made
    obtain ⟨rfl, live⟩ := live
    refine ⟨live, fun move hm ended released => ?_⟩
    exact (parted.gone move hm ended released).2 record live
  · cases made

theorem TrapReach.calls_registered_once :
    let start := TrapSession.start [.ok 0x1800] []
    let registered := (start.make none (.register 0 4 .readWrite [[.unregister .self]])).2
    let latched := (registered.make none (.latch 1 0xF1800 0)).2
    let turn := (TrapTurn.perform latched none [] .dispatch).next
    ∃ session record writeData, turn.move? = some (.call session record writeData) ∧
      record ∈ session.system.dispatcher.liveRecords := by
  intro start registered latched turn
  have one := (TrapReach.start [.ok 0x1800] []).made
    (.register 0 4 .readWrite [[.unregister .self]]) (by simp)
  have reach : TrapReach _ turn.next := (one.made (.latch 1 0xF1800 0) (by simp)).step.next.next
  have idle : (TrapTurn.perform latched none [] .dispatch).move? = none :=
    Option.isNone_iff_eq_none.mp (by decide +kernel)
  have called : (turn.move?.bind TrapMove.callback?).isSome = true := by decide +kernel
  cases hm : turn.move? with
  | none =>
    rw [hm] at called
    cases called
  | some move =>
    cases move with
    | make session self step =>
      rw [hm] at called
      cases called
    | call session record writeData =>
      rw [idle, hm] at reach
      have granted : ∀ move ∈ [TrapMove.make start none
          (.register 0 4 .readWrite [[.unregister .self]]),
          .make registered none (.latch 1 0xF1800 0), .make latched none .dispatch,
          .call session record writeData], move.GrantsApart := by
        intro move hmem
        simp only [List.mem_cons, List.not_mem_nil, or_false] at hmem
        rcases hmem with rfl | rfl | rfl | rfl
        · intro base h
          cases h
          decide
        · exact TrapMove.grantsApart_of_not_registration rfl
        · exact TrapMove.grantsApart_of_not_registration rfl
        · trivial
      have calls := (reach.calls_registered granted).2
      exact ⟨_, _, _, rfl, (calls _ session record writeData [] rfl).1⟩

end PlatformFirmware
