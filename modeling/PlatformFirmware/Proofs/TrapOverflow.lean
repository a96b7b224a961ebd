import Mathlib.Data.List.Induction
import PlatformFirmware.Proofs.TrapArithmetic
import PlatformFirmware.Proofs.TrapLanding
import PlatformFirmware.Proofs.TrapLock

namespace PlatformFirmware

open TrapSystem

/-- Each window that is granted in a move starts at a multiple of its length. -/
def TrapMove.GrantsAligned (move : TrapMove) : Prop :=
  ∀ base ∈ move.granted, mergedTrapLength.toNat ∣ base.toNat

namespace TrapDispatcher

/-- Each window that is shared starts at a multiple of its length. -/
def Aligned (dispatcher : TrapDispatcher) : Prop :=
  ∀ base ∈ dispatcher.windows, mergedTrapLength.toNat ∣ base.toNat

/-- All that is computed about a dispatcher fits its word or its field, with the value that the
calls on the dispatcher take it to have. -/
structure KeepsToWords (dispatcher : TrapDispatcher) : Prop where
  rounded : ∀ length ≤ maximumTrapLength,
    Checked.roundedLength length = some (roundedTrapLength length)
  offset : ∀ i, ∀ length ∈ trapLengths,
    Checked.freeOffset (dispatcher.entry i) length = some ((dispatcher.entry i).freeOffset? length)
  place : ∀ i, ∀ length ∈ trapLengths, ∀ offset,
    (dispatcher.entry i).freeOffset? length = some offset →
      Checked.sum16 offset length = some (offset + length) ∧
      Checked.sum16 (dispatcher.entry i).base offset = some ((dispatcher.entry i).base + offset)
  misplaced : ∀ address, ∀ length ∈ trapLengths, Checked.isMisplaced address length =
    some (address % length ≠ 0 || decide (address.toNat + length.toNat > UInt16.size))
  overlap : ∀ i address length, Checked.overlaps (dispatcher.entry i) address length =
    some ((dispatcher.entry i).overlaps address length)
  range : ∀ address length direction,
    Checked.ofRange address length direction = some (.ofRange address length direction)
  request : ∀ request length, Checked.ofRequest request length = some (.ofRequest request length)
  length : ∀ register : TrapRegister, Checked.registerLength register = some register.length
  address : ∀ cycle : TrappedCycle, Checked.cycleAddress cycle = some cycle.address
  taken : ∀ record ∈ dispatcher.liveRecords, ∀ address isWrite,
    Checked.isFor record address isWrite = some (record.isFor address isWrite)

variable {dispatcher : TrapDispatcher}

/-- The room that is found in an aligned window ends at the end of the address space at the
latest. -/
theorem Aligned.room (aligned : dispatcher.Aligned) {i : Fin 4} {length offset : UInt16}
    (h : length ∈ trapLengths) (free : (dispatcher.entry i).freeOffset? length = some offset) :
    (dispatcher.entry i).base.toNat + offset.toNat + length.toNat ≤ UInt16.size := by
  obtain ⟨used, shared, _, _, fits⟩ := TrapEntry.freeOffset?_eq_some h free
  have multiple := aligned _ (mem_windows.mpr ⟨i, used, shared, rfl⟩)
  have below := (dispatcher.entry i).base.toNat_lt
  rw [mergedTrapLength_toNat] at multiple
  rw [show UInt16.size = 65536 from rfl]
  omega

theorem Aligned.keepsToWords (aligned : dispatcher.Aligned) : dispatcher.KeepsToWords where
  rounded _ small := Checked.roundedLength_eq small
  offset _ _ h := Checked.freeOffset_eq _ h
  place i length h offset free := by
    obtain ⟨_, _, _, _, fits⟩ := TrapEntry.freeOffset?_eq_some h free
    have room := aligned.room h free
    have pos := trapLength_pos h
    exact ⟨Checked.sum16_eq (Nat.lt_of_le_of_lt fits (by decide)), Checked.sum16_eq (by omega)⟩
  misplaced address _ h := Checked.isMisplaced_eq h address
  overlap _ address length := Checked.overlaps_eq _ address length
  range := Checked.ofRange_eq
  request := Checked.ofRequest_eq
  length := Checked.registerLength_eq
  address := Checked.cycleAddress_eq
  taken record _ := Checked.isFor_eq record

end TrapDispatcher

/-- A window that is held was granted in one of the moves. -/
theorem granted_of_held {history : List TrapMove} {base : UInt16}
    (held : base ∈ heldWindows history) : ∃ move ∈ history, base ∈ move.granted := by
  induction history using List.reverseRecOn with
  | nil => cases held
  | append_singleton history move ih =>
    rw [heldWindows_append, ← List.diff_eq_foldl] at held
    rcases List.mem_append.mp (List.diff_subset _ _ held) with before | here
    · obtain ⟨earlier, mem, granted⟩ := ih before
      exact ⟨earlier, List.mem_append_left _ mem, granted⟩
    · exact ⟨move, by simp, here⟩

/-- Windows are shared at aligned addresses if they are granted so. -/
theorem TrapReach.aligned {history : List TrapMove} {turn : TrapTurn}
    (reach : TrapReach history turn) (granted : ∀ move ∈ history, move.GrantsAligned) :
    turn.session.system.dispatcher.Aligned := by
  intro base shared
  obtain ⟨move, mem, given⟩ := granted_of_held (reach.windows_held.mem_iff.mpr shared)
  exact granted move mem base given

namespace TrapSystem

variable {before after : TrapSystem}

theorem Registers.not_halted {callback : TrapCallback} {request : TrapRequest}
    {result : Except Fault (TrapHandle × UInt16)}
    (h : Registers callback request before result after) (aligned : before.dispatcher.Aligned)
    (cause : HaltCause) : result ≠ .error (.halted cause) := by
  cases h with
  | locked | noRange | unkept | kept => exact nofun
  | unclaimed _ _ claims =>
    cases claims with
    | noAddress => exact nofun
    | refused _ claims => cases claims <;> exact nofun
    | shared _ _ claims =>
      cases claims with
      | noRegister | noWindow => exact nofun
      | overflow found beyond =>
        have rounded := roundedTrapLength_mem request.length
        have room := aligned.room rounded (TrapDispatcher.sharedRoom?_eq_some found)
        have pos := trapLength_pos rounded
        omega

theorem Drops.not_halted {handle : TrapHandle} {extended : Bool} {result : Except Fault Unit}
    (h : Drops handle extended before result after) (cause : HaltCause) :
    result ≠ .error (.halted cause) := by
  cases h <;> exact nofun

/-- A registration does not reach past the end of the address space. -/
theorem Registers.within {callback : TrapCallback} {request : TrapRequest} {handle : TrapHandle}
    {address : UInt16} (h : Registers callback request before (.ok (handle, address)) after)
    (sound : before.dispatcher.Sound) (aligned : after.dispatcher.Aligned) :
    address.toNat + (roundedTrapLength request.length).toNat ≤ UInt16.size := by
  cases h with
  | @kept _ claimed _ k _ _ claims _ logged =>
    cases claims with
    | dedicated _ claims =>
      cases claims with
      | dedicated _ size => exact size
    | shared _ _ claims =>
      obtain ⟨i, _, covers, _⟩ := claims.covers sound (roundedTrapLength_mem request.length)
      have windows : after.dispatcher.windows = claimed.dispatcher.windows := by
        rw [logged.dispatcher]
        exact @TrapDispatcher.windows_setEntry_same claimed.dispatcher.spendSerial k _ rfl
      have shared := TrapDispatcher.mem_windows.mpr ⟨i, covers.used, covers.shared, rfl⟩
      rw [← windows] at shared
      have multiple := aligned _ shared
      have below := (claimed.dispatcher.entry i).base.toNat_lt
      have stop := covers.hi
      rw [mergedTrapLength_toNat] at multiple stop
      rw [show UInt16.size = 65536 from rfl]
      omega

end TrapSystem

namespace TrapOutcome

theorem ofRegistration_not_halted {result : Except Fault (TrapHandle × UInt16)}
    (h : ∀ cause, result ≠ .error (.halted cause)) (address : UInt16) (cause : HaltCause) :
    ofRegistration address result ≠ .halted cause := by
  match result with
  | .ok (_, _) | .error (.refused _) => exact nofun
  | .error (.halted other) => exact absurd rfl (h other)

theorem ofCall_not_halted {result : Except Fault Unit}
    (h : ∀ cause, result ≠ .error (.halted cause)) (cause : HaltCause) :
    ofCall result ≠ .halted cause := by
  match result with
  | .ok () | .error (.refused _) => exact nofun
  | .error (.halted other) => exact absurd rfl (h other)

end TrapOutcome

theorem TrapSession.make_register_outcome (session : TrapSession) (self : Option Nat)
    (address length : UInt16) (direction : TrapDirection) (reactions : List (List TrapStep)) :
    (session.make self (.register address length direction reactions)).1 =
      .ofRegistration address
        (register session.clients.length address length direction session.system).1 := by
  rw [make, enroll_eq]

theorem TrapSession.make_not_halted {session : TrapSession}
    (aligned : session.system.dispatcher.Aligned) (self : Option Nat) (step : TrapStep)
    (cause : HaltCause) : (session.make self step).1 ≠ .halted cause := by
  have makes := make_makes session self step
  generalize (session.make self step).1 = outcome at makes
  generalize (session.make self step).2 = after at makes
  cases makes with
  | registers _ registers =>
    exact TrapOutcome.ofRegistration_not_halted (registers.not_halted aligned) _ cause
  | drops _ _ drops => exact TrapOutcome.ofCall_not_halted drops.not_halted cause
  | switches _ _ switches => exact TrapOutcome.ofCall_not_halted switches.not_halted cause
  | missing | locks | latches | sets | begins => exact nofun

namespace TrapTurn

theorem deliver_not_halted {outcome : TrapOutcome} (h : ∀ cause, outcome ≠ .halted cause)
    (frames : List DispatchFrame) (session after : TrapSession) (cause : HaltCause) :
    deliver frames (outcome, session) ≠ .finished after (.halted cause) := by
  cases frames with
  | nil =>
    rw [deliver_nil]
    exact fun halted => h cause (finished.inj halted).2
  | cons frame outer =>
    rw [deliver_cons h]
    exact nofun

theorem perform_not_halted {session : TrapSession} (aligned : session.system.dispatcher.Aligned)
    (self : Option Nat) (frames : List DispatchFrame) (step : TrapStep) (after : TrapSession)
    (cause : HaltCause) : perform session self frames step ≠ .finished after (.halted cause) := by
  rcases perform_eq session self frames step with he | ⟨_, he⟩
  · rw [he]
    exact deliver_not_halted (session.make_not_halted aligned self step) frames _ after cause
  · rw [he]
    exact nofun

/-- A turn on an aligned dispatcher does not halt. -/
theorem next_not_halted {turn : TrapTurn} (aligned : turn.session.system.dispatcher.Aligned)
    (here : ∀ session cause, turn ≠ .finished session (.halted cause)) (after : TrapSession)
    (cause : HaltCause) : turn.next ≠ .finished after (.halted cause) := by
  match turn with
  | .finished _ _ => exact here after cause
  | .running _ ⟨_, _, _, _, some (self, step :: _)⟩ _ =>
    exact perform_not_halted aligned (some self) _ step after cause
  | .running _ ⟨_, _, _, _, some (_, [])⟩ _ | .running _ ⟨_, _, _ :: _, _, none⟩ _
  | .running _ ⟨_, _ :: _, [], _, none⟩ _ => exact nofun
  | .running session ⟨access, [], [], invoked, none⟩ outer =>
    have goes : ∀ cause, TrapOutcome.dispatched invoked ≠ .halted cause := by simp
    exact deliver_not_halted goes outer (session.act (clearStatus access.status)).2 after cause

/-- Every dispatch under way has counted at most so many callbacks. -/
def Counts (turn : TrapTurn) (most : Nat) : Prop :=
  ∀ frame ∈ turn.frames, frame.invoked ≤ most

theorem deliver_counts {frames : List DispatchFrame} {most : Nat}
    (h : ∀ frame ∈ frames, frame.invoked ≤ most) (answer : TrapOutcome × TrapSession) :
    (deliver frames answer).Counts most := by
  rcases deliver_eq frames answer with ⟨_, he⟩ | ⟨frame, outer, rfl, he⟩
  · rw [he]
    exact fun frame mem => by cases mem
  · rw [he]
    exact h

theorem perform_counts {frames : List DispatchFrame} {most : Nat}
    (h : ∀ frame ∈ frames, frame.invoked ≤ most) (session : TrapSession) (self : Option Nat)
    (step : TrapStep) : (perform session self frames step).Counts most := by
  rcases perform_eq session self frames step with he | ⟨access, he⟩
  · rw [he]
    exact deliver_counts h _
  · rw [he]
    exact List.forall_mem_cons.mpr ⟨Nat.zero_le most, h⟩

/-- A turn that begins a callback counts it, and no other turn counts any. -/
theorem next_counts {turn : TrapTurn} {most : Nat} (h : turn.Counts most) :
    turn.next.Counts (most + (turn.move?.bind TrapMove.called?).toList.length) := by
  match turn with
  | .finished _ _ => exact h
  | .running session frame outer =>
    obtain ⟨first, rest⟩ := List.forall_mem_cons.mp h
    match frame with
    | ⟨access, registers, pending, invoked, some (self, step :: steps)⟩ =>
      let waiting : DispatchFrame :=
        { access, registers, pending, invoked, callback := some (self, steps) }
      have counted : ∀ frame ∈ waiting :: outer, frame.invoked ≤ most :=
        List.forall_mem_cons.mpr ⟨first, rest⟩
      exact perform_counts counted session (some self) step
    | ⟨_, _, _, _, some (_, [])⟩ => exact List.forall_mem_cons.mpr ⟨first, rest⟩
    | ⟨_, _, _ :: _, _, none⟩ =>
      refine List.forall_mem_cons.mpr ⟨Nat.succ_le_succ first, fun frame mem => ?_⟩
      exact Nat.le_succ_of_le (rest frame mem)
    | ⟨_, _ :: _, [], _, none⟩ => exact List.forall_mem_cons.mpr ⟨first, rest⟩
    | ⟨access, [], [], invoked, none⟩ =>
      exact deliver_counts rest (.dispatched invoked, (session.act (clearStatus access.status)).2)

end TrapTurn

/-- With windows granted at aligned addresses, no turn that is reached has halted. -/
theorem TrapReach.not_halted {history : List TrapMove} {turn : TrapTurn}
    (reach : TrapReach history turn) (granted : ∀ move ∈ history, move.GrantsAligned)
    (session : TrapSession) (cause : HaltCause) : turn ≠ .finished session (.halted cause) := by
  induction reach generalizing session cause with
  | start => exact nofun
  | @step history before _ step reach ih =>
    have earlier := fun move mem => granted move (List.mem_append_left _ mem)
    exact TrapTurn.perform_not_halted (reach.aligned earlier) none [] step session cause
  | @next history turn reach ih =>
    have earlier := fun move mem => granted move (List.mem_append_left _ mem)
    exact TrapTurn.next_not_halted (reach.aligned earlier) (ih earlier) session cause

/-- A dispatch has counted at most the callbacks that have begun. -/
theorem TrapReach.counts {history : List TrapMove} {turn : TrapTurn}
    (reach : TrapReach history turn) :
    turn.Counts (history.filterMap TrapMove.called?).length := by
  induction reach with
  | start => exact fun frame mem => by cases mem
  | @step history before _ step reach ih =>
    exact TrapTurn.perform_counts (fun frame mem => by cases mem) before none step
  | @next history turn reach ih =>
    have called (move : Option TrapMove) :
        move.toList.filterMap TrapMove.called? = (move.bind TrapMove.called?).toList := by
      cases move with
      | none => rfl
      | some move => cases h : move.called? <;> simp [h]
    rw [List.filterMap_append, List.length_append, called]
    exact TrapTurn.next_counts ih

/-- Whatever windows are granted, at multiples of their length but also on top of each other, no
call leaves the words and fields that it computes in, so that none halts. The range of every
registration ends at the end of the address space at the latest, and a dispatch counts no more
callbacks than have begun. -/
theorem TrapReach.never_overflows {history : List TrapMove} {turn : TrapTurn}
    (reach : TrapReach history turn) (granted : ∀ move ∈ history, move.GrantsAligned) :
    (∀ session cause, turn ≠ .finished session (.halted cause)) ∧
    turn.session.system.dispatcher.KeepsToWords ∧
    (∀ session self step, .make session self step ∈ history →
      ∀ callback request reactions handle address,
        step.registration? session.clients.length = some (callback, request, reactions) →
        (session.make self step).1 = .registered (.ok handle) address →
        address.toNat + (roundedTrapLength request.length).toNat ≤ 0x10000) ∧
    ∀ frame ∈ turn.frames, frame.invoked ≤ (history.filterMap TrapMove.called?).length := by
  refine ⟨reach.not_halted granted, (reach.aligned granted).keepsToWords, ?_, reach.counts⟩
  intro session self step made callback request reactions handle address asked registered
  obtain ⟨past, future, rfl⟩ := List.append_of_mem made
  obtain ⟨earlier, before, rfl⟩ : ∃ earlier, TrapReach past earlier ∧ earlier.session = session :=
    reach.before rfl
  have aligned : (earlier.session.make self step).2.system.dispatcher.Aligned := by
    intro base shared
    have held := TrapSession.heldWindows_make before.sound before.windows_held self step
    obtain ⟨move, mem, given⟩ := granted_of_held (held.mem_iff.mpr shared)
    have listed : move ∈ past ++ .make earlier.session self step :: future := by
      rw [List.append_cons]
      exact List.mem_append_left _ mem
    exact granted move listed base given
  exact (TrapSession.make_registered asked registered).within before.sound aligned

/-- The last window of the address space is handed out to its end. -/
theorem TrapReach.never_overflows_last :
    let start := TrapSession.start [.ok 0xFF00] []
    let one := (start.make none (.register 0 0x80 .readWrite [])).2
    let two := one.make none (.register 0 0x80 .readWrite [])
    two.1 = .registered (.ok (.ofSerial 2)) 0xFF80 ∧ (∀ cause, two.1 ≠ .halted cause) ∧
      two.2.system.dispatcher.KeepsToWords ∧
      (0xFF80 : UInt16).toNat + (roundedTrapLength 0x80).toNat ≤ 0x10000 := by
  intro start one two
  let history := [TrapMove.make start none (.register 0 0x80 .readWrite []),
    .make one none (.register 0 0x80 .readWrite [])]
  have reach : TrapReach history (.finished two.2 two.1) :=
    ((TrapReach.start [.ok 0xFF00] []).made (.register 0 0x80 .readWrite []) (by simp)).made
      (.register 0 0x80 .readWrite []) (by simp)
  have windows : history.flatMap TrapMove.granted = [0xFF00] := by decide +kernel
  have granted : ∀ move ∈ history, move.GrantsAligned := by
    intro move mem base given
    have listed := List.mem_flatMap.mpr ⟨move, mem, given⟩
    rw [windows] at listed
    obtain rfl := List.mem_singleton.mp listed
    decide
  have answer : (register one.clients.length 0 0x80 .readWrite one.system).1 =
      .ok (.ofSerial 2, 0xFF80) := by decide +kernel
  have registered : two.1 = .registered (.ok (.ofSerial 2)) 0xFF80 := by
    refine (one.make_register_outcome none 0 0x80 .readWrite []).trans ?_
    rw [answer]
    rfl
  obtain ⟨goes, keeps, within, _⟩ := reach.never_overflows granted
  have ends := within one none _ (.tail _ (.head _)) _ _ _ _ _ rfl registered
  -- The session is not to be evaluated again.
  clear_value two
  exact ⟨registered, fun cause halted => goes two.2 cause (by rw [halted]), keeps, ends⟩

end PlatformFirmware
