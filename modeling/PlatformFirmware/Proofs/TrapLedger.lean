import PlatformFirmware.Proofs.TrapAllocator

namespace PlatformFirmware

open TrapSystem

namespace TrapMove

/-- The calls to the allocator that are made in a move. -/
def allocatorCalls : TrapMove → List AllocatorCall
  | make session self step =>
    (session.make self step).2.system.allocatorCalls.drop session.system.allocatorCalls.length
  | call _ _ _ => []

/-- The windows that the allocator grants in a move. -/
def granted (move : TrapMove) : List UInt16 :=
  move.session.system.grants move.allocatorCalls

/-- The bases and lengths that are given back in a move. -/
def freed (move : TrapMove) : List (UInt16 × UInt16) :=
  move.allocatorCalls.filterMap AllocatorCall.freed?

end TrapMove

/-- The windows that were granted in some moves and have not been given back since. -/
def heldWindows (history : List TrapMove) : List UInt16 :=
  history.foldl (fun held move =>
    (move.freed.map Prod.fst).foldl List.erase (held ++ move.granted)) []

theorem heldWindows_append (history : List TrapMove) (move : TrapMove) :
    heldWindows (history ++ [move]) =
      (move.freed.map Prod.fst).foldl List.erase (heldWindows history ++ move.granted) := by
  simp [heldWindows]

theorem heldWindows_quiet {move : TrapMove} (granted : move.granted = [])
    (freed : move.freed = []) (history : List TrapMove) :
    heldWindows (history ++ [move]) = heldWindows history := by
  simp [heldWindows_append, granted, freed]

namespace TrapSession

theorem beginDispatch_allocatorCalls (system : TrapSystem) :
    (beginDispatch system).2.allocatorCalls = system.allocatorCalls := by
  have bind {α β : Type} {first : TrapAction α} {after : α → TrapAction β}
      (h : ∀ system, (first system).2.allocatorCalls = system.allocatorCalls)
      (h' : ∀ value system, (after value system).2.allocatorCalls = system.allocatorCalls)
      (system : TrapSystem) : ((first >>= after) system).2.allocatorCalls = system.allocatorCalls :=
    (h' _ _).trans (h system)
  have look {event : TrapEvent} (quiet : event.allocatorCall? = none) (system : TrapSystem) :
      { system with events := system.events ++ [event] }.allocatorCalls =
        system.allocatorCalls := by
    simp [allocatorCalls, quiet]
  refine bind (look rfl) (fun status => ?_) system
  dsimp only
  split
  · exact fun system => rfl
  · refine bind (look rfl) fun cycle => ?_
    split
    · exact bind (look rfl) fun data => bind (look rfl) fun _ system => rfl
    · exact bind (fun system => rfl) fun data => bind (look rfl) fun _ system => rfl

theorem make_trades {session : TrapSession} (sound : session.system.dispatcher.Sound)
    (self : Option Nat) (step : TrapStep) :
    Trades session.system (session.make self step).2.system := by
  have makes := make_makes session self step
  generalize (session.make self step).1 = outcome at makes
  generalize (session.make self step).2 = after at makes ⊢
  cases makes with
  | registers _ registers => exact .obtains registers.obtains
  | missing | locks | latches | sets => exact .obtains (.nothing rfl rfl)
  | drops _ _ drops => exact drops.trades sound
  | switches _ _ switches =>
    refine .obtains (.nothing switches.allocatorCalls_eq ?_)
    rw [switches.dispatcher_eq]
  | begins =>
    have notes := beginDispatch_notes session.system
    refine .obtains (.nothing (beginDispatch_allocatorCalls session.system) ?_)
    exact TrapDispatcher.windows_congr (congrArg _ notes.dispatcher)

theorem make_allocatorCalls {session : TrapSession} (sound : session.system.dispatcher.Sound)
    (self : Option Nat) (step : TrapStep) :
    (session.make self step).2.system.allocatorCalls =
      session.system.allocatorCalls ++ (TrapMove.make session self step).allocatorCalls := by
  unfold TrapMove.allocatorCalls
  cases session.make_trades sound self step with
  | obtains obtains =>
    cases obtains with
    | nothing calls _ | declined calls _ _ | obtained calls _ _ => simp [calls]
  | returns calls _ => simp [calls]

/-- A step gains or loses at most one window: one that it is granted, or one that it gives back. -/
theorem make_settles {session : TrapSession} (sound : session.system.dispatcher.Sound)
    (self : Option Nat) (step : TrapStep) :
    let move := TrapMove.make session self step
    let after := (session.make self step).2.system.dispatcher.windows
    (move.granted = [] ∧ move.freed = [] ∧ after = session.system.dispatcher.windows) ∨
    (∃ base, move.granted = [base] ∧ move.freed = [] ∧
      after.Perm (base :: session.system.dispatcher.windows)) ∨
    ∃ base, move.granted = [] ∧ move.freed = [(base, mergedTrapLength)] ∧
      session.system.dispatcher.windows.Perm (base :: after) := by
  intro move after
  have calls : session.system.allocatorCalls ++ move.allocatorCalls = _ :=
    (session.make_allocatorCalls sound self step).symm
  have granted : move.granted = session.system.grants move.allocatorCalls := rfl
  have freed : move.freed = move.allocatorCalls.filterMap AllocatorCall.freed? := rfl
  cases session.make_trades sound self step with
  | obtains obtains =>
    cases obtains with
    | nothing made windows =>
      rw [made, List.append_right_eq_self] at calls
      rw [calls] at granted freed
      exact .inl ⟨granted, freed, windows⟩
    | declined made answer windows =>
      rw [made, List.append_cancel_left_eq] at calls
      rw [calls] at granted freed
      refine .inl ⟨granted.trans ?_, freed, windows⟩
      unfold nextWindow at answer
      cases answers : session.system.allocations with
      | nil => simp [grants, answers]
      | cons first rest =>
        rw [answers, List.headD_cons] at answer
        simp [grants, answers, answer, AllocatorCall.isRequest, Except.toOption]
    | obtained made answer windows =>
      rw [made, List.append_cancel_left_eq] at calls
      rw [calls] at granted freed
      refine .inr (.inl ⟨_, granted.trans ?_, freed, windows⟩)
      rw [grants, nextWindow_ok answer]
      rfl
  | returns made windows =>
    rw [made, List.append_cancel_left_eq] at calls
    rw [calls] at granted freed
    exact .inr (.inr ⟨_, granted.trans (by simp [grants, AllocatorCall.isRequest]), freed, windows⟩)

/-- A step that leaves the windows as they are was granted none and gave none back. -/
theorem quiet_of_windows_eq {session : TrapSession} (sound : session.system.dispatcher.Sound)
    {self : Option Nat} {step : TrapStep}
    (same : (session.make self step).2.system.dispatcher.windows =
      session.system.dispatcher.windows) :
    (TrapMove.make session self step).granted = [] ∧
      (TrapMove.make session self step).freed = [] := by
  rcases session.make_settles sound self step with ⟨granted, freed, _⟩ | ⟨_, _, _, perm⟩ |
    ⟨_, _, _, perm⟩
  · exact ⟨granted, freed⟩
  · rw [same] at perm
    simpa using perm.length_eq
  · rw [same] at perm
    simpa using perm.length_eq

theorem heldWindows_make {history : List TrapMove} {session : TrapSession}
    (sound : session.system.dispatcher.Sound)
    (held : (heldWindows history).Perm session.system.dispatcher.windows) (self : Option Nat)
    (step : TrapStep) :
    (heldWindows (history ++ [.make session self step])).Perm
      (session.make self step).2.system.dispatcher.windows := by
  rcases session.make_settles sound self step with ⟨granted, freed, same⟩ |
    ⟨base, granted, freed, perm⟩ | ⟨base, granted, freed, perm⟩
  · rw [heldWindows_quiet granted freed, same]
    exact held
  · have gained : heldWindows (history ++ [.make session self step]) =
        heldWindows history ++ [base] := by
      simp [heldWindows_append, granted, freed]
    rw [gained]
    exact (held.append_right [base]).trans ((List.perm_append_singleton _ _).trans perm.symm)
  · have lost : heldWindows (history ++ [.make session self step]) =
        (heldWindows history).erase base := by
      simp [heldWindows_append, granted, freed]
    rw [lost]
    have erased := (held.trans perm).erase base
    rwa [List.erase_cons_head] at erased

end TrapSession

/-- The windows that are held are those that registers share, whatever the allocator grants. -/
theorem TrapReach.windows_held {history : List TrapMove} {turn : TrapTurn}
    (reach : TrapReach history turn) :
    (heldWindows history).Perm turn.session.system.dispatcher.windows := by
  refine (reach.sound_induction (P := fun history session =>
    (heldWindows history).Perm session.system.dispatcher.windows) ?_ ?_ ?_ ?_ ?_).2
  · intro allocations releases
    have none : ({} : TrapDispatcher).windows = [] := by
      simp [TrapDispatcher.windows, TrapEntry.window?]
    exact List.Perm.of_eq none.symm
  · intro history session self step sound held
    exact TrapSession.heldWindows_make sound held self step
  · intro history session record writeData held
    rw [heldWindows_quiet rfl rfl]
    exact held
  · exact fun _ held => held
  · exact fun _ held => held

/-- The calls to the allocator are those that were made in the moves, in their order. -/
theorem TrapReach.allocatorCalls_eq {history : List TrapMove} {turn : TrapTurn}
    (reach : TrapReach history turn) :
    turn.session.system.allocatorCalls = history.flatMap TrapMove.allocatorCalls := by
  have noted {session : TrapSession} {event : TrapEvent} (h : event.allocatorCall? = none) :
      (session.note event).system.allocatorCalls = session.system.allocatorCalls := by
    simp [TrapSession.note, allocatorCalls, h]
  refine (reach.sound_induction (P := fun history session =>
    session.system.allocatorCalls = history.flatMap TrapMove.allocatorCalls) ?_ ?_ ?_ ?_ ?_).2
  · exact fun allocations releases => rfl
  · intro history session self step sound ih
    rw [session.make_allocatorCalls sound, ih, List.flatMap_append, List.flatMap_singleton]
  · intro history session record writeData ih
    have quiet : (TrapSession.callEvent record writeData).allocatorCall? = none := by
      unfold TrapSession.callEvent
      cases record.callback <;> rfl
    rw [List.flatMap_append, ← ih]
    exact (noted quiet).trans (List.append_nil _).symm
  · intro history session mask ih
    exact (@noted session (.clearStatus mask) rfl).trans ih
  · exact fun outcome ih => (noted rfl).trans ih

end PlatformFirmware
