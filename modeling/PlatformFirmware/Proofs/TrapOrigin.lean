import Mathlib.Data.List.Pairwise
import PlatformFirmware.Proofs.TrapConservation
import PlatformFirmware.Proofs.TrapIdentity

namespace PlatformFirmware

open TrapSystem

/-- The registration that a move takes on: its handle, its callback and what was asked for. -/
def TrapMove.registered? : TrapMove → Option (TrapHandle × TrapCallback × TrapRequest)
  | make session self step =>
    (session.make self step).1.handle?.bind fun handle =>
      (step.registration? session.clients.length).map fun (callback, request, _) =>
        (handle, callback, request)
  | call _ _ _ => none

/-- A move makes a registration. What was asked for is kept, apart from the address. -/
structure TrapMove.Begins (move : TrapMove) (request : TrapRequest) (record : TrapRecord) :
    Prop where
  registered : move.registered? = some (record.handle, record.callback, request)
  request_eq : record.request = { request with address := record.request.address }
  length_eq : record.length = roundedTrapLength request.length

/-- A handle is of a registration in force, which was made for the callback and the request. -/
structure TrapSession.InForce (session : TrapSession) (history : List TrapMove)
    (handle : TrapHandle) (callback : TrapCallback) (request : TrapRequest) : Prop where
  live : ∃ record ∈ session.system.dispatcher.liveRecords, record.handle = handle
  made : ∃ move ∈ history, move.registered? = some (handle, callback, request)

/-- The range of a register when a caller chose it, by its base and its length. -/
def TrapEntry.callerRange? (entry : TrapEntry) : Option (UInt16 × UInt16) :=
  if entry.isCallerOwned then some (entry.base, entry.length) else none

theorem TrapEntry.callerRange?_eq_some {entry : TrapEntry} {range : UInt16 × UInt16} :
    entry.callerRange? = some range ↔
      entry.isCallerOwned = true ∧ (entry.base, entry.length) = range := by
  simp [TrapEntry.callerRange?]

namespace TrapMove

theorem given?_of_registered {move : TrapMove} {handle : TrapHandle} {callback : TrapCallback}
    {request : TrapRequest} (h : move.registered? = some (handle, callback, request)) :
    move.given? = some handle := by
  cases move with
  | make session self step =>
    simp only [registered?, Option.bind_eq_some_iff, Option.map_eq_some_iff] at h
    obtain ⟨_, given, _, _, same⟩ := h
    rw [given?, given, (Prod.mk.inj same).1]
  | call => cases h

theorem registered?_of_given {session : TrapSession} {self : Option Nat} {step : TrapStep}
    {handle : TrapHandle} {callback : TrapCallback} {request : TrapRequest}
    {reactions : List (List TrapStep)}
    (given : (make session self step).given? = some handle)
    (registers : step.registration? session.clients.length = some (callback, request, reactions)) :
    (make session self step).registered? = some (handle, callback, request) := by
  have handed : (session.make self step).1.handle? = some handle := given
  simp [registered?, handed, registers]

theorem begins_newRecord {session : TrapSession} {self : Option Nat} {step : TrapStep}
    {callback : TrapCallback} {request : TrapRequest} {reactions : List (List TrapStep)}
    (given : (make session self step).given? =
      some (.ofSerial session.system.dispatcher.nextSerial))
    (registers : step.registration? session.clients.length = some (callback, request, reactions))
    (address : UInt16) : (make session self step).Begins request
      (session.system.dispatcher.newRecord callback request address) :=
  ⟨registered?_of_given given registers, rfl, rfl⟩

end TrapMove

namespace TrapSystem

variable {callback : TrapCallback} {request : TrapRequest} {before after : TrapSystem}

/-- Every range of a caller was one before, or is new in the way that is told. -/
def OwnsOnly (fresh : UInt16 × UInt16 → Prop) (before after : TrapSystem) : Prop :=
  ∀ i range, (after.dispatcher.entry i).callerRange? = some range →
    (before.dispatcher.entry i).callerRange? = some range ∨ fresh range

theorem OwnsOnly.imp {fresh fresh' : UInt16 × UInt16 → Prop} (h : OwnsOnly fresh before after)
    (imp : ∀ range, fresh range → fresh' range) : OwnsOnly fresh' before after :=
  fun i range owned => (h i range owned).imp_right (imp range)

theorem ownsOnly_of_eq (h : after.dispatcher = before.dispatcher)
    (fresh : UInt16 × UInt16 → Prop) : OwnsOnly fresh before after := by
  intro i range owned
  rw [h] at owned
  exact .inl owned

theorem ownsOnly_of_setEntry {fresh : UInt16 × UInt16 → Prop} {i : Fin 4} {entry : TrapEntry}
    (set : after.dispatcher = before.dispatcher.setEntry i entry)
    (h : ∀ range, entry.callerRange? = some range →
      (before.dispatcher.entry i).callerRange? = some range ∨ fresh range) :
    OwnsOnly fresh before after := by
  intro j range owned
  rw [set] at owned
  by_cases hj : j = i
  · subst hj
    rw [TrapDispatcher.setEntry_entry] at owned
    exact h range owned
  · rw [TrapDispatcher.setEntry_other hj] at owned
    exact .inl owned

theorem ClaimsShared.ownsOnly {length : UInt16} {result : Except Fault UInt16}
    (h : ClaimsShared length before result after) (fresh : UInt16 × UInt16 → Prop) :
    OwnsOnly fresh before after := by
  cases h with
  | @room i | @overflow i => exact ownsOnly_of_setEntry (i := i) rfl fun range owned => .inl owned
  | noRegister _ _ logged => exact ownsOnly_of_eq logged.dispatcher fresh
  | noWindow _ _ _ logged => exact ownsOnly_of_eq logged.dispatcher fresh
  | @window i => exact ownsOnly_of_setEntry (i := i) rfl fun range owned => by cases owned

/-- What an attempt to register makes a caller's range, if it succeeds. -/
def Owned {α : Type} (request : TrapRequest) (result : Except Fault α)
    (range : UInt16 × UInt16) : Prop :=
  (∃ answer, result = .ok answer) ∧ request.address ≠ 0 ∧
    range = (request.address, roundedTrapLength request.length)

theorem Owned.of_error {α β : Type} {fault : Fault} {range : UInt16 × UInt16}
    (result : Except Fault β) (h : Owned request (.error fault : Except Fault α) range) :
    Owned request result range := by
  obtain ⟨⟨_, refused⟩, _⟩ := h
  cases refused

theorem ClaimsDedicated.ownsOnly {result : Except Fault Unit} (nonzero : request.address ≠ 0)
    (h : ClaimsDedicated request (roundedTrapLength request.length) before result after) :
    OwnsOnly (Owned request result) before after := by
  cases h with
  | misaligned _ logged | taken _ _ _ logged | noRegister _ _ _ _ logged =>
    exact ownsOnly_of_eq logged.dispatcher _
  | @dedicated i =>
    refine ownsOnly_of_setEntry (i := i) rfl fun range owned => .inr ⟨⟨_, rfl⟩, nonzero, ?_⟩
    exact (TrapEntry.callerRange?_eq_some.mp owned).2.symm

theorem Claims.ownsOnly {result : Except Fault UInt16}
    (h : Claims callback request before result after) :
    OwnsOnly (Owned request result) before after := by
  cases h with
  | noAddress _ _ logged => exact ownsOnly_of_eq logged.dispatcher _
  | shared _ _ claims => exact claims.ownsOnly _
  | dedicated nonzero claims =>
    exact (claims.ownsOnly nonzero).imp fun range owned => ⟨⟨_, rfl⟩, owned.2⟩
  | refused nonzero claims => exact (claims.ownsOnly nonzero).imp fun range => Owned.of_error _

theorem Registers.ownsOnly {result : Except Fault (TrapHandle × UInt16)}
    (h : Registers callback request before result after) (sound : before.dispatcher.Sound) :
    OwnsOnly (Owned request result) before after := by
  cases h with
  | locked _ logged => exact ownsOnly_of_eq logged.dispatcher _
  | noRange _ _ logged => exact ownsOnly_of_eq logged.dispatcher _
  | unclaimed _ _ claims => exact claims.ownsOnly.imp fun range => Owned.of_error _
  | unkept _ _ claims none =>
    obtain ⟨_, keeper⟩ := claims.keeper sound
    exact absurd (keeper.symm.trans none) (by simp)
  | @kept address claimed _ k _ _ claims _ logged =>
    intro i range owned
    rw [logged.dispatcher, TrapDispatcher.keep, TrapDispatcher.modifyEntry] at owned
    -- To keep a record changes no range.
    have same : (claimed.dispatcher.entry i).callerRange? = some range := by
      by_cases hi : i = k
      · subst hi
        rwa [TrapDispatcher.setEntry_entry] at owned
      · rwa [TrapDispatcher.setEntry_other hi] at owned
    exact (claims.ownsOnly i range same).imp_right fun owned => ⟨⟨_, rfl⟩, owned.2⟩

theorem Drops.ownsOnly {handle : TrapHandle} {extended : Bool} {result : Except Fault Unit}
    (h : Drops handle extended before result after) (fresh : UInt16 × UInt16 → Prop) :
    OwnsOnly fresh before after := by
  cases result with
  | error => exact ownsOnly_of_eq h.refuses.dispatcher fresh
  | ok =>
    obtain ⟨i, place, record, _, dispatcher, _⟩ := h.done
    refine ownsOnly_of_setEntry dispatcher fun range owned => .inl ?_
    unfold TrapEntry.without at owned
    split at owned
    · cases owned
    · exact owned

end TrapSystem

namespace TrapSession

theorem make_ownsOnly {session : TrapSession} (sound : session.system.dispatcher.Sound)
    (self : Option Nat) (step : TrapStep) :
    OwnsOnly (fun range => ∃ handle callback request,
      (TrapMove.make session self step).registered? = some (handle, callback, request) ∧
        request.address ≠ 0 ∧ range = (request.address, roundedTrapLength request.length))
      session.system (session.make self step).2.system := by
  have makes := make_makes session self step
  have given : (TrapMove.make session self step).given? = (session.make self step).1.handle? := rfl
  generalize (session.make self step).1 = outcome at makes given
  generalize (session.make self step).2 = after at makes ⊢
  cases makes with
  | registers known registers =>
    refine (registers.ownsOnly sound).imp fun range owned => ?_
    obtain ⟨⟨⟨handle, address⟩, rfl⟩, own⟩ := owned
    exact ⟨handle, _, _, TrapMove.registered?_of_given given known, own⟩
  | missing | locks | latches | sets => exact fun i range owned => .inl owned
  | drops _ _ drops => exact drops.ownsOnly _
  | switches _ _ switches => exact ownsOnly_of_eq switches.dispatcher_eq _
  | begins => exact ownsOnly_of_eq (beginDispatch_notes session.system).dispatcher _

theorem make_begins {session : TrapSession} (sound : session.system.dispatcher.Sound)
    (self : Option Nat) (step : TrapStep) {record : TrapRecord}
    (live : record ∈ (session.make self step).2.system.dispatcher.liveRecords) :
    record ∈ session.system.dispatcher.liveRecords ∨
      ∃ request, (TrapMove.make session self step).Begins request record := by
  cases session.make_enlists sound self step with
  | begins registers given _ _ perm =>
    rcases List.mem_cons.mp (perm.subset live) with rfl | old
    · exact .inr ⟨_, TrapMove.begins_newRecord given registers _⟩
    · exact .inl old
  | ends _ _ _ perm => exact .inl (perm.symm.subset (List.mem_cons_of_mem _ live))
  | neither _ _ same =>
    rw [same.1] at live
    exact .inl live

end TrapSession

/-- The registrations in force and the ranges of callers come from the moves so far. -/
structure TrapSession.Founded (history : List TrapMove) (session : TrapSession) : Prop where
  begun : ∀ record ∈ session.system.dispatcher.liveRecords,
    ∃ move ∈ history, ∃ request, move.Begins request record
  owned : ∀ i range, (session.system.dispatcher.entry i).callerRange? = some range →
    ∃ move ∈ history, ∃ handle callback request,
      move.registered? = some (handle, callback, request) ∧ request.address ≠ 0 ∧
        range = (request.address, roundedTrapLength request.length)

namespace TrapSession

@[simp] theorem start_entry (allocations : List (Except EfiError UInt16))
    (releases : List (Except EfiError Unit)) (i : Fin 4) :
    (TrapSession.start allocations releases).system.dispatcher.entry i = {} :=
  TrapDispatcher.entry_default i

theorem founded_start (allocations : List (Except EfiError UInt16))
    (releases : List (Except EfiError Unit)) :
    (TrapSession.start allocations releases).Founded [] where
  begun record live := by simp [TrapDispatcher.mem_liveRecords] at live
  owned i range owned := by
    rw [start_entry] at owned
    cases owned

theorem Founded.mono {history : List TrapMove} {session : TrapSession}
    (founded : session.Founded history) (move : TrapMove) :
    session.Founded (history ++ [move]) := by
  refine ⟨fun record live => ?_, fun i range owned => ?_⟩
  · obtain ⟨made, before, begins⟩ := founded.begun record live
    exact ⟨made, List.mem_append_left _ before, begins⟩
  · obtain ⟨made, before, known⟩ := founded.owned i range owned
    exact ⟨made, List.mem_append_left _ before, known⟩

theorem Founded.make {history : List TrapMove} {session : TrapSession}
    (founded : session.Founded history) (sound : session.system.dispatcher.Sound)
    (self : Option Nat) (step : TrapStep) :
    (session.make self step).2.Founded (history ++ [.make session self step]) := by
  have last : TrapMove.make session self step ∈ history ++ [.make session self step] := by simp
  have earlier := founded.mono (.make session self step)
  refine ⟨fun record live => ?_, fun i range owned => ?_⟩
  · rcases make_begins sound self step live with old | begins
    · exact earlier.begun record old
    · exact ⟨_, last, begins⟩
  · rcases make_ownsOnly sound self step i range owned with old | known
    · exact earlier.owned i range old
    · exact ⟨_, last, known⟩

end TrapSession

theorem TrapReach.founded {history : List TrapMove} {turn : TrapTurn}
    (reach : TrapReach history turn) : turn.session.Founded history := by
  refine (reach.sound_induction (P := fun history session => session.Founded history)
    TrapSession.founded_start ?_ ?_ ?_ ?_).2
  · exact fun self step sound founded => founded.make sound self step
  · intro history session record writeData founded
    have more := founded.mono (.call session record writeData)
    exact ⟨more.begun, more.owned⟩
  · exact fun mask founded => ⟨founded.begun, founded.owned⟩
  · exact fun outcome founded => ⟨founded.begun, founded.owned⟩

namespace TrapSession

variable {history : List TrapMove} {session : TrapSession} {handle : TrapHandle}
  {callback callback' : TrapCallback} {request request' : TrapRequest}

/-- As long as the serial has not come round, a handle tells which move gave it. -/
theorem Enrolled.registered_unique (enrolled : session.Enrolled history)
    (few : (givenHandles history).length ≤ 2 ^ 32) {move move' : TrapMove}
    (made : move ∈ history) (made' : move' ∈ history)
    (known : move.registered? = some (handle, callback, request))
    (known' : move'.registered? = some (handle, callback', request')) :
    callback = callback' ∧ request = request' := by
  let Differ (first second : TrapMove) : Prop :=
    ∀ given, first.given? = some given → second.given? ≠ some given
  have symm : Std.Symm Differ := ⟨fun _ _ differ given h h' => differ given h' h⟩
  have apart : history.Pairwise Differ :=
    (List.pairwise_filterMap.mp (enrolled.nodup few)).imp fun differ given h h' =>
      differ given h given h' rfl
  have same : move = move' := by
    by_contra other
    exact apart.forall made made' other handle (TrapMove.given?_of_registered known)
      (TrapMove.given?_of_registered known')
  rw [same, known'] at known
  exact Prod.mk.inj (Prod.mk.inj (Option.some.inj known)).2.symm

theorem Enrolled.live_unique (enrolled : session.Enrolled history)
    (few : (givenHandles history).length ≤ 2 ^ 32) {record other : TrapRecord}
    (live : record ∈ session.system.dispatcher.liveRecords)
    (live' : other ∈ session.system.dispatcher.liveRecords)
    (same : record.handle = other.handle) : record = other :=
  List.inj_on_of_nodup_map (enrolled.live_nodup few) live live' same

theorem InForce.callback_eq (force : session.InForce history handle callback request)
    (founded : session.Founded history) (enrolled : session.Enrolled history)
    (few : (givenHandles history).length ≤ 2 ^ 32) {record : TrapRecord}
    (live : record ∈ session.system.dispatcher.liveRecords) (named : record.handle = handle) :
    record.callback = callback := by
  obtain ⟨move, made, known⟩ := force.made
  obtain ⟨move', made', request', begins⟩ := founded.begun record live
  rw [← named] at known
  exact (enrolled.registered_unique few made' made begins.registered known).1

end TrapSession

namespace TrapEntry

/-- A record is on a register of its own when an address was asked for, and else in a window. -/
def Houses (entry : TrapEntry) (history : List TrapMove) (record : TrapRecord) : Prop :=
  ∃ move ∈ history, ∃ request, move.Begins request record ∧
    (entry.isDedicated = true ↔ request.address ≠ 0)

theorem Houses.mono {entry : TrapEntry} {history : List TrapMove} {record : TrapRecord}
    (h : entry.Houses history record) (move : TrapMove) :
    entry.Houses (history ++ [move]) record := by
  obtain ⟨made, before, origin⟩ := h
  exact ⟨made, List.mem_append_left _ before, origin⟩

end TrapEntry

/-- A record that a registration left on a register was there before, or is the new one. -/
theorem TrapSystem.Places.mem_records {callback : TrapCallback} {request : TrapRequest}
    {before after : TrapSystem} {i : Fin 4} {address : UInt16}
    (h : Places callback request before after i address) {j : Fin 4} {record : TrapRecord}
    (kept : record ∈ (after.dispatcher.entry j).records) :
    (record ∈ (before.dispatcher.entry j).records ∧
      (after.dispatcher.entry j).isDedicated = (before.dispatcher.entry j).isDedicated) ∨
    (record = before.dispatcher.newRecord callback request address ∧
      ((after.dispatcher.entry j).isDedicated = true ↔ request.address ≠ 0)) := by
  by_cases hj : j = i
  · subst hj
    cases h with
    | room zero _ free _ hd _ =>
      obtain ⟨_, shared, _⟩ :=
        TrapEntry.freeOffset?_eq_some (roundedTrapLength_mem request.length) free
      rw [hd, TrapDispatcher.spendSerial_entry, TrapDispatcher.setEntry_entry] at kept ⊢
      rcases List.mem_append.mp kept with old | new
      · exact .inl ⟨old, rfl⟩
      · exact .inr ⟨List.mem_singleton.mp new, by simp [shared, zero]⟩
    | window zero _ _ _ _ hd _ =>
      rw [hd, TrapDispatcher.spendSerial_entry, TrapDispatcher.setEntry_entry] at kept ⊢
      exact .inr ⟨List.mem_singleton.mp kept, by simp [TrapEntry.window, zero]⟩
    | dedicated nonzero _ _ _ hd _ =>
      rw [hd, TrapDispatcher.spendSerial_entry, TrapDispatcher.setEntry_entry] at kept ⊢
      exact .inr ⟨List.mem_singleton.mp kept, by simp [TrapEntry.dedicated, nonzero]⟩
  · rw [h.entry_other hj] at kept ⊢
    exact .inl ⟨kept, rfl⟩

theorem TrapSystem.Places.nextSerial_eq {callback : TrapCallback} {request : TrapRequest}
    {before after : TrapSystem} {i : Fin 4} {address : UInt16}
    (h : Places callback request before after i address) :
    after.dispatcher.nextSerial = before.dispatcher.nextSerial + 1 := by
  cases h with
  | room _ _ _ _ hd _ | window _ _ _ _ _ hd _ | dedicated _ _ _ _ hd _ =>
    rw [hd]
    rfl

namespace TrapSession

/-- A step that takes a serial gives out the handle of that serial. -/
theorem given?_of_spent {session : TrapSession} (sound : session.system.dispatcher.Sound)
    {self : Option Nat} {step : TrapStep}
    (spent : (session.make self step).2.system.dispatcher.nextSerial =
      session.system.dispatcher.nextSerial + 1) :
    (TrapMove.make session self step).given? =
      some (.ofSerial session.system.dispatcher.nextSerial) := by
  have moves (serial : UInt32) : serial + 1 ≠ serial := by simp
  cases session.make_enlists sound self step with
  | begins _ given => exact given
  | ends _ _ same => exact absurd (spent.symm.trans same) (moves _)
  | neither _ _ same => exact absurd (spent.symm.trans same.2) (moves _)

theorem Changes.houses {before : TrapSession} {self : Option Nat} {step : TrapStep}
    (h : before.Changes self step (before.make self step).2)
    (sound : before.system.dispatcher.Sound) {history : List TrapMove} {i : Fin 4}
    (houses : ∀ record ∈ (before.system.dispatcher.entry i).records,
      (before.system.dispatcher.entry i).Houses history record) {record : TrapRecord}
    (kept : record ∈ ((before.make self step).2.system.dispatcher.entry i).records) :
    ((before.make self step).2.system.dispatcher.entry i).Houses
      (history ++ [.make before self step]) record := by
  have old {entry : TrapEntry} (mem : record ∈ (before.system.dispatcher.entry i).records)
      (same : entry.isDedicated = (before.system.dispatcher.entry i).isDedicated) :
      entry.Houses (history ++ [.make before self step]) record := by
    obtain ⟨move, made, request, begins, alone⟩ := (houses record mem).mono (.make before self step)
    exact ⟨move, made, request, begins, by rw [same, alone]⟩
  cases h with
  | same _ _ entries =>
    rw [TrapDispatcher.entry_congr entries] at kept ⊢
    exact old kept rfl
  | added _ _ registers places _ =>
    rcases places.mem_records kept with ⟨mem, same⟩ | ⟨rfl, alone⟩
    · exact old mem same
    · have given := given?_of_spent sound places.nextSerial_eq
      exact ⟨_, by simp, _, TrapMove.begins_newRecord given registers _, alone⟩
  | @dropped k place _ _ _ _ dispatcher _ _ =>
    rw [dispatcher] at kept ⊢
    by_cases hi : i = k
    · subst hi
      rw [TrapDispatcher.setEntry_entry, TrapEntry.without] at kept ⊢
      split at kept
      · cases kept
      next rest =>
        rw [if_neg rest]
        exact old (List.mem_of_mem_eraseIdx kept) rfl
    · rw [TrapDispatcher.setEntry_other hi] at kept ⊢
      exact old kept rfl
  | switched _ _ _ _ dispatcher _ _ | replaced _ _ _ dispatcher _ =>
    rw [dispatcher] at kept ⊢
    exact old kept rfl

end TrapSession

/-- When all windows are granted apart, the registers of their own are those of the registrations
that asked for an address. -/
theorem TrapReach.houses {history : List TrapMove} {turn : TrapTurn}
    (reach : TrapReach history turn) (granted : ∀ move ∈ history, move.GrantsApart) (i : Fin 4) :
    ∀ record ∈ (turn.session.system.dispatcher.entry i).records,
      (turn.session.system.dispatcher.entry i).Houses history record := by
  refine TrapReach.tidy_induction (P := fun history session =>
    ∀ i, ∀ record ∈ (session.system.dispatcher.entry i).records,
      (session.system.dispatcher.entry i).Houses history record) ?_ ?_ ?_ ?_ reach granted i
  · intro allocations releases i record kept
    simp at kept
  · exact fun self step tidy changes houses i record => changes.houses tidy.sound (houses i)
  · exact fun record writeData houses i kept mem => (houses i kept mem).mono _
  · intro history before after same houses
    rw [same.dispatcher]
    exact houses

end PlatformFirmware
