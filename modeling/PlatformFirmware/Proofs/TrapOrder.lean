import PlatformFirmware.Proofs.TrapRemoval
import PlatformFirmware.Proofs.TrapStripping

namespace PlatformFirmware

open TrapSystem

namespace TrapDispatcher

/-- An unlocked dispatcher tells its registrations apart by handles that it can have given out. -/
structure Identified (dispatcher : TrapDispatcher) : Prop where
  unlocked : dispatcher.isLocked = false
  distinct : (dispatcher.liveRecords.map TrapRecord.handle).Nodup
  signed : ∀ record ∈ dispatcher.liveRecords, record.handle.hasSignature = true

/-- A registration is in force with a handle, and was made through the interface that is told. -/
def Has (dispatcher : TrapDispatcher) (handle : TrapHandle) (extended : Bool) : Prop :=
  ∃ record ∈ dispatcher.liveRecords,
    record.handle = handle ∧ record.callback.isExtended = extended

variable {dispatcher : TrapDispatcher}

theorem Identified.stripped (identified : dispatcher.Identified) (handles : List TrapHandle) :
    (dispatcher.stripped handles).Identified := by
  refine ⟨identified.unlocked, ?_, ?_⟩
  · rw [liveRecords_stripped]
    exact identified.distinct.sublist (List.filter_sublist.map TrapRecord.handle)
  · intro record live
    rw [liveRecords_stripped] at live
    exact identified.signed record (List.mem_of_mem_filter live)

theorem Identified.finds (identified : dispatcher.Identified) {record : TrapRecord}
    (live : record ∈ dispatcher.liveRecords) :
    ∃ i place, dispatcher.Finds record.handle record.callback.isExtended i place record := by
  obtain ⟨i, place, found, placed⟩ := findRecord?_of_live live fun other live' =>
    List.inj_on_of_nodup_map identified.distinct live' live
  exact ⟨i, place, identified.unlocked, identified.signed record live, found, placed, rfl⟩

/-- Handles that are all different are so within each entry, and no two entries share one. -/
theorem Identified.apart (identified : dispatcher.Identified) :
    (∀ i ∈ List.finRange 4, ((dispatcher.entry i).records.map TrapRecord.handle).Nodup) ∧
      (List.finRange 4).Pairwise (Function.onFun List.Disjoint fun i =>
        (dispatcher.entry i).records.map TrapRecord.handle) := by
  have distinct := identified.distinct
  rwa [liveRecords, List.map_flatMap, List.nodup_flatMap] at distinct

theorem Identified.nodup (identified : dispatcher.Identified) (i : Fin 4) :
    ((dispatcher.entry i).records.map TrapRecord.handle).Nodup :=
  identified.apart.1 i (List.mem_finRange i)

theorem Identified.disjoint (identified : dispatcher.Identified) {i j : Fin 4} (ne : j ≠ i) :
    List.Disjoint ((dispatcher.entry j).records.map TrapRecord.handle)
      ((dispatcher.entry i).records.map TrapRecord.handle) := by
  have : Std.Symm (Function.onFun List.Disjoint fun i =>
      (dispatcher.entry i).records.map TrapRecord.handle) := ⟨fun _ _ => List.disjoint_symm⟩
  exact identified.apart.2.forall (List.mem_finRange j) (List.mem_finRange i) ne

/-- No other register has a registration with the handle of one that is found. -/
theorem Identified.absent (identified : dispatcher.Identified) {i j : Fin 4} (ne : j ≠ i)
    {record : TrapRecord} (here : record ∈ (dispatcher.entry i).records) :
    ∀ other ∈ (dispatcher.entry j).records, other.handle ∉ [record.handle] := by
  intro other there named
  refine identified.disjoint ne (List.mem_map_of_mem there) ?_
  rw [List.mem_singleton.mp named]
  exact List.mem_map_of_mem here

/-- Without the handle of a record that is found, its entry has what is around the record. -/
theorem Identified.kept_eq (identified : dispatcher.Identified) {i : Fin 4} {place : Nat}
    {record : TrapRecord} (placed : (dispatcher.entry i).records[place]? = some record) :
    (dispatcher.entry i).kept [record.handle] = (dispatcher.entry i).records.eraseIdx place := by
  obtain ⟨front, back, split, erased⟩ := eraseIdx_split placed
  have distinct := identified.nodup i
  rw [split, List.map_append, List.map_cons, List.nodup_middle, List.nodup_cons] at distinct
  have others : ∀ other ∈ front ++ back, other.handle ∉ [record.handle] := by
    intro other mem named
    refine distinct.1 ?_
    rw [← List.map_append, ← List.mem_singleton.mp named]
    exact List.mem_map_of_mem mem
  rw [erased, TrapEntry.kept, split, List.filter_append, List.filter_cons_of_neg (by simp),
    ← List.filter_append]
  exact List.filter_eq_self.mpr fun other mem => decide_eq_true (others other mem)

theorem Identified.losesAll_iff (identified : dispatcher.Identified) {i : Fin 4} {place : Nat}
    {record : TrapRecord} (placed : (dispatcher.entry i).records[place]? = some record) :
    (dispatcher.entry i).LosesAll [record.handle] ↔
      (dispatcher.entry i).records.eraseIdx place = [] := by
  rw [TrapEntry.LosesAll, identified.kept_eq placed]
  exact and_iff_right (List.ne_nil_of_mem (List.mem_of_getElem? placed))

theorem Identified.not_losesAll (identified : dispatcher.Identified) {i j : Fin 4} (ne : j ≠ i)
    {place : Nat} {record : TrapRecord}
    (placed : (dispatcher.entry i).records[place]? = some record) :
    ¬(dispatcher.entry j).LosesAll [record.handle] :=
  TrapEntry.not_losesAll_of_absent (identified.absent ne (List.mem_of_getElem? placed))

/-- Without one handle, a dispatcher is the same except for the entry that has its record. -/
theorem Identified.stripped_eq (identified : dispatcher.Identified) {i : Fin 4} {place : Nat}
    {record : TrapRecord} (placed : (dispatcher.entry i).records[place]? = some record) :
    dispatcher.stripped [record.handle] =
      dispatcher.setEntry i ((dispatcher.entry i).without place) := by
  refine ext_entry (fun j => ?_) rfl rfl
  rw [stripped_entry]
  by_cases hj : j = i
  · subst hj
    rw [setEntry_entry, TrapEntry.stripped, TrapEntry.without, identified.kept_eq placed]
    simp only [identified.losesAll_iff placed]
  · rw [setEntry_other hj]
    exact TrapEntry.stripped_of_absent (identified.absent hj (List.mem_of_getElem? placed))

theorem Identified.cleared_eq (identified : dispatcher.Identified) {i : Fin 4} {place : Nat}
    {record : TrapRecord} (placed : (dispatcher.entry i).records[place]? = some record)
    (hardware : TrapHardware) :
    hardware.cleared dispatcher [record.handle] =
      if (dispatcher.entry i).records.eraseIdx place = [] then hardware.setRegister i .zero
      else hardware := by
  have here := identified.losesAll_iff placed
  split
  next rest =>
    refine TrapHardware.ext_register (fun j => ?_) rfl rfl rfl
    rw [TrapHardware.cleared_register]
    by_cases hj : j = i
    · rw [hj, TrapHardware.setRegister_self, if_pos (here.mpr rest)]
    · rw [TrapHardware.setRegister_other hj, if_neg (identified.not_losesAll hj placed)]
  next rest =>
    refine TrapHardware.ext_register (fun j => ?_) rfl rfl rfl
    rw [TrapHardware.cleared_register, if_neg]
    by_cases hj : j = i
    · rw [hj]
      exact rest ∘ here.mp
    · exact identified.not_losesAll hj placed

theorem Identified.returned_perm (identified : dispatcher.Identified) {i : Fin 4} {place : Nat}
    {record : TrapRecord} (placed : (dispatcher.entry i).records[place]? = some record) :
    (dispatcher.returned [record.handle]).Perm
      (if (dispatcher.entry i).records.eraseIdx place = [] ∧
          (dispatcher.entry i).isCallerOwned = false then
        [((dispatcher.entry i).base, (dispatcher.entry i).length)]
      else []) := by
  have only := perm_flatMap_of_eq_off (f := fun _ => [])
    (g := fun j => (dispatcher.entry j).returned [record.handle]) (List.nodup_finRange 4)
    (List.mem_finRange i) fun j hj => if_neg fun h =>
      identified.not_losesAll hj placed h.1
  simp only [List.append_nil, List.flatMap_eq_nil_iff.mpr (fun _ _ => rfl), List.nil_append,
    TrapEntry.returned, identified.losesAll_iff placed] at only
  exact only

end TrapDispatcher

namespace TrapSystem

/-- The registrations of some handles are gone, and the registers and windows that were only
theirs. -/
structure Strips (handles : List TrapHandle) (before after : TrapSystem) : Prop where
  dispatcher : after.dispatcher = before.dispatcher.stripped handles
  hardware : after.hardware = before.hardware.cleared before.dispatcher handles
  calls : ∃ freed : List (UInt16 × UInt16), freed.Perm (before.dispatcher.returned handles) ∧
    after.allocatorCalls =
      before.allocatorCalls ++ freed.map fun range => .free range.1 range.2

theorem Strips.append {first second : List TrapHandle} {before between after : TrapSystem}
    (h : Strips first before between) (h' : Strips second between after) :
    Strips (first ++ second) before after := by
  obtain ⟨freed, perm, calls⟩ := h.calls
  obtain ⟨freed', perm', calls'⟩ := h'.calls
  refine ⟨?_, ?_, freed ++ freed', ?_, ?_⟩
  · rw [h'.dispatcher, h.dispatcher, TrapDispatcher.stripped_append]
  · rw [h'.hardware, h.hardware, h.dispatcher, TrapHardware.cleared_append]
  · rw [h.dispatcher] at perm'
    exact (perm.append perm').trans (TrapDispatcher.returned_append _ _ _)
  · rw [calls', calls, List.map_append, List.append_assoc]

theorem Strips.refl (system : TrapSystem) : Strips [] system system where
  dispatcher := (TrapDispatcher.stripped_nil _).symm
  hardware := (TrapHardware.cleared_nil _ _).symm
  calls := by
    refine ⟨[], ?_, (List.append_nil _).symm⟩
    rw [TrapDispatcher.returned_nil]

theorem Drops.strips {handle : TrapHandle} {extended : Bool} {before after : TrapSystem}
    (h : Drops handle extended before (.ok ()) after)
    (identified : before.dispatcher.Identified) : Strips [handle] before after := by
  obtain ⟨i, place, record, finds, dispatcher, hardware⟩ := h.done
  obtain rfl := finds.named
  refine ⟨?_, ?_, _, (identified.returned_perm finds.placed).symm, ?_⟩
  · rw [dispatcher, identified.stripped_eq finds.placed]
  · rw [hardware, identified.cleared_eq finds.placed]
  · rw [h.allocatorCalls_eq finds]
    split <;> rfl

/-- Unregisters some handles one after the other, each through the interface that is told. -/
def unregisterEach (requests : List (TrapHandle × Bool)) : TrapM Unit :=
  requests.forM fun (handle, extended) =>
    if extended then unregisterExtended handle else unregister handle

theorem unregisterEach_cons {handle : TrapHandle} {extended : Bool} {before between : TrapSystem}
    (first : dropRecord handle extended before = (.ok (), between))
    (rest : List (TrapHandle × Bool)) :
    unregisterEach ((handle, extended) :: rest) before = unregisterEach rest between := by
  have same : (if extended then unregisterExtended handle else unregister handle) =
      dropRecord handle extended := by
    cases extended <;> rfl
  have run : unregisterEach ((handle, extended) :: rest) before =
      (dropRecord handle extended >>= fun _ => unregisterEach rest) before := by
    rw [← same]
    rfl
  rw [run, bind_apply, first]

/-- Registrations in force are all unregistered, each at its turn. -/
theorem unregisterEach_strips {requests : List (TrapHandle × Bool)} {before : TrapSystem}
    (identified : before.dispatcher.Identified) (distinct : (requests.map Prod.fst).Nodup)
    (live : ∀ request ∈ requests, before.dispatcher.Has request.1 request.2) :
    (unregisterEach requests before).1 = .ok () ∧
      Strips (requests.map Prod.fst) before (unregisterEach requests before).2 := by
  induction requests generalizing before with
  | nil => exact ⟨rfl, .refl before⟩
  | cons request rest ih =>
    obtain ⟨handle, extended⟩ := request
    obtain ⟨record, kept, rfl, rfl⟩ := live _ List.mem_cons_self
    obtain ⟨fresh, distinct⟩ := List.nodup_cons.mp distinct
    obtain ⟨i, place, finds⟩ := identified.finds kept
    have drops := dropRecord_drops record.handle record.callback.isExtended before
    rcases dropped : dropRecord record.handle record.callback.isExtended before with
      ⟨result, between⟩
    rw [dropped] at drops
    obtain rfl := drops.result_eq finds
    have strips := drops.strips identified
    have identified' : between.dispatcher.Identified := by
      rw [strips.dispatcher]
      exact identified.stripped _
    have live' : ∀ request ∈ rest, between.dispatcher.Has request.1 request.2 := by
      intro request mem
      obtain ⟨other, kept', named, through⟩ := live request (List.mem_cons_of_mem _ mem)
      refine ⟨other, ?_, named, through⟩
      rw [strips.dispatcher, TrapDispatcher.liveRecords_stripped, List.mem_filter]
      refine ⟨kept', decide_eq_true fun same => fresh ?_⟩
      have again : record.handle = request.1 := (List.mem_singleton.mp same).symm.trans named
      have listed : request.1 ∈ rest.map Prod.fst := List.mem_map_of_mem mem
      rwa [← again] at listed
    obtain ⟨done, strips'⟩ := ih identified' distinct live'
    rw [unregisterEach_cons dropped]
    exact ⟨done, strips.append strips'⟩

/-- What is left and what is given back is settled by which handles there are, in any order. -/
theorem Strips.agree {first second : List TrapHandle} {before before' after after' : TrapSystem}
    (h : Strips first before after) (h' : Strips second before' after')
    (order : first.Perm second) (dispatcher : before'.dispatcher = before.dispatcher)
    (hardware : before'.hardware = before.hardware) :
    after'.dispatcher = after.dispatcher ∧ after'.hardware = after.hardware ∧
      ∃ freed freed' : List (UInt16 × UInt16), freed'.Perm freed ∧
        after.allocatorCalls =
          before.allocatorCalls ++ freed.map (fun range => .free range.1 range.2) ∧
        after'.allocatorCalls =
          before'.allocatorCalls ++ freed'.map (fun range => .free range.1 range.2) := by
  obtain ⟨freed, perm, calls⟩ := h.calls
  obtain ⟨freed', perm', calls'⟩ := h'.calls
  have kept (entry : TrapEntry) : entry.kept second = entry.kept first :=
    List.filter_congr fun record _ => by simp only [order.mem_iff]
  have loses (entry : TrapEntry) : entry.LosesAll second ↔ entry.LosesAll first := by
    rw [TrapEntry.LosesAll, TrapEntry.LosesAll, kept]
  refine ⟨?_, ?_, freed, freed', ?_, calls, calls'⟩
  · rw [h.dispatcher, h'.dispatcher, dispatcher]
    simp only [TrapDispatcher.stripped, TrapEntry.stripped, kept, loses]
  · rw [h.hardware, h'.hardware, dispatcher, hardware]
    simp only [TrapHardware.cleared, loses]
  · refine perm'.trans (List.Perm.trans (.of_eq ?_) perm.symm)
    rw [dispatcher]
    simp only [TrapDispatcher.returned, TrapEntry.returned, loses]

end TrapSystem

/-- Registrations in force can be unregistered in any order. In the end the dispatcher and the
registers are the same, and so are the windows that were given back, but for their order. What the
allocator says to that has no part in it. -/
theorem TrapReach.unregister_in_any_order {history : List TrapMove} {turn : TrapTurn}
    (reach : TrapReach history turn) (few : (givenHandles history).length ≤ 2 ^ 32)
    (unlocked : turn.session.system.dispatcher.isLocked = false)
    {first second : List (TrapHandle × Bool)} (distinct : (first.map Prod.fst).Nodup)
    (live : ∀ asked ∈ first, ∃ callback request,
      turn.session.InForce history asked.1 callback request ∧ callback.isExtended = asked.2)
    (order : first.Perm second) (answers others : List (Except EfiError Unit)) :
    let system := turn.session.system
    let here := unregisterEach first { system with releases := answers }
    let there := unregisterEach second { system with releases := others }
    here.1 = .ok () ∧ there.1 = .ok () ∧
    there.2.dispatcher = here.2.dispatcher ∧ there.2.hardware = here.2.hardware ∧
    (∀ i, (here.2.dispatcher.entry i).records =
      (system.dispatcher.entry i).records.filter fun record => record.handle ∉ first.map Prod.fst) ∧
    ∃ freed freed' : List (UInt16 × UInt16), freed'.Perm freed ∧
      here.2.allocatorCalls =
        system.allocatorCalls ++ freed.map (fun range => .free range.1 range.2) ∧
      there.2.allocatorCalls =
        system.allocatorCalls ++ freed'.map (fun range => .free range.1 range.2) := by
  intro system here there
  have enrolled := reach.enrolled
  have identified : system.dispatcher.Identified :=
    ⟨unlocked, enrolled.live_nodup few, fun record kept => enrolled.hasSignature kept⟩
  have has : ∀ asked ∈ first, system.dispatcher.Has asked.1 asked.2 := by
    intro asked mem
    obtain ⟨callback, request, force, through⟩ := live asked mem
    obtain ⟨record, kept, named⟩ := force.live
    rw [← through, ← force.callback_eq reach.founded enrolled few kept named]
    exact ⟨record, kept, named, rfl⟩
  -- What the allocator will answer has no part in who is who.
  have identified' (answers : List (Except EfiError Unit)) :
      { system with releases := answers }.dispatcher.Identified := identified
  obtain ⟨done, strips⟩ := unregisterEach_strips (identified' answers) distinct has
  obtain ⟨done', strips'⟩ := unregisterEach_strips (identified' others)
    ((order.map Prod.fst).nodup_iff.mp distinct) fun asked mem => has asked (order.mem_iff.mpr mem)
  obtain ⟨dispatcher, hardware, frees⟩ := strips.agree strips' (order.map Prod.fst) rfl rfl
  refine ⟨done, done', dispatcher, hardware, fun i => ?_, frees⟩
  rw [show here.2.dispatcher = _ from strips.dispatcher, TrapDispatcher.stripped_entry,
    TrapEntry.stripped_records]
  rfl

theorem TrapReach.unregister_in_any_order_mixed :
    let start := TrapSession.start [.ok 0x1800] []
    let one := (start.make none (.register 0 4 .readWrite [])).2
    let two := (one.make none (.register 0 4 .write [])).2
    let three := (two.make none (.registerExtended ⟨0x2000, 8, .read, 0, 0xF⟩ [])).2
    let asked := [(.ofSerial 1, false), (.ofSerial 2, false), (.ofSerial 3, true)]
    let here := unregisterEach asked { three.system with releases := [] }
    let there := unregisterEach asked.reverse
      { three.system with releases := [.error .invalidParameter] }
    here.1 = .ok () ∧ there.1 = .ok () ∧ there.2.dispatcher = here.2.dispatcher ∧
      there.2.hardware = here.2.hardware := by
  intro start one two three asked here there
  let history := [TrapMove.make start none (.register 0 4 .readWrite []),
    .make one none (.register 0 4 .write []),
    .make two none (.registerExtended ⟨0x2000, 8, .read, 0, 0xF⟩ [])]
  let turn := TrapTurn.finished three
    (two.make none (.registerExtended ⟨0x2000, 8, .read, 0, 0xF⟩ [])).1
  have reach : TrapReach history turn :=
    (((TrapReach.start [.ok 0x1800] []).made (.register 0 4 .readWrite []) (by simp)).made
      (.register 0 4 .write []) (by simp)).made
      (.registerExtended ⟨0x2000, 8, .read, 0, 0xF⟩ []) (by simp)
  have few : (givenHandles history).length ≤ 2 ^ 32 := by decide +kernel
  have unlocked : turn.session.system.dispatcher.isLocked = false := by decide +kernel
  have distinct : (asked.map Prod.fst).Nodup := by decide +kernel
  have handles : three.system.dispatcher.liveRecords.map TrapRecord.handle =
      asked.map Prod.fst := by decide +kernel
  have known : history.map TrapMove.registered? =
      [some (.ofSerial 1, .plain 0, ⟨0, 4, .readWrite, 0, 0xF⟩),
        some (.ofSerial 2, .plain 1, ⟨0, 4, .write, 0, 0xF⟩),
        some (.ofSerial 3, .extended 2, ⟨0x2000, 8, .read, 0, 0xF⟩)] := by decide +kernel
  have force {handle : TrapHandle} {callback : TrapCallback} {request : TrapRequest}
      (listed : handle ∈ asked.map Prod.fst)
      (made : some (handle, callback, request) ∈ history.map TrapMove.registered?) :
      three.InForce history handle callback request := by
    rw [← handles] at listed
    exact ⟨List.mem_map.mp listed, List.mem_map.mp made⟩
  rw [known] at force
  have live : ∀ request ∈ asked, ∃ callback registered,
      three.InForce history request.1 callback registered ∧ callback.isExtended = request.2 := by
    intro request mem
    rcases List.mem_cons.mp mem with rfl | mem
    · exact ⟨.plain 0, _, force (by decide) (.head _), rfl⟩
    rcases List.mem_cons.mp mem with rfl | mem
    · exact ⟨.plain 1, _, force (by decide) (.tail _ (.head _)), rfl⟩
    · obtain rfl := List.mem_singleton.mp mem
      exact ⟨.extended 2, _, force (by decide) (.tail _ (.tail _ (.head _))), rfl⟩
  -- The facts above are all that is needed of the session, which is not to be evaluated again.
  clear_value three
  obtain ⟨done, done', dispatcher, hardware, _⟩ :=
    reach.unregister_in_any_order few unlocked distinct live
      asked.reverse_perm.symm [] [.error .invalidParameter]
  exact ⟨done, done', dispatcher, hardware⟩

end PlatformFirmware
