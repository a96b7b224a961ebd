import PlatformFirmware.Proofs.VariableHistory

namespace PlatformFirmware

namespace VariableSystem

variable {past : List VariableStep} {system : VariableSystem}

namespace Follows

theorem set_missing (follows : Follows past system) (missing : (locatedStores past).head? = none)
    (name : List UInt16) (vendor : Guid) (attributes : VariableAttributes) (data : List UInt8)
    (answer : Except EfiError Unit) :
    let reply := step (.setVariable name vendor attributes data answer) system
    reply.1 = .completed (.error .notReady) ∧ reply.2.calls = system.calls := by
  rw [step_setVariable, setVariable_missing (follows.store_eq.trans missing)]
  exact ⟨rfl, rfl⟩

theorem set_refused (follows : Follows past system) (notified : Notified past)
    {attributes : VariableAttributes} (boot : attributes.bits.toBitVec.getLsbD 2 = false)
    (name : List UInt16) (vendor : Guid) (data : List UInt8) (answer : Except EfiError Unit) :
    let reply := step (.setVariable name vendor attributes data answer) system
    reply.1 = .completed (.error .invalidParameter) ∧ reply.2.calls = system.calls := by
  obtain ⟨store, first⟩ := notified.located
  rw [step_setVariable, setVariable_refused (follows.store_eq.trans first)
    (follows.atRuntime_iff.mpr notified) (attributes.contains_runtimeAccess.trans boot)]
  exact ⟨rfl, rfl⟩

theorem set_allowed (follows : Follows past system) {store : Nat}
    (first : (locatedStores past).head? = some store) {attributes : VariableAttributes}
    (allowed : ¬(Notified past ∧ attributes.bits.toBitVec.getLsbD 2 = false))
    (name : List UInt16) (vendor : Guid) (data : List UInt8) (answer : Except EfiError Unit) :
    let reply := step (.setVariable name vendor attributes data answer) system
    reply.1 = .completed answer ∧
      reply.2.calls = system.calls ++ [.setVariable store name vendor attributes data] := by
  have usable (runtime : system.writer.atRuntime = true) :
      attributes.contains .runtimeAccess = true := by
    rw [attributes.contains_runtimeAccess]
    simpa [follows.atRuntime_iff.mp runtime] using allowed
  rw [step_setVariable, setVariable_allowed (follows.store_eq.trans first) usable]
  exact ⟨rfl, rfl⟩

theorem refuses_iff (follows : Follows past system) (name : List UInt16) (vendor : Guid)
    (attributes : VariableAttributes) (data : List UInt8) (answer : Except EfiError Unit) :
    let reply := step (.setVariable name vendor attributes data answer) system
    reply.1 = .completed (.error .invalidParameter) ∧ reply.2.calls = system.calls ↔
      Notified past ∧ attributes.bits.toBitVec.getLsbD 2 = false := by
  refine ⟨fun ⟨refused, unasked⟩ => ?_, fun ⟨notified, boot⟩ =>
    follows.set_refused notified boot name vendor data answer⟩
  by_contra allowed
  cases first : (locatedStores past).head? with
  | none =>
    cases refused.symm.trans (follows.set_missing first name vendor attributes data answer).1
  | some store =>
    have asked := (follows.set_allowed first allowed name vendor data answer).2
    rw [unasked] at asked
    simp at asked

theorem query_missing (follows : Follows past system)
    (missing : (locatedStores past).head? = none) (attributes : VariableAttributes)
    (answer : Except EfiError VariableStorageInfo) :
    let reply := step (.queryInfo attributes answer) system
    reply.1 = .info (.error .notReady) ∧ reply.2.calls = system.calls := by
  rw [step_queryInfo, queryInfo_missing (follows.store_eq.trans missing)]
  exact ⟨rfl, rfl⟩

theorem query_ready (follows : Follows past system) {store : Nat}
    (first : (locatedStores past).head? = some store) (attributes : VariableAttributes)
    (answer : Except EfiError VariableStorageInfo) :
    let reply := step (.queryInfo attributes answer) system
    reply.1 = .info answer ∧ reply.2.calls = system.calls ++ [.queryInfo store attributes] := by
  rw [step_queryInfo, queryInfo_ready (follows.store_eq.trans first)]
  exact ⟨rfl, rfl⟩

/-- A constructor that fails leaves the writer as it was, unless it located the first store. -/
theorem failed_construct (follows : Follows past system) {located : Except EfiError Nat}
    {registered : Except EfiError Unit} {reason : EfiError}
    (failed : (step (.construct located registered) system).1 = .completed (.error reason)) :
    (step (.construct located registered) system).2.writer = system.writer ↔
      located = .error reason ∨ locatedStores past ≠ [] := by
  cases located with
  | error cause =>
    cases (show VariableOutcome.completed (.error cause) = .completed (.error reason) from failed)
    exact ⟨fun _ => .inl rfl, fun _ => rfl⟩
  | ok store =>
    obtain ⟨log, h⟩ := construct_located store registered system
    rw [step_construct, h]
    have used := follows.store_eq
    cases hs : locatedStores past with
    | nil =>
      have unused : system.writer.store = none := by rw [used, hs, List.head?_nil]
      refine ⟨fun same => ?_, by simp⟩
      have kept := congrArg VariableWriter.store same
      simp [unused] at kept
    | cons first rest =>
      have ready : system.writer.store = some first := by rw [used, hs, List.head?_cons]
      have kept : (system.writer.store <|> some store) = system.writer.store := by rw [ready]; rfl
      refine ⟨fun _ => .inr (List.cons_ne_nil _ _), fun _ => ?_⟩
      dsimp only
      rw [kept]

end Follows

/-- The writer is at runtime from the first notify on. It asks the store that was located first
and no other, hands every request on as it came and the answer back as it came, and refuses
nothing but a write at runtime whose attributes lack runtime access. -/
theorem writes_guarded (past : List VariableStep) :
    let system := after past
    let first := (locatedStores past).head?
    (system.writer.atRuntime = true ↔ Notified past) ∧
    (Notified past → (∃ store, first = some store) ∧
      ∀ future, (after (past ++ future)).writer.atRuntime = true) ∧
    (∀ call ∈ system.calls, ∀ store, call.store? = some store → first = some store) ∧
    (∀ next, ∃ made, (step next system).2.calls = system.calls ++ made ∧
      (Notified past → ∀ call ∈ made, call.RuntimeUsable)) ∧
    (∀ name vendor attributes data answer,
      let reply := step (.setVariable name vendor attributes data answer) system
      let refused := Notified past ∧ attributes.bits.toBitVec.getLsbD 2 = false
      (first = none → reply.1 = .completed (.error .notReady) ∧
        reply.2.calls = system.calls) ∧
      (reply.1 = .completed (.error .invalidParameter) ∧ reply.2.calls = system.calls ↔
        refused) ∧
      ∀ store, first = some store → ¬refused → reply.1 = .completed answer ∧
        reply.2.calls = system.calls ++ [.setVariable store name vendor attributes data]) ∧
    (∀ attributes answer,
      let reply := step (.queryInfo attributes answer) system
      (first = none → reply.1 = .info (.error .notReady) ∧ reply.2.calls = system.calls) ∧
      ∀ store, first = some store → reply.1 = .info answer ∧
        reply.2.calls = system.calls ++ [.queryInfo store attributes]) ∧
    step .lockSupported system = (.supported false, system) ∧
    ∀ name vendor, step (.requestLock name vendor) system =
      (.completed (.error .unsupported), system) := by
  intro system first
  have known := follows past
  refine ⟨known.atRuntime_iff, fun notified => ⟨notified.located, fun future => ?_⟩,
    known.calls_first, fun next => ?_, fun name vendor attributes data answer => ?_,
    fun attributes answer => ⟨fun missing => known.query_missing missing attributes answer,
      fun store located => known.query_ready located attributes answer⟩,
    rfl, fun name vendor => rfl⟩
  · exact (follows _).atRuntime_iff.mpr (notified.append future)
  · obtain ⟨made, calls, _, usable⟩ := (step_performs system next).calls_eq
    exact ⟨made, calls, fun notified => usable (known.atRuntime_iff.mpr notified)⟩
  · exact ⟨fun missing => known.set_missing missing name vendor attributes data answer,
      known.refuses_iff name vendor attributes data answer,
      fun store located allowed => known.set_allowed located allowed name vendor data answer⟩

theorem writes_guarded_at_runtime :
    let past : List VariableStep :=
      [.construct (.ok 3) (.ok ()), .construct (.ok 4) (.error .outOfResources),
        .notify 1 variableProtocolGuid]
    let write (bits : UInt32) :=
      step (.setVariable [0x41, 0] variableProtocolGuid ⟨bits⟩ [1] (.error .writeProtected))
        (after past)
    Notified past ∧ (write 0x83).1 = .completed (.error .invalidParameter) ∧
      (write 0x87).1 = .completed (.error .writeProtected) ∧
      (write 0x87).2.calls = (after past).calls ++
        [.setVariable 3 [0x41, 0] variableProtocolGuid ⟨0x87⟩ [1]] := by
  intro past write
  have notified : Notified past :=
    ⟨[.construct (.ok 3) (.ok ()), .construct (.ok 4) (.error .outOfResources)], 1,
      variableProtocolGuid, List.prefix_rfl, by decide⟩
  obtain ⟨_, _, _, _, written, _⟩ := writes_guarded past
  obtain ⟨_, refused, _⟩ :=
    written [0x41, 0] variableProtocolGuid ⟨0x83⟩ [1] (.error .writeProtected)
  obtain ⟨_, _, allowed⟩ :=
    written [0x41, 0] variableProtocolGuid ⟨0x87⟩ [1] (.error .writeProtected)
  exact ⟨notified, (refused.mpr ⟨notified, by decide⟩).1,
    allowed 3 rfl fun boot => absurd boot.2 (by decide)⟩

/-- Before the first notify a writer can be used once a store has been located, whether or not
the notify could be registered. A constructor that fails changes nothing of the writer, unless it
located the first store. -/
theorem usable_iff_located (past : List VariableStep) (boot : ¬Notified past) :
    let system := after past
    let set name vendor attributes data answer :=
      step (.setVariable name vendor attributes data answer) system
    let query attributes answer := step (.queryInfo attributes answer) system
    (locatedStores past = [] → (∀ call ∈ system.calls, call.store? = none) ∧
      (∀ name vendor attributes data answer,
        (set name vendor attributes data answer).1 = .completed (.error .notReady) ∧
        (set name vendor attributes data answer).2.calls = system.calls) ∧
      ∀ attributes answer, (query attributes answer).1 = .info (.error .notReady) ∧
        (query attributes answer).2.calls = system.calls) ∧
    (∀ store, (locatedStores past).head? = some store →
      (∀ name vendor attributes data answer,
        (set name vendor attributes data answer).1 = .completed answer ∧
        (set name vendor attributes data answer).2.calls =
          system.calls ++ [.setVariable store name vendor attributes data]) ∧
      ∀ attributes answer, (query attributes answer).1 = .info answer ∧
        (query attributes answer).2.calls = system.calls ++ [.queryInfo store attributes]) ∧
    ∀ located registered reason,
      (step (.construct located registered) system).1 = .completed (.error reason) →
      ((step (.construct located registered) system).2.writer = system.writer ↔
        located = .error reason ∨ locatedStores past ≠ []) := by
  intro system set query
  have known := follows past
  refine ⟨fun missing => ?_, fun store first => ?_, fun located registered reason failed => ?_⟩
  · have none := List.head?_eq_none_iff.mpr missing
    refine ⟨fun call hc => ?_, fun name vendor attributes data answer =>
      known.set_missing none name vendor attributes data answer,
      fun attributes answer => known.query_missing none attributes answer⟩
    rw [Option.eq_none_iff_forall_ne_some]
    intro store hs
    cases none.symm.trans (known.calls_first call hc store hs)
  · exact ⟨fun name vendor attributes data answer =>
      known.set_allowed first (fun refused => boot refused.1) name vendor data answer,
      fun attributes answer => known.query_ready first attributes answer⟩
  · exact known.failed_construct failed

theorem usable_iff_located_unlocated :
    let past : List VariableStep := [.construct (.error .notFound) (.ok ()),
      .notify 0 exitBootServicesGuid, .construct (.error .timeout) (.ok ())]
    ¬Notified past ∧ (step (.queryInfo ⟨7⟩ (.ok ⟨1, 2, 3⟩)) (after past)).1 =
      .info (.error .notReady) := by
  intro past
  have boot : ¬Notified past := by
    rw [← (follows past).atRuntime_iff]
    decide
  obtain ⟨unready, _⟩ := usable_iff_located past boot
  exact ⟨boot, ((unready rfl).2.2 ⟨7⟩ (.ok ⟨1, 2, 3⟩)).1⟩

/-- The only constructor so far has failed, and still the store is written: it was put in use
before the notify could not be registered. -/
theorem set_after_failed_construct :
    let past : List VariableStep := [.construct (.ok 0) (.error .outOfResources)]
    let write : VariableStep :=
      .setVariable [0x56, 0x61, 0x72, 0] exitBootServicesGuid ⟨2⟩ [1] (.ok ())
    (step (.construct (.ok 0) (.error .outOfResources)) {}).1 =
        .completed (.error .outOfResources) ∧
      ¬Notified past ∧ (step write (after past)).1 = .completed (.ok ()) ∧
      (step write (after past)).2.calls = (after past).calls ++
        [.setVariable 0 [0x56, 0x61, 0x72, 0] exitBootServicesGuid ⟨2⟩ [1]] := by
  intro past write
  have boot : ¬Notified past := by
    rw [← (follows past).atRuntime_iff]
    decide
  exact ⟨rfl, boot, rfl, rfl⟩

end VariableSystem

end PlatformFirmware
