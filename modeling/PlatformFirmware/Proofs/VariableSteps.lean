import PlatformFirmware.VariableWriter

namespace PlatformFirmware

/-- The store that a call goes to. -/
def VariableCall.store? : VariableCall → Option Nat
  | .setVariable store _ _ _ _ => some store
  | .queryInfo store _ => some store
  | .locate _ | .registerNotify _ => none

/-- What a call writes, if it writes, can be used at runtime: bit 2 of its attributes says so. -/
def VariableCall.RuntimeUsable : VariableCall → Prop
  | .setVariable _ _ _ attributes _ => attributes.bits.toBitVec.getLsbD 2 = true
  | .queryInfo _ _ | .locate _ | .registerNotify _ => True

/-- The store that a step locates. -/
def VariableStep.located? : VariableStep → Option Nat
  | .construct (.ok store) _ => some store
  | _ => none

theorem VariableAttributes.contains_runtimeAccess (attributes : VariableAttributes) :
    attributes.contains .runtimeAccess = attributes.bits.toBitVec.getLsbD 2 := by
  have nonzero : 0#32 ≠ BitVec.twoPow 32 2 := by decide
  have h : attributes.bits &&& 4 = 4 ↔ attributes.bits.toBitVec.getLsbD 2 = true := by
    rw [← UInt32.toBitVec_inj, UInt32.toBitVec_and]
    change attributes.bits.toBitVec &&& BitVec.twoPow 32 2 = BitVec.twoPow 32 2 ↔ _
    rw [BitVec.and_twoPow]
    cases attributes.bits.toBitVec.getLsbD 2 <;> simp [nonzero]
  exact Bool.eq_iff_iff.mpr (beq_iff_eq.trans h)

namespace VariableSystem

/-- What a step does and how it ends: one case for each exit. -/
inductive Performs (before : VariableSystem) :
    VariableStep → VariableOutcome → VariableSystem → Prop
  | unlocated {reason registered log} :
      Performs before (.construct (.error reason) registered) (.completed (.error reason))
        { before with calls := before.calls ++ [.locate variableProtocolGuid], log }
  | located {store registered log} :
      Performs before (.construct (.ok store) registered) (.completed registered)
        { writer := { before.writer with store := before.writer.store <|> some store }
          notifies := before.notifies + 1
          calls := before.calls ++
            [.locate variableProtocolGuid, .registerNotify exitBootServicesGuid]
          log }
  | notified {number protocol log} (known : number < before.notifies) :
      Performs before (.notify number protocol) (.completed (.ok ()))
        { before with writer.atRuntime := true, log }
  | noNotify {number protocol} (unknown : before.notifies ≤ number) :
      Performs before (.notify number protocol) .noNotify before
  | notSet {name vendor attributes data answer log} (missing : before.writer.store = none) :
      Performs before (.setVariable name vendor attributes data answer)
        (.completed (.error .notReady)) { before with log }
  | refused {name vendor attributes data answer store log}
      (ready : before.writer.store = some store) (runtime : before.writer.atRuntime = true)
      (boot : attributes.contains .runtimeAccess = false) :
      Performs before (.setVariable name vendor attributes data answer)
        (.completed (.error .invalidParameter)) { before with log }
  | set {name vendor attributes data answer store} (ready : before.writer.store = some store)
      (allowed : before.writer.atRuntime = true → attributes.contains .runtimeAccess = true) :
      Performs before (.setVariable name vendor attributes data answer) (.completed answer)
        { before with calls := before.calls ++ [.setVariable store name vendor attributes data] }
  | notQueried {attributes answer log} (missing : before.writer.store = none) :
      Performs before (.queryInfo attributes answer) (.info (.error .notReady))
        { before with log }
  | queried {attributes answer store} (ready : before.writer.store = some store) :
      Performs before (.queryInfo attributes answer) (.info answer)
        { before with calls := before.calls ++ [.queryInfo store attributes] }
  | lockSupported : Performs before .lockSupported (.supported false) before
  | requestLock {name vendor} :
      Performs before (.requestLock name vendor) (.completed (.error .unsupported)) before

variable {system : VariableSystem} {store : Nat} {attributes : VariableAttributes}

theorem setVariable_missing (missing : system.writer.store = none) (name : List UInt16)
    (vendor : Guid) (data : List UInt8) (answer : Except EfiError Unit) :
    setVariable name vendor attributes data answer system =
      (.error .notReady, { system with
        log := system.log ++
          [⟨.error, "mm_variable", "The SMM variable protocol has not been located."⟩] }) := by
  obtain ⟨⟨_, _⟩, _, _, _⟩ := system
  cases missing
  rfl

theorem setVariable_refused (ready : system.writer.store = some store)
    (runtime : system.writer.atRuntime = true)
    (boot : attributes.contains .runtimeAccess = false) (name : List UInt16) (vendor : Guid)
    (data : List UInt8) (answer : Except EfiError Unit) :
    setVariable name vendor attributes data answer system =
      (.error .invalidParameter, { system with
        log := system.log ++
          [⟨.warn, "mm_variable",
            "Variable without runtime access written at runtime: " ++
              attributes.debugText⟩] }) := by
  obtain ⟨⟨_, _⟩, _, _, _⟩ := system
  cases ready
  cases runtime
  simp only [setVariable, boot]
  rfl

theorem setVariable_allowed (ready : system.writer.store = some store)
    (allowed : system.writer.atRuntime = true → attributes.contains .runtimeAccess = true)
    (name : List UInt16) (vendor : Guid) (data : List UInt8) (answer : Except EfiError Unit) :
    setVariable name vendor attributes data answer system =
      (answer, { system with
        calls := system.calls ++ [.setVariable store name vendor attributes data] }) := by
  obtain ⟨⟨_, atRuntime⟩, _, _, _⟩ := system
  cases ready
  cases atRuntime with
  | false => rfl
  | true =>
    simp only [setVariable, allowed rfl]
    rfl

theorem queryInfo_missing (missing : system.writer.store = none)
    (answer : Except EfiError VariableStorageInfo) :
    queryInfo attributes answer system =
      (.error .notReady, { system with
        log := system.log ++
          [⟨.error, "mm_variable", "The SMM variable protocol has not been located."⟩] }) := by
  obtain ⟨⟨_, _⟩, _, _, _⟩ := system
  cases missing
  rfl

theorem queryInfo_ready (ready : system.writer.store = some store)
    (answer : Except EfiError VariableStorageInfo) :
    queryInfo attributes answer system =
      (answer, { system with calls := system.calls ++ [.queryInfo store attributes] }) := by
  obtain ⟨⟨_, _⟩, _, _, _⟩ := system
  cases ready
  rfl

theorem construct_located (store : Nat) (registered : Except EfiError Unit)
    (system : VariableSystem) :
    ∃ log, construct (.ok store) registered system =
      (registered,
        { writer := { system.writer with store := system.writer.store <|> some store }
          notifies := system.notifies + 1
          calls := system.calls ++
            [.locate variableProtocolGuid, .registerNotify exitBootServicesGuid]
          log }) := by
  have calls : system.calls ++ [.locate variableProtocolGuid] ++
      [.registerNotify exitBootServicesGuid] = system.calls ++
        [.locate variableProtocolGuid, .registerNotify exitBootServicesGuid] := by simp
  rw [← calls]
  cases registered with
  | error reason => exact ⟨_, rfl⟩
  | ok _ => exact ⟨system.log, rfl⟩

theorem step_construct (located : Except EfiError Nat) (registered : Except EfiError Unit) :
    step (.construct located registered) system =
      (.completed (construct located registered system).1,
        (construct located registered system).2) := rfl

theorem step_notify (number : Nat) (protocol : Guid) (system : VariableSystem) :
    step (.notify number protocol) system =
      if number < system.notifies then (.completed (.ok ()), (exitBootServices protocol system).2)
      else (.noNotify, system) := by
  change (if number < system.notifies then
      (do exitBootServices protocol; return .completed (.ok ()))
    else return .noNotify : VariableAction VariableOutcome) system = _
  split <;> rfl

theorem step_setVariable (name : List UInt16) (vendor : Guid) (data : List UInt8)
    (answer : Except EfiError Unit) :
    step (.setVariable name vendor attributes data answer) system =
      (.completed (setVariable name vendor attributes data answer system).1,
        (setVariable name vendor attributes data answer system).2) := rfl

theorem step_queryInfo (answer : Except EfiError VariableStorageInfo) :
    step (.queryInfo attributes answer) system =
      (.info (queryInfo attributes answer system).1,
        (queryInfo attributes answer system).2) := rfl

theorem step_performs (before : VariableSystem) (next : VariableStep) :
    Performs before next (step next before).1 (step next before).2 := by
  cases next with
  | construct located registered =>
    cases located with
    | error reason => exact .unlocated
    | ok store =>
      obtain ⟨log, h⟩ := construct_located store registered before
      rw [step_construct, h]
      exact .located
  | notify number protocol =>
    rw [step_notify]
    split
    next known => exact .notified known
    next unknown => exact .noNotify (Nat.le_of_not_lt unknown)
  | setVariable name vendor attributes data answer =>
    rw [step_setVariable]
    cases ready : before.writer.store with
    | none =>
      rw [setVariable_missing ready]
      exact .notSet ready
    | some store =>
      by_cases boot : before.writer.atRuntime = true ∧
          attributes.contains .runtimeAccess = false
      · rw [setVariable_refused ready boot.1 boot.2]
        exact .refused ready boot.1 boot.2
      · have allowed : before.writer.atRuntime = true →
            attributes.contains .runtimeAccess = true := by
          intro runtime
          simpa [runtime] using boot
        rw [setVariable_allowed ready allowed]
        exact .set ready allowed
  | queryInfo attributes answer =>
    rw [step_queryInfo]
    cases ready : before.writer.store with
    | none =>
      rw [queryInfo_missing ready]
      exact .notQueried ready
    | some store =>
      rw [queryInfo_ready ready]
      exact .queried ready
  | lockSupported => exact .lockSupported
  | requestLock name vendor => exact .requestLock

variable {before after : VariableSystem} {next : VariableStep} {outcome : VariableOutcome}

namespace Performs

/-- The calls of a step go to the store in use, and at runtime write nothing that cannot be used
there. -/
theorem calls_eq (h : Performs before next outcome after) :
    ∃ made, after.calls = before.calls ++ made ∧
      (∀ call ∈ made, ∀ store, call.store? = some store → before.writer.store = some store) ∧
      (before.writer.atRuntime = true → ∀ call ∈ made, call.RuntimeUsable) := by
  cases h with
  | unlocated => exact ⟨_, rfl, by simp [VariableCall.store?], by simp [VariableCall.RuntimeUsable]⟩
  | located => exact ⟨_, rfl, by simp [VariableCall.store?], by simp [VariableCall.RuntimeUsable]⟩
  | @set name vendor attributes data answer store ready allowed =>
    refine ⟨_, rfl, by simp [VariableCall.store?, ready], fun runtime call hc => ?_⟩
    obtain rfl := List.mem_singleton.mp hc
    exact (attributes.contains_runtimeAccess).symm.trans (allowed runtime)
  | queried ready =>
    exact ⟨_, rfl, by simp [VariableCall.store?, ready], by simp [VariableCall.RuntimeUsable]⟩
  | notified | noNotify | notSet | refused | notQueried | lockSupported | requestLock =>
    exact ⟨[], (List.append_nil _).symm, by simp, by simp⟩

/-- The store that is located first stays in use. -/
theorem store_eq (h : Performs before next outcome after) :
    after.writer.store = before.writer.store.or next.located? := by
  cases h with
  | located => exact Option.orElse_eq_or
  | _ => exact (Option.or_none).symm

theorem notifies_eq (h : Performs before next outcome after) :
    after.notifies = before.notifies + next.located?.toList.length := by
  cases h <;> rfl

theorem atRuntime_iff (h : Performs before next outcome after) :
    after.writer.atRuntime = true ↔ before.writer.atRuntime = true ∨
      ∃ number protocol, next = .notify number protocol ∧ number < before.notifies := by
  cases h with
  | notified known => exact ⟨fun _ => .inr ⟨_, _, rfl, known⟩, fun _ => rfl⟩
  | noNotify unknown =>
    refine ⟨.inl, ?_⟩
    rintro (runtime | ⟨_, _, he, known⟩)
    · exact runtime
    · cases he
      exact absurd known (Nat.not_lt.mpr unknown)
  | _ => simp

end Performs

end VariableSystem

end PlatformFirmware
