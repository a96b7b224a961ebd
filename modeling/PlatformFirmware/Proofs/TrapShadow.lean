import PlatformFirmware.Proofs.TrapProgrammed

namespace PlatformFirmware

open TrapSystem

/-- The registers show the entries, and of the past only what paused or resumed a registration. -/
structure TrapSession.Shadowed (history : List TrapMove) (session : TrapSession) : Prop where
  roster : session.Roster
  past : ∀ move ∈ history, ∀ record on, move.switched? = some (record, on) →
    record.callback.client < session.clients.length
  programmed (i : Fin 4) : (session.system.dispatcher.entry i).Programmed
    (fun record => record.isPausedAfter history) (session.system.hardware.register i)

namespace TrapSession

theorem isPausedAfter_quiet {history : List TrapMove} {move : TrapMove}
    (h : move.switched? = none) (record : TrapRecord) :
    record.isPausedAfter (history ++ [move]) = record.isPausedAfter history := by
  rw [TrapRecord.isPausedAfter_append, TrapRecord.switchedBy?_eq_none (by simp [h])]

theorem past_append {history : List TrapMove} (move : TrapMove) {count count' : Nat}
    (past : ∀ move ∈ history, ∀ record on, move.switched? = some (record, on) →
      record.callback.client < count) (le : count ≤ count')
    (last : ∀ record on, move.switched? = some (record, on) → record.callback.client < count) :
    ∀ made ∈ history ++ [move], ∀ record on, made.switched? = some (record, on) →
      record.callback.client < count' := by
  intro made hm record on hs
  refine Nat.lt_of_lt_of_le ?_ le
  rcases List.mem_append.mp hm with hm | hm
  · exact past made hm record on hs
  · obtain rfl := List.mem_singleton.mp hm
    exact last record on hs

theorem Shadowed.step {history : List TrapMove} {before after : TrapSession} {self : Option Nat}
    {step : TrapStep} (shadowed : before.Shadowed history)
    (keeps : (TrapMove.make before self step).KeepsRegisters)
    (h : before.Changes self step after) :
    after.Shadowed (history ++ [.make before self step]) := by
  have roster := h.roster shadowed.roster
  have never (quiet : (TrapMove.make before self step).switched? = none) :=
    past_append (.make before self step) shadowed.past h.clients_le (by simp [quiet])
  cases h with
  | same _ quiet entries registers le =>
    refine ⟨roster, never quiet, fun i => ?_⟩
    rw [TrapDispatcher.entry_congr entries, TrapHardware.register_congr registers]
    exact (shadowed.programmed i).congr fun record _ => isPausedAfter_quiet quiet record
  | @added callback request reactions _ address _ quiet hr places clients =>
    refine ⟨roster, never quiet, fun i => ?_⟩
    -- The past knows nothing of the new client, so the new record starts out running.
    have fresh : (before.system.dispatcher.newRecord callback request address).isPausedAfter
        history = false := by
      apply TrapRecord.isPausedAfter_of_never
      intro move hm on hs
      have lt := shadowed.past move hm _ on hs
      exact absurd (TrapStep.registration?_client hr) (Nat.ne_of_lt lt)
    refine (places.programmed fresh shadowed.programmed i).congr ?_
    exact fun record _ => isPausedAfter_quiet quiet record
  | @dropped k place record _ quiet placed hd hh clients =>
    refine ⟨roster, never quiet, fun i => ?_⟩
    refine TrapEntry.Programmed.congr ?_ fun record _ => isPausedAfter_quiet quiet record
    rw [hd, hh]
    by_cases hi : i = k
    · subst hi
      rw [TrapDispatcher.setEntry_entry, TrapEntry.without]
      split
      · rw [TrapHardware.setRegister_self]
        exact .default _
      · exact (shadowed.programmed i).eraseIdx place
    · rw [TrapDispatcher.setEntry_other hi]
      split
      · rw [TrapHardware.setRegister_other hi]
        exact shadowed.programmed i
      · exact shadowed.programmed i
  | @switched k record on _ switched alone mem hd hh clients =>
    have live := TrapDispatcher.mem_liveRecords.mpr ⟨k, mem⟩
    refine ⟨roster, past_append _ shadowed.past (Nat.le_of_eq (by rw [clients])) ?_, fun i => ?_⟩
    · intro other on' hs
      obtain ⟨rfl, rfl⟩ := Prod.mk.inj (Option.some.inj (switched.symm.trans hs))
      exact shadowed.roster.enrolled record live
    · rw [hd, hh]
      by_cases hi : i = k
      · subst hi
        rw [TrapHardware.setRegister_self]
        -- A register of its own serves one record, which is the one that was switched.
        have programmed := (shadowed.programmed i).dedicated alone
        obtain ⟨owner, serves⟩ := (shadowed.roster.tidy.entries i).dedicated alone
        rw [serves.alone] at mem
        obtain rfl := List.mem_singleton.mp mem
        refine ⟨fun unused => ?_, fun _ shared => ?_, fun shared => ?_, fun _ other ho => ?_⟩
        · rw [(shadowed.roster.tidy.entries i).unused unused] at alone
          cases alone
        · exact absurd (alone.symm.trans shared) (by simp)
        · exact absurd (alone.symm.trans shared) (by simp)
        · have shown := programmed other ho
          rw [serves.alone] at ho
          obtain rfl := List.mem_singleton.mp ho
          rw [shown, TrapRegister.setEnabled_setEnabled, TrapRecord.isPausedAfter_append,
            TrapRecord.switchedBy?_self switched, Bool.not_not]
      · rw [TrapHardware.setRegister_other hi]
        refine (shadowed.programmed i).congr fun other ho => ?_
        rw [TrapRecord.isPausedAfter_append, TrapRecord.switchedBy?_eq_none]
        intro on' hs
        obtain ⟨rfl, _⟩ := Prod.mk.inj (Option.some.inj (switched.symm.trans hs))
        exact hi (shadowed.roster.tidy.register_eq ho mem)
  | replaced he =>
    subst he
    exact absurd keeps (by simp [TrapMove.KeepsRegisters])

end TrapSession

theorem TrapReach.shadowed {history : List TrapMove} {turn : TrapTurn}
    (reach : TrapReach history turn)
    (allowed : ∀ move ∈ history, move.GrantsApart ∧ move.KeepsRegisters) :
    turn.session.Shadowed history := by
  refine TrapReach.invariant (P := fun history session => session.Shadowed history)
    ?_ ?_ ?_ ?_ reach allowed
  · intro allocations releases
    have roster := (TrapReach.start allocations releases).roster (by simp)
    refine ⟨roster, by simp, fun i => ?_⟩
    change TrapEntry.Programmed (({} : TrapDispatcher).entry i) _ (({} : TrapHardware).register i)
    rw [TrapDispatcher.entry_default, TrapHardware.register_default]
    exact .default _
  · intro history session self step allowed shadowed
    have changes := session.make_changes self step shadowed.roster.tidy allowed.1
    exact shadowed.step allowed.2 changes
  · intro history session record writeData shadowed
    have quiet : (TrapMove.call session record writeData).switched? = none := rfl
    refine ⟨shadowed.roster, ?_, fun i => ?_⟩
    · exact TrapSession.past_append _ shadowed.past (Nat.le_refl _) (by simp [quiet])
    · exact (shadowed.programmed i).congr fun record _ =>
        TrapSession.isPausedAfter_quiet quiet record
  · intro history before after same shadowed
    have roster := shadowed.roster.of_eq (by rw [same.dispatcher]) (Nat.le_of_eq same.clients.symm)
    refine ⟨roster, ?_, ?_⟩
    · rw [same.clients]
      exact shadowed.past
    · intro i
      rw [same.dispatcher, TrapHardware.register_congr same.registers]
      exact shadowed.programmed i

/-- The registers of every reachable dispatcher say what its entries say. Only a registration that
was paused last, on a register of its own, is not trapped. -/
theorem TrapReach.registers_programmed {history : List TrapMove} {turn : TrapTurn}
    (reach : TrapReach history turn)
    (allowed : ∀ move ∈ history, move.GrantsApart ∧ move.KeepsRegisters) (i : Fin 4) :
    let entry := turn.session.system.dispatcher.entry i
    let register := turn.session.system.hardware.register i
    (entry.inUse = false → register = .zero) ∧
    (entry.inUse = true → entry.isDedicated = false →
      register = .ofRange entry.base 0x100 .readWrite) ∧
    (entry.isDedicated = true → ∃ record, entry.records = [record] ∧
      register =
        if record.isPausedAfter history then
          (TrapRegister.ofRequest record.request record.length).put .enable 0
        else TrapRegister.ofRequest record.request record.length) := by
  intro entry register
  have shadowed := reach.shadowed allowed
  have programmed := shadowed.programmed i
  refine ⟨programmed.unused, programmed.window, fun alone => ?_⟩
  obtain ⟨record, serves⟩ := (shadowed.roster.tidy.entries i).dedicated alone
  refine ⟨record, serves.alone, ?_⟩
  have mem : record ∈ entry.records := by
    rw [serves.alone]
    exact List.mem_singleton_self record
  have shown : register = _ := programmed.dedicated alone record mem
  rw [shown]
  cases record.isPausedAfter history with
  | true => rfl
  | false => exact TrapRegister.setEnabled_true (TrapRegister.ofRequest_enable _ _)

theorem TrapReach.registers_programmed_paused :
    let start := TrapSession.start [] []
    let running := (start.make none (.register 0x60 4 .write [])).2
    let paused := (running.make none (.pause (.registration 0))).2
    ∃ record, (paused.system.dispatcher.entry 0).records = [record] ∧
      paused.system.hardware.register 0 =
        (TrapRegister.ofRequest record.request record.length).put .enable 0 := by
  intro start running paused
  have first := (TrapReach.start [] []).made (.register 0x60 4 .write []) (by simp)
  have reach := first.made (.pause (.registration 0)) (by simp)
  have allowed : ∀ move ∈ [TrapMove.make start none (.register 0x60 4 .write []),
      .make running none (.pause (.registration 0))], move.GrantsApart ∧ move.KeepsRegisters := by
    intro move hm
    simp only [List.mem_cons, List.not_mem_nil, or_false] at hm
    rcases hm with rfl | rfl
    · refine ⟨fun base h => ?_, trivial⟩
      cases h
    · exact ⟨TrapMove.grantsApart_of_not_registration rfl, trivial⟩
  obtain ⟨record, alone, shown⟩ := (reach.registers_programmed allowed 0).2.2 (by decide +kernel)
  have known : (paused.system.dispatcher.entry 0).records =
      [⟨.ofSerial 1, ⟨0x60, 4, .write, 0, 0xF⟩, 4, .plain 0⟩] := by decide +kernel
  obtain rfl := List.singleton_inj.mp (known.symm.trans alone)
  rw [if_pos (by decide +kernel)] at shown
  exact ⟨_, known, shown⟩

end PlatformFirmware
