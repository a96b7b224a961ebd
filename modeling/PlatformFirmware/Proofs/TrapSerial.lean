import Mathlib.Data.List.Perm.Basic
import Mathlib.Data.Nat.Bitwise
import PlatformFirmware.Proofs.TrapSound

namespace PlatformFirmware

open TrapSystem

namespace TrapHandle

/-- The handle of a registration by its number, counted from 0. -/
def numbered (number : Nat) : TrapHandle :=
  .ofSerial (1 + UInt32.ofNat number)

theorem ofSerial_toNat (serial : UInt32) :
    (ofSerial serial).value.toNat = trapRecordSignature.toNat * 2 ^ 32 + serial.toNat := by
  unfold ofSerial
  generalize trapRecordSignature = tag
  have above := tag.toNat_lt
  have below := serial.toNat_lt
  have joined := Nat.two_pow_add_eq_or_of_lt (i := 32) below tag.toNat
  rw [UInt64.toNat_or, UInt64.toNat_shiftLeft, UInt32.toNat_toUInt64, UInt32.toNat_toUInt64,
    Nat.shiftLeft_eq]
  change tag.toNat * 2 ^ 32 % 2 ^ 64 ||| serial.toNat = _
  rw [Nat.mod_eq_of_lt (by omega), Nat.mul_comm, ← joined]

theorem ofSerial_inj {serial other : UInt32} :
    ofSerial serial = ofSerial other ↔ serial = other := by
  refine ⟨fun same => ?_, congrArg _⟩
  have values := congrArg (fun handle : TrapHandle => handle.value.toNat) same
  simp only [ofSerial_toNat] at values
  exact UInt32.toNat_inj.mp (by omega)

theorem ofSerial_hasSignature (serial : UInt32) : (ofSerial serial).hasSignature = true := by
  have below := serial.toNat_lt
  have above := trapRecordSignature.toNat_lt
  have upper : (ofSerial serial).value.toNat >>> 32 = trapRecordSignature.toNat := by
    rw [ofSerial_toNat, Nat.shiftRight_eq_div_pow]
    omega
  rw [hasSignature, beq_iff_eq, ← UInt32.toNat_inj, UInt64.toNat_toUInt32,
    UInt64.toNat_shiftRight]
  change (ofSerial serial).value.toNat >>> 32 % 2 ^ 32 = _
  rw [upper, Nat.mod_eq_of_lt above]

/-- The serial wraps around, and nothing else makes two handles the same. -/
theorem numbered_inj {number other : Nat} :
    numbered number = numbered other ↔ number % 2 ^ 32 = other % 2 ^ 32 := by
  rw [numbered, numbered, ofSerial_inj, UInt32.add_right_inj, ← UInt32.toNat_inj,
    UInt32.toNat_ofNat', UInt32.toNat_ofNat']

end TrapHandle

/-- Values gained at one place of a list go with those at the others. -/
theorem perm_flatMap_of_eq_off {α β : Type} [DecidableEq α] {f g : α → List β} {place : α}
    {places : List α} (distinct : places.Nodup) (mem : place ∈ places)
    (off : ∀ other, other ≠ place → g other = f other) :
    (places.flatMap g ++ f place).Perm (places.flatMap f ++ g place) := by
  have split := List.perm_cons_erase mem
  have same : (places.erase place).flatMap g = (places.erase place).flatMap f := by
    refine List.flatMap_congr fun other ho => off other ?_
    rintro rfl
    exact distinct.not_mem_erase ho
  have here (h : α → List β) :
      (places.flatMap h).Perm ((places.erase place).flatMap h ++ h place) :=
    (split.flatMap_right h).trans List.perm_append_comm
  have gained := (here g).append_right (f place)
  have kept := (here f).append_right (g place)
  rw [same] at gained
  rw [List.append_assoc] at gained kept
  exact gained.trans ((List.perm_append_comm.append_left _).trans kept.symm)

namespace TrapDispatcher

variable {dispatcher : TrapDispatcher} {i : Fin 4} {entry : TrapEntry} {record : TrapRecord}

theorem liveRecords_setEntry (dispatcher : TrapDispatcher) (i : Fin 4) (entry : TrapEntry) :
    ((dispatcher.setEntry i entry).liveRecords ++ (dispatcher.entry i).records).Perm
      (dispatcher.liveRecords ++ entry.records) := by
  have moved := perm_flatMap_of_eq_off (f := fun j => (dispatcher.entry j).records)
    (g := fun j => ((dispatcher.setEntry i entry).entry j).records) (List.nodup_finRange 4)
    (List.mem_finRange i) fun j hj => by rw [setEntry_other hj]
  rwa [setEntry_entry] at moved

theorem liveRecords_setEntry_same (same : entry.records = (dispatcher.entry i).records) :
    (dispatcher.setEntry i entry).liveRecords = dispatcher.liveRecords := by
  refine List.flatMap_congr fun j _ => ?_
  by_cases hj : j = i
  · subst hj
    rw [setEntry_entry, same]
  · rw [setEntry_other hj]

theorem liveRecords_keep (dispatcher : TrapDispatcher) (i : Fin 4) (record : TrapRecord) :
    (dispatcher.keep i record).liveRecords.Perm (record :: dispatcher.liveRecords) := by
  have moved := dispatcher.liveRecords_setEntry i
    { dispatcher.entry i with records := (dispatcher.entry i).records ++ [record] }
  have rest : (dispatcher.liveRecords ++ ((dispatcher.entry i).records ++ [record])).Perm
      ((record :: dispatcher.liveRecords) ++ (dispatcher.entry i).records) := by
    rw [← List.append_assoc]
    exact List.perm_append_singleton _ _
  exact (List.perm_append_right_iff _).mp (moved.trans rest)

theorem liveRecords_without {place : Nat}
    (placed : (dispatcher.entry i).records[place]? = some record) :
    dispatcher.liveRecords.Perm (record ::
      (dispatcher.setEntry i ((dispatcher.entry i).without place)).liveRecords) := by
  have moved := dispatcher.liveRecords_setEntry i ((dispatcher.entry i).without place)
  rw [TrapEntry.without_records] at moved
  obtain ⟨inside, found⟩ := List.getElem?_eq_some_iff.mp placed
  have split := List.getElem_cons_eraseIdx_perm inside
  rw [found] at split
  have taken := moved.symm.trans (split.symm.append_left _)
  exact (List.perm_append_right_iff _).mp (taken.trans List.perm_middle)

end TrapDispatcher

namespace TrapSystem

variable {callback : TrapCallback} {request : TrapRequest} {before after : TrapSystem}

/-- The same registrations are in force, and the same serial comes next. -/
def SameRecords (before after : TrapSystem) : Prop :=
  after.dispatcher.liveRecords = before.dispatcher.liveRecords ∧
    after.dispatcher.nextSerial = before.dispatcher.nextSerial

theorem sameRecords_of_eq (h : after.dispatcher = before.dispatcher) :
    before.SameRecords after := by
  rw [SameRecords, h]
  exact ⟨rfl, rfl⟩

theorem sameRecords_of_setEntry {i : Fin 4} {entry : TrapEntry}
    (h : after.dispatcher = before.dispatcher.setEntry i entry)
    (same : entry.records = (before.dispatcher.entry i).records) : before.SameRecords after := by
  rw [SameRecords, h]
  exact ⟨TrapDispatcher.liveRecords_setEntry_same same, rfl⟩

theorem records_of_unused (sound : before.dispatcher.Sound) {i : Fin 4}
    (unused : before.dispatcher.unusedRegister? = some i) :
    (before.dispatcher.entry i).records = [] := by
  rw [(sound i).unused (TrapDispatcher.unusedRegister?_eq_some unused)]

theorem ClaimsShared.sameRecords {length : UInt16} {result : Except Fault UInt16}
    (h : ClaimsShared length before result after) (sound : before.dispatcher.Sound) :
    before.SameRecords after := by
  cases h with
  | room | overflow => exact sameRecords_of_setEntry rfl rfl
  | noRegister _ _ logged => exact sameRecords_of_eq logged.dispatcher
  | noWindow _ _ _ logged => exact sameRecords_of_eq logged.dispatcher
  | window _ unused _ => exact sameRecords_of_setEntry rfl (records_of_unused sound unused).symm

theorem ClaimsDedicated.sameRecords {length : UInt16} {result : Except Fault Unit}
    (h : ClaimsDedicated request length before result after) (sound : before.dispatcher.Sound) :
    before.SameRecords after := by
  cases h with
  | misaligned _ logged | taken _ _ _ logged | noRegister _ _ _ _ logged =>
    exact sameRecords_of_eq logged.dispatcher
  | dedicated _ _ _ unused =>
    exact sameRecords_of_setEntry rfl (records_of_unused sound unused).symm

/-- A claim begins no registration and takes no serial, also if it halts. -/
theorem Claims.sameRecords {result : Except Fault UInt16}
    (h : Claims callback request before result after) (sound : before.dispatcher.Sound) :
    before.SameRecords after := by
  cases h with
  | noAddress _ _ logged => exact sameRecords_of_eq logged.dispatcher
  | shared _ _ claims => exact claims.sameRecords sound
  | dedicated _ claims => exact claims.sameRecords sound
  | refused _ claims => exact claims.sameRecords sound

theorem Registers.sameRecords {fault : Fault}
    (h : Registers callback request before (.error fault) after)
    (sound : before.dispatcher.Sound) : before.SameRecords after := by
  cases h with
  | locked _ logged => exact sameRecords_of_eq logged.dispatcher
  | noRange _ _ logged => exact sameRecords_of_eq logged.dispatcher
  | unclaimed _ _ claims => exact claims.sameRecords sound
  | unkept _ _ claims none =>
    -- The serial is taken before the register is looked for, but one is always found.
    obtain ⟨i, keeper⟩ := claims.keeper sound
    exact absurd (keeper.symm.trans none) (by simp)

theorem Registers.enlists {handle : TrapHandle} {address : UInt16}
    (h : Registers callback request before (.ok (handle, address)) after)
    (sound : before.dispatcher.Sound) :
    handle = .ofSerial before.dispatcher.nextSerial ∧
      after.dispatcher.nextSerial = before.dispatcher.nextSerial + 1 ∧
      after.dispatcher.liveRecords.Perm
        (before.dispatcher.newRecord callback request address ::
          before.dispatcher.liveRecords) := by
  cases h with
  | @kept _ claimed _ i _ _ claims _ logged =>
    obtain ⟨live, serial⟩ := claims.sameRecords sound
    have kept := claimed.dispatcher.spendSerial.liveRecords_keep i
      (claimed.dispatcher.newRecord callback request address)
    have spent : claimed.dispatcher.spendSerial.liveRecords = before.dispatcher.liveRecords := live
    have same : claimed.dispatcher.newRecord callback request address =
        before.dispatcher.newRecord callback request address := by
      rw [TrapDispatcher.newRecord, serial, TrapDispatcher.newRecord]
    rw [spent] at kept
    rw [logged.dispatcher, ← same, ← serial]
    exact ⟨rfl, rfl, kept⟩

end TrapSystem

end PlatformFirmware
