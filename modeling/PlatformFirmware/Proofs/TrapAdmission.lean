import Mathlib.Order.WellFounded
import PlatformFirmware.Proofs.TrapDecision
import PlatformFirmware.Proofs.TrapTidy

namespace PlatformFirmware

open TrapSystem

namespace TrapSystem

section

variable (callback : TrapCallback) (request : TrapRequest) (size : Nat) (before : TrapSystem)

/-- A registration of `size` bytes without an address can be taken on. -/
def AcceptsShared : Prop :=
  (∃ j offset, (before.dispatcher.entry j).HasRoom size offset) ∨
    (∃ j, (before.dispatcher.entry j).inUse = false) ∧ ∃ base, before.nextWindow = .ok base

/-- A registration of `size` bytes can be taken on at the address that its caller chose. -/
structure AcceptsDedicated : Prop where
  aligned : size ∣ request.address.toNat
  clear : ∀ j address, (before.dispatcher.entry j).Traps address →
    ¬(request.address.toNat ≤ address ∧ address < request.address.toNat + size)
  register : ∃ j, (before.dispatcher.entry j).inUse = false

structure Accepts : Prop where
  unlocked : before.dispatcher.isLocked = false
  range : request.HasRange
  shared : request.address = 0 → callback.isExtended = false ∧ AcceptsShared size before
  dedicated : request.address ≠ 0 → AcceptsDedicated request size before

end

end TrapSystem

theorem exists_isLeast {P : Fin 4 → Prop} (h : ∃ i, P i) : ∃ i, IsLeast {j | P j} i := by
  obtain ⟨i, mem, least⟩ := wellFounded_lt.has_min {j | P j} h
  exact ⟨i, mem, fun j hj => not_lt.mp (least j hj)⟩

namespace TrapSystem

section

variable {callback : TrapCallback} {request : TrapRequest} {size : Nat} {before after : TrapSystem}
  {outcome : TrapOutcome} {handle : TrapHandle} {address : UInt16}

theorem Declines.not_accepted {reason : EfiError} {calls : List AllocatorCall}
    (h : Declines request before outcome after reason calls) :
    outcome ≠ .registered (.ok handle) address := by
  rw [h.told]
  nofun

theorem DecidesShared.accepted_iff
    (decides : DecidesShared callback request size before outcome after) :
    (∃ handle address, outcome = .registered (.ok handle) address) ↔
      AcceptsShared size before := by
  constructor
  · rintro ⟨handle, address, accepted⟩
    by_cases room : ∃ j offset, (before.dispatcher.entry j).HasRoom size offset
    · exact .inl room
    · simp only [not_exists] at room
      by_cases unused : ∃ j, (before.dispatcher.entry j).inUse = false
      · obtain ⟨i, hi⟩ := unused
        cases answer : before.nextWindow with
        | ok base => exact .inr ⟨⟨i, hi⟩, base, answer⟩
        | error reason =>
          exact absurd accepted (decides.noWindow room i reason hi answer).not_accepted
      · simp only [not_exists, Bool.not_eq_false] at unused
        exact absurd accepted (decides.noRegister room unused).not_accepted
  · intro accepts
    by_cases room : ∃ j offset, (before.dispatcher.entry j).HasRoom size offset
    · obtain ⟨i, least⟩ := exists_isLeast room
      obtain ⟨offset, fits⟩ := least.1
      obtain ⟨address, -, admits⟩ := decides.room i offset least fits
      exact ⟨_, address, admits.told⟩
    · rcases accepts with found | ⟨unused, base, answer⟩
      · exact absurd found room
      · obtain ⟨i, least⟩ := exists_isLeast unused
        simp only [not_exists] at room
        exact ⟨_, base, (decides.window room i base least answer).told⟩

theorem DecidesDedicated.accepted_iff
    (decides : DecidesDedicated callback request size before outcome after) :
    (∃ handle address, outcome = .registered (.ok handle) address) ↔
      AcceptsDedicated request size before := by
  constructor
  · rintro ⟨handle, address, accepted⟩
    have aligned : size ∣ request.address.toNat := by
      by_contra beside
      exact (decides.misaligned beside).not_accepted accepted
    have clear (j port) (traps : (before.dispatcher.entry j).Traps port) :
        ¬(request.address.toNat ≤ port ∧ port < request.address.toNat + size) := fun inside =>
      (decides.taken j port traps inside.1 inside.2).not_accepted accepted
    refine ⟨aligned, clear, ?_⟩
    by_contra unused
    simp only [not_exists, Bool.not_eq_false] at unused
    exact (decides.noRegister aligned clear unused).not_accepted accepted
  · rintro ⟨aligned, clear, unused⟩
    obtain ⟨i, least⟩ := exists_isLeast unused
    exact ⟨_, _, (decides.register aligned clear i least).told⟩

/-- No refusal is left out: what is not refused is taken on. -/
theorem Decides.accepted_iff (decides : Decides callback request size before outcome after) :
    (∃ handle address, outcome = .registered (.ok handle) address) ↔
      Accepts callback request size before := by
  constructor
  · rintro ⟨handle, address, accepted⟩
    have unlocked : before.dispatcher.isLocked = false := by
      by_contra locked
      exact (decides.locked (Bool.eq_true_of_not_eq_false locked)).not_accepted accepted
    have range : request.HasRange := by
      by_contra none
      exact (decides.noRange unlocked none).not_accepted accepted
    refine ⟨unlocked, range, fun zero => ?_, fun nonzero => ?_⟩
    · have plain : callback.isExtended = false := by
        by_contra extended
        have extended := Bool.eq_true_of_not_eq_false extended
        exact (decides.noAddress unlocked range zero extended).not_accepted accepted
      exact ⟨plain, (decides.shared unlocked range zero plain).accepted_iff.mp
        ⟨handle, address, accepted⟩⟩
    · exact (decides.dedicated unlocked range nonzero).accepted_iff.mp ⟨handle, address, accepted⟩
  · rintro ⟨unlocked, range, shared, dedicated⟩
    by_cases zero : request.address = 0
    · obtain ⟨plain, accepts⟩ := shared zero
      exact (decides.shared unlocked range zero plain).accepted_iff.mpr accepts
    · exact (decides.dedicated unlocked range zero).accepted_iff.mpr (dedicated zero)

end

end TrapSystem

/-- Whatever has happened before, each attempt to register ends as its request and the registers in
use decide, as long as the allocator only grants aligned windows that are clear of all ranges. -/
theorem TrapReach.registers_as_decided {history : List TrapMove} {turn : TrapTurn}
    (reach : TrapReach history turn) (granted : ∀ move ∈ history, move.GrantsApart)
    {self : Option Nat} {step : TrapStep} {callback : TrapCallback} {request : TrapRequest}
    {reactions : List (List TrapStep)}
    (registers : step.registration? turn.session.clients.length =
      some (callback, request, reactions))
    (apart : (TrapMove.make turn.session self step).GrantsApart) {size : Nat}
    (least : IsLeast {n : Nat | n.isPowerOfTwo ∧ max request.length.toNat 4 ≤ n} size) :
    let answer := turn.session.make self step
    Decides callback request size turn.session.system answer.1 answer.2.system ∧
      ((∃ handle address, answer.1 = .registered (.ok handle) address) ↔
        Accepts callback request size turn.session.system) := by
  intro answer
  obtain ⟨result, told, ended⟩ := TrapSession.make_registers registers self
  have decides : Decides callback request size turn.session.system answer.1 answer.2.system := by
    rw [told]
    exact ended.decides (reach.tidy granted) apart least
  exact ⟨decides, decides.accepted_iff⟩

/-- The second registration shares the window of the first one, 24 bytes behind its end. -/
theorem TrapReach.registers_as_decided_room :
    let start := TrapSession.start [.ok 0x1800] []
    let first := (start.make none (.register 0 5 .readWrite [])).2
    let second := first.make none (.register 0 0x20 .write [])
    second.1 = .registered (.ok (.ofSerial 2)) 0x1820 ∧
      (second.2.system.dispatcher.entry 0).usedLength = 0x40 ∧
      second.2.system.allocatorCalls = [.allocate 0x100 0x100] := by
  intro start first second
  have reach : TrapReach _ (.finished first _) :=
    (TrapReach.start [.ok 0x1800] []).made (.register 0 5 .readWrite []) (by simp)
  have granted : ∀ move ∈ [TrapMove.make start none (.register 0 5 .readWrite [])],
      move.GrantsApart := by
    intro move hm
    obtain rfl := List.mem_singleton.mp hm
    intro base h
    cases h
    decide
  have apart : (TrapMove.make first none (.register 0 0x20 .write [])).GrantsApart := by
    intro base h
    cases h
  have least : IsLeast {n : Nat | n.isPowerOfTwo ∧ max (0x20 : UInt16).toNat 4 ≤ n} 0x20 :=
    roundedTrapLength_isLeast (by decide)
  have room : (first.system.dispatcher.entry 0).HasRoom 0x20 0x20 := by
    refine ⟨by decide +kernel, by decide +kernel, ?_, by decide⟩
    have used : (first.system.dispatcher.entry 0).usedLength.toNat = 8 := by decide +kernel
    rw [used]
    exact roundUp_isLeast (by decide) 8
  have decides : Decides (.plain first.clients.length)
      { address := 0, length := 0x20, direction := .write } 0x20 first.system second.1
      second.2.system := (reach.registers_as_decided granted rfl apart least).1
  have shared := decides.shared (by decide +kernel) ⟨by decide, by decide⟩ rfl rfl
  obtain ⟨address, placed, admits⟩ := shared.room 0 0x20 ⟨⟨_, room⟩, fun j _ => Fin.zero_le j⟩ room
  have base : (first.system.dispatcher.entry 0).base.toNat = 0x1800 := by decide +kernel
  have calls : first.system.allocatorCalls = [.allocate 0x100 0x100] := by decide +kernel
  obtain rfl : address = 0x1820 := UInt16.toNat_inj.mp (by rw [placed, base]; rfl)
  refine ⟨admits.told, ?_, ?_⟩
  · rw [admits.here]
    rfl
  · rw [admits.calls, calls]
    rfl

end PlatformFirmware
