import PlatformFirmware.Proofs.TrapAllocator
import PlatformFirmware.Proofs.TrapPlacement
import PlatformFirmware.Proofs.TrapSearch

namespace PlatformFirmware

open TrapSystem

/-- An address lies in the range that a register traps. -/
def TrapEntry.Traps (entry : TrapEntry) (address : Nat) : Prop :=
  entry.inUse = true ∧ entry.base.toNat ≤ address ∧
    address < entry.base.toNat + entry.length.toNat

namespace TrapSystem

section

variable (callback : TrapCallback) (request : TrapRequest) (size : Nat) (before : TrapSystem)
  (outcome : TrapOutcome) (after : TrapSystem)

/-- A registration is refused after some calls to the allocator. -/
structure Declines (reason : EfiError) (calls : List AllocatorCall) : Prop where
  told : outcome = .registered (.error reason) request.address
  dispatcher : after.dispatcher = before.dispatcher
  calls : after.allocatorCalls = before.allocatorCalls ++ calls

/-- A registration is taken on at an address, after some calls to the allocator. It is the last
one of a register that is left with the entry, apart from the registration. -/
structure Admits (i : Fin 4) (entry : TrapEntry) (address : UInt16)
    (calls : List AllocatorCall) : Prop where
  told : outcome = .registered (.ok (.ofSerial before.dispatcher.nextSerial)) address
  here : after.dispatcher.entry i = { entry with
    records := entry.records ++
      [{ handle := .ofSerial before.dispatcher.nextSerial, request := { request with address },
         length := .ofNat size, callback }] }
  others : ∀ j, j ≠ i → after.dispatcher.entry j = before.dispatcher.entry j
  calls : after.allocatorCalls = before.allocatorCalls ++ calls

/-- The outcome of a registration of `size` bytes that comes without an address. -/
structure DecidesShared : Prop where
  room : ∀ i offset,
    IsLeast {j | ∃ offset, (before.dispatcher.entry j).HasRoom size offset} i →
    (before.dispatcher.entry i).HasRoom size offset →
    ∃ address : UInt16, address.toNat = (before.dispatcher.entry i).base.toNat + offset ∧
      Admits callback request size before outcome after i
        { before.dispatcher.entry i with usedLength := .ofNat (offset + size) } address []
  window : (∀ j offset, ¬(before.dispatcher.entry j).HasRoom size offset) →
    ∀ i base, IsLeast {j | (before.dispatcher.entry j).inUse = false} i →
    before.nextWindow = .ok base →
    Admits callback request size before outcome after i (.window base (.ofNat size)) base
      [.allocate 0x100 0x100]
  noWindow : (∀ j offset, ¬(before.dispatcher.entry j).HasRoom size offset) →
    ∀ i reason, (before.dispatcher.entry i).inUse = false → before.nextWindow = .error reason →
    Declines request before outcome after .outOfResources [.allocate 0x100 0x100]
  noRegister : (∀ j offset, ¬(before.dispatcher.entry j).HasRoom size offset) →
    (∀ j, (before.dispatcher.entry j).inUse = true) →
    Declines request before outcome after .outOfResources []

/-- The outcome of a registration of `size` bytes at an address that its caller chose. -/
structure DecidesDedicated : Prop where
  misaligned : ¬size ∣ request.address.toNat →
    Declines request before outcome after .invalidParameter []
  taken : ∀ i address, (before.dispatcher.entry i).Traps address →
    request.address.toNat ≤ address → address < request.address.toNat + size →
    Declines request before outcome after .invalidParameter []
  register : size ∣ request.address.toNat →
    (∀ j address, (before.dispatcher.entry j).Traps address →
      ¬(request.address.toNat ≤ address ∧ address < request.address.toNat + size)) →
    ∀ i, IsLeast {j | (before.dispatcher.entry j).inUse = false} i →
    Admits callback request size before outcome after i
      (.dedicated request.address (.ofNat size)) request.address []
  noRegister : size ∣ request.address.toNat →
    (∀ j address, (before.dispatcher.entry j).Traps address →
      ¬(request.address.toNat ≤ address ∧ address < request.address.toNat + size)) →
    (∀ j, (before.dispatcher.entry j).inUse = true) →
    Declines request before outcome after .outOfResources []

/-- The outcome of a registration, the first refusal that applies going before the others. -/
structure Decides : Prop where
  locked : before.dispatcher.isLocked = true →
    Declines request before outcome after .accessDenied []
  noRange : before.dispatcher.isLocked = false → ¬request.HasRange →
    Declines request before outcome after .invalidParameter []
  noAddress : before.dispatcher.isLocked = false → request.HasRange → request.address = 0 →
    callback.isExtended = true → Declines request before outcome after .invalidParameter []
  shared : before.dispatcher.isLocked = false → request.HasRange → request.address = 0 →
    callback.isExtended = false → DecidesShared callback request size before outcome after
  dedicated : before.dispatcher.isLocked = false → request.HasRange → request.address ≠ 0 →
    DecidesDedicated callback request size before outcome after

end

/-- How an attempt to register goes on when its claim has ended. -/
def Concludes (callback : TrapCallback) (request : TrapRequest) (claim : Except Fault UInt16)
    (claimed : TrapSystem) (result : Except Fault (TrapHandle × UInt16)) (after : TrapSystem) :
    Prop :=
  match claim with
  | .error fault => result = .error fault ∧ after = claimed
  | .ok address => after.allocations = claimed.allocations ∧
      ∀ i, claimed.dispatcher.keeper? request address = some i →
        result = .ok (.ofSerial claimed.dispatcher.nextSerial, address) ∧
        Logged { claimed with
          dispatcher := claimed.dispatcher.spendSerial.keep i
            (claimed.dispatcher.newRecord callback request address) } after

section

variable {callback : TrapCallback} {request : TrapRequest} {before after : TrapSystem}
  {result : Except Fault (TrapHandle × UInt16)}

theorem Registers.concludes (h : Registers callback request before result after)
    (unlocked : before.dispatcher.isLocked = false) (range : request.HasRange) :
    ∃ claim claimed, Claims callback request before claim claimed ∧
      Concludes callback request claim claimed result after := by
  cases h with
  | locked locked => cases unlocked.symm.trans locked
  | noRange _ none => exact absurd range none
  | unclaimed _ _ claims => exact ⟨_, _, claims, rfl, rfl⟩
  | unkept _ _ claims none =>
    refine ⟨_, _, claims, rfl, fun i keeper => ?_⟩
    cases none.symm.trans keeper
  | kept _ _ claims found logged =>
    refine ⟨_, _, claims, logged.allocations, fun i keeper => ?_⟩
    cases found.symm.trans keeper
    exact ⟨rfl, logged⟩

theorem Registers.concludes_shared (h : Registers callback request before result after)
    (unlocked : before.dispatcher.isLocked = false) (range : request.HasRange)
    (zero : request.address = 0) (plain : callback.isExtended = false) :
    ∃ claim claimed, ClaimsShared (roundedTrapLength request.length) before claim claimed ∧
      Concludes callback request claim claimed result after := by
  obtain ⟨claim, claimed, claims, concludes⟩ := h.concludes unlocked range
  cases claims with
  | noAddress _ extended => cases plain.symm.trans extended
  | shared _ _ claims => exact ⟨_, _, claims, concludes⟩
  | dedicated nonzero | refused nonzero => exact absurd zero nonzero

theorem Registers.concludes_dedicated (h : Registers callback request before result after)
    (unlocked : before.dispatcher.isLocked = false) (range : request.HasRange)
    (nonzero : request.address ≠ 0) :
    ∃ claim claimed,
      ClaimsDedicated request (roundedTrapLength request.length) before claim claimed ∧
      Concludes callback request (claim.map fun _ => request.address) claimed result after := by
  obtain ⟨claim, claimed, claims, concludes⟩ := h.concludes unlocked range
  cases claims with
  | noAddress zero | shared zero => exact absurd zero nonzero
  | dedicated _ claims => exact ⟨_, _, claims, concludes⟩
  | refused _ claims => exact ⟨_, _, claims, concludes⟩

theorem Logged.declines (h : before.Logged after) (request : TrapRequest) (reason : EfiError) :
    Declines request before (.ofRegistration request.address (.error (.refused reason))) after
      reason [] :=
  ⟨rfl, h.dispatcher, h.allocatorCalls_eq.trans (List.append_nil _).symm⟩

/-- A registration is kept on the register that was set to an entry for it. -/
theorem Logged.admits {claimed : TrapSystem} {i : Fin 4} {entry : TrapEntry} {address : UInt16}
    (h : Logged { claimed with
      dispatcher := claimed.dispatcher.spendSerial.keep i
        (claimed.dispatcher.newRecord callback request address) } after)
    (set : claimed.dispatcher = before.dispatcher.setEntry i entry) {calls : List AllocatorCall}
    (made : claimed.allocatorCalls = before.allocatorCalls ++ calls) :
    Admits callback request (roundedTrapLength request.length).toNat before
      (.ofRegistration request.address (.ok (.ofSerial claimed.dispatcher.nextSerial, address)))
      after i entry address calls := by
  have kept : after.dispatcher = (before.dispatcher.setEntry i { entry with
      records := entry.records ++
        [before.dispatcher.newRecord callback request address] }).spendSerial := by
    rw [h.dispatcher, set]
    exact keep_setEntry _ _ _ _
  refine ⟨by rw [set]; rfl, ?_, fun j hj => ?_, h.allocatorCalls_eq.trans made⟩
  · rw [kept, UInt16.ofNat_toNat]
    exact TrapDispatcher.setEntry_entry _ _ _
  · rw [kept]
    exact TrapDispatcher.setEntry_other hj

theorem Registers.decides_shared (h : Registers callback request before result after)
    (tidy : before.dispatcher.Tidy) (grants : before.GrantsApart after)
    (unlocked : before.dispatcher.isLocked = false) (range : request.HasRange)
    (zero : request.address = 0) (plain : callback.isExtended = false) :
    DecidesShared callback request (roundedTrapLength request.length).toNat before
      (.ofRegistration request.address result) after := by
  have mem := roundedTrapLength_mem request.length
  obtain ⟨claim, claimed, claims, concludes⟩ :=
    h.concludes_shared unlocked range zero plain
  constructor
  case room =>
    intro i offset least room
    have place := room.toNat_ofNat
    rw [← place] at room
    have found := (TrapDispatcher.sharedRoom?_eq_some_iff mem).mpr ⟨least, room⟩
    have free := TrapDispatcher.sharedRoom?_eq_some found
    have inside := room_inside tidy mem free
    cases claims with
    | room found' =>
      cases found.symm.trans found'
      obtain ⟨rfl, logged⟩ := concludes.2 i (keeper?_share tidy free inside _)
      refine ⟨_, (toNat_add_of_lt inside).trans (by rw [place]), ?_⟩
      rw [UInt16.ofNat_add, UInt16.ofNat_toNat]
      exact logged.admits rfl (List.append_nil _).symm
    | overflow found' beyond =>
      cases found.symm.trans found'
      exact absurd beyond (Nat.not_le.mpr inside)
    | noRegister none | noWindow none | window none => cases found.symm.trans none
  case window =>
    intro full i base least answer
    have none := (TrapDispatcher.sharedRoom?_eq_none_iff mem).mpr full
    have unused := TrapDispatcher.unusedRegister?_eq_some_iff.mpr least
    cases claims with
    | room found | overflow found => cases none.symm.trans found
    | noRegister _ none => cases unused.symm.trans none
    | noWindow _ _ refused => cases answer.symm.trans refused
    | window _ unused' answer' =>
      cases unused.symm.trans unused'
      cases answer.symm.trans answer'
      obtain ⟨taken, kept⟩ := concludes
      have granted : before.allocations = .ok base :: after.allocations := by
        rw [taken]
        exact nextWindow_ok answer
      obtain ⟨rfl, logged⟩ := kept i (keeper?_window (grants base granted).2 _ _)
      rw [UInt16.ofNat_toNat]
      exact logged.admits (show _ = before.dispatcher.setEntry i _ from rfl)
        ((program_allocatorCalls _ _ _ _).trans before.asked_allocatorCalls)
  case noWindow =>
    intro full i reason unused refused
    have none := (TrapDispatcher.sharedRoom?_eq_none_iff mem).mpr full
    cases claims with
    | room found | overflow found => cases none.symm.trans found
    | noRegister _ used =>
      cases unused.symm.trans (TrapDispatcher.unusedRegister?_eq_none_iff.mp used i)
    | noWindow _ _ _ logged =>
      obtain ⟨rfl, rfl⟩ := concludes
      exact ⟨rfl, logged.dispatcher, logged.allocatorCalls_eq.trans before.asked_allocatorCalls⟩
    | window _ _ answer => cases refused.symm.trans answer
  case noRegister =>
    intro full used
    have none := (TrapDispatcher.sharedRoom?_eq_none_iff mem).mpr full
    have unused := TrapDispatcher.unusedRegister?_eq_none_iff.mpr used
    cases claims with
    | room found | overflow found => cases none.symm.trans found
    | noRegister _ _ logged =>
      obtain ⟨rfl, rfl⟩ := concludes
      exact logged.declines _ _
    | noWindow _ found | window _ found => cases unused.symm.trans found

end

end TrapSystem

theorem TrapEntry.Tidy.length_pos {entry : TrapEntry} (tidy : entry.Tidy)
    (used : entry.inUse = true) : 0 < entry.length.toNat := by
  cases alone : entry.isDedicated with
  | true =>
    obtain ⟨record, serves⟩ := tidy.dedicated alone
    have aligned := tidy.aligned record (by rw [serves.alone]; exact List.mem_singleton_self _)
    rw [serves.length_eq]
    exact trapLength_pos aligned.length_mem
  | false =>
    rw [(tidy.window used alone).length_eq]
    decide

theorem TrapEntry.Tidy.overlaps_iff {entry : TrapEntry} (tidy : entry.Tidy)
    {address length : UInt16} (pos : 0 < length.toNat) :
    entry.overlaps address length = true ↔ ∃ port, entry.Traps port ∧ address.toNat ≤ port ∧
      port < address.toNat + length.toNat := by
  rw [TrapEntry.overlaps_iff]
  constructor
  · rintro ⟨used, below, above⟩
    have := tidy.length_pos used
    exact ⟨max entry.base.toNat address.toNat, ⟨used, by omega, by omega⟩, by omega, by omega⟩
  · rintro ⟨port, ⟨used, low, high⟩, above, below⟩
    exact ⟨used, by omega, by omega⟩

/-- Below the end of the I/O space, no range ends beyond it that lies at a multiple of its length. -/
theorem aligned_iff {address length : UInt16} (hlength : length ∈ trapLengths) :
    address % length = 0 ∧ address.toNat + length.toNat ≤ UInt16.size ↔
      length.toNat ∣ address.toNat := by
  have low := address.toNat_lt
  have size : UInt16.size = 65536 := rfl
  rw [← UInt16.toNat_inj, UInt16.toNat_mod, Nat.dvd_iff_mod_eq_zero]
  constructor
  · exact fun h => h.1
  · intro h
    refine ⟨h, ?_⟩
    rcases trapLength_toNat hlength with he | he | he | he | he | he | he <;>
      rw [he] at h ⊢ <;> omega

theorem TrapDispatcher.Tidy.overlaps_eq_false {dispatcher : TrapDispatcher}
    (tidy : dispatcher.Tidy) {address length : UInt16} (pos : 0 < length.toNat)
    (clear : ∀ j port, (dispatcher.entry j).Traps port →
      ¬(address.toNat ≤ port ∧ port < address.toNat + length.toNat)) (j : Fin 4) :
    (dispatcher.entry j).overlaps address length = false := by
  rw [Bool.eq_false_iff, ne_eq, (tidy.entries j).overlaps_iff pos]
  rintro ⟨port, traps, inside⟩
  exact clear j port traps inside

namespace TrapSystem

theorem Registers.decides_dedicated {callback : TrapCallback} {request : TrapRequest}
    {before after : TrapSystem} {result : Except Fault (TrapHandle × UInt16)}
    (h : Registers callback request before result after) (tidy : before.dispatcher.Tidy)
    (unlocked : before.dispatcher.isLocked = false) (range : request.HasRange)
    (nonzero : request.address ≠ 0) :
    DecidesDedicated callback request (roundedTrapLength request.length).toNat before
      (.ofRegistration request.address result) after := by
  have mem := roundedTrapLength_mem request.length
  have pos := trapLength_pos mem
  obtain ⟨claim, claimed, claims, concludes⟩ :=
    h.concludes_dedicated unlocked range nonzero
  constructor
  case misaligned =>
    intro beside
    cases claims with
    | misaligned _ logged =>
      obtain ⟨rfl, rfl⟩ := concludes
      exact logged.declines _ _
    | taken aligned size | noRegister aligned size | dedicated aligned size =>
      exact absurd ((aligned_iff mem).mp ⟨aligned, size⟩) beside
  case taken =>
    intro i port traps above below
    cases claims with
    | misaligned _ logged | taken _ _ _ logged =>
      obtain ⟨rfl, rfl⟩ := concludes
      exact logged.declines _ _
    | noRegister _ _ clear | dedicated _ _ clear =>
      have overlaps := ((tidy.entries i).overlaps_iff pos).mpr ⟨port, traps, above, below⟩
      cases (clear i).symm.trans overlaps
  case register =>
    intro dvd clear i least
    have unused := TrapDispatcher.unusedRegister?_eq_some_iff.mpr least
    obtain ⟨aligned, size⟩ := (aligned_iff mem).mpr dvd
    cases claims with
    | misaligned bad => exact absurd bad (not_or.mpr ⟨not_not.mpr aligned, Nat.not_lt.mpr size⟩)
    | taken _ _ overlaps =>
      cases (tidy.overlaps_eq_false pos clear _).symm.trans overlaps
    | noRegister _ _ _ none => cases unused.symm.trans none
    | dedicated _ _ apart unused' =>
      cases unused.symm.trans unused'
      obtain ⟨rfl, logged⟩ := concludes.2 i (keeper?_dedicated apart _)
      rw [UInt16.ofNat_toNat]
      exact logged.admits rfl ((program_allocatorCalls _ _ _ _).trans (List.append_nil _).symm)
  case noRegister =>
    intro dvd clear used
    have unused := TrapDispatcher.unusedRegister?_eq_none_iff.mpr used
    obtain ⟨aligned, size⟩ := (aligned_iff mem).mpr dvd
    cases claims with
    | misaligned bad => exact absurd bad (not_or.mpr ⟨not_not.mpr aligned, Nat.not_lt.mpr size⟩)
    | taken _ _ overlaps =>
      cases (tidy.overlaps_eq_false pos clear _).symm.trans overlaps
    | noRegister _ _ _ _ logged =>
      obtain ⟨rfl, rfl⟩ := concludes
      exact logged.declines _ _
    | dedicated _ _ _ found => cases unused.symm.trans found

theorem Registers.decides {callback : TrapCallback} {request : TrapRequest}
    {before after : TrapSystem} {result : Except Fault (TrapHandle × UInt16)}
    (h : Registers callback request before result after) (tidy : before.dispatcher.Tidy)
    (grants : before.GrantsApart after) {size : Nat}
    (least : IsLeast {n : Nat | n.isPowerOfTwo ∧ max request.length.toNat 4 ≤ n} size) :
    Decides callback request size before (.ofRegistration request.address result) after := by
  have length (range : request.HasRange) : (roundedTrapLength request.length).toNat = size :=
    (roundedTrapLength_isLeast range.2).unique least
  constructor
  case locked =>
    intro locked
    cases h with
    | locked _ logged => exact logged.declines _ _
    | noRange unlocked | unclaimed unlocked | unkept unlocked | kept unlocked =>
      cases unlocked.symm.trans locked
  case noRange =>
    intro unlocked none
    cases h with
    | locked locked => cases unlocked.symm.trans locked
    | noRange _ _ logged => exact logged.declines _ _
    | unclaimed _ range | unkept _ range | kept _ range => exact absurd range none
  case noAddress =>
    intro unlocked range zero extended
    obtain ⟨claim, claimed, claims, concludes⟩ := h.concludes unlocked range
    cases claims with
    | noAddress _ _ logged =>
      obtain ⟨rfl, rfl⟩ := concludes
      exact logged.declines _ _
    | shared _ plain => cases plain.symm.trans extended
    | dedicated nonzero | refused nonzero => exact absurd zero nonzero
  case shared =>
    intro unlocked range zero plain
    rw [← length range]
    exact h.decides_shared tidy grants unlocked range zero plain
  case dedicated =>
    intro unlocked range nonzero
    rw [← length range]
    exact h.decides_dedicated tidy unlocked range nonzero

end TrapSystem

end PlatformFirmware
