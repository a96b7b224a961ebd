import Mathlib.Data.List.FinRange
import Mathlib.Order.Bounds.Basic
import PlatformFirmware.Proofs.TrapRange
import PlatformFirmware.Proofs.TrapTable

namespace PlatformFirmware

/-- What is found first in a sorted list is the least that passes the test. -/
theorem find?_first {α : Type} {le : α → α → Prop} (refl : ∀ value, le value value)
    {test : α → Bool} {xs : List α} {first other : α} (sorted : xs.Pairwise le)
    (found : xs.find? test = some first) (mem : other ∈ xs) (passes : test other = true) :
    le first other := by
  obtain ⟨_, front, back, rfl, failed⟩ := List.find?_eq_some_iff_append.mp found
  rcases List.mem_append.mp mem with before | here
  · have fails := failed other before
    rw [passes] at fails
    cases fails
  · rcases List.mem_cons.mp here with rfl | behind
    · exact refl other
    · exact (List.pairwise_cons.mp (List.pairwise_append.mp sorted).2.1).1 other behind

theorem roundUp_isLeast {unit : Nat} (pos : 0 < unit) (n : Nat) :
    IsLeast {m | n ≤ m ∧ unit ∣ m} (roundUp n unit) := by
  refine ⟨⟨le_roundUp pos, Nat.dvd_of_mod_eq_zero (roundUp_mod n unit)⟩, ?_⟩
  rintro m ⟨above, k, rfl⟩
  -- A smaller multiple would be less than `n`.
  have quotient : (n + (unit - 1)) / unit ≤ k := by
    rw [Nat.div_le_iff_le_mul_add_pred pos]
    omega
  rw [roundUp, Nat.mul_comm]
  exact Nat.mul_le_mul_left unit quotient

theorem exists_trapLength {n : Nat} (power : n.isPowerOfTwo) (least : 4 ≤ n) (most : n ≤ 256) :
    ∃ covered ∈ trapLengths, covered.toNat = n := by
  obtain ⟨k, rfl⟩ := power
  have low : 2 ≤ k := (Nat.pow_le_pow_iff_right Nat.one_lt_two).mp (least : 2 ^ 2 ≤ 2 ^ k)
  have high : k ≤ 8 := (Nat.pow_le_pow_iff_right Nat.one_lt_two).mp (most : 2 ^ k ≤ 2 ^ 8)
  have cases : k = 2 ∨ k = 3 ∨ k = 4 ∨ k = 5 ∨ k = 6 ∨ k = 7 ∨ k = 8 := by omega
  rcases cases with rfl | rfl | rfl | rfl | rfl | rfl | rfl
  · exact ⟨4, by decide, rfl⟩
  · exact ⟨8, by decide, rfl⟩
  · exact ⟨16, by decide, rfl⟩
  · exact ⟨32, by decide, rfl⟩
  · exact ⟨64, by decide, rfl⟩
  · exact ⟨128, by decide, rfl⟩
  · exact ⟨256, by decide, rfl⟩

theorem roundedTrapLength_le {length covered : UInt16} (mem : covered ∈ trapLengths)
    (reaches : length ≤ covered) : roundedTrapLength length ≤ covered := by
  unfold roundedTrapLength
  cases found : trapLengths.find? fun covered => length ≤ covered with
  | none => exact absurd (decide_eq_true reaches) (List.find?_eq_none.mp found covered mem)
  | some first =>
    have sorted : trapLengths.Pairwise (· ≤ ·) := by decide
    exact find?_first UInt16.le_refl sorted found mem (decide_eq_true reaches)

/-- Up to the longest range, the length that a register covers is the least power of two that
reaches the length asked for, and at least 4. -/
theorem roundedTrapLength_isLeast {length : UInt16} (small : length ≤ maximumTrapLength) :
    IsLeast {n : Nat | n.isPowerOfTwo ∧ max length.toNat 4 ≤ n}
      (roundedTrapLength length).toNat := by
  have mem := roundedTrapLength_mem length
  have range := trapLength_toNat mem
  have reaches : length ≤ roundedTrapLength length := by
    unfold roundedTrapLength
    cases found : trapLengths.find? fun covered => length ≤ covered with
    | none => exact small
    | some covered =>
      have fits := List.find?_some found
      exact of_decide_eq_true fits
  have reaches := UInt16.le_iff_toNat_le.mp reaches
  refine ⟨⟨trapLength_isPowerOfTwo mem, by omega⟩, ?_⟩
  rintro n ⟨power, above⟩
  by_cases most : n ≤ 256
  · obtain ⟨covered, known, rfl⟩ := exists_trapLength power (by omega) most
    have enough : length ≤ covered := UInt16.le_iff_toNat_le.mpr (by omega)
    exact UInt16.le_iff_toNat_le.mp (roundedTrapLength_le known enough)
  · omega

/-- A shared window has room for `size` bytes at an offset: the next multiple of `size` behind the
bytes that are handed out. -/
structure TrapEntry.HasRoom (entry : TrapEntry) (size offset : Nat) : Prop where
  used : entry.inUse = true
  shared : entry.isDedicated = false
  next : IsLeast {n | entry.usedLength.toNat ≤ n ∧ size ∣ n} offset
  fits : offset + size ≤ 0x100

theorem TrapEntry.HasRoom.toNat_ofNat {entry : TrapEntry} {size offset : Nat}
    (room : entry.HasRoom size offset) : (UInt16.ofNat offset).toNat = offset := by
  have fits := room.fits
  exact UInt16.toNat_ofNat_of_lt' (by change offset < 65536; omega)

theorem TrapEntry.freeOffset?_eq_some_iff {entry : TrapEntry} {length offset : UInt16}
    (hlength : length ∈ trapLengths) :
    entry.freeOffset? length = some offset ↔ entry.HasRoom length.toNat offset.toNat := by
  have next := roundUp_isLeast (trapLength_pos hlength) entry.usedLength.toNat
  simp only [freeOffset?, Option.ite_none_right_eq_some, Bool.and_eq_true, Bool.not_eq_true',
    decide_eq_true_eq, Option.some.injEq]
  rw [mergedTrapLength_toNat]
  constructor
  · rintro ⟨⟨⟨used, shared⟩, fits⟩, rfl⟩
    have room : entry.HasRoom length.toNat (roundUp entry.usedLength.toNat length.toNat) :=
      ⟨used, shared, next, fits⟩
    rw [room.toNat_ofNat]
    exact room
  · intro room
    rw [next.unique room.next]
    exact ⟨⟨⟨room.used, room.shared⟩, room.fits⟩, UInt16.ofNat_toNat⟩

namespace TrapDispatcher

variable {dispatcher : TrapDispatcher}

theorem findRegister?_eq_some_iff {test : TrapEntry → Bool} {i : Fin 4} :
    dispatcher.findRegister? test = some i ↔
      IsLeast {j | test (dispatcher.entry j) = true} i := by
  have sorted := (List.pairwise_lt_finRange 4).imp le_of_lt
  constructor
  · intro found
    exact ⟨findRegister?_eq_some found, fun j passes =>
      find?_first le_refl sorted found (List.mem_finRange j) passes⟩
  · rintro ⟨passes, least⟩
    cases found : dispatcher.findRegister? test with
    | none => exact absurd passes (List.find?_eq_none.mp found i (List.mem_finRange i))
    | some j =>
      have below : j ≤ i := find?_first le_refl sorted found (List.mem_finRange i) passes
      have above : i ≤ j := least (findRegister?_eq_some found)
      rw [le_antisymm below above]

theorem unusedRegister?_eq_some_iff {i : Fin 4} :
    dispatcher.unusedRegister? = some i ↔
      IsLeast {j | (dispatcher.entry j).inUse = false} i := by
  simp only [unusedRegister?, findRegister?_eq_some_iff, Bool.not_eq_true']

theorem unusedRegister?_eq_none_iff :
    dispatcher.unusedRegister? = none ↔ ∀ i, (dispatcher.entry i).inUse = true := by
  simp [unusedRegister?, findRegister?, List.find?_eq_none]

theorem sharedRoom?_eq_none_iff {length : UInt16} (hlength : length ∈ trapLengths) :
    dispatcher.sharedRoom? length = none ↔
      ∀ i offset, ¬(dispatcher.entry i).HasRoom length.toNat offset := by
  rw [sharedRoom?, List.findSome?_eq_none_iff]
  constructor
  · intro none i offset room
    have free := Option.map_eq_none_iff.mp (none i (List.mem_finRange i))
    rw [← room.toNat_ofNat] at room
    have found := (TrapEntry.freeOffset?_eq_some_iff hlength).mpr room
    cases free.symm.trans found
  · intro none i _
    cases free : (dispatcher.entry i).freeOffset? length with
    | none => rfl
    | some offset =>
      exact absurd ((TrapEntry.freeOffset?_eq_some_iff hlength).mp free) (none i _)

theorem sharedRoom?_le {length offset : UInt16} {i j : Fin 4}
    (found : dispatcher.sharedRoom? length = some (i, offset))
    (free : (dispatcher.entry j).freeOffset? length ≠ none) : i ≤ j := by
  obtain ⟨front, k, back, split, here, failed⟩ := List.findSome?_eq_some_iff.mp found
  obtain ⟨_, -, same⟩ := Option.map_eq_some_iff.mp here
  cases same
  have sorted := List.pairwise_lt_finRange 4
  have mem := List.mem_finRange j
  rw [split] at sorted mem
  rcases List.mem_append.mp mem with before | behind
  · exact absurd (Option.map_eq_none_iff.mp (failed j before)) free
  · rcases List.mem_cons.mp behind with rfl | behind
    · exact le_refl _
    · have after := (List.pairwise_append.mp sorted).2.1
      exact le_of_lt ((List.pairwise_cons.mp after).1 j behind)

theorem sharedRoom?_eq_some_iff {length offset : UInt16} (hlength : length ∈ trapLengths)
    {i : Fin 4} :
    dispatcher.sharedRoom? length = some (i, offset) ↔
      IsLeast {j | ∃ offset, (dispatcher.entry j).HasRoom length.toNat offset} i ∧
        (dispatcher.entry i).HasRoom length.toNat offset.toNat := by
  constructor
  · intro found
    have room := (TrapEntry.freeOffset?_eq_some_iff hlength).mp (sharedRoom?_eq_some found)
    refine ⟨⟨⟨_, room⟩, ?_⟩, room⟩
    rintro j ⟨other, roomy⟩
    rw [← roomy.toNat_ofNat] at roomy
    refine sharedRoom?_le found ?_
    rw [(TrapEntry.freeOffset?_eq_some_iff hlength).mpr roomy]
    exact Option.some_ne_none _
  · rintro ⟨⟨-, least⟩, room⟩
    have free := (TrapEntry.freeOffset?_eq_some_iff hlength).mpr room
    cases found : dispatcher.sharedRoom? length with
    | none => exact absurd room ((sharedRoom?_eq_none_iff hlength).mp found i _)
    | some place =>
      obtain ⟨j, other⟩ := place
      have roomy := (TrapEntry.freeOffset?_eq_some_iff hlength).mp (sharedRoom?_eq_some found)
      have below : j ≤ i := sharedRoom?_le found (by rw [free]; exact Option.some_ne_none _)
      obtain rfl := le_antisymm below (least ⟨_, roomy⟩)
      cases (sharedRoom?_eq_some found).symm.trans free
      rfl

end TrapDispatcher

end PlatformFirmware
