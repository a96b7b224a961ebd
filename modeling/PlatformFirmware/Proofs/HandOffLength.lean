import Mathlib.Order.Bounds.Basic
import PlatformFirmware.HandOffBlock

namespace PlatformFirmware

namespace GuidBlock

/-- A block with its data has a number of bytes that a word of 64 bits holds, but the next multiple
of 8 is one too many for the word. -/
def RoundsOver (size : UInt64) : Prop :=
  UInt64.size - 8 < headerLength + size.toNat ∧ headerLength + size.toNat < UInt64.size

theorem roundUp_of_isLeast {n length : Nat} (least : IsLeast {m | n ≤ m ∧ 8 ∣ m} length) :
    roundUp n 8 = length := by
  obtain ⟨⟨above, k, rfl⟩, least⟩ := least
  have up : roundUp n 8 ∈ {m | n ≤ m ∧ 8 ∣ m} := by
    constructor <;> unfold roundUp <;> omega
  have below := least up
  unfold roundUp at *
  omega

theorem build_of_roundsOver {size : UInt64} (rounds : RoundsOver size) (name : Guid)
    (log : List LogRecord) :
    build name size log = (.error (.halted .arithmeticOverflow), log) := by
  obtain ⟨above, below⟩ := rounds
  have reached : UInt64.size ≤ roundUp (headerLength + size.toNat) 8 := by
    unfold roundUp UInt64.size at *
    omega
  simp only [build, if_pos (And.intro below reached)]
  rfl

theorem build_of_fits {size : UInt64} (fits : roundUp (headerLength + size.toNat) 8 < UInt16.size)
    (name : Guid) (log : List LogRecord) :
    build name size log =
      (.ok ⟨⟨4, UInt16.ofNat (roundUp (headerLength + size.toNat) 8), 0⟩, name⟩, log) := by
  have small : ¬UInt64.size ≤ roundUp (headerLength + size.toNat) 8 := by
    unfold UInt16.size UInt64.size at *
    omega
  simp only [build, if_neg (not_and_of_not_right _ small), if_pos fits]
  rfl

theorem build_of_tooLong {size : UInt64}
    (long : UInt16.size ≤ roundUp (headerLength + size.toNat) 8) (held : ¬RoundsOver size)
    (name : Guid) (log : List LogRecord) :
    build name size log = (.error (.refused .badBufferSize), log ++ [⟨.error, "hob",
      "GUID HOB data of " ++ toString size.toNat ++ " bytes does not fit in a HOB."⟩]) := by
  have kept : ¬(headerLength + size.toNat < UInt64.size ∧
      UInt64.size ≤ roundUp (headerLength + size.toNat) 8) := by
    rintro ⟨below, reached⟩
    refine held ⟨?_, below⟩
    unfold roundUp UInt64.size at *
    omega
  simp only [build, if_neg kept, if_neg (Nat.not_lt.mpr long)]
  rfl

/-- A block is described if its length, the least multiple of 8 for its header and its data, fits
16 bits. Otherwise the data is refused, except that for the seven sizes at which rounding up leaves
the word, nothing is answered at all. -/
theorem described_or_refused (name : Guid) (size : UInt64) (log : List LogRecord) {length : Nat}
    (least : IsLeast {n | 24 + size.toNat ≤ n ∧ 8 ∣ n} length) :
    let answer := (build name size log).1
    (length ≤ 0xFFFF → ∃ block, answer = .ok block ∧ block.header.kind = 4 ∧
      block.header.length.toNat = length ∧ block.header.reserved = 0 ∧ block.name = name) ∧
    (0xFFFF < length → (answer = .error (.refused .badBufferSize) ↔ ¬RoundsOver size) ∧
      (answer = .error (.halted .arithmeticOverflow) ↔ RoundsOver size)) := by
  intro answer
  have rounded : roundUp (headerLength + size.toNat) 8 = length := roundUp_of_isLeast least
  refine ⟨fun short => ?_, fun long => ?_⟩
  · have fits : roundUp (headerLength + size.toNat) 8 < UInt16.size := by
      rw [rounded]
      exact Nat.lt_succ_of_le short
    have built := congrArg Prod.fst (build_of_fits fits name log)
    refine ⟨_, built, rfl, ?_, rfl, rfl⟩
    rw [← rounded]
    exact UInt16.toNat_ofNat_of_lt' fits
  · by_cases rounds : RoundsOver size
    · have built : answer = _ := congrArg Prod.fst (build_of_roundsOver rounds name log)
      rw [built]
      exact ⟨iff_of_false nofun (not_not_intro rounds), iff_of_true rfl rounds⟩
    · have tooLong : UInt16.size ≤ roundUp (headerLength + size.toNat) 8 := by
        rw [rounded]
        exact long
      have built : answer = _ := congrArg Prod.fst (build_of_tooLong tooLong rounds name log)
      rw [built]
      exact ⟨iff_of_true rfl rounds, iff_of_false nofun rounds⟩

/-- The longest block that can be described has all of its length filled. -/
theorem described_or_refused_longest :
    ∃ block, (build ⟨0, 0, 0, 0, 0⟩ 0xFFE0 []).1 = .ok block ∧
      block.header.length.toNat = 0xFFF8 := by
  have least : IsLeast {n | 24 + (0xFFE0 : UInt64).toNat ≤ n ∧ 8 ∣ n} 0xFFF8 :=
    ⟨⟨by decide, by decide⟩, fun _ above => above.1⟩
  obtain ⟨block, built, _, length, _⟩ :=
    (described_or_refused ⟨0, 0, 0, 0, 0⟩ 0xFFE0 [] least).1 (by decide)
  exact ⟨block, built, length⟩

/-- No block holds so much data, and still it is not refused: the sum fits the word, but rounding
it up does not. -/
theorem halts_when_rounded_over :
    IsLeast {n | 24 + (0xFFFFFFFFFFFFFFE7 : UInt64).toNat ≤ n ∧ 8 ∣ n} UInt64.size ∧
      (build ⟨0, 0, 0, 0, 0⟩ 0xFFFFFFFFFFFFFFE7 []).1 = .error (.halted .arithmeticOverflow) := by
  refine ⟨⟨⟨by decide, by decide⟩, ?_⟩, ?_⟩
  · rintro n ⟨above, k, rfl⟩
    have above : UInt64.size - 1 ≤ 8 * k := above
    unfold UInt64.size at *
    omega
  · exact congrArg Prod.fst (build_of_roundsOver ⟨by decide, by decide⟩ _ _)

end GuidBlock

end PlatformFirmware
