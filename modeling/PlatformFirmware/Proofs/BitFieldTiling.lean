import Mathlib.Data.List.Pairwise
import PlatformFirmware.Proofs.BitFieldUpdate

namespace PlatformFirmware

namespace BitField

/-- A bit of a word belongs to the field. -/
def Holds (field : BitField) (k : Nat) : Prop :=
  field.start ≤ k ∧ k < field.start + field.width

/-- One of two fields ends before the other begins. -/
def Apart (field other : BitField) : Prop :=
  field.start + field.width ≤ other.start ∨ other.start + other.width ≤ field.start

/-- Fields that follow each other without a gap, the first from bit `start` upwards and the last up
to bit `stop`. -/
def Packed : Nat → List BitField → Nat → Prop
  | start, [], stop => start = stop
  | start, field :: fields, stop =>
    field.start = start ∧ Packed (start + field.width) fields stop

instance decidablePacked : (start : Nat) → (fields : List BitField) → (stop : Nat) →
    Decidable (Packed start fields stop)
  | start, [], stop => inferInstanceAs (Decidable (start = stop))
  | start, field :: fields, stop =>
    have := decidablePacked (start + field.width) fields stop
    inferInstanceAs (Decidable (_ ∧ _))

instance : Std.Symm Apart :=
  ⟨fun _ _ => Or.symm⟩

theorem Apart.not_holds {field other : BitField} (h : Apart field other) {k : Nat}
    (inside : field.Holds k) : ¬other.Holds k := by
  unfold Apart Holds at *
  omega

theorem Packed.le {start stop : Nat} {fields : List BitField} (h : Packed start fields stop) :
    start ≤ stop := by
  induction fields generalizing start with
  | nil => exact Nat.le_of_eq h
  | cons field fields ih => exact Nat.le_trans (Nat.le_add_right _ _) (ih h.2)

theorem Packed.within {start stop : Nat} {fields : List BitField} (h : Packed start fields stop)
    {field : BitField} (mem : field ∈ fields) :
    start ≤ field.start ∧ field.start + field.width ≤ stop := by
  induction fields generalizing start with
  | nil => cases mem
  | cons first fields ih =>
    obtain ⟨here, rest⟩ := h
    rcases List.mem_cons.mp mem with rfl | mem
    · have := rest.le
      omega
    · have := ih rest mem
      omega

theorem Packed.pairwise {start stop : Nat} {fields : List BitField}
    (h : Packed start fields stop) : fields.Pairwise Apart := by
  induction fields generalizing start with
  | nil => exact .nil
  | cons first fields ih =>
    obtain ⟨here, rest⟩ := h
    refine .cons (fun field mem => .inl ?_) (ih rest)
    have := rest.within mem
    omega

theorem Packed.covers {start stop k : Nat} {fields : List BitField}
    (h : Packed start fields stop) (above : start ≤ k) (below : k < stop) :
    ∃ field ∈ fields, field.Holds k := by
  induction fields generalizing start with
  | nil =>
    have : start = stop := h
    omega
  | cons first fields ih =>
    obtain ⟨here, rest⟩ := h
    by_cases inside : k < start + first.width
    · exact ⟨first, List.mem_cons_self, by omega, by omega⟩
    · obtain ⟨field, mem, holds⟩ := ih rest (Nat.le_of_not_lt inside)
      exact ⟨field, List.mem_cons_of_mem _ mem, holds⟩

/-- The fields of a record, in the order in which they are packed, fill a word of `w` bits. -/
structure Tiles {Field : Type} (span : Field → BitField) (order : List Field) (w : Nat) :
    Prop where
  complete : ∀ field, field ∈ order
  packed : Packed 0 (order.map span) w

namespace Tiles

variable {Field : Type} {span : Field → BitField} {order : List Field} {w : Nat}

theorem within (tiles : Tiles span order w) (field : Field) :
    (span field).start + (span field).width ≤ w :=
  (tiles.packed.within (List.mem_map_of_mem (tiles.complete field))).2

theorem apart (tiles : Tiles span order w) {field other : Field} (h : field ≠ other) :
    Apart (span field) (span other) := by
  have pairwise := List.pairwise_map.mp tiles.packed.pairwise
  have : Std.Symm fun field other => Apart (span field) (span other) := ⟨fun _ _ => Or.symm⟩
  exact pairwise.forall (tiles.complete field) (tiles.complete other) h

theorem existsUnique_holds (tiles : Tiles span order w) {k : Nat} (inside : k < w) :
    ∃! field, (span field).Holds k := by
  obtain ⟨_, mem, holds⟩ := tiles.packed.covers (Nat.zero_le k) inside
  obtain ⟨field, -, rfl⟩ := List.mem_map.mp mem
  refine ⟨field, holds, fun other also => ?_⟩
  by_contra different
  exact (tiles.apart different).not_holds also holds

/-- A word is nothing but its fields. -/
theorem eq_of_get (tiles : Tiles span order w) {first second : BitVec w}
    (same : ∀ field, (span field).get first = (span field).get second) : first = second := by
  apply BitVec.eq_of_getLsbD_eq
  intro k inside
  obtain ⟨field, holds, -⟩ := tiles.existsUnique_holds inside
  have bit := congrArg (fun value => value.getLsbD (k - (span field).start)) (same field)
  have place : (span field).start + (k - (span field).start) = k := by
    have := holds.1
    omega
  have width : k - (span field).start < (span field).width := by
    have := holds.2
    omega
  simpa only [getLsbD_get, place, width, decide_true, Bool.true_and] using bit

end Tiles

end BitField

end PlatformFirmware
