import Mathlib.Algebra.Group.Nat.Defs
import PlatformFirmware.Proofs.BitFieldTiling

namespace PlatformFirmware

/-- A record that is nothing but its fields, each of which is read and set on its own. -/
structure FieldRecord {Record Field : Type} {Value : Field → Type}
    (get : Record → (field : Field) → Value field)
    (put : Record → (field : Field) → Value field → Record) : Prop where
  get_put : ∀ record field value, get (put record field value) field = value
  get_put_other : ∀ {field other}, field ≠ other → ∀ record value,
    get (put record field value) other = get record other
  eq_of_get : ∀ {first second}, (∀ field, get first field = get second field) → first = second

namespace FieldRecord

variable {Record Field : Type} {Value : Field → Type}
  {get : Record → (field : Field) → Value field}
  {put : Record → (field : Field) → Value field → Record}

theorem put_comm (laws : FieldRecord get put) {field other : Field} (h : field ≠ other)
    (record : Record) (first : Value field) (second : Value other) :
    put (put record field first) other second = put (put record other second) field first := by
  apply laws.eq_of_get
  intro third
  by_cases here : field = third
  · subst here
    rw [laws.get_put_other h.symm, laws.get_put, laws.get_put]
  · rw [laws.get_put_other here]
    by_cases there : other = third
    · subst there
      rw [laws.get_put, laws.get_put]
    · rw [laws.get_put_other there, laws.get_put_other there, laws.get_put_other here]

/-- Copying fields of another record never undoes a field that is copied already. -/
theorem get_foldl_put_of_eq (laws : FieldRecord get put) {original start : Record} {field : Field}
    (same : get start field = get original field) (order : List Field) :
    get (order.foldl (fun record field => put record field (get original field)) start) field =
      get original field := by
  induction order generalizing start with
  | nil => exact same
  | cons first order ih =>
    apply ih
    by_cases here : first = field
    · subst here
      exact laws.get_put _ _ _
    · rw [laws.get_put_other here]
      exact same

theorem get_foldl_put (laws : FieldRecord get put) (original start : Record) {field : Field}
    {order : List Field} (mem : field ∈ order) :
    get (order.foldl (fun record field => put record field (get original field)) start) field =
      get original field := by
  induction order generalizing start with
  | nil => cases mem
  | cons first order ih =>
    rcases List.mem_cons.mp mem with rfl | mem
    -- The field may be listed again, so the rest of the list is not known to leave it alone.
    · exact laws.get_foldl_put_of_eq (laws.get_put _ _ _) order
    · exact ih _ mem

/-- Copying all fields copies the record, in whatever order they are copied. -/
theorem foldl_put (laws : FieldRecord get put) (original start : Record) {order : List Field}
    (complete : ∀ field, field ∈ order) :
    order.foldl (fun record field => put record field (get original field)) start = original :=
  laws.eq_of_get fun field => laws.get_foldl_put original start (complete field)

end FieldRecord

/-- A record kept in a word of `w` bits is the same as its fields, packed in the given order: they
cover the word, and each can be read, set and copied on its own. A setter takes a number, and has no
result if the number does not fit the field. -/
structure Lossless {Record Field : Type} {w : Nat} (order : List Field) (span : Field → BitField)
    (word : Record → BitVec w) (get : Record → (field : Field) → BitVec (span field).width)
    (put? : Record → Field → Nat → Option Record) : Prop where
  packed : BitField.Packed 0 (order.map span) w
  covers : ∀ k < w, ∃! field, (span field).Holds k
  reads : ∀ record field k, (get record field).getLsbD k =
    (decide (k < (span field).width) && (word record).getLsbD ((span field).start + k))
  rebuilds : ∀ original start, ∀ fields : List Field, (∀ field, field ∈ fields) →
    fields.foldlM (fun record field => put? record field (get original field).toNat) start =
      some original
  sets : ∀ record field value, value < 2 ^ (span field).width →
    ∃ next, put? record field value = some next ∧ (get next field).toNat = value ∧
      (∀ other, other ≠ field → get next other = get record other) ∧
      ∀ k, ¬(span field).Holds k → (word next).getLsbD k = (word record).getLsbD k
  commutes : ∀ record field other, field ≠ other → ∀ first second,
    (put? record field first).bind (fun next => put? next other second) =
      (put? record other second).bind (fun next => put? next field first)

namespace BitField

theorem fit?_of_lt {field : BitField} {value : Nat} (h : value < 2 ^ field.width) :
    ∃ kept : BitVec field.width, kept.toNat = value ∧ field.fit? value = some kept := by
  have same : (BitVec.ofNat field.width value).toNat = value := by
    rw [BitVec.toNat_ofNat, Nat.mod_eq_of_lt h]
  exact ⟨_, same, if_pos same⟩

namespace Tiles

variable {Record Field : Type} {w : Nat} {order : List Field} {span : Field → BitField}
  {word : Record → BitVec w} {get : Record → (field : Field) → BitVec (span field).width}
  {put : Record → (field : Field) → BitVec (span field).width → Record}

theorem fieldRecord (tiles : Tiles span order w) (injective : ∀ {a b}, word a = word b → a = b)
    (reads : ∀ record field, get record field = (span field).get (word record))
    (writes : ∀ record field value,
      word (put record field value) = (span field).put (word record) value) :
    FieldRecord get put where
  get_put record field value := by
    rw [reads, writes]
    exact BitField.get_put _ _ _ (tiles.within field)
  get_put_other different record value := by
    rw [reads, reads, writes]
    exact BitField.get_put_other _ _ (tiles.apart different)
  eq_of_get same := injective (tiles.eq_of_get fun field => by
    rw [← reads, ← reads]
    exact same field)

theorem lossless (tiles : Tiles span order w) (laws : FieldRecord get put)
    (reads : ∀ record field, get record field = (span field).get (word record))
    (writes : ∀ record field value,
      word (put record field value) = (span field).put (word record) value) :
    Lossless order span word get
      (fun record field value => ((span field).fit? value).map (put record field)) := by
  refine ⟨tiles.packed, fun k inside => tiles.existsUnique_holds inside, ?_, ?_, ?_, ?_⟩
  · intro record field k
    rw [reads]
    exact getLsbD_get _ _ k
  · intro original start fields complete
    simp only [fit?_toNat, Option.map_some]
    exact List.foldlM_pure.trans (congrArg some (laws.foldl_put original start complete))
  · intro record field value small
    obtain ⟨kept, rfl, fits⟩ := fit?_of_lt small
    refine ⟨put record field kept, by rw [fits]; rfl, by rw [laws.get_put],
      fun other different => laws.get_put_other different.symm record kept, fun k outside => ?_⟩
    rw [writes, getLsbD_put]
    exact if_neg fun inside => outside ⟨inside.1, inside.2.1⟩
  · intro record field other different first second
    cases (span field).fit? first with
    | none => cases (span other).fit? second <;> rfl
    | some kept =>
      cases (span other).fit? second with
      | none => rfl
      | some kept' => exact congrArg some (laws.put_comm different record kept kept')

end Tiles

end BitField

end PlatformFirmware
