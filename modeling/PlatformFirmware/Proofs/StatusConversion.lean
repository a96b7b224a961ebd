import PlatformFirmware.EfiStatus

namespace PlatformFirmware

namespace EfiError

/-- An error of its own name, not a status kept as it came. -/
def IsNamed (error : EfiError) : Prop :=
  ∀ status, error ≠ unknown status

/-- A status kept as it came although it has a name. -/
def IsAlias (error : EfiError) : Prop :=
  ∃ known : EfiError, known.IsNamed ∧ error = unknown known.toStatus

theorem isNamed_or_unknown (error : EfiError) :
    error.IsNamed ∨ ∃ status, error = unknown status := by
  cases error with
  | unknown status => exact .inr ⟨status, rfl⟩
  | _ => exact .inl nofun

theorem mem_named_iff {error : EfiError} : error ∈ named ↔ error.IsNamed := by
  constructor
  · intro listed status same
    subst same
    simp [named] at listed
  · intro h
    cases error with
    | unknown status => exact absurd rfl (h status)
    | _ => decide

instance : DecidablePred IsNamed :=
  fun _ => decidable_of_iff _ mem_named_iff

theorem isAlias_iff {error : EfiError} :
    error.IsAlias ↔ ∃ known ∈ named, error = unknown known.toStatus := by
  simp only [IsAlias, mem_named_iff]

instance : DecidablePred IsAlias :=
  fun _ => decidable_of_iff _ isAlias_iff.symm

/-- The rows are the named errors, each at the status that it is turned into. -/
theorem statusRows_lookup_iff {status : UInt64} {error : EfiError} :
    statusRows.lookup status = some error ↔ error.IsNamed ∧ error.toStatus = status := by
  constructor
  · intro found
    obtain ⟨front, back, split, -⟩ := List.lookup_eq_some_iff.mp found
    have row : (status, error) ∈ statusRows :=
      split ▸ List.mem_append_right front List.mem_cons_self
    have right : ∀ row ∈ statusRows, row.2 ∈ named ∧ row.2.toStatus = row.1 := by decide
    exact ⟨mem_named_iff.mp (right _ row).1, (right _ row).2⟩
  · rintro ⟨h, rfl⟩
    have complete : ∀ known ∈ named, statusRows.lookup known.toStatus = some known := by decide
    exact complete error (mem_named_iff.mpr h)

theorem toStatus_ne_success {error : EfiError} (h : error.IsNamed) :
    error.toStatus ≠ successStatus := by
  have apart : ∀ known ∈ named, known.toStatus ≠ successStatus := by decide
  exact apart error (mem_named_iff.mpr h)

theorem ofStatus_eq (status : UInt64) :
    ofStatus status = (statusRows.lookup status).getD (unknown status) := by
  unfold ofStatus statusResult
  split
  next done =>
    split at done
    next success =>
      rw [success]
      rfl
    next => cases done
  next failed =>
    split at failed
    next => cases failed
    next => exact (Except.error.inj failed).symm

theorem toStatus_ofStatus (status : UInt64) : (ofStatus status).toStatus = status := by
  rw [ofStatus_eq]
  cases found : statusRows.lookup status with
  | none => rfl
  | some error => exact (statusRows_lookup_iff.mp found).2

theorem ofStatus_of_isNamed {error : EfiError} (h : error.IsNamed) :
    ofStatus error.toStatus = error := by
  rw [ofStatus_eq, statusRows_lookup_iff.mpr ⟨h, rfl⟩, Option.getD_some]

theorem ofStatus_of_not_alias {error : EfiError} (h : ¬error.IsAlias) :
    ofStatus error.toStatus = error := by
  rcases error.isNamed_or_unknown with own | ⟨status, rfl⟩
  · exact ofStatus_of_isNamed own
  · rw [ofStatus_eq]
    cases found : statusRows.lookup (unknown status).toStatus with
    | none => rfl
    | some known =>
      -- A status that is in the rows has a name, which an error that is no alias cannot hide.
      obtain ⟨own, same⟩ := statusRows_lookup_iff.mp found
      exact absurd ⟨known, own, congrArg unknown same.symm⟩ h

end EfiError

theorem statusResult_eq_ok_iff {status : UInt64} :
    statusResult status = .ok () ↔ status = successStatus := by
  unfold statusResult
  split
  next success => exact ⟨fun _ => success, fun _ => rfl⟩
  next failed => exact ⟨nofun, fun success => absurd success failed⟩

theorem statusResult_of_ne {status : UInt64} (h : status ≠ successStatus) :
    statusResult status = .error (.ofStatus status) := by
  rw [EfiError.ofStatus_eq, statusResult, if_neg h]

/-- Statuses and errors stand for each other. A status is found again behind the error made of it,
whatever the status; an error is found again behind its status, unless it hides a status that has a
name, and then it is that name that is found. -/
theorem EfiError.status_conversion_lossless :
    (named.Nodup ∧ named.length = 18 ∧ ∀ error, error ∈ named ↔ error.IsNamed) ∧
    (∀ status, (ofStatus status).toStatus = status ∧
      (statusResult status = .ok () ↔ status = successStatus) ∧
      (status ≠ successStatus → statusResult status = .error (ofStatus status))) ∧
    (∀ error : EfiError, ¬error.IsAlias → ofStatus error.toStatus = error) ∧
    (∀ known : EfiError, known.IsNamed → ofStatus (unknown known.toStatus).toStatus = known) ∧
    (∀ error other : EfiError, ¬error.IsAlias → ¬other.IsAlias →
      (error = other ↔ error.toStatus = other.toStatus)) ∧
    ∀ known : EfiError, known.IsNamed → known.toStatus ≠ successStatus := by
  refine ⟨⟨by decide, by decide, fun error => mem_named_iff⟩, fun status => ?_,
    fun error plain => ofStatus_of_not_alias plain, fun known own => ?_,
    fun error other plain plain' => ⟨fun same => same ▸ rfl, fun same => ?_⟩,
    fun known own => toStatus_ne_success own⟩
  · exact ⟨toStatus_ofStatus status, statusResult_eq_ok_iff, statusResult_of_ne⟩
  · exact ofStatus_of_isNamed own
  · rw [← ofStatus_of_not_alias plain, same, ofStatus_of_not_alias plain']

/-- A warning is kept as it came. The status of a missing item is read as that error, also when it
was kept as it came, and then it is an alias. -/
theorem EfiError.status_conversion_lossless_alias :
    let warning : UInt64 := 4
    let hidden := unknown 0x800000000000000E
    (warning ≠ successStatus ∧ statusResult warning = .error (.ofStatus warning)) ∧
      (¬(unknown warning).IsAlias ∧ ofStatus (unknown warning).toStatus = unknown warning) ∧
      (hidden.IsAlias ∧ notFound.IsNamed ∧ ofStatus hidden.toStatus = notFound) ∧
      (¬notFound.IsAlias ∧ (notFound = unknown warning ↔ notFound.toStatus = warning)) ∧
      notFound.toStatus ≠ successStatus := by
  intro warning hidden
  obtain ⟨-, status, plain, hides, equal, failed⟩ := status_conversion_lossless
  have apart : warning ≠ successStatus := by decide
  have known : notFound.IsNamed := by decide
  have own : ¬notFound.IsAlias := by decide
  have kept : ¬(unknown warning).IsAlias := by decide
  exact ⟨⟨apart, (status warning).2.2 apart⟩, ⟨kept, plain _ kept⟩,
    ⟨by decide, known, hides notFound known⟩, ⟨own, equal _ _ own kept⟩, failed _ known⟩

end PlatformFirmware
