import PlatformFirmware.Efi.Error

namespace PlatformFirmware.Efi

namespace Error

def named : List Error :=
  [invalidParameter, unsupported, bufferTooSmall, notReady, deviceError, outOfResources, notFound,
    accessDenied, timeout, alreadyStarted]

def lookUp (status : UInt64) : List Error → Error
  | [] => unknown status
  | e :: errors => if status = e.status then e else lookUp status errors

section

variable {status : UInt64} {errors : List Error}

theorem status_lookUp (status : UInt64) (errors : List Error) :
    (lookUp status errors).status = status := by
  induction errors with
  | nil => rfl
  | cons e errors ih =>
    rw [lookUp]
    split
    · next h => exact h.symm
    · exact ih

theorem lookUp_of_mem (h : status ∈ errors.map Error.status) : lookUp status errors ∈ errors := by
  induction errors with
  | nil => cases h
  | cons e errors ih =>
    rw [lookUp]
    split
    · exact List.mem_cons_self
    · next hn => exact List.mem_cons_of_mem e (ih ((List.mem_cons.1 h).resolve_left hn))

theorem lookUp_of_not_mem (h : status ∉ errors.map Error.status) :
    lookUp status errors = unknown status := by
  induction errors with
  | nil => rfl
  | cons e errors ih =>
    obtain ⟨hn, hm⟩ := not_or.1 (mt List.mem_cons.2 h)
    rw [lookUp, if_neg hn, ih hm]

end

end Error

namespace Status

def listed : List UInt64 := [2, 3, 5, 6, 7, 9, 14, 15, 18, 20].map failure

theorem map_status_named : Error.named.map Error.status = listed := rfl

/-- The two tables are one, read in opposite directions. -/
theorem error?_eq (status : UInt64) :
    error? status = if status = success then none else some (Error.lookUp status Error.named) := by
  simp only [Error.named, Error.lookUp, apply_ite some]
  rfl

theorem toExcept_eq (status : UInt64) :
    toExcept status =
      if status = success then .ok () else .error (Error.lookUp status Error.named) := by
  rw [toExcept, error?_eq]
  by_cases h : status = success
  · simp only [if_pos h]
  · simp only [if_neg h]

theorem toExcept_eq_ok_iff (status : UInt64) : toExcept status = .ok () ↔ status = success := by
  rw [toExcept_eq]
  split <;> simp_all

theorem ofExcept_toExcept (status : UInt64) : ofExcept (toExcept status) = status := by
  rw [toExcept_eq]
  split
  · next h => exact h.symm
  · exact Error.status_lookUp status Error.named

end Status

namespace Error

theorem status_ofStatus (status : UInt64) : (ofStatus status).status = status := by
  rw [ofStatus, Status.error?_eq]
  split
  · rfl
  · exact status_lookUp status named

/-- What is unknown about the error is not the word of a success or of a named error. -/
def IsCanonical : Error → Prop
  | unknown status => status ≠ Status.success ∧ status ∉ Status.listed
  | _ => True

theorem toExcept_status_iff (e : Error) : Status.toExcept e.status = .error e ↔ e.IsCanonical := by
  cases e with
  | unknown status =>
    change Status.toExcept status = _ ↔ status ≠ Status.success ∧ status ∉ Status.listed
    rw [Status.toExcept_eq, ← Status.map_status_named]
    by_cases hs : status = Status.success
    · simp [hs]
    · rw [if_neg hs, Except.error.injEq]
      constructor
      · intro hl
        refine ⟨hs, fun hm => ?_⟩
        have hn : unknown status ∈ named := hl ▸ lookUp_of_mem hm
        simp [named] at hn
      · rintro ⟨-, hm⟩
        exact lookUp_of_not_mem hm
  | _ => exact iff_of_true rfl trivial

end Error

/-- A status word is the one that its result and its error are written as, and its result is a
success if the word is. An error is read back from its word just if it is canonical, so no two
canonical errors have the same word. -/
theorem status_conversion_lossless :
    (∀ status : UInt64,
      Status.ofExcept (Status.toExcept status) = status ∧
        (Error.ofStatus status).status = status ∧
        (Status.toExcept status = .ok () ↔ status = Status.success)) ∧
    (∀ e : Error, Status.toExcept e.status = .error e ↔ e.IsCanonical) ∧
    ∀ e e' : Error, e.IsCanonical → e'.IsCanonical → e ≠ e' → e.status ≠ e'.status := by
  refine ⟨fun status => ?_, Error.toExcept_status_iff, fun e e' he he' hn hs => hn ?_⟩
  · exact ⟨Status.ofExcept_toExcept status, Error.status_ofStatus status,
      Status.toExcept_eq_ok_iff status⟩
  · have h := e.toExcept_status_iff.2 he
    have h' := e'.toExcept_status_iff.2 he'
    rw [hs, h'] at h
    exact (Except.error.inj h).symm

/-- A failure that has no name, and a success that is taken for a failure. -/
theorem status_conversion_lossless_unnamed :
    Error.IsCanonical (.unknown (Status.failure 11)) ∧
      Status.toExcept (Status.failure 11) = .error (.unknown (Status.failure 11)) ∧
      Error.status .timeout ≠ Error.status (.unknown (Status.failure 11)) ∧
      ¬ Error.IsCanonical (.unknown Status.success) ∧
      Status.toExcept Status.success ≠ .error (.unknown Status.success) := by
  obtain ⟨-, hr, hd⟩ := status_conversion_lossless
  have hc : Error.IsCanonical (.unknown (Status.failure 11)) :=
    show Status.failure 11 ≠ _ ∧ _ ∉ _ by decide
  have hs : ¬ Error.IsCanonical (.unknown Status.success) := fun h => h.1 rfl
  exact ⟨hc, (hr (.unknown (Status.failure 11))).2 hc,
    hd .timeout (.unknown (Status.failure 11)) trivial hc (by decide), hs,
    mt (hr (.unknown Status.success)).1 hs⟩

end PlatformFirmware.Efi
