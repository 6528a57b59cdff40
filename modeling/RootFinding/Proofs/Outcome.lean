/-! Steps that may fail, one after another: how the result of a sequence comes
from the results of its parts. -/

namespace RootFinding.Outcome

variable {ε α β : Type}

@[simp] theorem ok_bind (value : α) (next : α → Except ε β) :
    (Except.ok value >>= next) = next value :=
  rfl

@[simp] theorem error_bind (error : ε) (next : α → Except ε β) :
    (Except.error error >>= next) = .error error :=
  rfl

@[simp] theorem pure_eq_ok (value : α) :
    (pure value : Except ε α) = .ok value :=
  rfl

@[simp] theorem throw_eq_error (error : ε) :
    (throw error : Except ε α) = .error error :=
  rfl

theorem bind_eq_ok {first : Except ε α} {next : α → Except ε β} {value : β} :
    (first >>= next) = .ok value ↔
      ∃ middle, first = .ok middle ∧ next middle = .ok value := by
  cases first with
  | error error => simp
  | ok middle => simp

theorem bind_eq_error {first : Except ε α} {next : α → Except ε β}
    {error : ε} :
    (first >>= next) = .error error ↔
      first = .error error ∨
        ∃ middle, first = .ok middle ∧ next middle = .error error := by
  cases first with
  | error other => simp
  | ok middle => simp

/-- Where the errors of a result are those of an option, there is a value
exactly when there is no error. -/
theorem exists_eq_ok_iff {result : Except ε α} {failure? : Option ε}
    (errors : ∀ error, result = .error error ↔ failure? = some error) :
    (∃ value, result = .ok value) ↔ failure? = none := by
  cases result with
  | error error => simp [(errors error).mp rfl]
  | ok value => simp [Option.eq_none_iff_forall_ne_some, ← errors]

theorem mapError_injective {δ : Type} {rename : ε → δ}
    (injective : ∀ left right, rename left = rename right → left = right)
    {left right : Except ε α}
    (same : left.mapError rename = right.mapError rename) : left = right := by
  cases left with
  | error leftError =>
      cases right with
      | error rightError =>
          injection same with sameError
          rw [injective _ _ sameError]
      | ok value => cases same
  | ok leftValue =>
      cases right with
      | error error => cases same
      | ok rightValue =>
          injection same with sameValue
          rw [sameValue]

theorem eq_ok_of_toOption {result : Except ε α} {value : α}
    (found : result.toOption = some value) : result = .ok value := by
  cases result with
  | error error => cases found
  | ok other =>
      cases found
      rfl

def error? : Except ε α → Option ε
  | .error error => some error
  | .ok _ => none

theorem eq_error_of_error? {result : Except ε α} {error : ε}
    (found : error? result = some error) : result = .error error := by
  cases result with
  | error other =>
      cases found
      rfl
  | ok value => cases found

end RootFinding.Outcome
