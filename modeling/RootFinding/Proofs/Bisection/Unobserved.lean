import RootFinding.Bisection.Run

/-! Searches that nobody observes: what such a search does next, and an
induction along it. A search carries the value at the left end of its bracket
with it, so that a law about the carried value is an invariant of the search. -/

namespace RootFinding

/-- The value at the left end of the bracket that follows a record. -/
def IterationRecord.nextAtLeft (record : IterationRecord) (atLeft : Float) :
    Float :=
  match record.sign with
  | .positive => record.residual
  | .negative => atLeft

namespace Bisection

variable {ε : Type} {function : RealFunction ε} {tolerance : Float}

/-- The rest of a search that nobody observes. -/
def unobserved (function : RealFunction ε) (tolerance : Float)
    (remaining index : Nat) (bracket : Bracket) (atLeft : Float) : Trace ε :=
  (iterate function tolerance Observer.silent remaining index bracket atLeft
    ()).1

theorem unobserved_within {remaining index : Nat} {bracket : Bracket}
    {atLeft : Float} (within : bracket.isWithin tolerance = true) :
    unobserved function tolerance remaining index bracket atLeft =
      ⟨[], .stopped .widthConverged⟩ := by
  cases remaining with
  | zero => simp [unobserved, iterate, exhaustedStatus, within]
  | succ remaining => simp [unobserved, iterate, within]

theorem unobserved_zero {index : Nat} {bracket : Bracket} {atLeft : Float}
    (wide : bracket.isWithin tolerance = false) :
    unobserved function tolerance 0 index bracket atLeft =
      ⟨[], .stopped .iterationLimit⟩ := by
  simp [unobserved, iterate, exhaustedStatus, wide]

theorem unobserved_failed {remaining index : Nat} {bracket : Bracket}
    {atLeft : Float} {error : PointError ε}
    (wide : bracket.isWithin tolerance = false)
    (failed : bisect function bracket atLeft index = .error error) :
    unobserved function tolerance (remaining + 1) index bracket atLeft =
      ⟨[], .failed error⟩ := by
  simp [unobserved, iterate, wide, failed]

theorem unobserved_converged {remaining index : Nat} {bracket : Bracket}
    {atLeft : Float} {record : IterationRecord}
    (wide : bracket.isWithin tolerance = false)
    (made : bisect function bracket atLeft index = .ok record)
    (small : record.residual.abs < tolerance) :
    unobserved function tolerance (remaining + 1) index bracket atLeft =
      ⟨[record], .stopped .residualConverged⟩ := by
  simp [unobserved, iterate, wide, made, Observer.silent, small]

theorem unobserved_further {remaining index : Nat} {bracket : Bracket}
    {atLeft : Float} {record : IterationRecord}
    (wide : bracket.isWithin tolerance = false)
    (made : bisect function bracket atLeft index = .ok record)
    (large : ¬record.residual.abs < tolerance) :
    unobserved function tolerance (remaining + 1) index bracket atLeft =
      (unobserved function tolerance remaining (index + 1) record.narrowed
        (record.nextAtLeft atLeft)).precededBy record := by
  simp [unobserved, iterate, wide, made, Observer.silent, large]
  rfl

/-- Induction along a search that nobody observes, with one case for each of
its ends and one for a record that the search goes on after. -/
theorem unobserved_induction
    {motive : (remaining index : Nat) → Bracket → (atLeft : Float) →
      Trace ε → Prop}
    (within : ∀ remaining index bracket atLeft,
      bracket.isWithin tolerance = true →
      motive remaining index bracket atLeft ⟨[], .stopped .widthConverged⟩)
    (limit : ∀ index bracket atLeft, bracket.isWithin tolerance = false →
      motive 0 index bracket atLeft ⟨[], .stopped .iterationLimit⟩)
    (failed : ∀ remaining index bracket atLeft error,
      bracket.isWithin tolerance = false →
      bisect function bracket atLeft index = .error error →
      motive (remaining + 1) index bracket atLeft ⟨[], .failed error⟩)
    (converged : ∀ remaining index bracket atLeft record,
      bracket.isWithin tolerance = false →
      bisect function bracket atLeft index = .ok record →
      record.residual.abs < tolerance →
      motive (remaining + 1) index bracket atLeft
        ⟨[record], .stopped .residualConverged⟩)
    (further : ∀ remaining index bracket atLeft record,
      bracket.isWithin tolerance = false →
      bisect function bracket atLeft index = .ok record →
      ¬record.residual.abs < tolerance →
      motive remaining (index + 1) record.narrowed (record.nextAtLeft atLeft)
        (unobserved function tolerance remaining (index + 1) record.narrowed
          (record.nextAtLeft atLeft)) →
      motive (remaining + 1) index bracket atLeft
        ((unobserved function tolerance remaining (index + 1) record.narrowed
          (record.nextAtLeft atLeft)).precededBy record))
    (remaining index : Nat) (bracket : Bracket) (atLeft : Float) :
    motive remaining index bracket atLeft
      (unobserved function tolerance remaining index bracket atLeft) := by
  induction remaining generalizing index bracket atLeft with
  | zero =>
      cases wide : bracket.isWithin tolerance with
      | true =>
          rw [unobserved_within wide]
          exact within 0 index bracket atLeft wide
      | false =>
          rw [unobserved_zero wide]
          exact limit index bracket atLeft wide
  | succ remaining induction =>
      cases wide : bracket.isWithin tolerance with
      | true =>
          rw [unobserved_within wide]
          exact within (remaining + 1) index bracket atLeft wide
      | false =>
          cases made : bisect function bracket atLeft index with
          | error error =>
              rw [unobserved_failed wide made]
              exact failed remaining index bracket atLeft error wide made
          | ok record =>
              by_cases small : record.residual.abs < tolerance
              · rw [unobserved_converged wide made small]
                exact converged remaining index bracket atLeft record wide
                  made small
              · rw [unobserved_further wide made small]
                exact further remaining index bracket atLeft record wide made
                  small (induction (index + 1) record.narrowed
                    (record.nextAtLeft atLeft))

/-- The search of the bounds that nobody observes, after the sign check. -/
def searchFrom (function : RealFunction ε) (bounds : Bracket)
    (config : Config) (atLeft : Float) : Trace ε :=
  (traceFrom function bounds config Observer.silent atLeft ()).1

theorem searchFrom_eq (function : RealFunction ε) (bounds : Bracket)
    (config : Config) (atLeft : Float) :
    searchFrom function bounds config atLeft =
      unobserved function config.tolerance config.maxIterations 1 bounds
        atLeft :=
  rfl

theorem solveUnobserved_of_checkSignChange {bounds : Bracket} {config : Config}
    {atLeft atRight : Float}
    (checked : checkSignChange function bounds = .ok (atLeft, atRight)) :
    solveUnobserved function bounds config =
      (searchFrom function bounds config atLeft).outcome := by
  simp [solveUnobserved, solve, checked, searchFrom]

theorem solveUnobserved_of_checkSignChange_error {bounds : Bracket}
    {config : Config} {error : Error ε}
    (unchecked : checkSignChange function bounds = .error error) :
    solveUnobserved function bounds config = .error error := by
  simp [solveUnobserved, solve, unchecked]

/-- The records that a search makes when nobody observes it, up to its end or
its failure. There are none when it fails at the bounds. -/
def recordsMade (function : RealFunction ε) (bounds : Bracket)
    (config : Config) : List IterationRecord :=
  match checkSignChange function bounds with
  | .error _ => []
  | .ok (atLeft, _) => (searchFrom function bounds config atLeft).records

theorem recordsMade_of_checkSignChange {bounds : Bracket} {config : Config}
    {atLeft atRight : Float}
    (checked : checkSignChange function bounds = .ok (atLeft, atRight)) :
    recordsMade function bounds config =
      (searchFrom function bounds config atLeft).records := by
  simp [recordsMade, checked]

theorem recordsMade_of_checkSignChange_error {bounds : Bracket}
    {config : Config} {error : Error ε}
    (unchecked : checkSignChange function bounds = .error error) :
    recordsMade function bounds config = [] := by
  simp [recordsMade, unchecked]

/-- A search that ends gives all of the records that it makes. -/
theorem recordsMade_of_solveUnobserved {bounds : Bracket} {config : Config}
    {solution : Solution}
    (solved : solveUnobserved function bounds config = .ok solution) :
    recordsMade function bounds config = solution.records := by
  cases checked : checkSignChange function bounds with
  | error error =>
      rw [solveUnobserved_of_checkSignChange_error checked] at solved
      cases solved
  | ok values =>
      rcases values with ⟨atLeft, atRight⟩
      rw [solveUnobserved_of_checkSignChange checked] at solved
      rw [recordsMade_of_checkSignChange checked]
      cases ending : (searchFrom function bounds config atLeft).ending with
      | stopped status =>
          simp only [Trace.outcome, ending, Except.ok.injEq] at solved
          rw [← solved]
      | failed error => simp [Trace.outcome, ending] at solved

end Bisection

end RootFinding
