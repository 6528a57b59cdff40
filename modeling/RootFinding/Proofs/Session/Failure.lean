import RootFinding.Proofs.Session.Invariant

/-! What sessions fail with. A search is refused before its first iteration or
not at all: what has compiled has a value at every point, so that no call fails
in the middle of a search. -/

namespace RootFinding

/-- The failures that come before the first iteration of a search: the
expression does not compile, or the signs at the bounds are the same. -/
inductive SessionError.Refuses : SessionError → Prop
  | compile (error : CompileError) : Refuses (.compile error)
  | noSignChange (bounds : Bracket) (atA atB : Float) :
      Refuses (.bisection (.noSignChange bounds atA atB))

/-- The sign check of a function that is defined everywhere fails for the signs
only. -/
theorem Bisection.checkSignChange_eq_error_of_total {ε : Type}
    {function : RealFunction ε} {bounds : Bracket} {error : Error ε}
    (total : ∀ point, ∃ value, function point = .ok value)
    (unchecked : checkSignChange function bounds = .error error) :
    ∃ atA atB, error = .noSignChange bounds atA atB := by
  rcases total bounds.a with ⟨atA, left⟩
  rcases total bounds.b with ⟨atB, right⟩
  rw [← RealFunction.evaluate_eq_ok] at left right
  simp only [checkSignChange, left, right] at unchecked
  split at unchecked
  · cases unchecked
    exact ⟨atA, atB, rfl⟩
  · cases unchecked

theorem Stepping.refuses_of_start {inputs : Inputs} {error : SessionError}
    (unstarted : start inputs = .error error) : error.Refuses := by
  unfold start at unstarted
  cases compiled : Expression.compile inputs.expression with
  | error compileError =>
      simp only [compiled, Except.error.injEq] at unstarted
      subst unstarted
      exact .compile compileError
  | ok expression =>
      have total := Expression.eval_ok_of_compile compiled
      cases checked : Bisection.checkSignChange expression.eval
        inputs.bounds with
      | error checkError =>
          simp only [compiled, checked, Except.error.injEq] at unstarted
          subst unstarted
          rcases Bisection.checkSignChange_eq_error_of_total total checked with
            ⟨atA, atB, rfl⟩
          exact .noSignChange inputs.bounds atA atB
      | ok values => simp [compiled, checked] at unstarted

namespace Session

theorem refuses_of_calculate {inputs : Inputs} {session : Session}
    {error : SessionError}
    (failed : (session.calculate inputs).1 = .error error) :
    error.Refuses := by
  cases started : Stepping.start inputs with
  | error startError =>
      rw [calculate_of_start_error started, Except.error.injEq] at failed
      subst failed
      exact Stepping.refuses_of_start started
  | ok stepping =>
      rcases calculate_of_start started with ⟨trace, status, -, -, succeeds⟩
      rw [succeeds] at failed
      cases failed

/-- The first step of a search does not fail once the search has started. -/
theorem exists_first_report {inputs : Inputs} {stepping : Stepping}
    (started : Stepping.start inputs = .ok stepping) :
    ∃ report, (advance stepping empty).1 = .ok report := by
  rcases calculate_of_start started with ⟨trace, status, makes, stopped, -⟩
  rcases Nat.eq_zero_or_pos trace.records.length with zero | positive
  · have nothing := List.length_eq_zero_iff.mp zero
    have stepped := advance_of_makes_nothing makes stopped nothing none
    exact ⟨_, congrArg Prod.fst stepped⟩
  · have stepped := advance_of_makes makes stopped positive none
    exact ⟨_, congrArg Prod.fst stepped⟩

theorem refuses_of_idleStep {inputs : Inputs} {session : Session}
    {error : SessionError} (idle : session.isActive = false)
    (failed : (session.step inputs).1 = .error error) : error.Refuses := by
  have notUnderWay : session.stepping = none := by
    simpa [isActive] using idle
  cases started : Stepping.start inputs with
  | error startError =>
      simp only [step, notUnderWay, started, Except.error.injEq] at failed
      subst failed
      exact Stepping.refuses_of_start started
  | ok stepping =>
      rcases exists_first_report started with ⟨report, succeeded⟩
      rw [step_of_idle idle started, succeeded] at failed
      cases failed

/-- A step of a search that is under way succeeds, whatever inputs it is
given. -/
theorem Phase.exists_report {start? : Option SessionCall} {session : Session}
    (phase : Phase start? session) (active : session.isActive = true)
    (inputs : Inputs) : ∃ report, (session.step inputs).1 = .ok report := by
  cases phase with
  | empty => cases active
  | complete started given yields => cases active
  | @underWay stepping _ _ _ started yields makes stopped notNone below =>
      have stepped := advance_of_makes makes stopped below (some stepping)
      exact ⟨_, congrArg Prod.fst stepped⟩

/-- What compiles has a value at every point. Hence after any calls on a new
session, a calculation or a step fails only where it refuses to start a search,
and a step of a search that is under way does not fail. -/
theorem never_fails_in_evaluation :
    (∀ source expression, Expression.compile source = .ok expression →
      ∀ point, ∃ value, expression.eval point = .ok value) ∧
    ∀ (calls : List SessionCall) (inputs : Inputs),
      (∀ error,
        ((empty.performAll calls).calculate inputs).1 = .error error →
          error.Refuses) ∧
      (∀ error, ((empty.performAll calls).step inputs).1 = .error error →
        error.Refuses) ∧
      ((empty.performAll calls).isActive = true →
        ∃ report, ((empty.performAll calls).step inputs).1 = .ok report) := by
  refine ⟨fun source expression => Expression.eval_ok_of_compile, ?_⟩
  intro calls inputs
  have phase := (Phase.empty : Phase none empty).performAll calls
  refine ⟨fun error => refuses_of_calculate, fun error failed => ?_,
    fun active => phase.exists_report active inputs⟩
  cases active : (empty.performAll calls).isActive with
  | false => exact refuses_of_idleStep active failed
  | true =>
      rcases phase.exists_report active inputs with ⟨report, succeeded⟩
      rw [succeeded] at failed
      cases failed

/-- A search under way, after a calculation that was refused and one step, is
given the inputs of the refused calculation. -/
theorem never_fails_in_evaluation_refused :
    let refused : Inputs := ⟨"ln(y)", ⟨0.0, 1.0⟩, .standard⟩
    let searched : Inputs := ⟨"x - 0.3", ⟨0.0, 1.0⟩, .standard⟩
    let calls : List SessionCall := [.calculate refused, .step searched]
    (empty.performAll calls).isActive = true ∧
      ∃ report, ((empty.performAll calls).step refused).1 = .ok report := by
  intro refused searched calls
  have active : (empty.performAll calls).isActive = true := by
    decide +kernel
  exact ⟨active, (never_fails_in_evaluation.2 calls refused).2.2 active⟩

end Session

end RootFinding
