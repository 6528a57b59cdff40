import RootFinding.Proofs.Session.Stepping

/-! Sessions after any sequence of calls. Whatever calls were made, failed ones
included, a session is empty, or keeps all records of one search, or is part
of the way through one. That search is the one of the inputs that the latest
run was started with. -/

namespace RootFinding

/-- The whole search of the inputs succeeds with the solution. -/
def Inputs.Yields (inputs : Inputs) (solution : Bisection.Solution) : Prop :=
  ∃ expression, Expression.compile inputs.expression = .ok expression ∧
    Bisection.solveUnobserved expression.eval inputs.bounds inputs.config =
      .ok solution

namespace Inputs.Yields

variable {inputs : Inputs} {solution : Bisection.Solution}

theorem indices (yields : inputs.Yields solution) :
    solution.records.map IterationRecord.index =
      List.range' 1 solution.records.length := by
  rcases yields with ⟨expression, -, solved⟩
  exact (Bisection.Search.of_solveUnobserved solved).indices

theorem length_le (yields : inputs.Yields solution) :
    solution.records.length ≤ inputs.config.maxIterations := by
  rcases yields with ⟨expression, -, solved⟩
  exact (Bisection.Search.of_solveUnobserved solved).length_le

theorem status_ne (yields : inputs.Yields solution) :
    solution.status ≠ .stoppedByObserver := by
  rcases yields with ⟨expression, -, solved⟩
  exact (Bisection.Search.of_solveUnobserved solved).status_ne

end Inputs.Yields

inductive SessionCall where
  | calculate (inputs : Inputs)
  | step (inputs : Inputs)
  | reset
deriving DecidableEq, Repr

def SessionCall.inputs? : SessionCall → Option Inputs
  | .calculate inputs => some inputs
  | .step inputs => some inputs
  | .reset => none

namespace Session

/-- The session after a call, whether the call fails or not. -/
def perform (session : Session) : SessionCall → Session
  | .calculate inputs => (session.calculate inputs).2
  | .step inputs => (session.step inputs).2
  | .reset => session.reset

def performAll (session : Session) (calls : List SessionCall) : Session :=
  calls.foldl perform session

/-- The call itself where it starts a run, which a step does when no other
search is under way. -/
def start? (session : Session) : SessionCall → Option SessionCall
  | .calculate inputs => some (.calculate inputs)
  | .step inputs => if session.isActive then none else some (.step inputs)
  | .reset => none

/-- The latest of the calls that start a run. -/
def latestStart? : Session → List SessionCall → Option SessionCall
  | _, [] => none
  | session, call :: later =>
      ((session.perform call).latestStart? later).or (session.start? call)

/-- What a session can hold, given the call that started the latest run. -/
inductive Phase (start? : Option SessionCall) : Session → Prop
  | empty : Phase start? empty
  | complete {call : SessionCall} {inputs : Inputs}
      {solution : Bisection.Solution} {status? : Option Bisection.Status}
      (started : start? = some call) (given : call.inputs? = some inputs)
      (yields : inputs.Yields solution) :
      Phase start? ⟨solution.records, none, status?⟩
  | underWay {stepping : Stepping} {trace : Bisection.Trace EvaluationError}
      {status : Bisection.Status} {made : Nat}
      (started : start? = some (.step stepping.inputs))
      (yields : stepping.inputs.Yields ⟨trace.records, status⟩)
      (makes : stepping.Makes trace) (stopped : trace.ending = .stopped status)
      (notNone : 0 < made) (below : made < trace.records.length) :
      Phase start? ⟨trace.records.take made, some stepping, none⟩

theorem calculate_of_yields {inputs : Inputs} {solution : Bisection.Solution}
    (yields : inputs.Yields solution) (session : Session) :
    session.calculate inputs =
      (.ok solution.records,
        ⟨solution.records, none, some solution.status⟩) := by
  rcases yields with ⟨expression, compiled, solved⟩
  simp [calculate, compiled, solved, reset]

theorem yields_of_calculate {inputs : Inputs} {session next : Session}
    {records : List IterationRecord}
    (calculated : session.calculate inputs = (.ok records, next)) :
    ∃ status, inputs.Yields ⟨records, status⟩ ∧
      next = ⟨records, none, some status⟩ := by
  unfold calculate at calculated
  cases compiled : Expression.compile inputs.expression with
  | error error => simp [compiled] at calculated
  | ok expression =>
      cases solved : Bisection.solveUnobserved expression.eval inputs.bounds
        inputs.config with
      | error error => simp [compiled, solved] at calculated
      | ok solution =>
          simp only [compiled, solved, Prod.mk.injEq, Except.ok.injEq]
            at calculated
          rcases calculated with ⟨rfl, rfl⟩
          exact ⟨solution.status, ⟨expression, compiled, solved⟩, rfl⟩

/-- A step of a search that has records left to make. -/
theorem Phase.advance {start? : Option SessionCall} {stepping : Stepping}
    {trace : Bisection.Trace EvaluationError} {status : Bisection.Status}
    {made : Nat} (started : start? = some (.step stepping.inputs))
    (yields : stepping.inputs.Yields ⟨trace.records, status⟩)
    (makes : stepping.Makes trace) (stopped : trace.ending = .stopped status)
    (below : made < trace.records.length) (underWay : Option Stepping) :
    Phase start?
      (advance stepping ⟨trace.records.take made, underWay, none⟩).2 := by
  rw [advance_of_makes makes stopped below]
  by_cases last : made + 1 = trace.records.length
  · simp only [last, if_true, List.take_length]
    exact .complete started rfl yields
  · simp only [last, if_false]
    exact .underWay started yields makes stopped (by omega) (by omega)

theorem Phase.idleStep {start? : Option SessionCall} {session : Session}
    (idle : session.isActive = false) (inputs : Inputs) :
    Phase ((session.start? (.step inputs)).or start?)
      (session.step inputs).2 := by
  have starts : session.start? (.step inputs) = some (.step inputs) := by
    simp [Session.start?, idle]
  rw [starts, Option.some_or]
  cases started : Stepping.start inputs with
  | error error =>
      have notUnderWay : session.stepping = none := by
        simpa [isActive] using idle
      have stepped : (session.step inputs).2 = Session.empty := by
        simp [step, notUnderWay, started, reset, Session.empty]
      rw [stepped]
      exact .empty
  | ok stepping =>
      rw [step_of_idle idle started]
      have sameInputs := (Stepping.start_eq_ok started).1
      rcases calculate_of_start started with
        ⟨trace, status, makes, stopped, calculated⟩
      rcases yields_of_calculate (calculated session) with
        ⟨found, yields, same⟩
      simp only [Session.mk.injEq, Option.some.injEq, true_and] at same
      rw [← same, ← sameInputs] at yields
      rcases Nat.eq_zero_or_pos trace.records.length with zero | positive
      · have nothing := List.length_eq_zero_iff.mp zero
        rw [Session.empty, advance_of_makes_nothing makes stopped nothing none]
        exact .empty
      · exact Phase.advance (by rw [sameInputs]) yields makes stopped positive
          none

/-- What a session holds goes over into what it holds after a call. -/
theorem Phase.perform {start? : Option SessionCall} {session : Session}
    (phase : Phase start? session) (call : SessionCall) :
    Phase ((session.start? call).or start?) (session.perform call) := by
  cases call with
  | reset => exact .empty
  | calculate inputs =>
      rw [Session.perform]
      cases started : Stepping.start inputs with
      | error error =>
          rw [calculate_of_start_error started]
          exact .empty
      | ok stepping =>
          rcases calculate_of_start started with ⟨trace, status, -, -, succeeds⟩
          rcases yields_of_calculate (succeeds session) with
            ⟨found, yields, -⟩
          rw [succeeds]
          exact .complete rfl rfl yields
  | step inputs =>
      cases phase with
      | empty => exact .idleStep rfl inputs
      | complete started given yields => exact .idleStep rfl inputs
      | underWay started yields makes stopped notNone below =>
          exact .advance started yields makes stopped below _

theorem Phase.performAll {start? : Option SessionCall} {session : Session}
    (phase : Phase start? session) (calls : List SessionCall) :
    Phase ((session.latestStart? calls).or start?)
      (session.performAll calls) := by
  induction calls generalizing session start? with
  | nil => exact phase
  | cons call later induction =>
      have run := induction (phase.perform call)
      rwa [← Option.or_assoc] at run

/-- What is known of a session, given the call that started the latest run. -/
structure Accounted (session : Session) (start? : Option SessionCall) :
    Prop where
  records : session.records = [] ∨ ∃ call inputs solution,
    start? = some call ∧ call.inputs? = some inputs ∧
      inputs.Yields solution ∧ session.records <+: solution.records
  indices : session.records.map IterationRecord.index =
    List.range' 1 session.records.length
  active : session.isActive = true → ∃ inputs solution,
    start? = some (.step inputs) ∧ inputs.Yields solution ∧
      session.stepInputs? = some inputs ∧ session.status = none ∧
      session.state = ⟨true, session.records.length⟩ ∧
      1 ≤ session.records.length ∧
      session.records.length < inputs.config.maxIterations ∧
      session.records <+: solution.records ∧
      session.records ≠ solution.records
  idle : session.isActive = false →
    session.stepInputs? = none ∧ session.state = ⟨false, 0⟩ ∧
      (session.records = [] ∨ ∃ call inputs solution,
        start? = some call ∧ call.inputs? = some inputs ∧
          inputs.Yields solution ∧ session.records = solution.records)

theorem Phase.accounted {start? : Option SessionCall} {session : Session}
    (phase : Phase start? session) : session.Accounted start? := by
  cases phase with
  | empty =>
      exact ⟨.inl rfl, rfl, nofun, fun _ => ⟨rfl, rfl, .inl rfl⟩⟩
  | complete started given yields =>
      refine ⟨.inr ⟨_, _, _, started, given, yields, List.prefix_refl _⟩,
        yields.indices, nofun, fun _ => ⟨rfl, rfl, .inr ?_⟩⟩
      exact ⟨_, _, _, started, given, yields, rfl⟩
  | @underWay stepping trace status made started yields makes stopped notNone
      below =>
      have part : trace.records.take made <+: trace.records :=
        List.take_prefix _ _
      have count : (trace.records.take made).length = made := by
        simp
        omega
      have bound : trace.records.length ≤
          stepping.inputs.config.maxIterations := yields.length_le
      refine ⟨.inr ⟨_, _, _, started, rfl, yields, part⟩, ?_, fun _ => ?_,
        nofun⟩
      · rw [count, List.map_take, yields.indices,
          List.take_range'_of_length_ge (Nat.le_of_lt below)]
      · refine ⟨stepping.inputs, _, started, yields, rfl, rfl, rfl,
          Nat.lt_of_lt_of_eq notNone count.symm,
          Nat.lt_of_le_of_lt (Nat.le_of_eq count)
            (Nat.lt_of_lt_of_le below bound), part, ?_⟩
        intro all
        have sameLength : made = trace.records.length :=
          count.symm.trans (congrArg List.length all)
        omega

theorem Phase.status_of_isActive {start? : Option SessionCall}
    {session : Session} (phase : Phase start? session)
    (active : session.isActive = true) : session.status = none := by
  cases phase with
  | empty => rfl
  | complete started given yields => cases active
  | underWay started yields makes stopped notNone below => rfl

theorem advance_status (stepping : Stepping) (session : Session) :
    (advance stepping session).2.status = session.status := by
  unfold advance
  cases Bisection.step stepping.expression.eval stepping.inputs.bounds
    session.records stepping.inputs.config <;> rfl

theorem step_status {session : Session}
    (active : session.isActive = true → session.status = none)
    (inputs : Inputs) : (session.step inputs).2.status = none := by
  unfold step
  cases underWay : session.stepping with
  | some stepping =>
      simp only [advance_status]
      exact active (by simp [isActive, underWay])
  | none =>
      cases Stepping.start inputs with
      | error error => rfl
      | ok stepping => simp only [advance_status, reset]

theorem calculate_status {session : Session} {inputs : Inputs}
    {status : Bisection.Status} :
    (session.calculate inputs).2.status = some status ↔
      ∃ solution, (session.calculate inputs).1 = .ok solution.records ∧
        inputs.Yields solution ∧ solution.status = status := by
  cases started : Stepping.start inputs with
  | error error =>
      simp [calculate_of_start_error started, empty]
  | ok stepping =>
      rcases calculate_of_start started with ⟨trace, found, -, -, succeeds⟩
      rcases yields_of_calculate (succeeds session) with ⟨other, yields, -⟩
      have calculated := calculate_of_yields yields session
      rw [calculated]
      constructor
      · intro same
        exact ⟨_, rfl, yields, Option.some.inj same⟩
      · rintro ⟨solution, -, otherYields, rfl⟩
        have same := calculated.symm.trans
          (calculate_of_yields otherYields session)
        exact congrArg (fun outcome => outcome.2.status) same

/-- After any calls on a new session, its records and its state are accounted
for by the call that started the latest run, and it has a status exactly when
the latest call was a calculation that succeeded. -/
theorem performAll_accounted (calls : List SessionCall) :
    (empty.performAll calls).Accounted (empty.latestStart? calls) ∧
    ∀ status, (empty.performAll calls).status = some status ↔
      ∃ earlier inputs solution,
        calls = earlier ++ [.calculate inputs] ∧
        ((empty.performAll earlier).calculate inputs).1 =
          .ok solution.records ∧
        inputs.Yields solution ∧ solution.status = status ∧
        status ≠ .stoppedByObserver := by
  have reached (calls : List SessionCall) :
      Phase (empty.latestStart? calls) (empty.performAll calls) := by
    simpa using (Phase.empty : Phase none empty).performAll calls
  refine ⟨(reached calls).accounted, fun status => ?_⟩
  rcases List.eq_nil_or_concat calls with rfl | ⟨earlier, call, rfl⟩
  · simp [performAll, empty]
  · have last : empty.performAll (earlier.concat call) =
        (empty.performAll earlier).perform call := by
      simp [performAll]
    rw [last]
    cases call with
    | reset => simp [perform, reset]
    | step inputs =>
        have cleared := step_status (reached earlier).status_of_isActive inputs
        simp [perform, cleared]
    | calculate inputs =>
        rw [perform, calculate_status]
        constructor
        · rintro ⟨solution, succeeded, yields, rfl⟩
          exact ⟨earlier, inputs, solution, List.concat_eq_append, succeeded,
            yields, rfl, yields.status_ne⟩
        · rintro ⟨before, given, solution, same, succeeded, yields, means, -⟩
          rw [List.concat_eq_append] at same
          rcases List.append_inj' same rfl with ⟨rfl, sameCall⟩
          cases sameCall
          exact ⟨solution, succeeded, yields, means⟩

end Session

end RootFinding
