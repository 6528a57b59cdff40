import RootFinding.Session.Basic
import RootFinding.Proofs.Bisection.Search
import RootFinding.Proofs.Formula.Names

/-! Searches made step by step in a session, against the calculation of the
same search. -/

namespace RootFinding

namespace Stepping

/-- The steps of a search that is under way make the records of a trace. -/
def Makes (stepping : Stepping) (trace : Bisection.Trace EvaluationError) :
    Prop :=
  ∀ made, trace.Due made →
    Bisection.step stepping.expression.eval stepping.inputs.bounds
        (trace.records.take made) stepping.inputs.config =
      trace.stepAfter made

/-- What starts has compiled and passed the sign check. -/
theorem start_eq_ok {inputs : Inputs} {stepping : Stepping}
    (started : start inputs = .ok stepping) :
    stepping.inputs = inputs ∧
      Expression.compile inputs.expression = .ok stepping.expression ∧
      ∃ values, Bisection.checkSignChange stepping.expression.eval
        inputs.bounds = .ok values := by
  unfold start at started
  cases compiled : Expression.compile inputs.expression with
  | error error => simp [compiled] at started
  | ok expression =>
      cases checked : Bisection.checkSignChange expression.eval
        inputs.bounds with
      | error error => simp [compiled, checked] at started
      | ok values =>
          simp only [compiled, checked, Except.ok.injEq] at started
          subst started
          exact ⟨rfl, rfl, values, checked⟩

end Stepping

namespace Session

theorem calculate_of_start_error {inputs : Inputs} {error : SessionError}
    (unstarted : Stepping.start inputs = .error error) (session : Session) :
    session.calculate inputs = (.error error, empty) := by
  unfold Stepping.start at unstarted
  cases compiled : Expression.compile inputs.expression with
  | error compileError =>
      simp only [compiled, Except.error.injEq] at unstarted
      simp [calculate, compiled, unstarted, reset, empty]
  | ok expression =>
      cases checked : Bisection.checkSignChange expression.eval
        inputs.bounds with
      | error checkError =>
          simp only [compiled, checked, Except.error.injEq] at unstarted
          simp [calculate, compiled, unstarted, reset, empty,
            Bisection.solveUnobserved_of_checkSignChange_error checked]
      | ok values => simp [compiled, checked] at unstarted

/-- A calculation whose search starts gives all records of that search, and
they are the ones that its steps make. -/
theorem calculate_of_start {inputs : Inputs} {stepping : Stepping}
    (started : Stepping.start inputs = .ok stepping) :
    ∃ trace status, stepping.Makes trace ∧ trace.ending = .stopped status ∧
      ∀ session : Session, session.calculate inputs =
        (.ok trace.records, ⟨trace.records, none, some status⟩) := by
  rcases Stepping.start_eq_ok started with
    ⟨sameInputs, compiled, ⟨atLeft, atRight⟩, checked⟩
  have total := Expression.eval_ok_of_compile compiled
  have stops : ∃ status, (Bisection.searchFrom stepping.expression.eval
      inputs.bounds inputs.config atLeft).ending = .stopped status :=
    Bisection.unobserved_stopped_of_total total
  rcases stops with ⟨status, stopped⟩
  refine ⟨_, status, ?_, stopped, ?_⟩
  · intro made due
    rw [sameInputs]
    exact Bisection.step_eq_stepAfter checked due
  · intro session
    simp [calculate, compiled, stopped, reset, Bisection.Trace.outcome,
      Bisection.solveUnobserved_of_checkSignChange checked]

/-- One step of a search from the records made so far. -/
theorem advance_of_makes {stepping : Stepping}
    {trace : Bisection.Trace EvaluationError} {status : Bisection.Status}
    (makes : stepping.Makes trace) (stopped : trace.ending = .stopped status)
    {made : Nat} (below : made < trace.records.length)
    (underWay : Option Stepping) :
    advance stepping ⟨trace.records.take made, underWay, none⟩ =
      (.ok ⟨some trace.records[made], decide (made + 1 = trace.records.length)⟩,
        ⟨trace.records.take (made + 1),
          if made + 1 = trace.records.length then none else some stepping,
          none⟩) := by
  have stepped := makes made (.inl below)
  simp only [Bisection.Trace.stepAfter, List.getElem?_eq_getElem below,
    stopped] at stepped
  by_cases last : made + 1 = trace.records.length
  · rw [if_pos last] at stepped
    simp [advance, stepped, Bisection.Step.record?, Bisection.Step.isFinished,
      last]
  · rw [if_neg last] at stepped
    simp [advance, stepped, Bisection.Step.record?, Bisection.Step.isFinished,
      last]

theorem advance_of_makes_nothing {stepping : Stepping}
    {trace : Bisection.Trace EvaluationError} {status : Bisection.Status}
    (makes : stepping.Makes trace) (stopped : trace.ending = .stopped status)
    (nothing : trace.records = []) (underWay : Option Stepping) :
    advance stepping ⟨[], underWay, none⟩ = (.ok ⟨none, true⟩, empty) := by
  have stepped := makes 0 trace.due_zero
  simp only [nothing, List.take_nil, Bisection.Trace.stepAfter,
    List.getElem?_nil, stopped] at stepped
  simp [advance, stepped, Bisection.Step.record?, Bisection.Step.isFinished,
    empty]

/-- What the steps report of a search that makes the given records: each of
them in turn, the last with the end of the search. -/
def recordReports : List IterationRecord → List StepReport
  | [] => []
  | [last] => [⟨some last, true⟩]
  | record :: next :: later =>
      ⟨some record, false⟩ :: recordReports (next :: later)

theorem recordReports_cons (record : IterationRecord)
    (later : List IterationRecord) :
    recordReports (record :: later) =
      ⟨some record, later.isEmpty⟩ :: recordReports later := by
  cases later <;> rfl

@[simp] theorem recordReports_length (records : List IterationRecord) :
    (recordReports records).length = records.length := by
  induction records with
  | nil => rfl
  | cons record later induction => simp [recordReports_cons, induction]

theorem recordReports_getElem? (records : List IterationRecord) (made : Nat) :
    (recordReports records)[made]? = records[made]?.map fun record =>
      ⟨some record, decide (made + 1 = records.length)⟩ := by
  induction records generalizing made with
  | nil => rfl
  | cons record later induction =>
      rw [recordReports_cons]
      cases made with
      | zero => cases later <;> simp
      | succ made => simp [induction]

/-- Makes one step with each of the inputs, until a step finishes its search
or fails. -/
def stepUntilFinished :
    List Inputs → Session → List (Except SessionError StepReport) × Session
  | [], session => ([], session)
  | inputs :: later, session =>
      match session.step inputs with
      | (.ok ⟨record, false⟩, next) =>
          let (reports, final) := stepUntilFinished later next
          (.ok ⟨record, false⟩ :: reports, final)
      | (report, next) => ([report], next)

/-- Steps that go on with a search report the rest of its records, whatever
inputs they are given. -/
theorem stepUntilFinished_of_makes {stepping : Stepping}
    {trace : Bisection.Trace EvaluationError} {status : Bisection.Status}
    (makes : stepping.Makes trace) (stopped : trace.ending = .stopped status)
    {made : Nat} (below : made < trace.records.length)
    {session : Session} {inputs : Inputs} {underWay : Option Stepping}
    (next : session.step inputs =
      advance stepping ⟨trace.records.take made, underWay, none⟩)
    (later : List Inputs) (enough : trace.records.length ≤
      made + 1 + later.length) :
    session.stepUntilFinished (inputs :: later) =
      ((recordReports (trace.records.drop made)).map .ok,
        ⟨trace.records, none, none⟩) := by
  rw [advance_of_makes makes stopped below] at next
  rw [List.drop_eq_getElem_cons below, recordReports_cons]
  by_cases last : made + 1 = trace.records.length
  · rw [last]
    simp [stepUntilFinished, next, last, recordReports]
  · cases later with
    | nil =>
        simp only [List.length_nil] at enough
        omega
    | cons nextInputs later =>
        have belowNext : made + 1 < trace.records.length := by omega
        have stepNext :
            step nextInputs ⟨trace.records.take (made + 1), some stepping,
              none⟩ =
            advance stepping ⟨trace.records.take (made + 1), some stepping,
              none⟩ := rfl
        have rest := stepUntilFinished_of_makes makes stopped belowNext
          stepNext later (by
            simp only [List.length_cons] at enough
            omega)
        have more : (trace.records.drop (made + 1)).isEmpty = false := by
          simpa using belowNext
        rw [stepUntilFinished, next]
        simp [last, rest, more]

/-- Reports of steps, and the session after them, that tell of the given
records and of nothing else. -/
structure Reproduces (records : List IterationRecord)
    (reports : List (Except SessionError StepReport)) (final : Session) :
    Prop where
  count : reports.length = max 1 records.length
  record : ∀ made (below : made < records.length),
    reports[made]? = some (.ok
      ⟨some records[made], decide (made + 1 = records.length)⟩)
  nothing : records = [] → reports = [.ok ⟨none, true⟩]
  final : final = ⟨records, none, none⟩

theorem step_of_idle {session : Session} {inputs : Inputs}
    {stepping : Stepping} (idle : session.isActive = false)
    (started : Stepping.start inputs = .ok stepping) :
    session.step inputs = advance stepping empty := by
  have notUnderWay : session.stepping = none := by
    simpa [isActive] using idle
  simp [step, notUnderWay, started, reset, empty]

theorem stepping_reproduces_calculation (inputs : Inputs) (session : Session)
    (idle : session.isActive = false) :
    (∀ other : Session,
      (other.calculate inputs).1 = (session.calculate inputs).1) ∧
    (∀ error, (session.calculate inputs).1 = .error error →
      session.step inputs = (.error error, empty)) ∧
    ∀ records, (session.calculate inputs).1 = .ok records →
      ∀ later : List Inputs, records.length ≤ later.length + 1 →
        Reproduces records
          (session.stepUntilFinished (inputs :: later)).1
          (session.stepUntilFinished (inputs :: later)).2 := by
  cases started : Stepping.start inputs with
  | error startError =>
      have calculated := calculate_of_start_error started
      refine ⟨fun other => by rw [calculated, calculated], ?_, ?_⟩
      · intro error failed
        rw [calculated, Except.error.injEq] at failed
        have notUnderWay : session.stepping = none := by
          simpa [isActive] using idle
        simp [step, notUnderWay, started, failed, reset, empty]
      · intro records succeeded
        rw [calculated] at succeeded
        cases succeeded
  | ok stepping =>
      rcases calculate_of_start started with
        ⟨trace, status, makes, stopped, calculated⟩
      refine ⟨fun other => by rw [calculated, calculated], ?_, ?_⟩
      · intro error failed
        rw [calculated] at failed
        cases failed
      · intro records succeeded later enough
        rw [calculated, Except.ok.injEq] at succeeded
        subst succeeded
        have first := step_of_idle idle started
        rcases Nat.eq_zero_or_pos trace.records.length with zero | positive
        · have nothing := List.length_eq_zero_iff.mp zero
          have stepped := first.trans
            (advance_of_makes_nothing makes stopped nothing none)
          have run : session.stepUntilFinished (inputs :: later) =
              ([.ok ⟨none, true⟩], empty) := by
            rw [stepUntilFinished, stepped]
          rw [run, nothing]
          exact ⟨rfl, by simp, fun _ => rfl, rfl⟩
        · have run := stepUntilFinished_of_makes makes stopped positive first
            later (by omega)
          rw [run, List.drop_zero]
          refine ⟨?_, ?_, ?_, rfl⟩
          · simp
            omega
          · intro made below
            rw [List.getElem?_map, recordReports_getElem?]
            simp [below]
          · intro nothing
            simp [nothing] at positive

/-- Two steps of a search in a session that was left with a status. The second
is given other inputs. -/
theorem stepping_reproduces_calculation_line :
    let session : Session := ⟨[], none, some .iterationLimit⟩
    let inputs : Inputs := ⟨"x - 0.3", ⟨0.0, 1.0⟩, ⟨0.1, 2⟩⟩
    let records : List IterationRecord :=
      [⟨1, ⟨0.0, 1.0⟩, 0.5, .negative, 0.5 - 0.3⟩,
        ⟨2, ⟨0.0, 0.5⟩, 0.25, .positive, 0.25 - 0.3⟩]
    session.isActive = false ∧ (session.calculate inputs).1 = .ok records ∧
      Reproduces records
        (session.stepUntilFinished [inputs, Inputs.preset]).1
        (session.stepUntilFinished [inputs, Inputs.preset]).2 := by
  intro session inputs records
  have calculated : (session.calculate inputs).1 = .ok records :=
    Outcome.eq_ok_of_toOption (by decide +kernel)
  refine ⟨rfl, calculated, ?_⟩
  exact (stepping_reproduces_calculation inputs session rfl).2.2 records
    calculated [Inputs.preset] (by decide)

end Session

end RootFinding
