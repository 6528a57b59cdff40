import RootFinding.Bisection.Step
import RootFinding.Proofs.Bisection.Unobserved
import RootFinding.Proofs.Outcome

/-! Single steps against whole searches. A step knows the records before it
and nothing else of a search. Whatever prefix of a search it is given, it
makes the record that the search makes next. -/

namespace RootFinding

@[simp] theorem RealFunction.evaluate_eq_ok {ε : Type}
    {function : RealFunction ε} {point value : Float} :
    function.evaluate point = .ok value ↔ function point = .ok value := by
  unfold RealFunction.evaluate
  cases function point <;> simp

namespace Bisection

variable {ε : Type} {function : RealFunction ε} {config : Config}

theorem checkSignChange_atLeft {bounds : Bracket} {atLeft atRight : Float}
    (checked : checkSignChange function bounds = .ok (atLeft, atRight)) :
    function.evaluate bounds.a = .ok atLeft := by
  unfold checkSignChange at checked
  cases left : function.evaluate bounds.a with
  | error error => simp [left] at checked
  | ok value =>
      cases right : function.evaluate bounds.b with
      | error error => simp [left, right] at checked
      | ok other =>
          simp only [left, right] at checked
          split at checked
          · cases checked
          · cases checked
            rfl

/-- What a record of an iteration holds, and that the function gave its value
at the midpoint. -/
theorem bisect_eq_ok {bracket : Bracket} {atLeft : Float} {index : Nat}
    {record : IterationRecord}
    (made : bisect function bracket atLeft index = .ok record) :
    function.evaluate record.midpoint = .ok record.residual ∧
      record.index = index ∧ record.bracket = bracket ∧
      record.midpoint = bracket.midpoint ∧
      record.sign = .ofProduct (atLeft * record.residual) := by
  unfold bisect at made
  cases value : function.evaluate bracket.midpoint with
  | error error => simp [value] at made
  | ok residual =>
      simp only [value, Except.ok.injEq] at made
      subst made
      exact ⟨value, rfl, rfl, rfl, rfl⟩

/-- The next step after a history searches a bracket, at whose left end the
function has the given value. -/
structure Standing (function : RealFunction ε) (bounds : Bracket)
    (history : List IterationRecord) (bracket : Bracket) (atLeft : Float) :
    Prop where
  current : currentBracket function bounds history = .ok bracket
  atLeft : function.evaluate bracket.a = .ok atLeft

theorem Standing.start {bounds : Bracket} {atLeft : Float}
    (value : function.evaluate bounds.a = .ok atLeft) :
    Standing function bounds [] bounds atLeft where
  current := rfl
  atLeft := value

/-- The bracket that is found again after a record is the one that the record
tells, since the function has the same values again. -/
theorem Standing.next {bounds : Bracket} {history : List IterationRecord}
    {bracket : Bracket} {atLeft : Float} {index : Nat}
    {record : IterationRecord}
    (standing : Standing function bounds history bracket atLeft)
    (made : bisect function bracket atLeft index = .ok record) :
    Standing function bounds (history ++ [record]) record.narrowed
      (record.nextAtLeft atLeft) := by
  rcases bisect_eq_ok made with ⟨atMidpoint, -, sameBracket, -, sign⟩
  have atOldLeft : function.evaluate record.bracket.a = .ok atLeft := by
    rw [sameBracket]
    exact standing.atLeft
  constructor
  · simp [currentBracket, atOldLeft, atMidpoint, Bracket.rederive,
      IterationRecord.narrowed, sign]
  · cases signCase : record.sign with
    | negative =>
        simpa [IterationRecord.narrowed, IterationRecord.nextAtLeft,
          Bracket.narrow, signCase] using atOldLeft
    | positive =>
        simpa [IterationRecord.narrowed, IterationRecord.nextAtLeft,
          Bracket.narrow, signCase] using atMidpoint

/-- After a history that is not empty, the bounds do not matter. -/
theorem step_bounds_irrelevant {history : List IterationRecord}
    (notEmpty : history ≠ []) (left right : Bracket) :
    step function left history config = step function right history config := by
  have same : currentBracket function left history =
      currentBracket function right history := by
    unfold currentBracket
    cases last : history.getLast? with
    | none => exact absurd (List.getLast?_eq_none_iff.mp last) notEmpty
    | some record => rfl
  unfold step
  rw [same]

theorem Standing.step_exhausted {bounds : Bracket}
    {history : List IterationRecord} {bracket : Bracket} {atLeft : Float}
    (standing : Standing function bounds history bracket atLeft)
    (spent : config.maxIterations ≤ history.length ∨
      bracket.isWithin config.tolerance = true) :
    step function bounds history config = .ok .exhausted := by
  simp [step, standing.current, spent]

theorem Standing.step_bisect {bounds : Bracket}
    {history : List IterationRecord} {bracket : Bracket} {atLeft : Float}
    (standing : Standing function bounds history bracket atLeft)
    (below : history.length < config.maxIterations)
    (wide : bracket.isWithin config.tolerance = false) :
    step function bounds history config =
      (bisect function bracket atLeft (history.length + 1)).map
        fun record => if isLast config record then .done record
          else .more record := by
  have goesOn : ¬(config.maxIterations ≤ history.length ∨
      bracket.isWithin config.tolerance = true) := by
    simp [wide]
    omega
  simp only [step, standing.current, goesOn, if_false, standing.atLeft]
  cases bisect function bracket atLeft (history.length + 1) <;> rfl

/-- A search that stops before it makes a record. -/
def Trace.Idle (trace : Trace ε) : Prop :=
  trace.records = [] ∧ ∃ status, trace.ending = .stopped status

theorem unobserved_idle_iff {tolerance : Float} {remaining index : Nat}
    {bracket : Bracket} {atLeft : Float} :
    (unobserved function tolerance remaining index bracket atLeft).Idle ↔
      remaining = 0 ∨ bracket.isWithin tolerance = true := by
  refine unobserved_induction
    (motive := fun remaining _ bracket _ trace =>
      trace.Idle ↔ remaining = 0 ∨ bracket.isWithin tolerance = true)
    ?within ?limit ?failed ?converged ?further remaining index bracket atLeft
  case within =>
      intro remaining index bracket atLeft within
      simp [Trace.Idle, within]
  case limit =>
      intro index bracket atLeft wide
      simp [Trace.Idle]
  case failed =>
      intro remaining index bracket atLeft error wide failed
      simp [Trace.Idle, wide]
  case converged =>
      intro remaining index bracket atLeft record wide made small
      simp [Trace.Idle, wide]
  case further =>
      intro remaining index bracket atLeft record wide made large induction
      simp [Trace.Idle, Trace.precededBy, wide]

/-- What the step after the first `made` records of a search has to give. -/
def Trace.stepAfter (trace : Trace ε) (made : Nat) :
    Except (PointError ε) Step :=
  match trace.records[made]?, trace.ending with
  | some record, .stopped _ =>
      .ok (if made + 1 = trace.records.length then .done record
        else .more record)
  | some record, .failed _ => .ok (.more record)
  | none, .stopped _ => .ok .exhausted
  | none, .failed error => .error error

theorem Trace.stepAfter_precededBy (record : IterationRecord)
    (trace : Trace ε) (made : Nat) :
    (trace.precededBy record).stepAfter (made + 1) = trace.stepAfter made := by
  simp [Trace.stepAfter, Trace.precededBy]

open Classical in
theorem Trace.stepAfter_precededBy_zero (record : IterationRecord)
    (trace : Trace ε) :
    (trace.precededBy record).stepAfter 0 =
      .ok (if trace.Idle then .done record else .more record) := by
  unfold Trace.stepAfter Trace.precededBy Trace.Idle
  cases ending : trace.ending with
  | failed error => simp
  | stopped status => simp

/-- The prefixes of a search that a step goes on from: all but the records of
a search that stopped after at least one of them. -/
def Trace.Due (trace : Trace ε) (made : Nat) : Prop :=
  made < trace.records.length ∨
    made = trace.records.length ∧
      (made = 0 ∨ ∃ error, trace.ending = .failed error)

theorem Trace.due_zero (trace : Trace ε) : trace.Due 0 := by
  rcases Nat.eq_zero_or_pos trace.records.length with empty | some
  · exact .inr ⟨empty.symm, .inl rfl⟩
  · exact .inl some

theorem Trace.Due.of_precededBy {record : IterationRecord} {trace : Trace ε}
    {made : Nat} (due : (trace.precededBy record).Due (made + 1)) :
    trace.Due made := by
  simp only [Trace.Due, Trace.precededBy, List.length_cons] at due ⊢
  rcases due with below | ⟨all, zero | failed⟩
  · exact .inl (by omega)
  · omega
  · exact .inr ⟨by omega, .inr failed⟩

theorem isLast_eq_true_iff {record : IterationRecord}
    (large : ¬record.residual.abs < config.tolerance) :
    isLast config record = true ↔
      config.maxIterations ≤ record.index ∨
        record.narrowed.isWithin config.tolerance = true := by
  simp [isLast, large, or_comm]

/-- A step from any due prefix of a search does what the search does. -/
theorem Standing.step_eq_stepAfter {bounds : Bracket}
    {history : List IterationRecord} {bracket : Bracket} {atLeft : Float}
    {remaining made : Nat}
    (standing : Standing function bounds history bracket atLeft)
    (count : history.length + remaining = config.maxIterations)
    (due : (unobserved function config.tolerance remaining
      (history.length + 1) bracket atLeft).Due made) :
    step function bounds
        (history ++ (unobserved function config.tolerance remaining
          (history.length + 1) bracket atLeft).records.take made) config =
      (unobserved function config.tolerance remaining (history.length + 1)
        bracket atLeft).stepAfter made := by
  -- The records that the search goes on after join the history, so that the
  -- history varies along the induction.
  refine unobserved_induction
    (motive := fun remaining index bracket atLeft trace =>
      ∀ history made, history.length + 1 = index →
        Standing function bounds history bracket atLeft →
        history.length + remaining = config.maxIterations → trace.Due made →
        step function bounds (history ++ trace.records.take made) config =
          trace.stepAfter made)
    ?within ?limit ?failed ?converged ?further remaining (history.length + 1)
    bracket atLeft history made rfl standing count due
  case within =>
      intro remaining index bracket atLeft within history made _ standing _ due
      simpa [Trace.stepAfter] using standing.step_exhausted (.inr within)
  case limit =>
      intro index bracket atLeft _ history made _ standing count due
      have spent : config.maxIterations ≤ history.length := by omega
      simpa [Trace.stepAfter] using standing.step_exhausted (.inl spent)
  case failed =>
      intro remaining index bracket atLeft error wide failed history made
        position standing count due
      have stepped := standing.step_bisect (by omega) wide
      rw [position, failed] at stepped
      simpa [Trace.stepAfter, Except.map] using stepped
  case converged =>
      intro remaining index bracket atLeft record wide bisected small history
        made position standing count due
      have zero : made = 0 := by
        simp [Trace.Due] at due
        omega
      subst zero
      have stepped := standing.step_bisect (by omega) wide
      rw [position, bisected] at stepped
      simpa [Trace.stepAfter, Except.map, isLast, small] using stepped
  case further =>
      intro remaining index bracket atLeft record wide bisected large
        induction history made position standing count due
      cases made with
      | zero =>
          have stepped := standing.step_bisect (by omega) wide
          rw [position, bisected] at stepped
          have indexEqual := (bisect_eq_ok bisected).2.1
          have limit : config.maxIterations ≤ record.index ↔
              remaining = 0 := by
            omega
          rw [Trace.stepAfter_precededBy_zero]
          simpa [Except.map, isLast_eq_true_iff large, unobserved_idle_iff,
            limit] using stepped
      | succ made =>
          have position' : (history ++ [record]).length + 1 = index + 1 := by
            simp [position]
          have count' : (history ++ [record]).length + remaining =
              config.maxIterations := by
            simp
            omega
          have later := induction (history ++ [record]) made position'
            (standing.next bisected) count' due.of_precededBy
          rw [Trace.stepAfter_precededBy, ← later]
          simp [Trace.precededBy]

/-- What stepping gives in the end: the records up to the first step that is
finished, or the failure of a step. Steps after the first may be given any
bounds. -/
inductive Stepped (function : RealFunction ε) (config : Config) :
    Bracket → List IterationRecord →
      Except (PointError ε) (List IterationRecord) → Prop where
  | failed {bounds history error}
      (stepped : step function bounds history config = .error error) :
      Stepped function config bounds history (.error error)
  | exhausted {bounds history}
      (stepped : step function bounds history config = .ok .exhausted) :
      Stepped function config bounds history (.ok history)
  | done {bounds history record}
      (stepped : step function bounds history config = .ok (.done record)) :
      Stepped function config bounds history (.ok (history ++ [record]))
  | more {bounds history record other result}
      (stepped : step function bounds history config = .ok (.more record))
      (later : Stepped function config other (history ++ [record]) result) :
      Stepped function config bounds history result

/-- Stepping has one result, and the bounds of its later steps do not
matter. -/
theorem Stepped.unique {left right : Bracket} {history : List IterationRecord}
    {first second : Except (PointError ε) (List IterationRecord)}
    (firstStepped : Stepped function config left history first)
    (secondStepped : Stepped function config right history second)
    (sameBounds : history = [] → left = right) : first = second := by
  have sameStep (bounds other : Bracket) (history : List IterationRecord)
      (same : history = [] → bounds = other) :
      step function bounds history config =
        step function other history config := by
    by_cases empty : history = []
    · rw [same empty]
    · exact step_bounds_irrelevant empty bounds other
  induction firstStepped generalizing right with
  | failed stepped =>
      rw [sameStep _ _ _ sameBounds] at stepped
      cases secondStepped <;> simp_all
  | exhausted stepped =>
      rw [sameStep _ _ _ sameBounds] at stepped
      cases secondStepped <;> simp_all
  | done stepped =>
      rw [sameStep _ _ _ sameBounds] at stepped
      cases secondStepped <;> simp_all
  | more stepped later induction =>
      rw [sameStep _ _ _ sameBounds] at stepped
      cases secondStepped with
      | more otherStepped otherLater =>
          have sameRecord := otherStepped.symm.trans stepped
          simp only [Except.ok.injEq, Step.more.injEq] at sameRecord
          subst sameRecord
          -- From here on the history has a record, so that bounds may differ.
          exact induction otherLater (by simp)
      | _ otherStepped => simp_all

/-- The records of a search, or the failure that ends it. -/
def Trace.result (trace : Trace ε) :
    Except (PointError ε) (List IterationRecord) :=
  match trace.ending with
  | .stopped _ => .ok trace.records
  | .failed error => .error error

theorem Trace.outcome_map_records (trace : Trace ε) :
    trace.outcome.map Solution.records =
      trace.result.mapError Error.evaluation := by
  unfold Trace.outcome Trace.result
  cases trace.ending <;> rfl

/-- The step lemma, along a whole search from its first step. -/
theorem step_eq_stepAfter {bounds : Bracket} {atLeft atRight : Float}
    {made : Nat}
    (checked : checkSignChange function bounds = .ok (atLeft, atRight))
    (due : (searchFrom function bounds config atLeft).Due made) :
    step function bounds
        ((searchFrom function bounds config atLeft).records.take made) config =
      (searchFrom function bounds config atLeft).stepAfter made := by
  have standing := Standing.start (checkSignChange_atLeft checked)
  rw [searchFrom_eq] at due ⊢
  exact standing.step_eq_stepAfter (Nat.zero_add _) due

/-- Stepping on from any due prefix of a search ends in the search's result. -/
theorem stepped_of_due {bounds : Bracket} {trace : Trace ε}
    (steps : ∀ made, trace.Due made →
      step function bounds (trace.records.take made) config =
        trace.stepAfter made)
    (made : Nat) (due : trace.Due made) :
    Stepped function config bounds (trace.records.take made) trace.result := by
  -- The recursion is on the records of the trace that are still to be made.
  have stepped := steps made due
  by_cases below : made < trace.records.length
  · have grown : trace.records.take made ++ [trace.records[made]] =
        trace.records.take (made + 1) := List.take_append_getElem below
    cases ending : trace.ending with
    | failed error =>
        simp only [Trace.stepAfter, List.getElem?_eq_getElem below, ending]
          at stepped
        have dueNext : trace.Due (made + 1) := by
          rcases Nat.lt_or_ge (made + 1) trace.records.length with less | all
          · exact .inl less
          · exact .inr ⟨by omega, .inr ⟨error, ending⟩⟩
        have later := stepped_of_due steps (made + 1) dueNext
        rw [← grown] at later
        exact .more stepped later
    | stopped status =>
        simp only [Trace.stepAfter, List.getElem?_eq_getElem below, ending]
          at stepped
        by_cases last : made + 1 = trace.records.length
        · rw [if_pos last] at stepped
          have finished := Stepped.done stepped
          rw [grown, last, List.take_length] at finished
          simpa [Trace.result, ending] using finished
        · rw [if_neg last] at stepped
          have later := stepped_of_due steps (made + 1) (.inl (by omega))
          rw [← grown] at later
          exact .more stepped later
  · have all : trace.records.length ≤ made := by omega
    rw [List.take_of_length_le all] at stepped ⊢
    simp only [Trace.stepAfter, List.getElem?_eq_none all] at stepped
    cases ending : trace.ending with
    | failed error =>
        simp only [ending] at stepped
        simpa [Trace.result, ending] using Stepped.failed stepped
    | stopped status =>
        simp only [ending] at stepped
        simpa [Trace.result, ending] using Stepped.exhausted stepped
termination_by trace.records.length - made

/-- Single steps make the search that a trace tells of. Each of its prefixes
is answered by the record that comes next, all of it by the failure that ends
it, and stepping gives what the search gives. -/
structure StepsFollow (function : RealFunction ε) (bounds : Bracket)
    (config : Config) (trace : Trace ε) : Prop where
  outcome : solveUnobserved function bounds config = trace.outcome
  goesOn : ∀ made (below : made < trace.records.length) chosen,
    (made = 0 → chosen = bounds) →
    (made + 1 < trace.records.length ∨
      ∃ error, trace.ending = .failed error) →
    step function chosen (trace.records.take made) config =
      .ok (.more trace.records[made])
  finishes : ∀ made (below : made < trace.records.length) chosen,
    (made = 0 → chosen = bounds) → made + 1 = trace.records.length →
    ∀ status, trace.ending = .stopped status →
    step function chosen (trace.records.take made) config =
      .ok (.done trace.records[made])
  fails : ∀ error, trace.ending = .failed error →
    ∀ chosen, (trace.records = [] → chosen = bounds) →
    step function chosen trace.records config = .error error
  exhausted : ∀ status, trace.ending = .stopped status →
    trace.records = [] → step function bounds [] config = .ok .exhausted
  stepping : ∀ result, Stepped function config bounds [] result ↔
    records function bounds config = result.mapError .evaluation

theorem steps_follow_search {bounds : Bracket} {atLeft atRight : Float}
    (checked : checkSignChange function bounds = .ok (atLeft, atRight)) :
    StepsFollow function bounds config
      (searchFrom function bounds config atLeft) := by
  have steps := fun made => @step_eq_stepAfter ε function config bounds atLeft
    atRight made checked
  generalize same : searchFrom function bounds config atLeft = trace at steps ⊢
  have outcome : solveUnobserved function bounds config = trace.outcome := by
    rw [solveUnobserved_of_checkSignChange checked, same]
  have anyBounds (chosen : Bracket) (history : List IterationRecord)
      (start : history = [] → chosen = bounds) :
      step function chosen history config =
        step function bounds history config := by
    by_cases empty : history = []
    · rw [start empty]
    · exact step_bounds_irrelevant empty chosen bounds
  have prefixEmpty {made : Nat} (below : made < trace.records.length)
      (empty : trace.records.take made = []) : made = 0 := by
    simp only [List.take_eq_nil_iff] at empty
    rcases empty with zero | none
    · exact zero
    · simp [none] at below
  have results : records function bounds config =
      trace.result.mapError .evaluation := by
    rw [records, outcome, trace.outcome_map_records]
  constructor
  case outcome => exact outcome
  case goesOn =>
      intro made below chosen start later
      rw [anyBounds chosen _ fun empty => start (prefixEmpty below empty),
        steps made (.inl below)]
      rcases later with later | ⟨error, failed⟩
      · cases ending : trace.ending <;>
          simp [Trace.stepAfter, below, ending, Nat.ne_of_lt later]
      · simp [Trace.stepAfter, below, failed]
  case finishes =>
      intro made below chosen start last status stopped
      rw [anyBounds chosen _ fun empty => start (prefixEmpty below empty),
        steps made (.inl below)]
      simp [Trace.stepAfter, below, stopped, last]
  case fails =>
      intro error failed chosen start
      have answered := steps trace.records.length
        (.inr ⟨rfl, .inr ⟨error, failed⟩⟩)
      rw [List.take_length] at answered
      rw [anyBounds chosen _ start, answered]
      simp [Trace.stepAfter, failed]
  case exhausted =>
      intro status stopped empty
      have answered := steps 0 (.inr ⟨by simp [empty], .inl rfl⟩)
      simpa [Trace.stepAfter, stopped, empty] using answered
  case stepping =>
      intro result
      have batch := stepped_of_due steps 0 trace.due_zero
      rw [List.take_zero] at batch
      rw [results]
      constructor
      · intro stepped
        rw [stepped.unique batch fun _ => rfl]
      · intro same
        have equal : trace.result = result :=
          Outcome.mapError_injective (fun _ _ => Error.evaluation.inj) same
        rw [← equal]
        exact batch

/-- A line that is not defined at three quarters, which the search of the unit
interval meets after one record. -/
def puncturedLine : RealFunction Unit :=
  fun point => if point == 0.75 then .error () else .ok (point - 0.7)

theorem steps_follow_search_puncturedLine :
    checkSignChange puncturedLine ⟨0.0, 1.0⟩ = .ok (-0.7, 1.0 - 0.7) ∧
      (searchFrom puncturedLine ⟨0.0, 1.0⟩ ⟨1e-3, 10⟩ (-0.7)).records.length =
        1 ∧
      StepsFollow puncturedLine ⟨0.0, 1.0⟩ ⟨1e-3, 10⟩
        (searchFrom puncturedLine ⟨0.0, 1.0⟩ ⟨1e-3, 10⟩ (-0.7)) := by
  have checked : checkSignChange puncturedLine ⟨0.0, 1.0⟩ =
      .ok (-0.7, 1.0 - 0.7) :=
    Outcome.eq_ok_of_toOption (by decide +kernel)
  exact ⟨checked, by decide +kernel, steps_follow_search checked⟩

end Bisection

end RootFinding
