import RootFinding.Proofs.Bisection.Stepwise

/-! Searches that succeed, as a relation between the bracket a search starts
from and what it makes. Every record is told by the function and the bracket
alone, since the value at the left end that a search carries along is the
function's value there. -/

namespace RootFinding

/-- The bracket that the last of the records leaves, which is the one before
the records where there are none. The midpoint replaces the right end where the
sign is negative, and the left end where it is not. -/
def Bracket.after (bracket : Bracket) (records : List IterationRecord) :
    Bracket :=
  match records.getLast? with
  | none => bracket
  | some last =>
      match last.sign with
      | .negative => ⟨last.bracket.a, last.midpoint⟩
      | .positive => ⟨last.midpoint, last.bracket.b⟩

@[simp] theorem Bracket.after_nil (bracket : Bracket) :
    bracket.after [] = bracket :=
  rfl

theorem Bracket.after_of_getLast {bracket : Bracket}
    {records : List IterationRecord} {last : IterationRecord}
    (isLast : records.getLast? = some last) :
    bracket.after records = last.narrowed := by
  simp only [after, isLast, IterationRecord.narrowed]
  cases last.sign <;> rfl

@[simp] theorem Bracket.after_cons (bracket : Bracket)
    (record : IterationRecord) (later : List IterationRecord) :
    bracket.after (record :: later) = record.narrowed.after later := by
  cases isLast : later.getLast? with
  | none =>
      rw [List.getLast?_eq_none_iff.1 isLast]
      exact after_of_getLast rfl
  | some last =>
      have isLast' : (record :: later).getLast? = some last := by
        rw [List.getLast?_cons, isLast, Option.getD_some]
      rw [after_of_getLast isLast, after_of_getLast isLast']

theorem IterationRecord.midpoint_mem_narrowed (record : IterationRecord) :
    record.midpoint = record.narrowed.a ∨
      record.midpoint = record.narrowed.b := by
  unfold narrowed
  cases record.sign with
  | negative => exact .inr rfl
  | positive => exact .inl rfl

theorem IterationRecord.narrowed_ends {holds : Float → Prop}
    {record : IterationRecord} (a : holds record.bracket.a)
    (b : holds record.bracket.b) (midpoint : holds record.midpoint) :
    holds record.narrowed.a ∧ holds record.narrowed.b := by
  unfold narrowed
  cases record.sign with
  | negative => exact ⟨a, midpoint⟩
  | positive => exact ⟨midpoint, b⟩

namespace Bisection

variable {ε : Type} {function : RealFunction ε} {tolerance : Float}

/-- The record of one iteration on a bracket. The sign is that of the product
of the values at the left end and at the midpoint, and zero and `NaN` are not
negative. -/
structure Iteration (function : RealFunction ε) (bracket : Bracket)
    (index : Nat) (record : IterationRecord) : Prop where
  index : record.index = index
  searched : record.bracket = bracket
  midpoint : record.midpoint = (bracket.a + bracket.b) / 2.0
  residual : function record.midpoint = .ok record.residual
  sign : ∃ atLeft, function bracket.a = .ok atLeft ∧
    record.sign =
      if atLeft * record.residual < 0.0 then .negative else .positive

theorem Iteration.midpoint_eq {bracket : Bracket} {index : Nat}
    {record : IterationRecord}
    (made : Iteration function bracket index record) :
    record.midpoint = bracket.midpoint :=
  made.midpoint

theorem Iteration.exists_sign_eq {bracket : Bracket} {index : Nat}
    {record : IterationRecord}
    (made : Iteration function bracket index record) :
    ∃ atLeft, function bracket.a = .ok atLeft ∧
      record.sign = .ofProduct (atLeft * record.residual) :=
  made.sign

theorem Iteration.of_bisect {bracket : Bracket} {atLeft : Float} {index : Nat}
    {record : IterationRecord}
    (left : function.evaluate bracket.a = .ok atLeft)
    (made : bisect function bracket atLeft index = .ok record) :
    Iteration function bracket index record := by
  rcases bisect_eq_ok made with
    ⟨atMidpoint, sameIndex, sameBracket, sameMidpoint, sign⟩
  exact {
    index := sameIndex
    searched := sameBracket
    midpoint := sameMidpoint
    residual := RealFunction.evaluate_eq_ok.mp atMidpoint
    sign := ⟨atLeft, RealFunction.evaluate_eq_ok.mp left, sign⟩ }

/-- A search with `remaining` iterations left, the next of number `index`,
makes the records and ends with the status. -/
inductive Search (function : RealFunction ε) (tolerance : Float) :
    (remaining index : Nat) → Bracket → List IterationRecord → Status → Prop
  | within {remaining index : Nat} {bracket : Bracket}
      (within : bracket.isWithin tolerance = true) :
      Search function tolerance remaining index bracket [] .widthConverged
  | limit {index : Nat} {bracket : Bracket}
      (wide : bracket.isWithin tolerance = false) :
      Search function tolerance 0 index bracket [] .iterationLimit
  | converged {remaining index : Nat} {bracket : Bracket}
      {record : IterationRecord} (wide : bracket.isWithin tolerance = false)
      (made : Iteration function bracket index record)
      (small : record.residual.abs < tolerance) :
      Search function tolerance (remaining + 1) index bracket [record]
        .residualConverged
  | further {remaining index : Nat} {bracket : Bracket}
      {record : IterationRecord} {later : List IterationRecord}
      {status : Status} (wide : bracket.isWithin tolerance = false)
      (made : Iteration function bracket index record)
      (large : ¬record.residual.abs < tolerance)
      (rest : Search function tolerance remaining (index + 1) record.narrowed
        later status) :
      Search function tolerance (remaining + 1) index bracket
        (record :: later) status

theorem Search.of_unobserved {remaining index : Nat} {bracket : Bracket}
    {atLeft : Float} {status : Status}
    (left : function.evaluate bracket.a = .ok atLeft)
    (stopped : (unobserved function tolerance remaining index bracket
      atLeft).ending = .stopped status) :
    Search function tolerance remaining index bracket
      (unobserved function tolerance remaining index bracket atLeft).records
      status := by
  refine unobserved_induction
    (motive := fun remaining index bracket atLeft trace =>
      function.evaluate bracket.a = .ok atLeft →
        trace.ending = .stopped status →
        Search function tolerance remaining index bracket trace.records status)
    ?within ?limit ?failed ?converged ?further remaining index bracket atLeft
    left stopped
  case within =>
      intro remaining index bracket atLeft within _ stopped
      cases stopped
      exact .within within
  case limit =>
      intro index bracket atLeft wide _ stopped
      cases stopped
      exact .limit wide
  case failed =>
      intro remaining index bracket atLeft error _ _ _ stopped
      cases stopped
  case converged =>
      intro remaining index bracket atLeft record wide made small left stopped
      cases stopped
      exact .converged wide (.of_bisect left made) small
  case further =>
      intro remaining index bracket atLeft record wide made large induction
        left stopped
      have next := ((Standing.start left).next made).atLeft
      exact .further wide (.of_bisect left made) large (induction next stopped)

variable {bounds : Bracket} {config : Config} {solution : Solution}

theorem Search.of_solveUnobserved
    (solved : solveUnobserved function bounds config = .ok solution) :
    Search function config.tolerance config.maxIterations 1 bounds
      solution.records solution.status := by
  cases checked : checkSignChange function bounds with
  | error error =>
      rw [solveUnobserved_of_checkSignChange_error checked] at solved
      cases solved
  | ok values =>
      rcases values with ⟨atLeft, atRight⟩
      have left := checkSignChange_atLeft checked
      rw [solveUnobserved_of_checkSignChange checked] at solved
      cases ending : (searchFrom function bounds config atLeft).ending with
      | failed error => simp [Trace.outcome, ending] at solved
      | stopped status =>
          simp only [Trace.outcome, ending, Except.ok.injEq] at solved
          subst solved
          rw [searchFrom_eq] at ending ⊢
          exact .of_unobserved left ending

namespace Search

variable {remaining index : Nat} {bracket : Bracket}
  {records : List IterationRecord} {status : Status}

theorem indices
    (search : Search function tolerance remaining index bracket records
      status) :
    records.map IterationRecord.index = List.range' index records.length := by
  induction search with
  | within _ => rfl
  | limit _ => rfl
  | converged _ made _ => simp [made.index]
  | further _ made _ _ induction =>
      simp [made.index, induction, List.range'_succ]

theorem length_le
    (search : Search function tolerance remaining index bracket records
      status) :
    records.length ≤ remaining := by
  induction search with
  | within _ => exact Nat.zero_le _
  | limit _ => exact Nat.le_refl _
  | converged _ _ _ => exact Nat.succ_le_succ (Nat.zero_le _)
  | further _ _ _ _ induction => exact Nat.succ_le_succ induction

theorem status_ne
    (search : Search function tolerance remaining index bracket records
      status) :
    status ≠ .stoppedByObserver := by
  induction search with
  | within _ => nofun
  | limit _ => nofun
  | converged _ _ _ => nofun
  | further _ _ _ _ induction => exact induction

theorem searched_head
    (search : Search function tolerance remaining index bracket records
      status) :
    ∀ first, records.head? = some first → first.bracket = bracket := by
  cases search with
  | within _ => nofun
  | limit _ => nofun
  | converged _ made _ =>
      rintro first ⟨⟩
      exact made.searched
  | further _ made _ _ =>
      rintro first ⟨⟩
      exact made.searched

theorem iteration
    (search : Search function tolerance remaining index bracket records
      status) :
    ∀ made (below : made < records.length),
      Iteration function records[made].bracket (index + made)
        records[made] := by
  induction search with
  | within _ => nofun
  | limit _ => nofun
  | converged _ first _ =>
      intro made below
      obtain rfl : made = 0 := by simpa using below
      simpa [first.searched] using first
  | @further _ index _ _ _ _ _ first _ _ induction =>
      intro made below
      cases made with
      | zero => simpa [first.searched] using first
      | succ made =>
          have later := induction made (by simpa using below)
          rwa [Nat.add_right_comm, Nat.add_assoc] at later

theorem consecutive
    (search : Search function tolerance remaining index bracket records
      status) :
    ∀ made (below : made + 1 < records.length),
      records[made + 1].bracket = records[made].narrowed := by
  induction search with
  | within _ => nofun
  | limit _ => nofun
  | converged _ _ _ => intro made below; simp at below
  | further _ _ _ rest induction =>
      intro made below
      cases made with
      | zero =>
          refine rest.searched_head _ ?_
          simp [List.head?_eq_getElem?]
      | succ made => exact induction made (by simpa using below)

/-- What each iteration keeps of its bracket stands at every record. -/
theorem forall_records
    (search : Search function tolerance remaining index bracket records status)
    (standing : Bracket → Prop) {holds : IterationRecord → Prop}
    (start : standing bracket)
    (step : ∀ record ∈ records, ∀ inner number,
      Iteration function inner number record → standing inner →
        holds record ∧ standing record.narrowed) :
    ∀ record ∈ records, holds record := by
  induction search with
  | within _ => nofun
  | limit _ => nofun
  | converged _ made _ =>
      rintro record (_ | ⟨_, ⟨⟩⟩)
      exact (step _ (List.mem_singleton_self _) _ _ made start).1
  | further _ made _ _ induction =>
      rcases step _ (List.mem_cons_self ..) _ _ made start with ⟨first, next⟩
      exact List.forall_mem_cons.2 ⟨first, induction next
        fun record member => step record (List.mem_cons_of_mem _ member)⟩

/-- What holds of the ends at first and of every midpoint holds of the ends of
every record. -/
theorem ends
    (search : Search function tolerance remaining index bracket records status)
    (holds : Float → Prop) (a : holds bracket.a) (b : holds bracket.b)
    (midpoint : ∀ record ∈ records, holds record.midpoint) :
    ∀ record ∈ records, holds record.bracket.a ∧ holds record.bracket.b := by
  refine search.forall_records (fun inner => holds inner.a ∧ holds inner.b)
    ⟨a, b⟩ fun record member _ _ made standing => ?_
  rw [← made.searched] at standing
  exact ⟨standing, IterationRecord.narrowed_ends standing.1 standing.2
    (midpoint record member)⟩

theorem residual_eq
    (search : Search function tolerance remaining index bracket records
      status) :
    ∀ record ∈ records, function record.midpoint = .ok record.residual :=
  search.forall_records (fun _ => True) trivial
    fun _ _ _ _ made _ => ⟨made.residual, trivial⟩

theorem midpoint_eq
    (search : Search function tolerance remaining index bracket records
      status) :
    ∀ record ∈ records, record.midpoint = record.bracket.midpoint :=
  search.forall_records (fun _ => True) trivial
    fun _ _ _ _ made _ => ⟨made.searched ▸ made.midpoint_eq, trivial⟩

theorem small_of_residualConverged
    (search : Search function tolerance remaining index bracket records status)
    (ended : status = .residualConverged) :
    ∃ last, records.getLast? = some last ∧ last.residual.abs < tolerance := by
  induction search with
  | within _ => cases ended
  | limit _ => cases ended
  | converged _ _ small => exact ⟨_, rfl, small⟩
  | further _ _ _ _ induction =>
      rcases induction ended with ⟨last, isLast, small⟩
      exact ⟨last, by simp [List.getLast?_cons, isLast], small⟩

theorem isWithin_of_widthConverged
    (search : Search function tolerance remaining index bracket records status)
    (ended : status = .widthConverged) :
    (bracket.after records).isWithin tolerance = true := by
  induction search with
  | within within => exact within
  | limit _ => cases ended
  | converged _ _ _ => cases ended
  | further _ _ _ _ induction =>
      rw [Bracket.after_cons]
      exact induction ended

end Search

theorem bisect_ok_of_total
    (total : ∀ point, ∃ value, function point = .ok value)
    (bracket : Bracket) (atLeft : Float) (index : Nat) :
    ∃ record, bisect function bracket atLeft index = .ok record := by
  rcases total bracket.midpoint with ⟨value, evaluated⟩
  have evaluated' : function.evaluate bracket.midpoint = .ok value :=
    RealFunction.evaluate_eq_ok.mpr evaluated
  exact ⟨_, by simp only [bisect, evaluated']; rfl⟩

/-- The search of a function that is defined everywhere does not fail. -/
theorem unobserved_stopped_of_total {remaining index : Nat}
    {bracket : Bracket} {atLeft : Float}
    (total : ∀ point, ∃ value, function point = .ok value) :
    ∃ status,
      (unobserved function tolerance remaining index bracket atLeft).ending =
        .stopped status := by
  refine unobserved_induction
    (motive := fun _ _ _ _ trace => ∃ status, trace.ending = .stopped status)
    ?within ?limit ?failed ?converged ?further remaining index bracket atLeft
  case within => exact fun _ _ _ _ _ => ⟨_, rfl⟩
  case limit => exact fun _ _ _ _ => ⟨_, rfl⟩
  case failed =>
      intro remaining index bracket atLeft error wide failed
      rcases bisect_ok_of_total total bracket atLeft index with ⟨record, made⟩
      rw [failed] at made
      cases made
  case converged => exact fun _ _ _ _ _ _ _ _ => ⟨_, rfl⟩
  case further =>
      intro remaining index bracket atLeft record wide made large stopped
      exact stopped

theorem exists_solution_of_accepted {atA atB : Float}
    (total : ∀ point, ∃ value, function point = .ok value)
    (accepted : checkSignChange function bounds = .ok (atA, atB)) :
    ∃ solution, solveUnobserved function bounds config = .ok solution := by
  have stops : ∃ status,
      (searchFrom function bounds config atA).ending = .stopped status :=
    unobserved_stopped_of_total total
  rcases stops with ⟨status, stopped⟩
  rw [solveUnobserved_of_checkSignChange accepted]
  exact ⟨_, by simp only [Trace.outcome, stopped]; rfl⟩

theorem checkSignChange_of_total {value : Float → Float}
    (total : ∀ point, function point = .ok (value point)) :
    checkSignChange function bounds =
      if 0.0 < value bounds.a * value bounds.b then
        .error (.noSignChange bounds (value bounds.a) (value bounds.b))
      else
        .ok (value bounds.a, value bounds.b) := by
  have evaluated (point : Float) :
      function.evaluate point = .ok (value point) :=
    RealFunction.evaluate_eq_ok.mpr (total point)
  simp only [checkSignChange, evaluated, gt_iff_lt]

theorem exists_solution_of_total {value : Float → Float}
    (total : ∀ point, function point = .ok (value point))
    (accepted : ¬0.0 < value bounds.a * value bounds.b) :
    ∃ solution, solveUnobserved function bounds config = .ok solution := by
  have checked : checkSignChange function bounds = _ :=
    checkSignChange_of_total total
  rw [if_neg accepted] at checked
  exact exists_solution_of_accepted (fun point => ⟨_, total point⟩) checked

end Bisection

end RootFinding
