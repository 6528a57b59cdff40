import RootFinding.Proofs.Bisection.Search

/-! What a search that nobody observes gives, said without the loop that makes
it. The records are told by their places in the list, the end of the search by
the last of them, and there is one result that fits for any bounds and any
function, whether it fails or not. -/

namespace RootFinding

theorem Bracket.isWithin_eq_true_iff {bracket : Bracket} {tolerance : Float} :
    bracket.isWithin tolerance = true ↔ ¬tolerance < bracket.width := by
  simp [isWithin]

theorem Bracket.isWithin_eq_false_iff {bracket : Bracket} {tolerance : Float} :
    bracket.isWithin tolerance = false ↔ tolerance < bracket.width := by
  simp [isWithin]

theorem RealFunction.evaluate_eq_error {ε : Type} {function : RealFunction ε}
    {point : Float} {error : PointError ε} :
    function.evaluate point = .error error ↔
      error.point = point ∧ function point = .error error.cause := by
  rcases error with ⟨errorPoint, cause⟩
  unfold RealFunction.evaluate
  cases function point <;> simp [eq_comm]

namespace Bisection

variable {ε : Type} {function : RealFunction ε} {tolerance : Float}

/-- Records made one after another, the first with the given number. Each is
the iteration on the bracket that the records before it leave. All search
brackets wider than the tolerance, and no value but the last is small. -/
structure Consecutive (function : RealFunction ε) (tolerance : Float)
    (index : Nat) (bounds : Bracket) (records : List IterationRecord) :
    Prop where
  iteration : ∀ made (below : made < records.length),
    Iteration function (bounds.after (records.take made)) (index + made)
      records[made]
  wide : ∀ record ∈ records,
    tolerance < (record.bracket.b - record.bracket.a).abs
  large : ∀ record ∈ records.dropLast, ¬record.residual.abs < tolerance

/-- There is a last record, and its value is small. -/
def EndsSmall (tolerance : Float) (records : List IterationRecord) : Prop :=
  ∃ last ∈ records.getLast?, last.residual.abs < tolerance

/-- The status of a search that ends after the records and may have made
`limit` of them. A small value comes before a narrow bracket, and this before
the limit. -/
structure Settles (tolerance : Float) (limit : Nat) (bounds : Bracket)
    (records : List IterationRecord) (status : Status) : Prop where
  count : records.length ≤ limit
  residualConverged : status = .residualConverged ↔
    EndsSmall tolerance records
  widthConverged : status = .widthConverged ↔
    ¬EndsSmall tolerance records ∧
      ¬tolerance < ((bounds.after records).b - (bounds.after records).a).abs
  iterationLimit : status = .iterationLimit ↔
    ¬EndsSmall tolerance records ∧
      tolerance < ((bounds.after records).b - (bounds.after records).a).abs
  full : status = .iterationLimit → records.length = limit

/-- A search goes on after the records, and fails at the next midpoint. -/
structure Breaks (function : RealFunction ε) (tolerance : Float) (limit : Nat)
    (bounds : Bracket) (records : List IterationRecord)
    (error : PointError ε) : Prop where
  count : records.length < limit
  large : ¬EndsSmall tolerance records
  wide :
    tolerance < ((bounds.after records).b - (bounds.after records).a).abs
  point : error.point =
    ((bounds.after records).a + (bounds.after records).b) / 2.0
  cause : function error.point = .error error.cause

/-- The results of a search of the bounds. -/
inductive Describes (function : RealFunction ε) (bounds : Bracket)
    (config : Config) : Except (Error ε) Solution → Prop
  | undefinedAtA {cause : ε} (atA : function bounds.a = .error cause) :
      Describes function bounds config (.error (.evaluation ⟨bounds.a, cause⟩))
  | undefinedAtB {valueA : Float} {cause : ε}
      (atA : function bounds.a = .ok valueA)
      (atB : function bounds.b = .error cause) :
      Describes function bounds config (.error (.evaluation ⟨bounds.b, cause⟩))
  | sameSigns {valueA valueB : Float} (atA : function bounds.a = .ok valueA)
      (atB : function bounds.b = .ok valueB)
      (same : 0.0 < valueA * valueB) :
      Describes function bounds config
        (.error (.noSignChange bounds valueA valueB))
  | undefinedAtMidpoint {valueA valueB : Float}
      {records : List IterationRecord} {error : PointError ε}
      (atA : function bounds.a = .ok valueA)
      (atB : function bounds.b = .ok valueB)
      (differ : ¬0.0 < valueA * valueB)
      (made : Consecutive function config.tolerance 1 bounds records)
      (breaks : Breaks function config.tolerance config.maxIterations bounds
        records error) :
      Describes function bounds config (.error (.evaluation error))
  | ends {valueA valueB : Float} {solution : Solution}
      (atA : function bounds.a = .ok valueA)
      (atB : function bounds.b = .ok valueB)
      (differ : ¬0.0 < valueA * valueB)
      (made : Consecutive function config.tolerance 1 bounds solution.records)
      (settles : Settles config.tolerance config.maxIterations bounds
        solution.records solution.status) :
      Describes function bounds config (.ok solution)

/-! The same for the rest of a search, which begins at any bracket. -/

def Ending.Follows (function : RealFunction ε) (tolerance : Float)
    (limit : Nat) (bounds : Bracket) (records : List IterationRecord) :
    Ending ε → Prop
  | .stopped status => Settles tolerance limit bounds records status
  | .failed error => Breaks function tolerance limit bounds records error

structure Trace.Follows (function : RealFunction ε) (tolerance : Float)
    (remaining index : Nat) (bounds : Bracket) (trace : Trace ε) : Prop where
  made : Consecutive function tolerance index bounds trace.records
  ending : trace.ending.Follows function tolerance remaining bounds
    trace.records

theorem consecutive_nil {index : Nat} {bounds : Bracket} :
    Consecutive function tolerance index bounds [] where
  iteration := nofun
  wide := nofun
  large := nofun

theorem consecutive_cons {index : Nat} {bounds : Bracket}
    {record : IterationRecord} {later : List IterationRecord} :
    Consecutive function tolerance index bounds (record :: later) ↔
      Iteration function bounds index record ∧ tolerance < record.width ∧
        (later ≠ [] → ¬record.residual.abs < tolerance) ∧
        Consecutive function tolerance (index + 1) record.narrowed later := by
  have large : (∀ other ∈ (record :: later).dropLast,
      ¬other.residual.abs < tolerance) ↔
      (later ≠ [] → ¬record.residual.abs < tolerance) ∧
        ∀ other ∈ later.dropLast, ¬other.residual.abs < tolerance := by
    cases later <;> simp
  constructor
  · intro consecutive
    refine ⟨consecutive.iteration 0 (Nat.zero_lt_succ _),
      consecutive.wide record (by simp),
      (large.mp consecutive.large).1, ?_, ?_,
      (large.mp consecutive.large).2⟩
    · intro made below
      have next := consecutive.iteration (made + 1) (by simpa using below)
      rw [List.take_succ_cons, Bracket.after_cons] at next
      rwa [Nat.add_assoc, Nat.add_comm 1]
    · exact fun other member =>
        consecutive.wide other (List.mem_cons_of_mem record member)
  · rintro ⟨first, wide, goesOn, rest⟩
    refine ⟨?_, List.forall_mem_cons.mpr ⟨wide, rest.wide⟩,
      large.mpr ⟨goesOn, rest.large⟩⟩
    intro made below
    cases made with
    | zero => simpa using first
    | succ made =>
        have next := rest.iteration made (by simpa using below)
        rw [List.take_succ_cons, Bracket.after_cons]
        rwa [Nat.add_assoc, Nat.add_comm 1] at next

@[simp] theorem not_endsSmall_nil : ¬EndsSmall tolerance [] := by
  simp [EndsSmall]

@[simp] theorem endsSmall_singleton {record : IterationRecord} :
    EndsSmall tolerance [record] ↔ record.residual.abs < tolerance := by
  simp [EndsSmall]

theorem endsSmall_cons {record : IterationRecord}
    {later : List IterationRecord}
    (large : ¬record.residual.abs < tolerance) :
    EndsSmall tolerance (record :: later) ↔ EndsSmall tolerance later := by
  cases later with
  | nil => simp [large]
  | cons next others => simp [EndsSmall, List.getLast?_cons_cons]

/-- An ending says the same of the records after one that the search goes on
after. -/
theorem Ending.follows_cons {remaining : Nat} {bounds : Bracket}
    {record : IterationRecord} {later : List IterationRecord}
    {ending : Ending ε} (large : ¬record.residual.abs < tolerance) :
    ending.Follows function tolerance (remaining + 1) bounds
        (record :: later) ↔
      ending.Follows function tolerance remaining record.narrowed later := by
  cases ending with
  | stopped status =>
      constructor
      · rintro ⟨count, residual, width, limit, full⟩
        simp only [endsSmall_cons large, Bracket.after_cons, List.length_cons,
          Nat.add_le_add_iff_right, Nat.add_right_cancel_iff]
          at count residual width limit full
        exact ⟨count, residual, width, limit, full⟩
      · rintro ⟨count, residual, width, limit, full⟩
        rw [← endsSmall_cons large] at residual width limit
        rw [← Bracket.after_cons bounds] at width limit
        exact ⟨Nat.succ_le_succ count, residual, width, limit,
          fun ended => congrArg Nat.succ (full ended)⟩
  | failed error =>
      constructor
      · rintro ⟨count, notSmall, wide, point, cause⟩
        rw [endsSmall_cons large] at notSmall
        rw [Bracket.after_cons] at wide point
        exact ⟨Nat.lt_of_succ_lt_succ count, notSmall, wide, point, cause⟩
      · rintro ⟨count, notSmall, wide, point, cause⟩
        rw [← endsSmall_cons large] at notSmall
        rw [← Bracket.after_cons bounds] at wide point
        exact ⟨Nat.succ_lt_succ count, notSmall, wide, point, cause⟩

theorem settles_nil {remaining : Nat} {bounds : Bracket} {status : Status} :
    Settles tolerance remaining bounds [] status ↔
      (status = .widthConverged ∧ ¬tolerance < bounds.width) ∨
        (status = .iterationLimit ∧ tolerance < bounds.width ∧
          remaining = 0) := by
  constructor
  · rintro ⟨-, residual, width, limit, full⟩
    simp only [not_endsSmall_nil, not_false_eq_true, true_and,
      Bracket.after_nil] at residual width limit
    by_cases wide : tolerance < bounds.width
    · exact .inr ⟨limit.mpr wide, wide, (full (limit.mpr wide)).symm⟩
    · exact .inl ⟨width.mpr wide, wide⟩
  · rintro (⟨rfl, within⟩ | ⟨rfl, wide, rfl⟩)
    · rw [Bracket.width] at within
      exact ⟨Nat.zero_le _, by simp, by simp [within], by simp [within],
        nofun⟩
    · rw [Bracket.width] at wide
      exact ⟨Nat.le_refl _, by simp, by simp [wide], by simp [wide],
        fun _ => rfl⟩

theorem breaks_nil {remaining : Nat} {bounds : Bracket}
    {error : PointError ε} :
    Breaks function tolerance remaining bounds [] error ↔
      0 < remaining ∧ tolerance < bounds.width ∧
        error.point = bounds.midpoint ∧
        function error.point = .error error.cause :=
  ⟨fun ⟨count, _, wide, point, cause⟩ => ⟨count, wide, point, cause⟩,
    fun ⟨count, wide, point, cause⟩ =>
      ⟨count, not_endsSmall_nil, wide, point, cause⟩⟩

/-- After a small value a search can only have converged. -/
theorem follows_singleton {remaining : Nat} {bounds : Bracket}
    {record : IterationRecord} {ending : Ending ε}
    (small : record.residual.abs < tolerance) :
    ending.Follows function tolerance (remaining + 1) bounds [record] ↔
      ending = .stopped .residualConverged := by
  cases ending with
  | stopped status =>
      rw [Ending.stopped.injEq]
      constructor
      · intro settles
        exact settles.residualConverged.mpr (endsSmall_singleton.mpr small)
      · rintro rfl
        exact ⟨by simp, by simp [small], by simp [small], by simp [small],
          nofun⟩
  | failed error =>
      constructor
      · intro breaks
        exact absurd (endsSmall_singleton.mpr small) breaks.large
      · nofun

theorem Iteration.bisect_eq {bracket : Bracket} {atLeft : Float} {index : Nat}
    {record : IterationRecord}
    (left : function.evaluate bracket.a = .ok atLeft)
    (iteration : Iteration function bracket index record) :
    bisect function bracket atLeft index = .ok record := by
  rcases iteration.exists_sign_eq with ⟨other, otherLeft, sign⟩
  have residual := iteration.residual
  rw [← RealFunction.evaluate_eq_ok] at residual otherLeft
  rw [iteration.midpoint_eq] at residual
  obtain rfl : atLeft = other := by
    rw [left] at otherLeft
    exact Except.ok.inj otherLeft
  simp only [bisect, residual]
  rw [← iteration.index, ← sign, ← iteration.midpoint_eq, ← iteration.searched]

/-! One case for each way the loop can go, as in `unobserved_induction`. -/

section Cases

variable {remaining index : Nat} {bracket : Bracket} {atLeft : Float}

/-- Without a record, only the bracket and the limit tell the ending. -/
theorem follows_nil {ending : Ending ε} :
    (⟨[], ending⟩ : Trace ε).Follows function tolerance remaining index
        bracket ↔
      ending.Follows function tolerance remaining bracket [] :=
  ⟨Trace.Follows.ending, fun ending => ⟨consecutive_nil, ending⟩⟩

theorem Trace.Follows.first {record : IterationRecord}
    {later : List IterationRecord} {ending : Ending ε}
    (left : function.evaluate bracket.a = .ok atLeft)
    (follows : (⟨record :: later, ending⟩ : Trace ε).Follows function
      tolerance remaining index bracket) :
    tolerance < bracket.width ∧ 0 < remaining ∧
      bisect function bracket atLeft index = .ok record := by
  rcases consecutive_cons.mp follows.made with ⟨iteration, wide, -, -⟩
  rw [IterationRecord.width, iteration.searched] at wide
  refine ⟨wide, ?_, iteration.bisect_eq left⟩
  cases ending with
  | stopped status => exact Nat.zero_lt_of_lt follows.ending.count
  | failed error => exact Nat.zero_lt_of_lt follows.ending.count

theorem follows_of_narrow (left : function.evaluate bracket.a = .ok atLeft)
    (narrow : ¬tolerance < bracket.width) (trace : Trace ε) :
    trace.Follows function tolerance remaining index bracket ↔
      trace = ⟨[], .stopped .widthConverged⟩ := by
  rcases trace with ⟨records, ending⟩
  cases records with
  | cons record later =>
      exact ⟨fun follows => absurd (follows.first left).1 narrow, nofun⟩
  | nil =>
      rw [follows_nil]
      cases ending with
      | stopped status => simp [Ending.Follows, settles_nil, narrow]
      | failed error => simp [Ending.Follows, breaks_nil, narrow]

theorem follows_zero (left : function.evaluate bracket.a = .ok atLeft)
    (wide : tolerance < bracket.width) (trace : Trace ε) :
    trace.Follows function tolerance 0 index bracket ↔
      trace = ⟨[], .stopped .iterationLimit⟩ := by
  rcases trace with ⟨records, ending⟩
  cases records with
  | cons record later =>
      exact ⟨fun follows => absurd (follows.first left).2.1 (by simp), nofun⟩
  | nil =>
      rw [follows_nil]
      cases ending with
      | stopped status => simp [Ending.Follows, settles_nil, wide]
      | failed error => simp [Ending.Follows, breaks_nil]

theorem follows_of_bisect_error {error : PointError ε}
    (left : function.evaluate bracket.a = .ok atLeft)
    (wide : tolerance < bracket.width)
    (failed : bisect function bracket atLeft index = .error error)
    (trace : Trace ε) :
    trace.Follows function tolerance (remaining + 1) index bracket ↔
      trace = ⟨[], .failed error⟩ := by
  rcases trace with ⟨records, ending⟩
  cases records with
  | cons record later =>
      refine ⟨fun follows => ?_, nofun⟩
      have made := (follows.first left).2.2
      rw [failed] at made
      cases made
  | nil =>
      rw [follows_nil]
      cases ending with
      | stopped status => simp [Ending.Follows, settles_nil, wide]
      | failed other =>
          have evaluated (found : PointError ε) :
              bisect function bracket atLeft index = .error found ↔
                function.evaluate bracket.midpoint = .error found := by
            unfold bisect
            cases function.evaluate bracket.midpoint <;> simp
          have same : bisect function bracket atLeft index = .error other ↔
              other = error := by
            simp [failed, eq_comm]
          rw [evaluated, RealFunction.evaluate_eq_error] at same
          simp only [Ending.Follows, breaks_nil, wide, true_and,
            Nat.zero_lt_succ, Trace.mk.injEq, Ending.failed.injEq, ← same]
          constructor
          · rintro ⟨point, cause⟩
            exact ⟨point, point ▸ cause⟩
          · rintro ⟨point, cause⟩
            exact ⟨point, point ▸ cause⟩

/-- A wide bracket with a value at its midpoint has a first record. -/
theorem Trace.Follows.exists_cons {record : IterationRecord} {trace : Trace ε}
    (left : function.evaluate bracket.a = .ok atLeft)
    (wide : tolerance < bracket.width)
    (made : bisect function bracket atLeft index = .ok record)
    (follows : trace.Follows function tolerance (remaining + 1) index
      bracket) :
    ∃ later, trace = ⟨record :: later, trace.ending⟩ := by
  rcases trace with ⟨records, ending⟩
  cases records with
  | cons first later =>
      have same := (follows.first left).2.2
      rw [made, Except.ok.injEq] at same
      exact ⟨later, by rw [same]⟩
  | nil =>
      rw [follows_nil] at follows
      cases ending with
      | stopped status =>
          simp [Ending.Follows, settles_nil, wide] at follows
      | failed error =>
          simp only [Ending.Follows, breaks_nil] at follows
          rcases follows with ⟨-, -, point, cause⟩
          have evaluated := (bisect_eq_ok made).1
          rw [RealFunction.evaluate_eq_ok, (bisect_eq_ok made).2.2.2.1,
            ← point, cause] at evaluated
          cases evaluated

theorem follows_of_small {record : IterationRecord}
    (left : function.evaluate bracket.a = .ok atLeft)
    (wide : tolerance < bracket.width)
    (made : bisect function bracket atLeft index = .ok record)
    (small : record.residual.abs < tolerance) (trace : Trace ε) :
    trace.Follows function tolerance (remaining + 1) index bracket ↔
      trace = ⟨[record], .stopped .residualConverged⟩ := by
  have iteration := Iteration.of_bisect left made
  constructor
  · intro follows
    rcases follows.exists_cons left wide made with ⟨later, same⟩
    rw [same] at follows ⊢
    cases later with
    | cons next others =>
        exact absurd small ((consecutive_cons.mp follows.made).2.2.1 nofun)
    | nil =>
        have ended := (follows_singleton small).mp follows.ending
        exact congrArg (Trace.mk [record]) ended
  · rintro rfl
    refine ⟨consecutive_cons.mpr ⟨iteration, ?_, nofun, consecutive_nil⟩,
      (follows_singleton small).mpr rfl⟩
    rwa [IterationRecord.width, iteration.searched]

theorem follows_of_large {record : IterationRecord}
    (left : function.evaluate bracket.a = .ok atLeft)
    (wide : tolerance < bracket.width)
    (made : bisect function bracket atLeft index = .ok record)
    (large : ¬record.residual.abs < tolerance) (trace : Trace ε) :
    trace.Follows function tolerance (remaining + 1) index bracket ↔
      ∃ rest : Trace ε, trace = rest.precededBy record ∧
        rest.Follows function tolerance remaining (index + 1)
          record.narrowed := by
  have iteration := Iteration.of_bisect left made
  constructor
  · intro follows
    rcases follows.exists_cons left wide made with ⟨later, same⟩
    rw [same] at follows
    refine ⟨⟨later, trace.ending⟩, same,
      (consecutive_cons.mp follows.made).2.2.2, ?_⟩
    exact (Ending.follows_cons large).mp follows.ending
  · rintro ⟨rest, rfl, follows⟩
    refine ⟨consecutive_cons.mpr ⟨iteration, ?_, fun _ => large,
      follows.made⟩, (Ending.follows_cons large).mpr follows.ending⟩
    rwa [IterationRecord.width, iteration.searched]

end Cases

/-- A search that is under way gives the one trace that fits. -/
theorem follows_iff {remaining index : Nat} {bracket : Bracket}
    {atLeft : Float} (left : function.evaluate bracket.a = .ok atLeft)
    (trace : Trace ε) :
    trace.Follows function tolerance remaining index bracket ↔
      trace = unobserved function tolerance remaining index bracket atLeft := by
  refine unobserved_induction
    (motive := fun remaining index bracket atLeft made =>
      function.evaluate bracket.a = .ok atLeft → ∀ trace : Trace ε,
        trace.Follows function tolerance remaining index bracket ↔
          trace = made)
    ?within ?limit ?failed ?converged ?further remaining index bracket atLeft
    left trace
  case within =>
      intro remaining index bracket atLeft within left trace
      rw [Bracket.isWithin_eq_true_iff] at within
      exact follows_of_narrow left within trace
  case limit =>
      intro index bracket atLeft wide left trace
      rw [Bracket.isWithin_eq_false_iff] at wide
      exact follows_zero left wide trace
  case failed =>
      intro remaining index bracket atLeft error wide failed left trace
      rw [Bracket.isWithin_eq_false_iff] at wide
      exact follows_of_bisect_error left wide failed trace
  case converged =>
      intro remaining index bracket atLeft record wide made small left trace
      rw [Bracket.isWithin_eq_false_iff] at wide
      exact follows_of_small left wide made small trace
  case further =>
      intro remaining index bracket atLeft record wide made large induction
        left trace
      rw [Bracket.isWithin_eq_false_iff] at wide
      have next := ((Standing.start left).next made).atLeft
      rw [follows_of_large left wide made large]
      constructor
      · rintro ⟨rest, rfl, follows⟩
        rw [(induction next rest).mp follows]
      · rintro rfl
        exact ⟨_, rfl, (induction next _).mpr rfl⟩

variable {bounds : Bracket} {config : Config}

theorem solveUnobserved_undefinedAtA {cause : ε}
    (atA : function bounds.a = .error cause) :
    solveUnobserved function bounds config =
      .error (.evaluation ⟨bounds.a, cause⟩) := by
  apply solveUnobserved_of_checkSignChange_error
  simp [checkSignChange, RealFunction.evaluate, atA]

theorem solveUnobserved_undefinedAtB {valueA : Float} {cause : ε}
    (atA : function bounds.a = .ok valueA)
    (atB : function bounds.b = .error cause) :
    solveUnobserved function bounds config =
      .error (.evaluation ⟨bounds.b, cause⟩) := by
  apply solveUnobserved_of_checkSignChange_error
  simp [checkSignChange, RealFunction.evaluate, atA, atB]

theorem solveUnobserved_sameSigns {valueA valueB : Float}
    (atA : function bounds.a = .ok valueA)
    (atB : function bounds.b = .ok valueB) (same : 0.0 < valueA * valueB) :
    solveUnobserved function bounds config =
      .error (.noSignChange bounds valueA valueB) := by
  apply solveUnobserved_of_checkSignChange_error
  simp [checkSignChange, RealFunction.evaluate, atA, atB, same]

theorem solveUnobserved_accepted {valueA valueB : Float}
    (atA : function bounds.a = .ok valueA)
    (atB : function bounds.b = .ok valueB) (differ : ¬0.0 < valueA * valueB) :
    solveUnobserved function bounds config =
      (unobserved function config.tolerance config.maxIterations 1 bounds
        valueA).outcome := by
  have checked : checkSignChange function bounds = .ok (valueA, valueB) := by
    simp [checkSignChange, RealFunction.evaluate, atA, atB, differ]
  rw [solveUnobserved_of_checkSignChange checked, searchFrom_eq]

/-- A trace that fits after the sign check is the one whose outcome the search
gives. -/
theorem solveUnobserved_of_follows (trace : Trace ε) {valueA valueB : Float}
    (atA : function bounds.a = .ok valueA)
    (atB : function bounds.b = .ok valueB) (differ : ¬0.0 < valueA * valueB)
    (follows : trace.Follows function config.tolerance config.maxIterations 1
      bounds) :
    solveUnobserved function bounds config = trace.outcome := by
  rw [solveUnobserved_accepted atA atB differ,
    (follows_iff (RealFunction.evaluate_eq_ok.mpr atA) trace).mp follows]

theorem Describes.of_follows {valueA valueB : Float} {trace : Trace ε}
    (atA : function bounds.a = .ok valueA)
    (atB : function bounds.b = .ok valueB) (differ : ¬0.0 < valueA * valueB)
    (follows : trace.Follows function config.tolerance config.maxIterations 1
      bounds) :
    Describes function bounds config trace.outcome := by
  rcases trace with ⟨records, ending⟩
  cases ending with
  | stopped status =>
      change Describes function bounds config (.ok ⟨records, status⟩)
      exact .ends atA atB differ follows.made follows.ending
  | failed error =>
      exact .undefinedAtMidpoint atA atB differ follows.made follows.ending

theorem describes_solveUnobserved :
    Describes function bounds config
      (solveUnobserved function bounds config) := by
  cases atA : function bounds.a with
  | error cause =>
      rw [solveUnobserved_undefinedAtA atA]
      exact .undefinedAtA atA
  | ok valueA =>
      cases atB : function bounds.b with
      | error cause =>
          rw [solveUnobserved_undefinedAtB atA atB]
          exact .undefinedAtB atA atB
      | ok valueB =>
          by_cases same : 0.0 < valueA * valueB
          · rw [solveUnobserved_sameSigns atA atB same]
            exact .sameSigns atA atB same
          · rw [solveUnobserved_accepted atA atB same]
            have left := RealFunction.evaluate_eq_ok.mpr atA
            exact .of_follows atA atB same ((follows_iff left _).mpr rfl)

/-- A search that nobody observes gives the result that the bounds, the
function and the configuration describe, and no other result is described. -/
theorem solveUnobserved_eq_iff_describes (function : RealFunction ε)
    (bounds : Bracket) (config : Config)
    (result : Except (Error ε) Solution) :
    solveUnobserved function bounds config = result ↔
      Describes function bounds config result := by
  constructor
  · rintro rfl
    exact describes_solveUnobserved
  · intro describes
    cases describes with
    | undefinedAtA atA => exact solveUnobserved_undefinedAtA atA
    | undefinedAtB atA atB => exact solveUnobserved_undefinedAtB atA atB
    | sameSigns atA atB same => exact solveUnobserved_sameSigns atA atB same
    | @undefinedAtMidpoint _ _ records error atA atB differ made breaks =>
        exact solveUnobserved_of_follows ⟨records, .failed error⟩ atA atB
          differ ⟨made, breaks⟩
    | @ends _ _ solution atA atB differ made settles =>
        exact solveUnobserved_of_follows
          ⟨solution.records, .stopped solution.status⟩ atA atB differ
          ⟨made, settles⟩

end Bisection

end RootFinding
