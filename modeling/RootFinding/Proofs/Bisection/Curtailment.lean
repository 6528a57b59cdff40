import RootFinding.Proofs.Bisection.Specification
import RootFinding.Proofs.Order

/-! Searches with a greater tolerance or fewer iterations. The configuration
decides when a search ends, and has no say in what its records hold. -/

namespace RootFinding

theorem Bracket.wide_of_le {bracket : Bracket} {smaller tolerance : Float}
    (atMost : smaller ≤ tolerance)
    (wide : bracket.isWithin tolerance = false) :
    bracket.isWithin smaller = false := by
  rw [isWithin_eq_false_iff] at wide ⊢
  exact float_lt_of_le_of_lt atMost wide

namespace Bisection

variable {ε : Type} {function : RealFunction ε} {tolerance smaller : Float}

/-- A search stops somewhere along another one, or is the same to its end. -/
structure Trace.Curtails (short long : Trace ε) : Prop where
  records : short.records <+: long.records
  ending : (∃ status, short.ending = .stopped status) ∨ short = long

theorem Trace.Curtails.of_stopped {short long : Trace ε} {status : Status}
    (records : short.records <+: long.records)
    (stopped : short.ending = .stopped status) : short.Curtails long :=
  ⟨records, .inl ⟨status, stopped⟩⟩

theorem Trace.Curtails.precededBy {short long : Trace ε}
    (curtails : short.Curtails long) (record : IterationRecord) :
    (short.precededBy record).Curtails (long.precededBy record) where
  records := List.cons_prefix_cons.mpr ⟨rfl, curtails.records⟩
  ending := by
    rcases curtails.ending with stopped | same
    · exact .inl stopped
    · exact .inr (congrArg (Trace.precededBy record) same)

theorem large_of_le {record : IterationRecord} (atMost : smaller ≤ tolerance)
    (large : ¬record.residual.abs < tolerance) :
    ¬record.residual.abs < smaller :=
  fun small => large (float_lt_of_lt_of_le small atMost)

/-- Less tolerance and more iterations leave every record in its place. -/
theorem unobserved_curtails {remaining more index : Nat} {bracket : Bracket}
    {atLeft : Float} (fewer : remaining ≤ more)
    (atMost : smaller ≤ tolerance) :
    (unobserved function tolerance remaining index bracket atLeft).Curtails
      (unobserved function smaller more index bracket atLeft) := by
  -- The induction is along the short search. Its first end leaves no more to
  -- show of the long one.
  refine unobserved_induction
    (motive := fun remaining index bracket atLeft short =>
      ∀ more, remaining ≤ more →
        short.Curtails (unobserved function smaller more index bracket atLeft))
    ?within ?limit ?failed ?converged ?further remaining index bracket atLeft
    more fewer
  case within =>
      intro remaining index bracket atLeft within more fewer
      exact .of_stopped List.nil_prefix rfl
  case limit =>
      intro index bracket atLeft wide more fewer
      exact .of_stopped List.nil_prefix rfl
  case failed =>
      intro remaining index bracket atLeft error wide failed more fewer
      rcases Nat.exists_eq_add_of_lt fewer with ⟨extra, rfl⟩
      rw [unobserved_failed (Bracket.wide_of_le atMost wide) failed]
      exact ⟨List.nil_prefix, .inr rfl⟩
  case converged =>
      intro remaining index bracket atLeft record wide made small more fewer
      rcases Nat.exists_eq_add_of_lt fewer with ⟨extra, rfl⟩
      have wideToo := Bracket.wide_of_le atMost wide
      refine .of_stopped ?_ rfl
      by_cases smallToo : record.residual.abs < smaller
      · rw [unobserved_converged wideToo made smallToo]
      · rw [unobserved_further wideToo made smallToo]
        exact List.cons_prefix_cons.mpr ⟨rfl, List.nil_prefix⟩
  case further =>
      intro remaining index bracket atLeft record wide made large induction
        more fewer
      rcases Nat.exists_eq_add_of_lt fewer with ⟨extra, rfl⟩
      rw [unobserved_further (Bracket.wide_of_le atMost wide) made
        (large_of_le atMost large)]
      exact (induction _ (by omega)).precededBy record

/-- With no more tolerance, a limit that a search passes is where it ends. -/
theorem unobserved_limited {remaining more index : Nat} {bracket : Bracket}
    {atLeft : Float} (atMost : smaller ≤ tolerance)
    (passed : remaining <
      (unobserved function tolerance more index bracket
        atLeft).records.length) :
    unobserved function smaller remaining index bracket atLeft =
      ⟨(unobserved function tolerance more index bracket atLeft).records.take
        remaining, .stopped .iterationLimit⟩ := by
  refine unobserved_induction
    (motive := fun more index bracket atLeft long =>
      ∀ remaining < long.records.length,
        unobserved function smaller remaining index bracket atLeft =
          ⟨long.records.take remaining, .stopped .iterationLimit⟩)
    ?within ?limit ?failed ?converged ?further more index bracket atLeft
    remaining passed
  case within => nofun
  case limit => nofun
  case failed => nofun
  case converged =>
      intro more index bracket atLeft record wide made small remaining passed
      obtain rfl : remaining = 0 := by simpa using passed
      rw [unobserved_zero (Bracket.wide_of_le atMost wide)]
      rfl
  case further =>
      intro more index bracket atLeft record wide made large induction
        remaining passed
      have wideToo := Bracket.wide_of_le atMost wide
      cases remaining with
      | zero =>
          rw [unobserved_zero wideToo]
          rfl
      | succ remaining =>
          have later := induction remaining (Nat.lt_of_succ_lt_succ passed)
          rw [unobserved_further wideToo made (large_of_le atMost large),
            later]
          rfl

variable {bounds : Bracket} {short long : Config}

/-- What a configuration that allows less makes of a search. -/
structure Shortens (function : RealFunction ε) (bounds : Bracket)
    (short long : Config) : Prop where
  records : recordsMade function bounds short <+:
    recordsMade function bounds long
  solution : ∀ solution,
    solveUnobserved function bounds long = .ok solution →
      ∃ shorter, solveUnobserved function bounds short = .ok shorter ∧
        shorter.records <+: solution.records
  failure : ∀ error, solveUnobserved function bounds long = .error error →
    solveUnobserved function bounds short = .error error ∨
      ∃ shorter, solveUnobserved function bounds short = .ok shorter ∧
        shorter.records <+: recordsMade function bounds long
  limit : (short.tolerance == long.tolerance) = true →
    short.maxIterations < (recordsMade function bounds long).length →
      ∃ shorter, solveUnobserved function bounds short = .ok shorter ∧
        shorter.status = .iterationLimit ∧
        shorter.records.length = short.maxIterations

theorem searchFrom_curtails {atLeft : Float}
    (fewer : short.maxIterations ≤ long.maxIterations)
    (atMost : long.tolerance ≤ short.tolerance) :
    (searchFrom function bounds short atLeft).Curtails
      (searchFrom function bounds long atLeft) := by
  rw [searchFrom_eq, searchFrom_eq]
  exact unobserved_curtails fewer atMost

theorem Trace.Curtails.outcome {short long : Trace ε}
    (curtails : short.Curtails long) :
    (∃ shorter, short.outcome = .ok shorter ∧
        shorter.records <+: long.records) ∨
      short.outcome = long.outcome := by
  rcases curtails.ending with ⟨status, stopped⟩ | same
  · refine .inl ⟨⟨short.records, status⟩, ?_, curtails.records⟩
    simp [Trace.outcome, stopped]
  · exact .inr (congrArg Trace.outcome same)

/-- Every configuration leads to the same records, and only to more or fewer
of them. -/
theorem smaller_configuration_shortens
    (fewer : short.maxIterations ≤ long.maxIterations)
    (atMost : long.tolerance ≤ short.tolerance) :
    Shortens function bounds short long := by
  cases checked : checkSignChange function bounds with
  | error error =>
      have noRecords (config : Config) :
          recordsMade function bounds config = [] :=
        recordsMade_of_checkSignChange_error checked
      have fails (config : Config) :
          solveUnobserved function bounds config = .error error :=
        solveUnobserved_of_checkSignChange_error checked
      constructor
      case records => rw [noRecords, noRecords]
      case solution =>
          intro solution solved
          rw [fails] at solved
          cases solved
      case failure =>
          intro other failed
          rw [fails] at failed ⊢
          exact .inl failed
      case limit =>
          intro equal passed
          rw [noRecords] at passed
          cases passed
  | ok values =>
      rcases values with ⟨atLeft, atRight⟩
      have curtails : (searchFrom function bounds short atLeft).Curtails
          (searchFrom function bounds long atLeft) :=
        searchFrom_curtails fewer atMost
      have made (config : Config) : recordsMade function bounds config =
          (searchFrom function bounds config atLeft).records :=
        recordsMade_of_checkSignChange checked
      have gives (config : Config) : solveUnobserved function bounds config =
          (searchFrom function bounds config atLeft).outcome :=
        solveUnobserved_of_checkSignChange checked
      have outcome := curtails.outcome
      rw [← gives, ← gives, ← made] at outcome
      constructor
      case records =>
          rw [made, made]
          exact curtails.records
      case solution =>
          intro solution solved
          rcases outcome with ⟨shorter, shorterSolved, kept⟩ | same
          · rw [recordsMade_of_solveUnobserved solved] at kept
            exact ⟨shorter, shorterSolved, kept⟩
          · exact ⟨solution, same.trans solved, List.prefix_rfl⟩
      case failure =>
          intro error failed
          rcases outcome with shorter | same
          · exact .inr shorter
          · exact .inl (same.trans failed)
      case limit =>
          intro equal passed
          rw [made, searchFrom_eq] at passed
          have limited := unobserved_limited (float_le_of_beq equal) passed
          rw [gives, searchFrom_eq, limited]
          exact ⟨_, rfl, rfl, List.length_take_of_le passed.le⟩

/-- The greater tolerance ends the search before the point where it fails. -/
theorem smaller_configuration_shortens_puncturedLine :
    let bounds : Bracket := ⟨0.0, 1.0⟩
    let short : Config := ⟨0.5, 4⟩
    let long : Config := ⟨1e-3, 10⟩
    short.maxIterations ≤ long.maxIterations ∧
      long.tolerance ≤ short.tolerance ∧
      solveUnobserved puncturedLine bounds long =
        .error (.evaluation ⟨0.75, ()⟩) ∧
      solveUnobserved puncturedLine bounds short =
        .ok ⟨[⟨1, bounds, 0.5, .positive, 0.5 - 0.7⟩], .residualConverged⟩ ∧
      Shortens puncturedLine bounds short long := by
  intro bounds short long
  have fewer : short.maxIterations ≤ long.maxIterations := by decide
  have atMost : long.tolerance ≤ short.tolerance := by decide +kernel
  exact ⟨fewer, atMost, Outcome.eq_error_of_error? (by decide +kernel),
    Outcome.eq_ok_of_toOption (by decide +kernel),
    smaller_configuration_shortens fewer atMost⟩

end Bisection

end RootFinding
