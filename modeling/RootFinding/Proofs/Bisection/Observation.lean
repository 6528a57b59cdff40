import RootFinding.Proofs.Bisection.Stepwise

/-! Searches that an observer watches. Observing does not change what a search
does: the observer is told of the records that the search would make anyway,
and can only cut them off. -/

namespace RootFinding

namespace Bisection

namespace Observer

variable {σ : Type}

/-- The state of an observer that has been told of some records. -/
def told (observe : Observer σ) (state : σ) (records : List IterationRecord) :
    σ :=
  records.foldl (fun state record => (observe record state).2) state

/-- An observer that is told of the records one after another asks for the end
of the search at this place. -/
def Stops (observe : Observer σ) (state : σ) (records : List IterationRecord)
    (place : Nat) : Prop :=
  ∃ record, records[place]? = some record ∧
    (observe record (observe.told state (records.take place))).1 =
      some .stopEarly

structure StopsFirst (observe : Observer σ) (state : σ)
    (records : List IterationRecord) (place : Nat) : Prop where
  stops : observe.Stops state records place
  earlier : ∀ other < place, ¬observe.Stops state records other

/-- The same observer, which also lists the records that it is told of. -/
def listing (observe : Observer σ) : Observer (σ × List IterationRecord) :=
  fun record (state, seen) =>
    let (action, next) := observe record state
    (action, (next, seen ++ [record]))

variable {observe : Observer σ} {state : σ} {record : IterationRecord}
  {records later : List IterationRecord} {place : Nat}

@[simp] theorem told_nil : observe.told state [] = state :=
  rfl

@[simp] theorem told_cons :
    observe.told state (record :: later) =
      observe.told (observe record state).2 later :=
  rfl

theorem not_stops_nil : ¬observe.Stops state [] place := by
  rintro ⟨record, none, -⟩
  simp at none

theorem stops_cons_zero :
    observe.Stops state (record :: later) 0 ↔
      (observe record state).1 = some .stopEarly := by
  simp [Stops]

theorem stops_cons_succ :
    observe.Stops state (record :: later) (place + 1) ↔
      observe.Stops (observe record state).2 later place := by
  simp [Stops]

theorem told_listing (seen : List IterationRecord) :
    observe.listing.told (state, seen) records =
      (observe.told state records, seen ++ records) := by
  induction records generalizing state seen with
  | nil => simp
  | cons record later induction => simp [listing, induction]

/-- Keeping a list makes no difference to where an observer stops. -/
theorem stops_listing (seen : List IterationRecord) :
    observe.listing.Stops (state, seen) records place ↔
      observe.Stops state records place := by
  simp only [Stops, told_listing, listing]

theorem StopsFirst.listing (first : observe.StopsFirst state records place)
    (seen : List IterationRecord) :
    observe.listing.StopsFirst (state, seen) records place where
  stops := (stops_listing seen).mpr first.stops
  earlier := fun other before stops =>
    first.earlier other before ((stops_listing seen).mp stops)

theorem StopsFirst.of_cons
    (first : observe.StopsFirst state (record :: later) (place + 1)) :
    observe.StopsFirst (observe record state).2 later place where
  stops := stops_cons_succ.mp first.stops
  earlier := fun other before stops =>
    first.earlier (other + 1) (Nat.succ_lt_succ before)
      (stops_cons_succ.mpr stops)

end Observer

variable {ε σ : Type} {function : RealFunction ε} {observe : Observer σ}
  {state : σ} {ending : Ending ε} {records : List IterationRecord}

/-- What is left of a search with the given records and ending when an observer
watches it, and the state that the observer is left in. -/
def watch (observe : Observer σ) (ending : Ending ε) :
    List IterationRecord → σ → Trace ε × σ
  | [], state => (⟨[], ending⟩, state)
  | record :: later, state =>
      match observe record state with
      | (some .stopEarly, next) =>
          (⟨[record], .stopped .stoppedByObserver⟩, next)
      | (none, next) =>
          let (trace, final) := watch observe ending later next
          (trace.precededBy record, final)

theorem watch_cons_of_stops {record : IterationRecord}
    {later : List IterationRecord}
    (stops : (observe record state).1 = some .stopEarly) :
    watch observe ending (record :: later) state =
      (⟨[record], .stopped .stoppedByObserver⟩, (observe record state).2) := by
  rcases observed : observe record state with ⟨action, next⟩
  rw [observed] at stops
  cases stops
  simp [watch, observed]

theorem watch_cons_of_goesOn {record : IterationRecord}
    {later : List IterationRecord}
    (goesOn : ¬(observe record state).1 = some .stopEarly) :
    watch observe ending (record :: later) state =
      ((watch observe ending later (observe record state).2).1.precededBy
          record,
        (watch observe ending later (observe record state).2).2) := by
  rcases observed : observe record state with ⟨action, next⟩
  cases action with
  | none => simp [watch, observed]
  | some action => cases action; simp [observed] at goesOn

theorem iterate_of_goesOn {tolerance : Float} {remaining index : Nat}
    {bracket : Bracket} {atLeft : Float} {record : IterationRecord} {next : σ}
    (wide : bracket.isWithin tolerance = false)
    (made : bisect function bracket atLeft index = .ok record)
    (observed : observe record state = (none, next))
    (large : ¬record.residual.abs < tolerance) :
    iterate function tolerance observe (remaining + 1) index bracket atLeft
        state =
      ((iterate function tolerance observe remaining (index + 1)
          record.narrowed (record.nextAtLeft atLeft) next).1.precededBy record,
        (iterate function tolerance observe remaining (index + 1)
          record.narrowed (record.nextAtLeft atLeft) next).2) := by
  simp [iterate, wide, made, observed, large]
  constructor <;> rfl

/-- The loop that tells an observer of its records makes the records of the
loop that tells nobody, as long as it is not stopped. -/
theorem iterate_eq_watch {tolerance : Float} (remaining index : Nat)
    (bracket : Bracket) (atLeft : Float) (state : σ) :
    iterate function tolerance observe remaining index bracket atLeft state =
      watch observe
        (unobserved function tolerance remaining index bracket atLeft).ending
        (unobserved function tolerance remaining index bracket atLeft).records
        state := by
  refine unobserved_induction
    (motive := fun remaining index bracket atLeft trace => ∀ state,
      iterate function tolerance observe remaining index bracket atLeft
          state =
        watch observe trace.ending trace.records state)
    ?within ?limit ?failed ?converged ?further remaining index bracket atLeft
    state
  case within =>
      intro remaining index bracket atLeft within state
      cases remaining with
      | zero => simp [iterate, exhaustedStatus, within, watch]
      | succ remaining => simp [iterate, within, watch]
  case limit =>
      intro index bracket atLeft wide state
      simp [iterate, exhaustedStatus, wide, watch]
  case failed =>
      intro remaining index bracket atLeft error wide failed state
      simp [iterate, wide, failed, watch]
  case converged =>
      intro remaining index bracket atLeft record wide made small state
      rcases observed : observe record state with ⟨action, next⟩
      cases action with
      | none =>
          simp [iterate, wide, made, small, watch, observed, Trace.precededBy]
      | some action => cases action; simp [iterate, wide, made, watch, observed]
  case further =>
      intro remaining index bracket atLeft record wide made large induction
        state
      rcases observed : observe record state with ⟨action, next⟩
      cases action with
      | none =>
          rw [iterate_of_goesOn wide made observed large, induction next]
          simp [watch, observed, Trace.precededBy]
      | some action =>
          cases action
          simp [iterate, wide, made, watch, observed, Trace.precededBy]

/-- The first stop cuts the records off behind it, whatever comes later. -/
theorem watch_of_stopsFirst {place : Nat}
    (first : observe.StopsFirst state records place) :
    watch observe ending records state =
      (⟨records.take (place + 1), .stopped .stoppedByObserver⟩,
        observe.told state (records.take (place + 1))) := by
  induction records generalizing state place with
  | nil => exact absurd first.stops Observer.not_stops_nil
  | cons record later induction =>
      cases place with
      | zero =>
          have stops := Observer.stops_cons_zero.mp first.stops
          simpa using watch_cons_of_stops stops
      | succ place =>
          have goesOn := mt Observer.stops_cons_zero.mpr
            (first.earlier 0 (Nat.zero_lt_succ place))
          rw [watch_cons_of_goesOn goesOn, induction first.of_cons]
          simp [Trace.precededBy]

theorem watch_of_not_stops
    (quiet : ∀ place, ¬observe.Stops state records place) :
    watch observe ending records state =
      (⟨records, ending⟩, observe.told state records) := by
  induction records generalizing state with
  | nil => rfl
  | cons record later induction =>
      have goesOn := mt Observer.stops_cons_zero.mpr (quiet 0)
      have quietLater : ∀ place,
          ¬observe.Stops (observe record state).2 later place :=
        fun place stops => quiet (place + 1)
          (Observer.stops_cons_succ.mpr stops)
      rw [watch_cons_of_goesOn goesOn, induction quietLater]
      rfl

variable {bounds : Bracket} {config : Config}

theorem solve_of_checkSignChange {atLeft atRight : Float}
    (checked : checkSignChange function bounds = .ok (atLeft, atRight)) :
    solve function bounds config observe state =
      ((watch observe (searchFrom function bounds config atLeft).ending
          (recordsMade function bounds config) state).1.outcome,
        (watch observe (searchFrom function bounds config atLeft).ending
          (recordsMade function bounds config) state).2) := by
  rw [recordsMade_of_checkSignChange checked, searchFrom_eq,
    ← iterate_eq_watch]
  simp [solve, checked, traceFrom]

theorem solve_of_stopsFirst {place : Nat}
    (first : observe.StopsFirst state (recordsMade function bounds config)
      place) :
    solve function bounds config observe state =
      (.ok ⟨(recordsMade function bounds config).take (place + 1),
          .stoppedByObserver⟩,
        observe.told state
          ((recordsMade function bounds config).take (place + 1))) := by
  cases checked : checkSignChange function bounds with
  | error error =>
      have stops := first.stops
      rw [recordsMade_of_checkSignChange_error checked] at stops
      exact absurd stops Observer.not_stops_nil
  | ok values =>
      rcases values with ⟨atLeft, atRight⟩
      rw [solve_of_checkSignChange checked, watch_of_stopsFirst first]
      rfl

theorem solve_of_not_stops
    (quiet : ∀ place,
      ¬observe.Stops state (recordsMade function bounds config) place) :
    solve function bounds config observe state =
      (solveUnobserved function bounds config,
        observe.told state (recordsMade function bounds config)) := by
  cases checked : checkSignChange function bounds with
  | error error =>
      rw [solveUnobserved_of_checkSignChange_error checked,
        recordsMade_of_checkSignChange_error checked]
      simp [solve, checked]
  | ok values =>
      rcases values with ⟨atLeft, atRight⟩
      rw [solve_of_checkSignChange checked, watch_of_not_stops quiet,
        solveUnobserved_of_checkSignChange checked,
        recordsMade_of_checkSignChange checked]

/-- A search that an observer watches gives a result. The observer has been
called on the records in a list, one after another and once each, and on
nothing else. -/
structure Observed (function : RealFunction ε) (bounds : Bracket)
    (config : Config) (observe : Observer σ) (state : σ)
    (seen : List IterationRecord) (result : Except (Error ε) Solution) :
    Prop where
  result : (solve function bounds config observe state).1 = result
  calls : (solve function bounds config observe.listing (state, [])).2.2 = seen
  final : (solve function bounds config observe state).2 =
    observe.told state seen

/-- A search is observed up to the first record at which it is stopped, and to
its own end or failure if it is never stopped. -/
theorem observation_keeps_records (function : RealFunction ε)
    (bounds : Bracket) (config : Config) (observe : Observer σ) (state : σ) :
    (∀ place, observe.StopsFirst state (recordsMade function bounds config)
        place →
      Observed function bounds config observe state
        ((recordsMade function bounds config).take (place + 1))
        (.ok ⟨(recordsMade function bounds config).take (place + 1),
          .stoppedByObserver⟩)) ∧
    ((∀ place,
        ¬observe.Stops state (recordsMade function bounds config) place) →
      Observed function bounds config observe state
        (recordsMade function bounds config)
        (solveUnobserved function bounds config)) := by
  constructor
  · intro place first
    have listed := solve_of_stopsFirst (first.listing [])
    rw [Observer.told_listing, List.nil_append] at listed
    constructor
    · rw [solve_of_stopsFirst first]
    · rw [listed]
    · rw [solve_of_stopsFirst first]
  · intro quiet
    have listed := solve_of_not_stops fun place stops =>
      quiet place ((Observer.stops_listing []).mp stops)
    rw [Observer.told_listing, List.nil_append] at listed
    constructor
    · rw [solve_of_not_stops quiet]
    · rw [listed]
    · rw [solve_of_not_stops quiet]

/-- The search fails after one record. An observer that stops it there has its
solution all the same, and one that waits for a second record sees the first
and the failure. -/
theorem observation_keeps_records_puncturedLine :
    let bounds : Bracket := ⟨0.0, 1.0⟩
    let config : Config := ⟨1e-3, 10⟩
    let first : IterationRecord := ⟨1, bounds, 0.5, .positive, 0.5 - 0.7⟩
    let stopping := Observer.stoppingAt (some 1) none
    let waiting := Observer.stoppingAt (some 2) none
    recordsMade puncturedLine bounds config = [first] ∧
      solveUnobserved puncturedLine bounds config =
        .error (.evaluation ⟨0.75, ()⟩) ∧
      stopping.StopsFirst [] (recordsMade puncturedLine bounds config) 0 ∧
      Observed puncturedLine bounds config stopping [] [first]
        (.ok ⟨[first], .stoppedByObserver⟩) ∧
      (∀ place, ¬waiting.Stops [] (recordsMade puncturedLine bounds config)
        place) ∧
      Observed puncturedLine bounds config waiting [] [first]
        (.error (.evaluation ⟨0.75, ()⟩)) := by
  intro bounds config first stopping waiting
  have made : recordsMade puncturedLine bounds config = [first] := by
    decide +kernel
  have failed : solveUnobserved puncturedLine bounds config =
      .error (.evaluation ⟨0.75, ()⟩) :=
    Outcome.eq_error_of_error? (by decide +kernel)
  have stops : stopping.StopsFirst []
      (recordsMade puncturedLine bounds config) 0 := by
    rw [made]
    exact ⟨Observer.stops_cons_zero.mpr rfl, nofun⟩
  have quiet : ∀ place,
      ¬waiting.Stops [] (recordsMade puncturedLine bounds config) place := by
    rw [made]
    intro place found
    cases place with
    | zero => cases Observer.stops_cons_zero.mp found
    | succ place =>
        exact Observer.not_stops_nil (Observer.stops_cons_succ.mp found)
  have cut := (observation_keeps_records puncturedLine bounds config stopping
    []).1 0 stops
  have whole := (observation_keeps_records puncturedLine bounds config waiting
    []).2 quiet
  rw [made] at cut whole
  rw [failed] at whole
  exact ⟨made, failed, stops, cut, quiet, whole⟩

end Bisection

end RootFinding
