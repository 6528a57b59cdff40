import RootFinding.Bisection.Basic

/-! Whole searches. A trace holds every record of a search, also when the
function fails after some of them. -/

namespace RootFinding

namespace Bisection

inductive Ending (ε : Type) where
  | stopped (status : Status)
  | failed (error : PointError ε)
deriving DecidableEq, Repr

structure Trace (ε : Type) where
  records : List IterationRecord
  ending : Ending ε
deriving DecidableEq, Repr

namespace Trace

def precededBy (record : IterationRecord) (trace : Trace ε) : Trace ε :=
  { trace with records := record :: trace.records }

/-- A search that fails gives none of its records. -/
def outcome (trace : Trace ε) : Except (Error ε) Solution :=
  match trace.ending with
  | .stopped status => .ok ⟨trace.records, status⟩
  | .failed error => .error (.evaluation error)

end Trace

/-! An observer is told each record when it is made, and may end the search. -/

inductive Action where
  | stopEarly
deriving DecidableEq, Repr

abbrev Observer (σ : Type) := IterationRecord → σ → Option Action × σ

def Observer.silent : Observer Unit :=
  fun _ state => (none, state)

/-- Keeps the records in the order they come, and ends the search at an index
or at a value of a small enough size. -/
def Observer.stoppingAt (index : Option Nat) (residual : Option Float) :
    Observer (List IterationRecord) :=
  fun record seen =>
    let stops := index.any (record.index ≥ ·) ||
      residual.any (record.residual.abs ≤ ·)
    (if stops then some .stopEarly else none, seen ++ [record])

/-- The status of a search that has no iteration left. -/
def exhaustedStatus (bracket : Bracket) (tolerance : Float) : Status :=
  if bracket.isWithin tolerance then .widthConverged else .iterationLimit

/-- The rest of a search: `remaining` iterations are left, the next has the
number `index`, and `atLeft` is the value at the left end of the bracket. -/
def iterate (function : RealFunction ε) (tolerance : Float)
    (observe : Observer σ) :
    (remaining index : Nat) → Bracket → (atLeft : Float) → σ → Trace ε × σ
  | 0, _, bracket, _, state =>
      (⟨[], .stopped (exhaustedStatus bracket tolerance)⟩, state)
  | remaining + 1, index, bracket, atLeft, state =>
      if bracket.isWithin tolerance then
        (⟨[], .stopped .widthConverged⟩, state)
      else
        match bisect function bracket atLeft index with
        | .error error => (⟨[], .failed error⟩, state)
        | .ok record =>
            match observe record state with
            | (some .stopEarly, state) =>
                (⟨[record], .stopped .stoppedByObserver⟩, state)
            | (none, state) =>
                if record.residual.abs < tolerance then
                  (⟨[record], .stopped .residualConverged⟩, state)
                else
                  let nextAtLeft := match record.sign with
                    | .positive => record.residual
                    | .negative => atLeft
                  let (trace, state) :=
                    iterate function tolerance observe remaining (index + 1)
                      record.narrowed nextAtLeft state
                  (trace.precededBy record, state)

/-- The whole search after the sign check, with the state that the observer
ends in. -/
def traceFrom (function : RealFunction ε) (bounds : Bracket) (config : Config)
    (observe : Observer σ) (atLeft : Float) (state : σ) : Trace ε × σ :=
  iterate function config.tolerance observe config.maxIterations 1 bounds
    atLeft state

/-- Searches the bounds for a root. -/
def solve (function : RealFunction ε) (bounds : Bracket) (config : Config)
    (observe : Observer σ) (state : σ) : Except (Error ε) Solution × σ :=
  match checkSignChange function bounds with
  | .error error => (.error error, state)
  | .ok (atLeft, _) =>
      let (trace, state) :=
        traceFrom function bounds config observe atLeft state
      (trace.outcome, state)

def solveUnobserved (function : RealFunction ε) (bounds : Bracket)
    (config : Config) : Except (Error ε) Solution :=
  (solve function bounds config Observer.silent ()).1

/-- The records of a search that nobody observes. -/
def records (function : RealFunction ε) (bounds : Bracket) (config : Config) :
    Except (Error ε) (List IterationRecord) :=
  (solveUnobserved function bounds config).map Solution.records

end Bisection

end RootFinding
