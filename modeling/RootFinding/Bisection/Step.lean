import RootFinding.Bisection.Basic

/-! Single steps. A step is given the records of the steps before it and finds
the bracket again by evaluating the function at the last of them. -/

namespace RootFinding

namespace Bisection

inductive Step where
  | more (record : IterationRecord)
  | done (record : IterationRecord)
  | exhausted
deriving DecidableEq, Repr

namespace Step

def record? : Step → Option IterationRecord
  | .more record => some record
  | .done record => some record
  | .exhausted => none

def isFinished : Step → Bool
  | .more _ => false
  | .done _ => true
  | .exhausted => true

end Step

/-- The bracket that the step after `history` searches. The bounds matter only
to the first step. -/
def currentBracket (function : RealFunction ε) (bounds : Bracket)
    (history : List IterationRecord) : Except (PointError ε) Bracket :=
  match history.getLast? with
  | none => .ok bounds
  | some last =>
      match function.evaluate last.bracket.a with
      | .error error => .error error
      | .ok atLeft =>
          match function.evaluate last.midpoint with
          | .error error => .error error
          | .ok atMidpoint => .ok (.rederive last atLeft atMidpoint)

/-- A record ends the search when its value or the next bracket is within the
tolerance, or when it is the last one allowed. -/
def isLast (config : Config) (record : IterationRecord) : Bool :=
  decide (record.residual.abs < config.tolerance) ||
    record.narrowed.isWithin config.tolerance ||
    decide (config.maxIterations ≤ record.index)

/-- One iteration after `history`. The signs at the bounds are not checked. -/
def step (function : RealFunction ε) (bounds : Bracket)
    (history : List IterationRecord) (config : Config) :
    Except (PointError ε) Step :=
  match currentBracket function bounds history with
  | .error error => .error error
  | .ok bracket =>
      if config.maxIterations ≤ history.length ∨
          bracket.isWithin config.tolerance then
        .ok .exhausted
      else
        match function.evaluate bracket.a with
        | .error error => .error error
        | .ok atLeft =>
            match bisect function bracket atLeft (history.length + 1) with
            | .error error => .error error
            | .ok record =>
                .ok (if isLast config record then .done record else .more record)

/-- Makes steps one after another, each on the records of those before it,
until one fails. Gives what came of each step, and all records. -/
def walk (function : RealFunction ε) (bounds : Bracket) (config : Config) :
    (steps : Nat) → List IterationRecord →
      List (Except (PointError ε) Step) × List IterationRecord
  | 0, history => ([], history)
  | steps + 1, history =>
      match step function bounds history config with
      | .error error => ([.error error], history)
      | .ok outcome =>
          let (later, final) := walk function bounds config steps
            (history ++ outcome.record?.toList)
          (.ok outcome :: later, final)

end Bisection

end RootFinding
