import RootFinding.Bisection.Run
import RootFinding.Bisection.Step
import RootFinding.Expression

/-! Sessions. A session stores the records of its latest search and, while a
search is made step by step, the inputs of that search. -/

namespace RootFinding

structure Inputs where
  expression : String
  bounds : Bracket
  config : Bisection.Config
deriving DecidableEq, Repr

/-- The preset problem. -/
def Inputs.preset : Inputs where
  expression := "x^3 - x - 2"
  bounds := ⟨1.0, 2.0⟩
  config := .standard

inductive SessionError where
  | compile (error : CompileError)
  | bisection (error : Bisection.Error EvaluationError)
deriving DecidableEq, Repr

def SessionError.message : SessionError → String
  | .compile error => error.message
  | .bisection error => error.message

/-- A search that is made step by step. -/
structure Stepping where
  inputs : Inputs
  expression : Expression

/-- Compiles the expression and checks the signs at the bounds. -/
def Stepping.start (inputs : Inputs) : Except SessionError Stepping :=
  match Expression.compile inputs.expression with
  | .error error => .error (.compile error)
  | .ok expression =>
      match Bisection.checkSignChange expression.eval inputs.bounds with
      | .error error => .error (.bisection error)
      | .ok _ => .ok ⟨inputs, expression⟩

structure StepReport where
  record : Option IterationRecord
  finished : Bool
deriving DecidableEq, Repr

/-- How far a step by step search has come; zero steps when there is none. -/
structure SessionState where
  active : Bool
  stepIndex : Nat
deriving DecidableEq, Repr

structure Session where
  records : List IterationRecord
  stepping : Option Stepping
  status : Option Bisection.Status

namespace Session

def empty : Session where
  records := []
  stepping := none
  status := none

def isActive (session : Session) : Bool :=
  session.stepping.isSome

def state (session : Session) : SessionState :=
  if session.isActive then ⟨true, session.records.length⟩ else ⟨false, 0⟩

def last? (session : Session) : Option IterationRecord :=
  session.records.getLast?

def stepInputs? (session : Session) : Option Inputs :=
  session.stepping.map Stepping.inputs

/-- Drops the records and any search that is under way. -/
def reset (session : Session) : Session :=
  { session with records := [], stepping := none, status := none }

/-- Makes a whole search. A search that fails leaves the session empty. -/
def calculate (inputs : Inputs) (session : Session) :
    Except SessionError (List IterationRecord) × Session :=
  let cleared := session.reset
  match Expression.compile inputs.expression with
  | .error error => (.error (.compile error), cleared)
  | .ok expression =>
      match Bisection.solveUnobserved expression.eval inputs.bounds
          inputs.config with
      | .error error => (.error (.bisection error), cleared)
      | .ok solution =>
          (.ok solution.records,
            { cleared with
              records := solution.records
              status := some solution.status })

/-- Makes one step of a search. The session is idle again when the step is the
last one or fails. -/
def advance (stepping : Stepping) (session : Session) :
    Except SessionError StepReport × Session :=
  let idle := { session with stepping := none }
  match Bisection.step stepping.expression.eval stepping.inputs.bounds
      session.records stepping.inputs.config with
  | .error error => (.error (.bisection (.evaluation error)), idle)
  | .ok outcome =>
      (.ok ⟨outcome.record?, outcome.isFinished⟩,
        { idle with
          records := session.records ++ outcome.record?.toList
          stepping := if outcome.isFinished then none else some stepping })

/-- Makes one step. The inputs start a search when none is under way, and are
ignored otherwise. -/
def step (inputs : Inputs) (session : Session) :
    Except SessionError StepReport × Session :=
  match session.stepping with
  | some stepping => advance stepping session
  | none =>
      match Stepping.start inputs with
      | .error error => (.error error, session.reset)
      | .ok stepping => advance stepping session.reset

/-- Makes steps until one is the last or fails, but no more than `limit`. -/
def finish (inputs : Inputs) :
    (limit : Nat) → Session → List (Except SessionError StepReport) × Session
  | 0, session => ([], session)
  | limit + 1, session =>
      let (report, next) := session.step inputs
      if next.isActive then
        let (reports, final) := finish inputs limit next
        (report :: reports, final)
      else
        ([report], next)

end Session

end RootFinding
