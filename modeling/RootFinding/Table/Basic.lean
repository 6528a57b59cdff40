import RootFinding.Decimal.Reading
import RootFinding.Session.Summary
import RootFinding.Table.Diagnostic

/-! The table of a search, one line for each iteration, as it is asked for on a
command line:

```text
(no arguments)                               the preset problem
step                                         the same, step by step
EXPRESSION [A [B [TOLERANCE [ITERATIONS]]]]  any problem
```
-/

namespace RootFinding

namespace Table

/-- What a command leaves behind. -/
structure Output where
  exitCode : Nat
  standardOutput : String
  standardError : String
deriving DecidableEq, Repr

inductive Error where
  | float (fault : FloatFault)
  | count (fault : CountFault)
  | session (error : SessionError)
deriving DecidableEq, Repr

def Error.diagnostic : Error → String
  | .float .empty => Diagnostic.labelled "ParseFloatError" [("kind", "Empty")]
  | .float .invalid =>
      Diagnostic.labelled "ParseFloatError" [("kind", "Invalid")]
  | .count .empty => Diagnostic.labelled "ParseIntError" [("kind", "Empty")]
  | .count .invalidDigit =>
      Diagnostic.labelled "ParseIntError" [("kind", "InvalidDigit")]
  | .count .overflow =>
      Diagnostic.labelled "ParseIntError" [("kind", "PosOverflow")]
  | .session error => Diagnostic.ofSessionError error

/-! Arguments. The number of iterations is read first, then the bounds, then
the tolerance. -/

def float (argument : Option String) (default : Float) : Except Error Float :=
  match argument with
  | none => .ok default
  | some source =>
      match readFloat source with
      | .ok value => .ok value
      | .error fault => .error (.float fault)

def count (argument : Option String) (default : Nat) : Except Error Nat :=
  match argument with
  | none => .ok default
  | some source =>
      match readCount source with
      | .ok value => .ok value
      | .error fault => .error (.count fault)

def inputs (arguments : List String) : Except Error Inputs :=
  match arguments with
  | [] => .ok .preset
  | expression :: numbers => do
      let standard := Bisection.Config.standard
      let maxIterations ← count numbers[3]? standard.maxIterations
      let a ← float numbers[0]? 1.0
      let b ← float numbers[1]? 2.0
      let tolerance ← float numbers[2]? standard.tolerance
      return {
        expression := expression
        bounds := ⟨a, b⟩
        config := ⟨tolerance, maxIterations⟩ }

/-! Lines. Every column is aligned to the right. -/

def aligned (width : Nat) (text : String) : String :=
  String.ofList (List.replicate (width - text.length) ' ') ++ text

/-- Ten places after the point. -/
def fixed (value : Float) : String :=
  (ExactValue.ofFloat value).text (Numeral.withPlaces 10)

/-- Three places after the point, and an exponent part. -/
def scientific (value : Float) : String :=
  (ExactValue.ofFloat value).text (Numeral.scientificWithPlaces 3)

def line (index a b midpoint sign residual : String) : String :=
  aligned 4 index ++ "  " ++ aligned 14 a ++ "  " ++ aligned 14 b ++ "  " ++
    aligned 14 midpoint ++ "  " ++ aligned 4 sign ++ "  " ++
    aligned 12 residual ++ "\n"

def header : String :=
  line "n" "a" "b" "c" "sign" "f(c)"

def signText : SignClass → String
  | .negative => "-"
  | .positive => "+"

def row (record : IterationRecord) : String :=
  line record.index.repr (fixed record.bracket.a) (fixed record.bracket.b)
    (fixed record.midpoint) (signText record.sign) (scientific record.residual)

def rows (records : List IterationRecord) : String :=
  String.join (records.map row)

def footer : Option Summary → String
  | some summary =>
      "\nroot ≈ " ++ fixed summary.root ++
        "  f(root) = " ++ scientific summary.residual ++
        "  error = " ++ scientific summary.error ++
        "  iterations = " ++ summary.iterations.repr ++ "\n"
  | none => "\nno iterations were needed\n"

/-! Commands. -/

def succeeded (records : List IterationRecord) : Output where
  exitCode := 0
  standardOutput := header ++ rows records ++
    footer (Summary.ofRecords? records)
  standardError := ""

/-- A failure after `printed` has been printed. -/
def failed (printed : String) (error : Error) : Output where
  exitCode := 1
  standardOutput := printed
  standardError := "Error: " ++ error.diagnostic ++ "\n"

/-- The first error among some reports. -/
def firstError? (reports : List (Except SessionError StepReport)) :
    Option SessionError :=
  reports.findSome? fun
    | .error error => some error
    | .ok _ => none

/-- A search made step by step. One more step than there may be iterations is
enough to end it. -/
def stepped (inputs : Inputs) : Output :=
  let (reports, session) :=
    Session.empty.finish inputs (inputs.config.maxIterations + 1)
  match firstError? reports with
  | some error => failed (header ++ rows session.records) (.session error)
  | none => succeeded session.records

def calculated (inputs : Inputs) : Output :=
  match Session.empty.calculate inputs with
  | (.error error, _) => failed header (.session error)
  | (.ok records, _) => succeeded records

def run (arguments : List String) : Output :=
  if arguments.head? = some "step" then
    stepped .preset
  else
    match inputs arguments with
    | .error error => failed "" error
    | .ok inputs => calculated inputs

end Table

end RootFinding
