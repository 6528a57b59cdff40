import RootFinding.Session.Basic
import RootFinding.Table.Unprintable

/-! Diagnostics: an error as its name and its labelled details, on one line. -/

namespace RootFinding

namespace Diagnostic

/-- Numbers have a point, or else an exponent part. -/
def numberStyle : NumberStyle where
  isPositional exponent := -4 ≤ exponent && exponent < 16
  pointZero := true
  exponentSign exponent := if exponent < 0 then some .minus else none
  tie := .up

def number (value : Float) : String :=
  numberStyle.text value

/-- A character in quotes. -/
def character (value : Char) : String :=
  let body := match value with
    | '\x00' => "\\0"
    | '\t' => "\\t"
    | '\r' => "\\r"
    | '\n' => "\\n"
    | '\x27' => "\\'"
    | '\\' => "\\\\"
    | _ =>
        if isPrintable value then
          value.toString
        else
          "\\u\x7b" ++ String.ofList (Nat.toDigits 16 value.toNat) ++ "\x7d"
  "'" ++ body ++ "'"

/-- A text in quotes. It holds nothing that would need an escape. -/
def quoted (value : String) : String :=
  "\"" ++ value ++ "\""

def labelled (name : String) (details : List (String × String)) : String :=
  name ++ " \x7b " ++
    ", ".intercalate (details.map fun (label, value) =>
      label ++ ": " ++ value) ++ " \x7d"

def wrapped (name inner : String) : String :=
  name ++ "(" ++ inner ++ ")"

def ofEvaluationError : EvaluationError → String
  | .unknownVariable name =>
      labelled "UnknownVariable" [("name", quoted name)]
  | .unknownFunction name =>
      labelled "UnknownFunction" [("name", quoted name)]

def ofCompileError : CompileError → String
  | .empty => "Empty"
  | .unexpectedCharacter found position =>
      labelled "UnexpectedChar"
        [("ch", character found), ("pos", position.repr)]
  | .malformedNumber text position =>
      labelled "InvalidNumber"
        [("text", quoted text), ("pos", position.repr)]
  | .unexpectedToken found position =>
      labelled "UnexpectedToken"
        [("found", quoted found), ("pos", position.repr)]
  | .unexpectedEnd => "UnexpectedEnd"
  | .unclosedParenthesis position =>
      labelled "UnclosedParen" [("pos", position.repr)]
  | .tooDeep position => labelled "TooDeep" [("pos", position.repr)]
  | .unresolved cause => wrapped "Unresolved" (ofEvaluationError cause)

def ofBisectionError : Bisection.Error EvaluationError → String
  | .noSignChange bounds atA atB =>
      labelled "NoSignChange"
        [("a", number bounds.a), ("b", number bounds.b),
          ("fa", number atA), ("fb", number atB)]
  | .evaluation error =>
      labelled "Evaluation"
        [("x", number error.point), ("source", ofEvaluationError error.cause)]

def ofSessionError : SessionError → String
  | .compile error => wrapped "Compile" (ofCompileError error)
  | .bisection error => wrapped "Bisection" (ofBisectionError error)

end Diagnostic

end RootFinding
