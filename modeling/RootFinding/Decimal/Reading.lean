import RootFinding.Decimal.Numeral

/-! Numbers given as whole texts. -/

namespace RootFinding

inductive FloatFault where
  | empty
  | invalid
deriving DecidableEq, Repr

inductive CountFault where
  | empty
  | invalidDigit
  | overflow
deriving DecidableEq, Repr

/-- The float that a text without a sign stands for. Letters count in either
case. -/
def unsignedFloat? (source : List Char) : Option Float :=
  let word := source.map Char.toLower
  if word = ['n', 'a', 'n'] then
    some (0.0 / 0.0)
  else if word = ['i', 'n', 'f'] ∨
      word = ['i', 'n', 'f', 'i', 'n', 'i', 't', 'y'] then
    some (1.0 / 0.0)
  else
    match Numeral.read source with
    | (numeral, []) => numeral.toFloat?
    | (_, _ :: _) => none

/-- Reads an optional sign and a numeral, `inf`, `infinity` or `nan`, and
nothing else. -/
def readFloat (source : String) : Except FloatFault Float :=
  if source = "" then
    .error .empty
  else
    let (sign, rest) := ExponentPart.readSign source.toList
    match unsignedFloat? rest with
    | none => .error .invalid
    | some value => .ok (if sign = some .minus then -value else value)

/-- Counts lie below this bound. -/
def countBound : Nat := Nat.pow 2 64

/-- The count that digits add to the digits before them. The first character
that is no digit or that passes the bound decides the fault. -/
def readDigits (before : Nat) : List Char → Except CountFault Nat
  | [] => .ok before
  | digit :: rest =>
      if digit.isDigit then
        let count := Nat.ofDigitChars 10 [digit] before
        if count < countBound then readDigits count rest else .error .overflow
      else
        .error .invalidDigit

/-- Reads an optional `+` and digits, and nothing else. -/
def readCount (source : String) : Except CountFault Nat :=
  match source.toList with
  | [] => .error .empty
  | ['+'] => .error .invalidDigit
  | '+' :: digits => readDigits 0 digits
  | digits => readDigits 0 digits

end RootFinding
