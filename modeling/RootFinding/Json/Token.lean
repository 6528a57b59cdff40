import RootFinding.Json.Basic

/-! The tokens of a JSON text. -/

namespace RootFinding

namespace Numeral

/-- JSON has no needless zero in front, and digits on both sides of a point. -/
def isStrict (numeral : Numeral) : Bool :=
  numeral.whole ≠ [] &&
    (numeral.whole.head? ≠ some '0' || numeral.whole.length = 1) &&
    numeral.fraction ≠ some []

end Numeral

namespace Json.Token

def isBlank (character : Char) : Bool :=
  character = ' ' || character = '\n' || character = '\t' || character = '\r'

def punctuation? : Char → Option Token
  | '[' => some .openList
  | ']' => some .closeList
  | '\x7b' => some .openObject
  | '\x7d' => some .closeObject
  | ',' => some .comma
  | ':' => some .colon
  | _ => none

def number? (negative : Bool) (source : List Char) :
    Option (Token × List Char) :=
  let (numeral, rest) := Numeral.read source
  if numeral.isStrict then some (.number negative numeral, rest) else none

/-- Takes a token that is no punctuation off the front of a text. -/
def scalar? : List Char → Option (Token × List Char)
  | 'n' :: 'u' :: 'l' :: 'l' :: rest => some (.null, rest)
  | 't' :: 'r' :: 'u' :: 'e' :: rest => some (.boolean true, rest)
  | 'f' :: 'a' :: 'l' :: 's' :: 'e' :: rest => some (.boolean false, rest)
  | '"' :: rest =>
      match TextPiece.read rest with
      | some (pieces, rest) => some (.string pieces, rest)
      | none => none
  | '-' :: rest => number? true rest
  | source => number? false source

theorem number_length {negative : Bool} {source rest : List Char}
    {token : Token} (result : number? negative source = some (token, rest)) :
    rest.length < source.length := by
  have shorter := Numeral.read_length source
  simp only [number?] at result
  split at result
  · rename_i strict
    simp only [Option.some.injEq, Prod.mk.injEq] at result
    have nonempty : 0 < (Numeral.read source).1.whole.length := by
      simp only [Numeral.isStrict, Bool.and_eq_true, decide_eq_true_eq] at strict
      exact List.length_pos_iff.mpr strict.1.1
    rw [← result.2]
    omega
  · cases result

/-- A token has at least one character. -/
theorem scalar_length {source rest : List Char} {token : Token}
    (result : scalar? source = some (token, rest)) :
    rest.length < source.length := by
  unfold scalar? at result
  split at result
  case h_4 tail =>
      split at result
      · rename_i pieces remaining found
        simp only [Option.some.injEq, Prod.mk.injEq] at result
        have shorter := TextPiece.read_length found
        rw [← result.2]
        simp only [List.length_cons]
        omega
      · cases result
  case h_5 tail =>
      have shorter := number_length result
      simp only [List.length_cons]
      omega
  case h_6 => exact number_length result
  all_goals
    simp only [Option.some.injEq, Prod.mk.injEq] at result
    rw [← result.2]
    simp only [List.length_cons]
    omega

/-- All tokens of a text, with nothing but blanks between them. -/
def scan : List Char → Option (List Token)
  | [] => some []
  | first :: rest =>
      if isBlank first then
        scan rest
      else
        match punctuation? first with
        | some token => (scan rest).map (token :: ·)
        | none =>
            match _found : scalar? (first :: rest) with
            | some (token, remaining) => (scan remaining).map (token :: ·)
            | none => none
termination_by source => source.length
decreasing_by
  · simp
  · simp
  · exact scalar_length _found

end Json.Token

end RootFinding
