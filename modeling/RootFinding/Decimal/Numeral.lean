import RootFinding.Decimal.Basic

/-! Numerals: decimal numbers as they are written, without a sign in front.
A numeral keeps every character of its text, so that `chars` gives back what
`read` took, and `toDecimal` is its value. -/

namespace RootFinding

inductive Sign where
  | plus
  | minus
deriving DecidableEq, Repr

def Sign.char : Sign → Char
  | .plus => '+'
  | .minus => '-'

structure ExponentPart where
  mark : Char
  sign : Option Sign
  digits : List Char
deriving DecidableEq, Repr

structure Numeral where
  whole : List Char
  fraction : Option (List Char)
  exponent : Option ExponentPart
deriving DecidableEq, Repr

namespace ExponentPart

def chars (part : ExponentPart) : List Char :=
  part.mark :: ((part.sign.map Sign.char).toList ++ part.digits)

def value (part : ExponentPart) : Int :=
  let size : Int := Nat.ofDigitChars 10 part.digits 0
  if part.sign = some .minus then -size else size

/-- An exponent part of the given value, with `e` for its mark. -/
def ofInt (sign : Option Sign) (value : Int) : ExponentPart where
  mark := 'e'
  sign := sign
  digits := Nat.toDigits 10 value.natAbs

/-- Takes a sign off the front of a text. -/
def readSign : List Char → Option Sign × List Char
  | '+' :: rest => (some .plus, rest)
  | '-' :: rest => (some .minus, rest)
  | rest => (none, rest)

/-- Takes an exponent part off the front of a text. A mark that no digit
follows is left where it is. -/
def read : List Char → Option ExponentPart × List Char
  | [] => (none, [])
  | mark :: tail =>
      let (sign, rest) := readSign tail
      let digits := rest.takeWhile Char.isDigit
      if (mark = 'e' ∨ mark = 'E') ∧ digits ≠ [] then
        (some ⟨mark, sign, digits⟩, rest.dropWhile Char.isDigit)
      else
        (none, mark :: tail)

end ExponentPart

namespace Numeral

def chars (numeral : Numeral) : List Char :=
  numeral.whole ++
    ((numeral.fraction.map ('.' :: ·)).getD [] ++
      (numeral.exponent.map ExponentPart.chars).getD [])

def text (numeral : Numeral) : String :=
  String.ofList numeral.chars

/-- All digits before the exponent part. -/
def mantissa (numeral : Numeral) : List Char :=
  numeral.whole ++ numeral.fraction.getD []

def toDecimal (numeral : Numeral) : Decimal where
  digits := Nat.ofDigitChars 10 numeral.mantissa 0
  exponent := (numeral.exponent.map ExponentPart.value).getD 0 -
    (numeral.fraction.getD []).length

/-- Takes digits, and after a point more digits, off the front of a text. -/
def readMantissa (source : List Char) :
    List Char × Option (List Char) × List Char :=
  let whole := source.takeWhile Char.isDigit
  match source.dropWhile Char.isDigit with
  | '.' :: tail =>
      (whole, some (tail.takeWhile Char.isDigit), tail.dropWhile Char.isDigit)
  | rest => (whole, none, rest)

/-- Takes the longest numeral off the front of a text. Its mantissa may lack
digits. -/
def read (source : List Char) : Numeral × List Char :=
  let (whole, fraction, rest) := readMantissa source
  let (exponent, remaining) := ExponentPart.read rest
  (⟨whole, fraction, exponent⟩, remaining)

/-- The value of a numeral whose mantissa has a digit. -/
def toFloat? (numeral : Numeral) : Option Float :=
  if numeral.mantissa = [] then none else some numeral.toDecimal.toFloat

/-! Reading uses up the whole digits, and never gives back more than is left of
the text after them. -/

theorem exponentPart_read_length (source : List Char) :
    (ExponentPart.read source).2.length ≤ source.length := by
  cases source with
  | nil => simp [ExponentPart.read]
  | cons mark tail =>
      have afterSign : (ExponentPart.readSign tail).2.length ≤ tail.length := by
        unfold ExponentPart.readSign
        split <;> simp
      have afterDigits := (List.dropWhile_sublist Char.isDigit
        (l := (ExponentPart.readSign tail).2)).length_le
      simp only [ExponentPart.read]
      split <;> simp only [List.length_cons] <;> omega

theorem readMantissa_length (source : List Char) :
    (readMantissa source).1.length + (readMantissa source).2.2.length ≤
      source.length := by
  have parts := congrArg List.length
    (List.takeWhile_append_dropWhile (p := Char.isDigit) (l := source))
  simp only [List.length_append] at parts
  unfold readMantissa
  dsimp only
  split
  · rename_i tail found
    have afterFraction :=
      (List.dropWhile_sublist Char.isDigit (l := tail)).length_le
    rw [found] at parts
    simp only [List.length_cons] at parts ⊢
    omega
  · simp only
    omega

theorem read_length (source : List Char) :
    (read source).1.whole.length + (read source).2.length ≤
      source.length := by
  have mantissa := readMantissa_length source
  have exponent := exponentPart_read_length (readMantissa source).2.2
  change (readMantissa source).1.length +
    (ExponentPart.read (readMantissa source).2.2).2.length ≤ source.length
  omega

end Numeral

namespace Decimal

/-! Two ways to write a decimal number. Both write all of its digits. -/

/-- No exponent part: zeros fill the places between the digits and the point. -/
def positional (decimal : Decimal) : Numeral :=
  let digits := decimal.digitChars
  let places := (-decimal.exponent).toNat
  if 0 ≤ decimal.exponent then
    ⟨digits ++ List.replicate decimal.exponent.toNat '0', none, none⟩
  else if places < digits.length then
    ⟨digits.take (digits.length - places),
      some (digits.drop (digits.length - places)), none⟩
  else
    ⟨['0'], some (List.replicate (places - digits.length) '0' ++ digits), none⟩

/-- One digit before the point, which is left out when no digit follows. -/
def scientific (sign : Int → Option Sign) (decimal : Decimal) : Numeral :=
  let digits := decimal.digitChars
  let rest := digits.drop 1
  ⟨digits.take 1, if rest = [] then none else some rest,
    some (.ofInt (sign decimal.leadingExponent) decimal.leadingExponent)⟩

end Decimal

end RootFinding
