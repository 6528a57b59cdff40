import Mathlib
import RootFinding.Decimal.Numeral

/-! Numerals that are read back whole, whatever follows them, as long as it does
not go on with the numeral. -/

namespace RootFinding

/-- The digits, and the point and marks among them, that a numeral may go on
with, do not come next. -/
def EndsNumeral (rest : List Char) : Prop :=
  ∀ next ∈ rest.head?,
    next.isDigit = false ∧ next ≠ '.' ∧ next ≠ 'e' ∧ next ≠ 'E'

/-- No digit comes next. -/
def EndsDigits (rest : List Char) : Prop :=
  ∀ next ∈ rest.head?, next.isDigit = false

theorem EndsNumeral.digits {rest : List Char} (ends : EndsNumeral rest) :
    EndsDigits rest :=
  fun next member => (ends next member).1

/-- A word is taken whole in front of a text that does not go on with it. -/
theorem span_append {kind : Char → Bool} {word rest : List Char}
    (inside : ∀ character ∈ word, kind character = true)
    (stops : ∀ next ∈ rest.head?, kind next = false) :
    (word ++ rest).takeWhile kind = word ∧
      (word ++ rest).dropWhile kind = rest := by
  rw [List.takeWhile_append_of_pos inside, List.dropWhile_append_of_pos inside]
  cases rest with
  | nil => simp
  | cons next later =>
      have stop : ¬kind next = true := by
        rw [stops next rfl]
        exact Bool.false_ne_true
      rw [List.takeWhile_cons_of_neg stop, List.dropWhile_cons_of_neg stop,
        List.append_nil]
      exact ⟨rfl, rfl⟩

namespace ExponentPart

structure IsRegular (part : ExponentPart) : Prop where
  mark_eq : part.mark = 'e' ∨ part.mark = 'E'
  digits_ne_nil : part.digits ≠ []
  all_digits : ∀ digit ∈ part.digits, digit.isDigit = true

theorem readSign_append {digits : List Char} (sign : Option Sign)
    (nonempty : digits ≠ []) (all : ∀ digit ∈ digits, digit.isDigit = true)
    (rest : List Char) :
    readSign ((sign.map Sign.char).toList ++ (digits ++ rest)) =
      (sign, digits ++ rest) := by
  match sign, digits, nonempty with
  | some .plus, _, _ => rfl
  | some .minus, _, _ => rfl
  | none, first :: others, _ =>
      have digit := all first List.mem_cons_self
      unfold readSign
      split
      · rename_i equal
        cases (List.cons.inj equal).1
        cases digit
      · rename_i equal
        cases (List.cons.inj equal).1
        cases digit
      · rfl

theorem IsRegular.read_append {part : ExponentPart} (regular : part.IsRegular)
    {rest : List Char} (ends : EndsDigits rest) :
    read (part.chars ++ rest) = (some part, rest) := by
  have span := span_append regular.all_digits ends
  simp only [chars, List.cons_append, List.append_assoc, read]
  rw [readSign_append part.sign regular.digits_ne_nil regular.all_digits]
  simp only [span.1, span.2]
  rw [if_pos ⟨regular.mark_eq, regular.digits_ne_nil⟩]

theorem read_of_ends {rest : List Char} (ends : EndsNumeral rest) :
    read rest = (none, rest) := by
  cases rest with
  | nil => rfl
  | cons next later =>
      rcases ends next rfl with ⟨_, _, lower, upper⟩
      simp [read, lower, upper]

end ExponentPart

namespace Numeral

structure IsRegular (numeral : Numeral) : Prop where
  whole_digits : ∀ digit ∈ numeral.whole, digit.isDigit = true
  fraction_digits : ∀ digit ∈ numeral.fraction.getD [], digit.isDigit = true
  exponent_regular : ∀ part ∈ numeral.exponent, part.IsRegular

theorem readMantissa_regular {whole : List Char} {fraction : Option (List Char)}
    (whole_digits : ∀ digit ∈ whole, digit.isDigit = true)
    (fraction_digits : ∀ digit ∈ fraction.getD [], digit.isDigit = true)
    {rest : List Char} (ends : EndsDigits rest)
    (noPoint : ∀ next ∈ rest.head?, next ≠ '.') :
    readMantissa (whole ++ ((fraction.map ('.' :: ·)).getD [] ++ rest)) =
      (whole, fraction, rest) := by
  unfold readMantissa
  cases fraction with
  | none =>
      have span := span_append whole_digits ends
      simp only [Option.map_none, Option.getD_none, List.nil_append, span.1,
        span.2]
      split
      · exact absurd rfl (noPoint '.' rfl)
      · rfl
  | some digits =>
      have point : EndsDigits ('.' :: (digits ++ rest)) := by
        intro next member
        cases member
        rfl
      have front := span_append whole_digits point
      have back := span_append fraction_digits ends
      simp only [Option.getD_some] at back
      simp only [Option.map_some, Option.getD_some, List.cons_append, front.1,
        front.2, back.1, back.2]

theorem IsRegular.read_append {numeral : Numeral} (regular : numeral.IsRegular)
    {rest : List Char} (ends : EndsNumeral rest) :
    read (numeral.chars ++ rest) = (numeral, rest) := by
  rcases numeral with ⟨whole, fraction, exponent⟩
  cases exponent with
  | none =>
      have mantissa := readMantissa_regular regular.whole_digits
        regular.fraction_digits ends.digits
        fun next member => (ends next member).2.1
      simp only [read, chars, Option.map_none, Option.getD_none,
        List.append_nil, List.append_assoc, mantissa,
        ExponentPart.read_of_ends ends]
  | some part =>
      have partRegular := regular.exponent_regular part rfl
      -- The mark of the exponent part ends the mantissa.
      have marked : ∀ next ∈ (part.chars ++ rest).head?,
          next.isDigit = false ∧ next ≠ '.' := by
        intro next member
        cases member
        rcases partRegular.mark_eq with mark | mark
        · rw [mark]
          decide
        · rw [mark]
          decide
      have mantissa := readMantissa_regular regular.whole_digits
        regular.fraction_digits (fun next member => (marked next member).1)
        fun next member => (marked next member).2
      simp only [read, chars, Option.map_some, Option.getD_some,
        List.append_assoc, mantissa, partRegular.read_append ends.digits]

end Numeral

end RootFinding
