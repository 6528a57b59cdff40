import RootFinding.Decimal.Reading
import RootFinding.Proofs.Order
import RootFinding.Proofs.Formula.RoundTrip
import RootFinding.Proofs.Formula.Segmentation

/-! Numbers in a text. Where a number begins, the longest numeral is cut off,
and it is malformed only if its mantissa is a point alone. Its value is a number
without a sign, so that everything that is read equals itself. -/

namespace RootFinding

open Float.Model (UnpackedFloat)

/-! The values of decimals. -/

/-- No `NaN`, and the bit of the sign is not set. -/
structure IsUnsigned (value : Float) : Prop where
  number : value.isNaN = false
  sign_bit : value.toBits.toNat < 2 ^ 63

theorem exists_sign_nearest (exact : ℚ) :
    ∃ sign, Unpacked.sign? (Unpacked.nearest exact) = some sign := by
  unfold Unpacked.nearest Unpacked.carried Unpacked.ofCount
  dsimp only
  split_ifs
  · exact ⟨0, rfl⟩
  · exact ⟨1, rfl⟩

theorem nearestFloat_isUnsigned (exact : ℚ) :
    IsUnsigned (nearestFloat exact) where
  number := by
    rcases exists_sign_nearest exact with ⟨sign, signed⟩
    rw [Bool.eq_false_iff, ne_eq, isNaN_iff]
    intro undefined
    rcases Unpacked.sign?_unpack_pack signed with kept | zero
    · rw [sign?, nearestFloat, kept] at undefined
      cases undefined
    · rw [sign?, nearestFloat, zero] at undefined
      cases undefined
  sign_bit := by
    have positive : @UnpackedFloat.unpackSign .binary64
        (nearestFloat exact).toBits.toBitVec =
          UnpackedFloat.Sign.positive.toBitVec :=
      unpackSign_pack_ofCount ..
    have top := congrArg BitVec.toNat positive
    simp only [UnpackedFloat.unpackSign, BitVec.toNat_cast,
      BitVec.extractLsb_toNat] at top
    change (nearestFloat exact).toBits.toNat >>> 63 % 2 = 0 at top
    have word := (nearestFloat exact).toBits.toNat_lt
    rw [Nat.shiftRight_eq_div_pow] at top
    omega

theorem toFloat_isUnsigned (decimal : Decimal) :
    IsUnsigned decimal.toFloat :=
  decimal.toFloat_eq_nearestFloat ▸ nearestFloat_isUnsigned _

theorem beq_self_of_not_isNaN {value : Float}
    (number : value.isNaN = false) : (value == value) = true := by
  rw [beq_iff_number]
  change value.toModel.unpack.isNaN = false at number
  unfold number?
  cases unpacked : value.toModel.unpack with
  | notANumber =>
      rw [unpacked] at number
      cases number
  | zero sign => exact ⟨_, rfl, rfl⟩
  | infinity sign => cases sign <;> exact ⟨_, rfl, rfl⟩
  | finite sign mantissa exponent positive => exact ⟨_, rfl, rfl⟩

/-! Numerals. -/

theorem Token.toLower_of_startsNumber {first : Char}
    (number : startsNumber first = true) : first.toLower = first := by
  refine dif_neg fun upper => ?_
  simp only [startsNumber, Char.isDigit, Bool.or_eq_true, Bool.and_eq_true,
    decide_eq_true_eq, ge_iff_le, UInt32.le_iff_toNat_le] at number upper
  rcases number with digit | rfl
  · simp at digit upper
    omega
  · exact absurd upper (by decide)

namespace Numeral

/-- The numeral stands at the front of the text, and no longer one does. -/
structure IsLongest (numeral : Numeral) (text : List Char) : Prop where
  regular : numeral.IsRegular
  front : numeral.chars <+: text
  longest : ∀ other : Numeral, other.IsRegular → other.chars <+: text →
    other.chars.length ≤ numeral.chars.length

/-- The mantissa is a point without a digit on either side. -/
def IsPoint (numeral : Numeral) : Prop :=
  numeral.whole = [] ∧ numeral.fraction = some []

theorem read_isLongest (text : List Char) : (read text).1.IsLongest text where
  regular := read_isRegular text
  front := ⟨_, chars_append_read text⟩
  longest := by
    rintro other regular ⟨rest, rfl⟩
    exact (regular.read_longest rest).2

section Front

variable {first : Char} (number : Token.startsNumber first = true)
include number

theorem isPoint_iff_of_read (rest : List Char) :
    (read (first :: rest)).1.IsPoint ↔
      (read (first :: rest)).1.mantissa = [] := by
  constructor
  · rintro ⟨whole, fraction⟩
    rw [mantissa, whole, fraction]
    rfl
  · intro none
    cases digit : first.isDigit with
    | true =>
        have whole := readMantissa_whole (first :: rest)
        rw [List.takeWhile_cons_of_pos digit] at whole
        have empty : (readMantissa (first :: rest)).1 = [] :=
          (List.append_eq_nil_iff.1 none).1
        rw [whole] at empty
        cases empty
    | false =>
        obtain rfl : first = '.' := by
          simpa [Token.startsNumber, digit] using number
        have noDigits : ∀ digit ∈ ([] : List Char), digit.isDigit = true :=
          List.forall_mem_nil _
        have point := readMantissa_point noDigits rest
        rw [List.nil_append] at point
        simp only [IsPoint, mantissa, read, point, List.nil_append,
          Option.getD_some] at none ⊢
        exact ⟨trivial, congrArg some none⟩

theorem exists_read_chars (rest : List Char) :
    ∃ tail, (read (first :: rest)).1.chars = first :: tail := by
  have cons : ∃ begin tail,
      (read (first :: rest)).1.chars = begin :: tail := by
    by_cases none : (read (first :: rest)).1.mantissa = []
    · rcases (isPoint_iff_of_read number rest).2 none with ⟨whole, fraction⟩
      rw [Numeral.chars, whole, fraction]
      exact ⟨'.', _, rfl⟩
    · rcases (read_isRegular _).exists_first none with ⟨begin, tail, chars, -⟩
      exact ⟨begin, tail, chars⟩
  rcases cons with ⟨begin, tail, chars⟩
  have whole := chars_append_read (first :: rest)
  rw [chars, List.cons_append] at whole
  exact ⟨tail, by rw [chars, (List.cons.inj whole).1]⟩

/-- A numeral where a number can begin is read as a whole text too. -/
theorem IsRegular.readFloat_text {numeral : Numeral}
    (regular : numeral.IsRegular) {tail : List Char}
    (chars : numeral.chars = first :: tail) :
    readFloat numeral.text =
      match numeral.toFloat? with
      | none => .error .invalid
      | some value => .ok value := by
  have ends : EndsNumeral [] := by simp [EndsNumeral]
  have whole := regular.read_append ends
  rw [List.append_nil, chars] at whole
  have text : numeral.text ≠ "" := by
    simp [Numeral.text, chars]
  have unsigned : ExponentPart.readSign (first :: tail) =
      (none, first :: tail) := by
    have plus : first ≠ '+' := Token.ne_of_class number (by decide)
    have minus : first ≠ '-' := Token.ne_of_class number (by decide)
    simp [ExponentPart.readSign, plus, minus]
  have lower := Token.toLower_of_startsNumber number
  have noN : first ≠ 'n' := Token.ne_of_class number (by decide)
  have noI : first ≠ 'i' := Token.ne_of_class number (by decide)
  rw [readFloat, if_neg text, Numeral.text, String.toList_ofList, chars]
  simp only [unsigned, unsignedFloat?, List.map_cons, lower, whole,
    List.cons.injEq, noN, noI, false_and, or_self, if_false]
  cases numeral.toFloat? <;> rfl

end Front

end Numeral

namespace Token

open Piece

theorem le_of_malformed {position place : Nat} {source : List Char}
    {text : String}
    (failed : scan position source = .error (.malformedNumber text place)) :
    position ≤ place := by
  fun_induction scan position source with
  | case1 => cases failed
  | case2 position first rest found later =>
      exact Nat.le_of_succ_le (later failed)
  | case3 position first rest tail token found later =>
      rcases Outcome.bind_eq_error.1 failed with failed | ⟨following, -, ended⟩
      · have := later failed
        omega
      · cases ended
  | case4 position first rest lexeme found =>
      cases failed
      exact le_rfl
  | case5 position first rest found => cases failed

/-- The scanner, with the tokens `before` so far, takes the numeral for a number
at the position, or fails there. -/
structure TakesNumeral (source : String) (before : List PlacedToken)
    (position : Nat) (numeral : Numeral) (remaining : List Char) : Prop where
  malformed_iff :
    tokens source = .error (.malformedNumber numeral.text position) ↔
      numeral.IsPoint
  unreadable : numeral.IsPoint → readFloat numeral.text = .error .invalid
  readable : ¬numeral.IsPoint →
    ∃ value, readFloat numeral.text = .ok value ∧ IsUnsigned value ∧
      tokens source =
        (scan (position + String.utf8Len numeral.chars) remaining).map
          (before ++ ⟨.number value, position⟩ :: ·)

section Literals

variable {source : String} {pieces : List Piece}
  {gap rest remaining : List Char} {first : Char} {numeral : Numeral}
  (splits : Splits source.toList pieces gap (first :: rest))
  (number : startsNumber first = true)
  (read : Numeral.read (first :: rest) = (numeral, remaining))
include splits number read

theorem tokens_of_point (point : numeral.IsPoint) :
    tokens source = .error (.malformedNumber numeral.text
      (String.utf8Len (written pieces ++ gap))) := by
  have found := front_of_startsNumber number rest
  have lone := Numeral.isPoint_iff_of_read number rest
  rw [read] at found lone
  rw [number?, Numeral.toFloat?, if_pos (lone.1 point)] at found
  exact tokens_of_malformed splits found

theorem tokens_of_number {value : Float}
    (valued : numeral.toFloat? = some value) :
    tokens source =
      (scan (String.utf8Len (written pieces ++ gap) +
        String.utf8Len numeral.chars) remaining).map
          (placed 0 pieces ++
            ⟨.number value, String.utf8Len (written pieces ++ gap)⟩ :: ·) := by
  have found := front_of_startsNumber number rest
  have whole := Numeral.chars_append_read (first :: rest)
  rcases Numeral.exists_read_chars number rest with ⟨tail, chars⟩
  rw [read] at found whole chars
  rw [number?, valued, chars, List.drop_one, List.tail_cons] at found
  have longest := front_eq_token_iff.1 found
  rw [← chars, ← whole] at longest
  rw [tokens_eq splits, ← whole, scan_lexeme longest]
  generalize scan _ remaining = outcome
  cases outcome <;> rfl

theorem takesNumeral :
    TakesNumeral source (placed 0 pieces)
      (String.utf8Len (written pieces ++ gap)) numeral remaining := by
  have regular := Numeral.read_isRegular (first :: rest)
  have lone := Numeral.isPoint_iff_of_read number rest
  rcases Numeral.exists_read_chars number rest with ⟨tail, chars⟩
  rw [read] at regular lone chars
  have same := regular.readFloat_text number chars
  by_cases point : numeral.IsPoint
  · rw [Numeral.toFloat?, if_pos (lone.1 point)] at same
    exact ⟨iff_of_true (tokens_of_point splits number read point) point,
      fun _ => same, fun digits => absurd point digits⟩
  · have valued : numeral.toFloat? = some numeral.toDecimal.toFloat :=
      if_neg (mt lone.2 point)
    have taken := tokens_of_number splits number read valued
    rw [valued] at same
    refine ⟨iff_of_false (fun failed => ?_) point,
      fun lone => absurd lone point,
      fun _ => ⟨_, same, toFloat_isUnsigned _, taken⟩⟩
    rw [taken] at failed
    cases outcome : scan _ remaining with
    | ok following =>
        rw [outcome] at failed
        cases failed
    | error error =>
        rw [outcome] at failed
        cases failed
        -- An error behind the numeral is at a later place.
        have behind := le_of_malformed outcome
        rw [chars, String.utf8Len_cons] at behind
        have := first.utf8Size_pos
        omega

end Literals

/-- The value of every number token is that of a decimal. -/
theorem isUnsigned_of_mem_tokens {source : String} {found : List PlacedToken}
    (scanned : tokens source = .ok found) {value : Float} {position : Nat}
    (member : ⟨.number value, position⟩ ∈ found) : IsUnsigned value := by
  rcases isLexeme_of_scan scanned _ member with ⟨decimal, rfl⟩
  exact toFloat_isUnsigned decimal

end Token

/-! Equality. -/

theorem Formula.beq_self {formula : Formula} (readable : formula.IsReadable) :
    (formula == formula) = true := by
  induction formula with
  | number value =>
      rcases readable with ⟨decimal, rfl⟩
      exact beq_self_of_not_isNaN (toFloat_isUnsigned decimal).number
  | x => rfl
  | constant symbol => exact beq_self_eq_true symbol
  | unbound name => exact beq_self_eq_true name
  | negate operand induction => exact induction readable
  | binary operator left right leftInduction rightInduction =>
      change (operator == operator && (left == left && right == right)) = true
      rw [leftInduction readable.1, rightInduction readable.2,
        beq_self_eq_true operator]
      rfl
  | call function argument induction =>
      change (function == function && argument == argument) = true
      rw [induction readable, beq_self_eq_true function]
      rfl
  | unboundCall name argument induction =>
      change (name == name && argument == argument) = true
      rw [induction readable.2, beq_self_eq_true name]
      rfl

namespace Expression

open Token

theorem beq_self_of_parse {source : String} {expression : Expression}
    (parsed : parse source = .ok expression) :
    (expression == expression) = true := by
  change (expression.source == expression.source &&
    expression.formula == expression.formula) = true
  rw [Formula.beq_self (isReadable_of_parse parsed), beq_self_eq_true]
  rfl

theorem beq_self_of_compile {source : String} {expression : Expression}
    (compiled : compile source = .ok expression) :
    (expression == expression) = true := by
  rcases Outcome.bind_eq_ok.mp compiled with ⟨found, parsed, rest⟩
  cases neutral : found.eval neutralPoint with
  | error cause => simp [neutral] at rest
  | ok value =>
      simp only [neutral, Outcome.pure_eq_ok, Except.ok.injEq] at rest
      exact rest ▸ beq_self_of_parse parsed

theorem agree_compile_ofText (source : String) :
    agree (compile source) (ofText source) = true := by
  unfold ofText
  cases compiled : compile source with
  | error error => exact beq_self_eq_true error
  | ok expression => exact beq_self_of_compile compiled

/-- What the scanner makes of numbers, and that what is read equals itself. -/
theorem number_literals (source : String) :
    (∀ pieces gap first rest,
      Splits source.toList pieces gap (first :: rest) →
      startsNumber first = true →
        ∃ numeral remaining, first :: rest = numeral.chars ++ remaining ∧
          numeral.IsLongest (first :: rest) ∧
          TakesNumeral source (Piece.placed 0 pieces)
            (String.utf8Len (Piece.written pieces ++ gap)) numeral remaining) ∧
      (∀ text position,
        tokens source = .error (.malformedNumber text position) →
          ∃ pieces gap first rest, ∃ numeral : Numeral,
            Splits source.toList pieces gap (first :: rest) ∧
              startsNumber first = true ∧ numeral.IsLongest (first :: rest) ∧
              numeral.IsPoint ∧ text = numeral.text ∧
              position = String.utf8Len (Piece.written pieces ++ gap)) ∧
      (∀ found value position, tokens source = .ok found →
        ⟨.number value, position⟩ ∈ found → IsUnsigned value) ∧
      (∀ expression, parse source = .ok expression →
        (expression == expression) = true) ∧
      (∀ expression, compile source = .ok expression →
        (expression == expression) = true) ∧
      agree (compile source) (ofText source) = true := by
  refine ⟨fun pieces gap first rest splits number => ?_,
    fun text position failed => ?_,
    fun found value position scanned member =>
      isUnsigned_of_mem_tokens scanned member,
    fun expression => beq_self_of_parse, fun expression => beq_self_of_compile,
    agree_compile_ofText source⟩
  · exact ⟨_, _, (Numeral.chars_append_read (first :: rest)).symm,
      Numeral.read_isLongest (first :: rest), takesNumeral splits number rfl⟩
  · cases Scanned.of_tokens failed with
    | @malformed pieces gap after _ first splits found =>
        cases Faces.of_front found with
        | malformed number lone =>
            exact ⟨pieces, gap, first, after, _, splits, number,
              Numeral.read_isLongest _,
              (Numeral.isPoint_iff_of_read number after).2 lone, rfl, rfl⟩

/-- A numeral past the largest float is infinite. -/
example : (readFloat "1e999").toOption.any Float.isInf = true := by
  decide +kernel

end Expression

end RootFinding
