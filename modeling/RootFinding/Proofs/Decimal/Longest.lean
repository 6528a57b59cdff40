import RootFinding.Proofs.Decimal.Regular

/-! What is read off the front of a text is a numeral, and no longer numeral
stands there. -/

namespace RootFinding

/-- Of a word and the rest of a text, the longest run of a kind takes at least
the word. -/
theorem isPrefix_takeWhile {kind : Char → Bool} {word : List Char}
    (inside : ∀ character ∈ word, kind character = true) (rest : List Char) :
    word <+: (word ++ rest).takeWhile kind := by
  rw [List.takeWhile_append_of_pos inside]
  exact List.prefix_append _ _

namespace ExponentPart

theorem readSign_chars (source : List Char) :
    ((readSign source).1.map Sign.char).toList ++ (readSign source).2 =
      source := by
  unfold readSign
  split <;> rfl

/-- An exponent part is read where a mark, an optional sign and a digit
stand. -/
theorem read_cases (source : List Char) :
    read source = (none, source) ∨
      ∃ part rest, read source = (some part, rest) ∧ part.IsRegular ∧
        part.chars ++ rest = source := by
  cases source with
  | nil => exact .inl rfl
  | cons mark tail =>
      have signed := readSign_chars tail
      simp only [read]
      split_ifs with found
      · refine .inr ⟨_, _, rfl, ⟨found.1, found.2, ?_⟩, ?_⟩
        · exact fun digit member => List.mem_takeWhile_imp member
        · rw [chars, List.cons_append, List.append_assoc,
            List.takeWhile_append_dropWhile, signed]
      · exact .inl rfl

/-- No longer exponent part stands at the front of a text than the one that is
read. -/
theorem IsRegular.exists_read {part : ExponentPart} (regular : part.IsRegular)
    (rest : List Char) :
    ∃ found remaining, read (part.chars ++ rest) = (some found, remaining) ∧
      part.chars.length ≤ found.chars.length := by
  have digits := isPrefix_takeWhile regular.all_digits rest
  have nonempty : (part.digits ++ rest).takeWhile Char.isDigit ≠ [] :=
    fun empty => regular.digits_ne_nil (List.prefix_nil.1 (empty ▸ digits))
  simp only [chars, List.cons_append, List.append_assoc, read]
  rw [readSign_append part.sign regular.digits_ne_nil regular.all_digits]
  simp only
  rw [if_pos ⟨regular.mark_eq, nonempty⟩]
  refine ⟨_, _, rfl, ?_⟩
  simpa using digits.length_le

end ExponentPart

namespace Numeral

theorem readMantissa_chars (source : List Char) :
    (readMantissa source).1 ++
      (((readMantissa source).2.1.map ('.' :: ·)).getD [] ++
        (readMantissa source).2.2) = source := by
  have whole := List.takeWhile_append_dropWhile (p := Char.isDigit)
    (l := source)
  unfold readMantissa
  dsimp only
  split
  · rename_i tail found
    simp only [Option.map_some, Option.getD_some, List.cons_append,
      List.takeWhile_append_dropWhile]
    rw [← found, whole]
  · exact whole

theorem readMantissa_digits (source : List Char) :
    (∀ digit ∈ (readMantissa source).1, digit.isDigit = true) ∧
      ∀ digit ∈ (readMantissa source).2.1.getD [], digit.isDigit = true := by
  unfold readMantissa
  dsimp only
  split
  · exact ⟨fun _ member => List.mem_takeWhile_imp member,
      fun _ member => List.mem_takeWhile_imp member⟩
  · exact ⟨fun _ member => List.mem_takeWhile_imp member,
      List.forall_mem_nil _⟩

theorem chars_append_read (source : List Char) :
    (read source).1.chars ++ (read source).2 = source := by
  have mantissa := readMantissa_chars source
  simp only [read, chars, List.append_assoc]
  rcases ExponentPart.read_cases (readMantissa source).2.2 with
    none | ⟨part, rest, some, -, split⟩
  · simpa only [none, Option.map_none, Option.getD_none, List.nil_append]
  · simpa only [some, Option.map_some, Option.getD_some, split]

theorem read_isRegular (source : List Char) : (read source).1.IsRegular := by
  have digits := readMantissa_digits source
  refine ⟨digits.1, digits.2, fun part member => ?_⟩
  rcases ExponentPart.read_cases (readMantissa source).2.2 with
    none | ⟨found, rest, some, regular, -⟩
  · simp [read, none] at member
  · simp only [read, some, Option.mem_some_iff] at member
    exact member ▸ regular

theorem readMantissa_whole (source : List Char) :
    (readMantissa source).1 = source.takeWhile Char.isDigit := by
  unfold readMantissa
  dsimp only
  split <;> rfl

theorem readMantissa_point {whole : List Char}
    (digits : ∀ digit ∈ whole, digit.isDigit = true) (tail : List Char) :
    readMantissa (whole ++ '.' :: tail) =
      (whole, some (tail.takeWhile Char.isDigit),
        tail.dropWhile Char.isDigit) := by
  have point : EndsDigits ('.' :: tail) := by
    intro next member
    cases member
    rfl
  have span := span_append digits point
  simp only [readMantissa, span.1, span.2]

section Longest

variable {numeral : Numeral} (regular : numeral.IsRegular) (rest : List Char)
include regular

/-- Where an exponent part ends the mantissa, the mantissa is read whole. -/
theorem IsRegular.read_of_exponent {part : ExponentPart}
    (marked : numeral.exponent = some part) :
    ∃ found remaining, read (numeral.chars ++ rest) =
        (⟨numeral.whole, numeral.fraction, some found⟩, remaining) ∧
      part.chars.length ≤ found.chars.length := by
  rcases numeral with ⟨whole, fraction, exponent⟩
  obtain rfl : exponent = some part := marked
  have partRegular := regular.exponent_regular part rfl
  have ends : ∀ next ∈ (part.chars ++ rest).head?,
      next.isDigit = false ∧ next ≠ '.' := by
    intro next member
    cases member
    rcases partRegular.mark_eq with mark | mark <;> rw [mark] <;> decide
  have mantissa := readMantissa_regular regular.whole_digits
    regular.fraction_digits (fun next member => (ends next member).1)
    fun next member => (ends next member).2
  rcases partRegular.exists_read rest with ⟨found, remaining, same, longer⟩
  refine ⟨found, remaining, ?_, longer⟩
  simp only [read, chars, Option.map_some, Option.getD_some, List.append_assoc,
    mantissa, same]

/-- No longer numeral stands at the front of a text than the one that is read,
and none has more digits. -/
theorem IsRegular.read_longest :
    numeral.mantissa <+: (read (numeral.chars ++ rest)).1.mantissa ∧
      numeral.chars.length ≤ (read (numeral.chars ++ rest)).1.chars.length := by
  rcases numeral with ⟨whole, fraction, exponent⟩
  cases exponent with
  | some part =>
      rcases regular.read_of_exponent rest rfl with
        ⟨found, remaining, same, longer⟩
      rw [same]
      refine ⟨List.prefix_rfl, ?_⟩
      simpa [chars] using longer
  | none =>
      cases fraction with
      | some digits =>
          have taken : digits <+: (digits ++ rest).takeWhile Char.isDigit :=
            isPrefix_takeWhile regular.fraction_digits rest
          have mantissa := readMantissa_point regular.whole_digits
            (digits ++ rest)
          simp only [Numeral.mantissa, read, chars, Option.map_some,
            Option.getD_some, Option.map_none, Option.getD_none,
            List.append_nil, List.append_assoc, List.cons_append, mantissa]
          refine ⟨(List.prefix_append_right_inj _).2 taken, ?_⟩
          have longer := taken.length_le
          simp only [List.length_append, List.length_cons]
          omega
      | none =>
          have taken : whole <+: (readMantissa (whole ++ rest)).1 := by
            rw [readMantissa_whole]
            exact isPrefix_takeWhile regular.whole_digits rest
          simp only [Numeral.mantissa, read, chars, Option.map_none,
            Option.getD_none, List.append_nil]
          have longer := taken.length_le
          refine ⟨taken.trans (List.prefix_append _ _), ?_⟩
          simp only [List.length_append]
          omega

end Longest

end Numeral

end RootFinding
