import Mathlib
import RootFinding.Json.TextPiece

/-! Strings of JSON are read as they were written. A character is written by its
letter, or by its code unit, or as itself; the reader takes each of these whole,
and each stands for the character. -/

namespace RootFinding

namespace Json.TextPiece

theorem meaning_of_letter {character letter : Char}
    (found : letter? character = some letter) :
    letter ≠ 'u' ∧ meaning? letter = some character := by
  unfold letter? at found
  split at found <;> cases found <;> decide

theorem ne_of_no_letter {character : Char}
    (unescaped : letter? character = none) :
    character ≠ '"' ∧ character ≠ '\\' := by
  refine ⟨fun quote => ?_, fun backslash => ?_⟩
  · rw [quote] at unescaped
    cases unescaped
  · rw [backslash] at unescaped
    cases unescaped

/-- The code units of control characters start with two zeros. -/
theorem unitDigits_of_control :
    ∀ unit < 0x20,
      unitDigits unit =
          ['0', '0', Nat.digitChar (unit / 16), Nat.digitChar (unit % 16)] ∧
        unit? '0' '0' (Nat.digitChar (unit / 16))
          (Nat.digitChar (unit % 16)) = some unit := by
  decide

/-! Reading takes one piece, and goes on behind it. -/

section Read

variable (rest : List Char)

theorem read_escape {letter : Char} (notUnit : letter ≠ 'u')
    (known : (meaning? letter).isSome = true) :
    read ('\\' :: letter :: rest) = followedBy (.escape letter) (read rest) := by
  rw [read]
  · rw [if_pos known]
  · intro first second third fourth following unitLetter
    exact absurd unitLetter notUnit

theorem read_control {unit : Nat} (control : unit < 0x20) :
    read ('\\' :: 'u' :: (unitDigits unit ++ rest)) =
      followedBy (.codeUnit unit) (read rest) := by
  rcases unitDigits_of_control unit control with ⟨digits, value⟩
  rw [digits]
  simp only [List.cons_append, List.nil_append, read, value]

theorem read_plain {character : Char} (notQuote : character ≠ '"')
    (notEscape : character ≠ '\\') (printable : isControl character = false) :
    read (character :: rest) = followedBy (.plain character) (read rest) := by
  rw [read]
  · rw [printable]
    rfl
  · exact notQuote
  · intro first second third fourth following escape
    exact absurd escape notEscape
  · intro letter following escape
    exact absurd escape notEscape

theorem read_ofCharacter (character : Char) :
    read ((ofCharacter character).chars ++ rest) =
      followedBy (ofCharacter character) (read rest) := by
  unfold ofCharacter
  split
  case h_1 letter found =>
      rcases meaning_of_letter found with ⟨notUnit, meaning⟩
      exact read_escape rest notUnit (by rw [meaning]; rfl)
  case h_2 unescaped =>
      rcases ne_of_no_letter unescaped with ⟨notQuote, notEscape⟩
      cases control : isControl character with
      | true => exact read_control rest (of_decide_eq_true control)
      | false => exact read_plain rest notQuote notEscape control

/-- The closing quote is taken as well. -/
theorem read_ofString (text : String) :
    read ((ofString text).flatMap chars ++ '"' :: rest) =
      some (ofString text, rest) := by
  unfold ofString
  induction text.toList with
  | nil => simp [read]
  | cons character characters taken =>
      rw [List.map_cons, List.flatMap_cons, List.append_assoc,
        read_ofCharacter, taken]
      rfl

end Read

/-! What the pieces stand for. -/

theorem decodeAfter_ofCharacter (character : Char) (rest : List TextPiece) :
    decodeAfter none (ofCharacter character :: rest) =
      (decodeAfter none rest).map (character :: ·) := by
  unfold ofCharacter
  split
  case h_1 letter found =>
      simp [decodeAfter, (meaning_of_letter found).2]
  case h_2 unescaped =>
      split_ifs with control
      · -- Surrogates are no control characters.
        have small : character.toNat < 0x20 := of_decide_eq_true control
        have notHigh : isHighSurrogate character.toNat = false := by
          simp only [isHighSurrogate, Bool.and_eq_false_iff, decide_eq_false_iff_not]
          omega
        have notLow : isLowSurrogate character.toNat = false := by
          simp only [isLowSurrogate, Bool.and_eq_false_iff, decide_eq_false_iff_not]
          omega
        simp [decodeAfter, notHigh, notLow]
      · rfl

theorem decode_ofString (text : String) :
    decode? (ofString text) = some text := by
  have characters : ∀ source : List Char,
      decodeAfter none (source.map ofCharacter) = some source := by
    intro source
    induction source with
    | nil => rfl
    | cons character rest decoded =>
        rw [List.map_cons, decodeAfter_ofCharacter, decoded]
        rfl
  unfold decode? ofString
  rw [characters, Option.map_some, String.ofList_toList]

end Json.TextPiece

end RootFinding
