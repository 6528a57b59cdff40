/-! Strings of JSON as they are written. A string is a list of pieces: a plain
character, an escape of one letter, or an escape that names a code unit. -/

namespace RootFinding

namespace Json

inductive TextPiece where
  | plain (character : Char)
  | escape (letter : Char)
  | codeUnit (unit : Nat)
deriving DecidableEq, Repr

namespace TextPiece

/-- What the letter after a backslash stands for. -/
def meaning? : Char → Option Char
  | '"' => some '"'
  | '\\' => some '\\'
  | '/' => some '/'
  | 'b' => some '\x08'
  | 'f' => some '\x0c'
  | 'n' => some '\n'
  | 'r' => some '\r'
  | 't' => some '\t'
  | _ => none

/-- The letter that a character must be escaped by, if it has one. -/
def letter? : Char → Option Char
  | '"' => some '"'
  | '\\' => some '\\'
  | '\x08' => some 'b'
  | '\x0c' => some 'f'
  | '\n' => some 'n'
  | '\r' => some 'r'
  | '\t' => some 't'
  | _ => none

def isControl (character : Char) : Bool :=
  character.toNat < 0x20

/-- The piece that a character is written as. -/
def ofCharacter (character : Char) : TextPiece :=
  match letter? character with
  | some letter => .escape letter
  | none =>
      if isControl character then
        .codeUnit character.toNat
      else
        .plain character

def ofString (text : String) : List TextPiece :=
  text.toList.map ofCharacter

/-- A code unit has four hexadecimal digits. -/
def unitDigits (unit : Nat) : List Char :=
  let digits := Nat.toDigits 16 unit
  List.replicate (4 - digits.length) '0' ++ digits

def chars : TextPiece → List Char
  | .plain character => [character]
  | .escape letter => ['\\', letter]
  | .codeUnit unit => '\\' :: 'u' :: unitDigits unit

/-! Code units. Characters past the first 65536 are written as a pair of
surrogates; a surrogate on its own stands for no character. -/

def isHighSurrogate (unit : Nat) : Bool :=
  0xD800 ≤ unit && unit < 0xDC00

def isLowSurrogate (unit : Nat) : Bool :=
  0xDC00 ≤ unit && unit < 0xE000

def pairValue (high low : Nat) : Nat :=
  0x10000 + (high - 0xD800) * 0x400 + (low - 0xDC00)

/-- The characters of a string. A high surrogate may be `pending`, which only
a low one can follow. -/
def decodeAfter (pending : Option Nat) :
    List TextPiece → Option (List Char)
  | [] => if pending.isSome then none else some []
  | .plain character :: rest =>
      if pending.isSome then
        none
      else
        (decodeAfter none rest).map (character :: ·)
  | .escape letter :: rest =>
      if pending.isSome then
        none
      else
        match meaning? letter with
        | some character => (decodeAfter none rest).map (character :: ·)
        | none => none
  | .codeUnit unit :: rest =>
      match pending with
      | some high =>
          if isLowSurrogate unit then
            (decodeAfter none rest).map (Char.ofNat (pairValue high unit) :: ·)
          else
            none
      | none =>
          if isHighSurrogate unit then
            decodeAfter (some unit) rest
          else if isLowSurrogate unit then
            none
          else
            (decodeAfter none rest).map (Char.ofNat unit :: ·)

def decode? (pieces : List TextPiece) : Option String :=
  (decodeAfter none pieces).map String.ofList

/-! Reading. -/

def hexValue? (digit : Char) : Option Nat :=
  if '0' ≤ digit ∧ digit ≤ '9' then
    some (digit.toNat - '0'.toNat)
  else if 'a' ≤ digit ∧ digit ≤ 'f' then
    some (digit.toNat - 'a'.toNat + 10)
  else if 'A' ≤ digit ∧ digit ≤ 'F' then
    some (digit.toNat - 'A'.toNat + 10)
  else
    none

def unit? (first second third fourth : Char) : Option Nat :=
  match hexValue? first, hexValue? second, hexValue? third,
      hexValue? fourth with
  | some first, some second, some third, some fourth =>
      some (((first * 16 + second) * 16 + third) * 16 + fourth)
  | _, _, _, _ => none

def followedBy (piece : TextPiece) :
    Option (List TextPiece × List Char) → Option (List TextPiece × List Char)
  | some (pieces, rest) => some (piece :: pieces, rest)
  | none => none

/-- Takes the pieces up to the closing quote, and the quote, off the front of
a text. -/
def read : List Char → Option (List TextPiece × List Char)
  | [] => none
  | '"' :: rest => some ([], rest)
  | '\\' :: 'u' :: first :: second :: third :: fourth :: rest =>
      match unit? first second third fourth with
      | some unit => followedBy (.codeUnit unit) (read rest)
      | none => none
  | '\\' :: letter :: rest =>
      if (meaning? letter).isSome then
        followedBy (.escape letter) (read rest)
      else
        none
  | character :: rest =>
      if isControl character then
        none
      else
        followedBy (.plain character) (read rest)

theorem followedBy_eq_some {piece : TextPiece}
    {result : Option (List TextPiece × List Char)}
    {pieces : List TextPiece} {rest : List Char}
    (equal : followedBy piece result = some (pieces, rest)) :
    ∃ following, result = some (following, rest) ∧
      pieces = piece :: following := by
  match result, equal with
  | some (following, remaining), equal =>
      simp only [followedBy, Option.some.injEq, Prod.mk.injEq] at equal
      exact ⟨following, by rw [equal.2], equal.1.symm⟩

/-- Reading uses up at least the closing quote. -/
theorem read_length {source : List Char} {pieces : List TextPiece}
    {rest : List Char} (result : read source = some (pieces, rest)) :
    rest.length < source.length := by
  fun_induction read source generalizing pieces with
  | case1 => cases result
  | case2 remaining =>
      cases result
      simp
  | case3 first second third fourth remaining unit found induction =>
      obtain ⟨following, inner, _⟩ := followedBy_eq_some result
      have shorter := induction inner
      simp only [List.length_cons]
      omega
  | case4 => cases result
  | case5 letter remaining notUnit known induction =>
      obtain ⟨following, inner, _⟩ := followedBy_eq_some result
      have shorter := induction inner
      simp only [List.length_cons]
      omega
  | case6 => cases result
  | case7 => cases result
  | case8 character remaining notQuote notUnit notEscape printable induction =>
      obtain ⟨following, inner, _⟩ := followedBy_eq_some result
      have shorter := induction inner
      simp only [List.length_cons]
      omega

end TextPiece

end Json

end RootFinding
