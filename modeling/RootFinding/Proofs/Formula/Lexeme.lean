import RootFinding.Formula.Token
import RootFinding.Proofs.Outcome
import RootFinding.Proofs.Decimal.Plain
import RootFinding.Proofs.Decimal.Regular

/-! Numbers and names in a text. What the scanner takes for a number is the
float of a decimal, and what it takes for a name is an identifier. Conversely it
takes a plain numeral or an identifier whole where a separator follows. -/

namespace RootFinding

namespace Token

def isIdentifier : List Char → Bool
  | [] => false
  | first :: tail => startsIdentifier first && tail.all continuesIdentifier

theorem isIdentifier_iff {chars : List Char} :
    isIdentifier chars = true ↔
      ∃ first tail, chars = first :: tail ∧ startsIdentifier first = true ∧
        ∀ character ∈ tail, continuesIdentifier character = true := by
  cases chars with
  | nil => simp [isIdentifier]
  | cons first tail => simp [isIdentifier]

/-- What a scanned token can be. -/
def IsLexeme : Token → Prop
  | .number value => ∃ decimal : Decimal, decimal.toFloat = value
  | .identifier name => isIdentifier name.toList = true
  | _ => True

/-- The text of a token stands for the token. This leaves out infinite
numbers. -/
def IsLegible (token : Token) : Prop :=
  token.IsLexeme ∧
    match token with
    | .number value => value.isFinite = true
    | _ => True

theorem isLexeme_of_ofCharacter? {character : Char} {token : Token}
    (found : ofCharacter? character = some token) : token.IsLexeme := by
  unfold ofCharacter? at found
  split at found <;> cases found <;> trivial

theorem isLexeme_of_front {first : Char} {rest tail : List Char} {token : Token}
    (found : front first rest = .token tail token) : token.IsLexeme := by
  unfold front at found
  split_ifs at found with blank star number identifier
  · unfold times? at found
    split at found <;> cases found <;> trivial
  · unfold number? at found
    split at found
    · rename_i value read
      cases found
      unfold Numeral.toFloat? at read
      split_ifs at read
      exact ⟨_, Option.some.inj read⟩
    · cases found
  · cases found
    exact isIdentifier_iff.2 ⟨first, _, String.toList_ofList, identifier,
      fun character member => List.mem_takeWhile_imp member⟩
  · split at found
    · rename_i listed
      cases found
      exact isLexeme_of_ofCharacter? listed
    · cases found

theorem isLexeme_of_scan {position : Nat} {source : List Char}
    {placed : List PlacedToken} (scanned : scan position source = .ok placed) :
    ∀ found ∈ placed, found.token.IsLexeme := by
  fun_induction scan position source generalizing placed with
  | case1 => cases scanned; exact List.forall_mem_nil _
  | case2 position first rest blank later => exact later scanned
  | case3 position first rest tail token found later =>
      rcases Outcome.bind_eq_ok.mp scanned with ⟨following, scannedRest, joined⟩
      cases joined
      exact List.forall_mem_cons.2 ⟨isLexeme_of_front found, later scannedRest⟩
  | case4 => cases scanned
  | case5 => cases scanned

/-! The first character tells a number from a name. -/

theorem ne_of_class {kind : Char → Bool} {character other : Char}
    (inside : kind character = true) (outside : kind other = false) :
    character ≠ other := by
  intro same
  rw [same, outside] at inside
  cases inside

theorem isBlank_eq_false {kind : Char → Bool} {character : Char}
    (inside : kind character = true)
    (outside : (kind ' ' || kind '\t' || kind '\n' || kind '\x0c' ||
      kind '\r') = false) :
    isBlank character = false := by
  rw [Bool.eq_false_iff]
  intro blank
  simp only [isBlank, Bool.or_eq_true, decide_eq_true_eq] at blank
  rcases blank with (((rfl | rfl) | rfl) | rfl) | rfl <;>
    simp [inside] at outside

theorem front_of_startsNumber {first : Char}
    (number : startsNumber first = true) (rest : List Char) :
    front first rest = number? (Numeral.read (first :: rest)).1 := by
  have blank := isBlank_eq_false number (by decide)
  have star : first ≠ '*' := ne_of_class number (by decide)
  simp [front, blank, star, number]

theorem front_of_isDigit {first : Char} (digit : first.isDigit = true)
    (rest : List Char) :
    front first rest = number? (Numeral.read (first :: rest)).1 := by
  have number : startsNumber first = true := by
    unfold startsNumber
    rw [digit, Bool.true_or]
  exact front_of_startsNumber number rest

theorem isDigit_eq_false {first : Char}
    (letter : startsIdentifier first = true) : first.isDigit = false := by
  by_cases underscore : first = '_'
  · rw [underscore]
    rfl
  · rw [Bool.eq_false_iff]
    intro digit
    simp only [startsIdentifier, underscore, Char.isAlpha, Char.isUpper,
      Char.isLower, Char.isDigit, Bool.or_eq_true, Bool.and_eq_true,
      decide_eq_true_eq, ge_iff_le, UInt32.le_iff_toNat_le, or_false]
      at letter digit
    simp at letter digit
    omega

theorem startsNumber_eq_false {first : Char}
    (letter : startsIdentifier first = true) : startsNumber first = false := by
  have point : first ≠ '.' := ne_of_class letter (by decide)
  simp [startsNumber, point, isDigit_eq_false letter]

theorem front_of_startsIdentifier {first : Char}
    (letter : startsIdentifier first = true) (rest : List Char) :
    front first rest = .token (rest.takeWhile continuesIdentifier)
      (.identifier (String.ofList
        (first :: rest.takeWhile continuesIdentifier))) := by
  have blank := isBlank_eq_false letter (by decide)
  have star : first ≠ '*' := ne_of_class letter (by decide)
  have number := startsNumber_eq_false letter
  simp [front, blank, star, number, letter]

/-! Scanning from a given text on. -/

theorem scan_blank {position : Nat} {rest : List Char} :
    scan position (' ' :: rest) = scan (position + 1) rest := by
  rw [scan]
  rfl

section Steps

variable {position : Nat} {rest : List Char} {following : List PlacedToken}

theorem scan_of_front {first : Char} {tail : List Char} {token : Token}
    (found : front first (tail ++ rest) = .token tail token)
    (later : scan (position + (first :: tail).length) rest = .ok following) :
    scan position (first :: (tail ++ rest)) =
      .ok (⟨token, position⟩ :: following) := by
  have place : position + 1 + tail.length =
      position + (first :: tail).length := by
    rw [List.length_cons]
    omega
  rw [scan, found]
  simp only [List.drop_left, place, later]
  rfl

theorem scan_character {character : Char} {token : Token}
    (found : front character rest = .token [] token)
    (later : scan (position + 1) rest = .ok following) :
    scan position (character :: rest) =
      .ok (⟨token, position⟩ :: following) := by
  rw [← List.nil_append rest] at found
  exact scan_of_front found later

theorem scan_open (later : scan (position + 1) rest = .ok following) :
    scan position ('(' :: rest) =
      .ok (⟨.leftParenthesis, position⟩ :: following) :=
  scan_character rfl later

theorem scan_close (later : scan (position + 1) rest = .ok following) :
    scan position (')' :: rest) =
      .ok (⟨.rightParenthesis, position⟩ :: following) :=
  scan_character rfl later

end Steps

/-- What may follow a word in a written formula. -/
def Separates (rest : List Char) : Prop :=
  ∀ next ∈ rest.head?, next = ' ' ∨ next = '(' ∨ next = ')'

theorem separates_cons {next : Char}
    (listed : next = ' ' ∨ next = '(' ∨ next = ')') (rest : List Char) :
    Separates (next :: rest) := by
  intro found member
  cases member
  exact listed

section Words

variable {rest : List Char} (separates : Separates rest)
include separates

theorem takeWhile_of_separates {kind : Char → Bool} {word : List Char}
    (inside : ∀ character ∈ word, kind character = true)
    (outside : kind ' ' = false ∧ kind '(' = false ∧ kind ')' = false) :
    (word ++ rest).takeWhile kind = word ∧
      (word ++ rest).dropWhile kind = rest := by
  refine span_append inside fun next member => ?_
  rcases separates next member with rfl | rfl | rfl <;> simp [outside]

theorem endsNumeral_of_separates : EndsNumeral rest := by
  intro next member
  rcases separates next member with rfl | rfl | rfl <;> decide

theorem numeral_read_append {numeral : Numeral} (plain : numeral.IsPlain) :
    Numeral.read (numeral.chars ++ rest) = (numeral, rest) := by
  have regular : numeral.IsRegular := {
    whole_digits := plain.whole_digits
    fraction_digits := plain.fraction_digits
    exponent_regular := by
      rw [plain.exponent_eq]
      exact nofun }
  exact regular.read_append (endsNumeral_of_separates separates)

variable {position : Nat} {following : List PlacedToken}

theorem scan_number {numeral : Numeral} (plain : numeral.IsPlain)
    {value : Float} (read : numeral.toFloat? = some value)
    (later : scan (position + numeral.chars.length) rest = .ok following) :
    scan position (numeral.chars ++ rest) =
      .ok (⟨.number value, position⟩ :: following) := by
  have whole := numeral_read_append separates plain
  cases digits : numeral.whole with
  | nil => exact absurd digits plain.whole_ne_nil
  | cons first others =>
      have digit := plain.whole_digits first (digits ▸ List.mem_cons_self)
      have chars : ∃ tail, numeral.chars = first :: tail := by
        unfold Numeral.chars
        rw [digits]
        exact ⟨_, rfl⟩
      rcases chars with ⟨tail, split⟩
      rw [split] at later whole ⊢
      refine scan_of_front ?_ later
      rw [front_of_isDigit digit, ← List.cons_append, whole, number?, read,
        split]
      rfl

theorem scan_identifier {name : String}
    (identifier : isIdentifier name.toList = true)
    (later : scan (position + name.length) rest = .ok following) :
    scan position (name.toList ++ rest) =
      .ok (⟨.identifier name, position⟩ :: following) := by
  have text : String.ofList name.toList = name := String.ofList_toList
  rw [← String.length_toList] at later
  rcases isIdentifier_iff.1 identifier with
    ⟨first, tail, chars, starts, continues⟩
  rw [chars] at later text ⊢
  have taken := takeWhile_of_separates separates continues (by decide)
  refine scan_of_front ?_ later
  rw [front_of_startsIdentifier starts, taken.1, text]

theorem times?_of_separates : times? rest = .token [] .times := by
  cases rest with
  | nil => rfl
  | cons next after =>
      rcases separates next rfl with rfl | rfl | rfl <;> rfl

/-- A token is scanned from its own text. -/
theorem scan_text {token : Token} (legible : token.IsLegible)
    (later : scan (position + token.text.length) rest = .ok following) :
    scan position (token.text.toList ++ rest) =
      .ok (⟨token, position⟩ :: following) := by
  cases token with
  | number value =>
      rcases legible with ⟨⟨decimal, rfl⟩, finite⟩
      rcases exists_plain_numeral finite with ⟨numeral, plain, text, read⟩
      rw [Token.text, text, Numeral.text, String.length_ofList] at later
      rw [Token.text, text, Numeral.text, String.toList_ofList]
      exact scan_number separates plain read later
  | identifier name => exact scan_identifier separates legible.1 later
  | times => exact scan_character (times?_of_separates separates) later
  | _ => exact scan_character rfl later

end Words

/-! Any legible tokens can be written, one after another. -/

/-- The texts of some tokens, with a blank before each. -/
def spaced (lexemes : List Token) : List Char :=
  lexemes.flatMap fun token => ' ' :: token.text.toList

theorem spaced_cons (token : Token) (later : List Token) :
    spaced (token :: later) = ' ' :: (token.text.toList ++ spaced later) :=
  rfl

theorem separates_spaced (lexemes : List Token) :
    Separates (spaced lexemes) := by
  cases lexemes with
  | nil => simp [spaced, Separates]
  | cons token later => exact separates_cons (.inl rfl) _

theorem scan_spaced {lexemes : List Token}
    (legible : ∀ token ∈ lexemes, token.IsLegible) (position : Nat) :
    ∃ placed, scan position (spaced lexemes) = .ok placed ∧
      placed.map PlacedToken.token = lexemes := by
  induction lexemes generalizing position with
  | nil => exact ⟨[], by rw [spaced, List.flatMap_nil, scan], rfl⟩
  | cons token later induction =>
      rcases List.forall_mem_cons.1 legible with ⟨first, others⟩
      rcases induction others (position + 1 + token.text.length) with
        ⟨following, scanned, same⟩
      refine ⟨⟨token, position + 1⟩ :: following, ?_, ?_⟩
      · rw [spaced_cons, scan_blank]
        exact scan_text (separates_spaced later) first scanned
      · rw [List.map_cons, same]

end Token

end RootFinding
