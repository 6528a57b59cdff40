import RootFinding.Proofs.Decimal.Longest
import RootFinding.Proofs.Formula.Lexeme

/-! How tokens are spelled. What the scanner takes off the front of a text is
the longest lexeme that stands there, and it takes nothing only where none
does. -/

namespace RootFinding

theorem Numeral.IsRegular.exists_first {numeral : Numeral}
    (regular : numeral.IsRegular) (digits : numeral.mantissa ≠ []) :
    ∃ first tail, numeral.chars = first :: tail ∧
      Token.startsNumber first = true := by
  rcases numeral with ⟨_ | ⟨first, others⟩, fraction, exponent⟩
  · cases fraction with
    | none => exact absurd rfl digits
    | some fraction => exact ⟨'.', _, rfl, rfl⟩
  · have digit := regular.whole_digits first List.mem_cons_self
    refine ⟨first, _, rfl, ?_⟩
    rw [Token.startsNumber, digit, Bool.true_or]

namespace Token

/-- The lexemes of each token. -/
inductive Spells : List Char → Token → Prop
  | number {numeral : Numeral} {value : Float} (regular : numeral.IsRegular)
      (read : numeral.toFloat? = some value) :
      Spells numeral.chars (.number value)
  | identifier {name : String}
      (identifier : isIdentifier name.toList = true) :
      Spells name.toList (.identifier name)
  | plus : Spells ['+'] .plus
  | minus : Spells ['-'] .minus
  | times : Spells ['*'] .times
  | divide : Spells ['/'] .divide
  | caret : Spells ['^'] .power
  | doubleStar : Spells ['*', '*'] .power
  | leftParenthesis : Spells ['('] .leftParenthesis
  | rightParenthesis : Spells [')'] .rightParenthesis

/-- Characters of lexemes. Each of them can begin one. -/
def isLexical (character : Char) : Bool :=
  startsNumber character || startsIdentifier character || character = '*' ||
    (ofCharacter? character).isSome

/-- What can be at the front of the text `first :: rest`. -/
inductive Faces (first : Char) (rest : List Char) : Front → Prop
  | blank (blank : isBlank first = true) : Faces first rest .blank
  | token {tail : List Char} {token : Token}
      (spells : Spells (first :: tail) token) (stands : tail <+: rest) :
      Faces first rest (.token tail token)
  | malformed (number : startsNumber first = true)
      (lone : (Numeral.read (first :: rest)).1.mantissa = []) :
      Faces first rest (.malformed (Numeral.read (first :: rest)).1.chars)
  | foreign (blank : isBlank first = false)
      (foreign : isLexical first = false) : Faces first rest .foreign

/-- The lexeme stands at the front of the text, and no longer one does. -/
structure IsLongest (lexeme : List Char) (token : Token) (text : List Char) :
    Prop where
  spells : Spells lexeme token
  front : lexeme <+: text
  longest : ∀ other found, Spells other found → other <+: text →
    other.length ≤ lexeme.length

theorem mantissa_ne_nil {numeral : Numeral} {value : Float}
    (read : numeral.toFloat? = some value) : numeral.mantissa ≠ [] := by
  intro empty
  rw [Numeral.toFloat?, if_pos empty] at read
  cases read

theorem exists_toFloat? {numeral : Numeral} (digits : numeral.mantissa ≠ []) :
    ∃ value, numeral.toFloat? = some value :=
  ⟨_, if_neg digits⟩

theorem spells_of_ofCharacter? {character : Char} {token : Token}
    (found : ofCharacter? character = some token) :
    Spells [character] token := by
  unfold ofCharacter? at found
  split at found <;> cases found <;> constructor

theorem faces_times? (rest : List Char) :
    Faces '*' rest (times? rest) := by
  unfold times?
  split
  · exact .token .doubleStar (List.prefix_append ['*'] _)
  · exact .token .times List.nil_prefix

theorem faces_number? {first : Char} (number : startsNumber first = true)
    (rest : List Char) :
    Faces first rest (number? (Numeral.read (first :: rest)).1) := by
  unfold number? Numeral.toFloat?
  split_ifs with lone
  · exact .malformed number lone
  · have whole := Numeral.chars_append_read (first :: rest)
    have regular := Numeral.read_isRegular (first :: rest)
    set numeral := (Numeral.read (first :: rest)).1
    rcases regular.exists_first lone with ⟨begin, tail, chars, -⟩
    rw [chars, List.cons_append, List.cons.injEq] at whole
    rcases whole with ⟨rfl, split⟩
    have spells := Spells.number regular (if_neg lone)
    rw [chars] at spells
    rw [chars, List.drop_one, List.tail_cons]
    exact .token spells ⟨_, split⟩

theorem faces_identifier {first : Char}
    (letter : startsIdentifier first = true) (rest : List Char) :
    Faces first rest (.token (rest.takeWhile continuesIdentifier)
      (.identifier (String.ofList
        (first :: rest.takeWhile continuesIdentifier)))) := by
  have spelled : isIdentifier (String.ofList
      (first :: rest.takeWhile continuesIdentifier)).toList = true :=
    isIdentifier_iff.2 ⟨first, _, String.toList_ofList, letter,
      fun character member => List.mem_takeWhile_imp member⟩
  have spells := Spells.identifier spelled
  rw [String.toList_ofList] at spells
  exact .token spells (List.takeWhile_prefix _)

theorem faces_front (first : Char) (rest : List Char) :
    Faces first rest (front first rest) := by
  unfold front
  split_ifs with blank star number letter
  · exact .blank blank
  · exact star ▸ faces_times? rest
  · exact faces_number? number rest
  · exact faces_identifier letter rest
  · split
    · rename_i listed
      exact .token (spells_of_ofCharacter? listed) List.nil_prefix
    · rename_i unlisted
      refine .foreign (Bool.eq_false_iff.2 blank) ?_
      simp [isLexical, star, number, letter, unlisted]

theorem Faces.of_front {first : Char} {rest : List Char} {found : Front}
    (same : front first rest = found) : Faces first rest found :=
  same ▸ faces_front first rest

/-- A lexeme is no longer than what the scanner takes where it stands. -/
theorem Spells.exists_front {lexeme : List Char} {token : Token}
    (spells : Spells lexeme token) {first : Char} {rest : List Char}
    (stands : lexeme <+: first :: rest) :
    ∃ tail found, front first rest = .token tail found ∧
      lexeme.length ≤ (first :: tail).length := by
  rcases stands with ⟨after, split⟩
  cases spells with
  | number regular read =>
      rename_i numeral value
      have longest := regular.read_longest after
      have digits := mantissa_ne_nil read
      rcases regular.exists_first digits with ⟨begin, others, chars, number⟩
      obtain rfl : begin = first := by
        rw [chars, List.cons_append] at split
        exact (List.cons.inj split).1
      rw [split] at longest
      have more : (Numeral.read (begin :: rest)).1.mantissa ≠ [] :=
        fun empty => digits (List.prefix_nil.1 (empty ▸ longest.1))
      rcases exists_toFloat? more with ⟨found, foundRead⟩
      refine ⟨(Numeral.read (begin :: rest)).1.chars.drop 1, .number found,
        ?_, ?_⟩
      · rw [front_of_startsNumber number, number?, foundRead]
      · have := longest.2
        simp only [List.length_cons, List.length_drop]
        omega
  | identifier identifier =>
      rename_i name
      rcases isIdentifier_iff.1 identifier with
        ⟨begin, others, chars, starts, continues⟩
      rw [chars] at split ⊢
      obtain ⟨rfl, rfl⟩ := List.cons.inj split
      refine ⟨_, _, front_of_startsIdentifier starts _, ?_⟩
      exact Nat.succ_le_succ (isPrefix_takeWhile continues after).length_le
  | times =>
      obtain ⟨rfl, -⟩ := List.cons.inj split
      change ∃ tail found, times? rest = .token tail found ∧ _
      unfold times?
      split
      · exact ⟨_, _, rfl, Nat.le_succ _⟩
      · exact ⟨_, _, rfl, le_rfl⟩
  | doubleStar =>
      obtain ⟨rfl, rfl⟩ := List.cons.inj split
      exact ⟨['*'], .power, rfl, le_rfl⟩
  | _ =>
      obtain ⟨rfl, rfl⟩ := List.cons.inj split
      exact ⟨_, _, rfl, le_rfl⟩

/-- A lexeme alone is taken whole. -/
theorem Spells.front_eq {lexeme : List Char} {token : Token}
    (spells : Spells lexeme token) :
    ∃ first tail, lexeme = first :: tail ∧
      front first tail = .token tail token := by
  cases spells with
  | number regular read =>
      have ends : EndsNumeral [] := by simp [EndsNumeral]
      have whole := regular.read_append ends
      rcases regular.exists_first (mantissa_ne_nil read) with
        ⟨first, tail, chars, number⟩
      refine ⟨first, tail, chars, ?_⟩
      rw [chars, List.append_nil] at whole
      rw [front_of_startsNumber number, whole, number?, read, chars]
      rfl
  | identifier identifier =>
      rename_i name
      have text : String.ofList name.toList = name := String.ofList_toList
      rcases isIdentifier_iff.1 identifier with
        ⟨first, tail, chars, starts, continues⟩
      have taken := List.takeWhile_eq_self_iff.2 continues
      rw [chars] at text
      refine ⟨first, tail, chars, ?_⟩
      rw [front_of_startsIdentifier starts, taken, text]
  | _ => exact ⟨_, _, rfl, rfl⟩

theorem Spells.ne_nil {lexeme : List Char} {token : Token}
    (spells : Spells lexeme token) : lexeme ≠ [] := by
  rcases spells.front_eq with ⟨first, tail, rfl, -⟩
  exact List.cons_ne_nil _ _

/-- A lexeme gives its token. -/
theorem Spells.unique {lexeme : List Char} {token other : Token}
    (spells : Spells lexeme token) (again : Spells lexeme other) :
    other = token := by
  rcases spells.front_eq with ⟨first, tail, rfl, front⟩
  rcases again.front_eq with ⟨_, _, same, otherFront⟩
  obtain ⟨rfl, rfl⟩ := List.cons.inj same
  rw [front] at otherFront
  injection otherFront with _ sameToken
  exact sameToken.symm

/-- The scanner takes exactly the longest lexemes. -/
theorem front_eq_token_iff {first : Char} {rest tail : List Char}
    {token : Token} :
    front first rest = .token tail token ↔
      IsLongest (first :: tail) token (first :: rest) := by
  constructor
  · intro found
    rcases Faces.of_front found with _ | ⟨spells, stands⟩
    refine ⟨spells, (List.prefix_cons_inj first).2 stands, ?_⟩
    intro other meant otherSpells otherStands
    rcases otherSpells.exists_front otherStands with
      ⟨taken, _, otherFound, atMost⟩
    rw [found] at otherFound
    cases otherFound
    exact atMost
  · rintro ⟨spells, stands, longest⟩
    rcases spells.exists_front stands with ⟨taken, found, front, atMost⟩
    rcases Faces.of_front front with _ | ⟨otherSpells, otherStands⟩
    have otherStands := (List.prefix_cons_inj first).2 otherStands
    have same : (first :: tail).length = (first :: taken).length :=
      atMost.antisymm (longest _ _ otherSpells otherStands)
    have equal : first :: tail = first :: taken :=
      (List.prefix_of_prefix_length_le stands otherStands atMost).eq_of_length
        same
    obtain ⟨-, rfl⟩ := List.cons.inj equal
    rw [front, spells.unique otherSpells]

/-! The characters of lexemes are those that can begin one. None of them is a
blank, and all of them are one byte long, as blanks are. -/

theorem isLexical_of_isDigit {character : Char}
    (digit : character.isDigit = true) : isLexical character = true := by
  simp [isLexical, startsNumber, digit]

theorem isLexical_of_continuesIdentifier {character : Char}
    (continues : continuesIdentifier character = true) :
    isLexical character = true := by
  simp only [continuesIdentifier, Char.isAlphanum, Bool.or_eq_true,
    decide_eq_true_eq] at continues
  rcases continues with (letter | digit) | rfl
  · simp [isLexical, startsIdentifier, letter]
  · exact isLexical_of_isDigit digit
  · rfl

theorem continuesIdentifier_of_startsIdentifier {character : Char}
    (starts : startsIdentifier character = true) :
    continuesIdentifier character = true := by
  simp only [startsIdentifier, continuesIdentifier, Char.isAlphanum,
    Bool.or_eq_true] at starts ⊢
  exact starts.imp_left .inl

theorem isLexical_of_mem_exponent {part : ExponentPart}
    (regular : part.IsRegular) :
    ∀ character ∈ part.chars, isLexical character = true := by
  intro character member
  simp only [ExponentPart.chars, List.mem_cons, List.mem_append,
    Option.mem_toList, Option.map_eq_some_iff] at member
  rcases member with rfl | ⟨sign, -, rfl⟩ | digit
  · rcases regular.mark_eq with mark | mark <;> rw [mark] <;> rfl
  · cases sign <;> rfl
  · exact isLexical_of_isDigit (regular.all_digits character digit)

theorem isLexical_of_mem_numeral {numeral : Numeral}
    (regular : numeral.IsRegular) :
    ∀ character ∈ numeral.chars, isLexical character = true := by
  rcases numeral with ⟨whole, fraction, exponent⟩
  intro character member
  simp only [Numeral.chars, List.mem_append] at member
  rcases member with inWhole | inFraction | inExponent
  · exact isLexical_of_isDigit (regular.whole_digits character inWhole)
  · cases fraction with
    | none => cases inFraction
    | some digits =>
        rcases List.mem_cons.1 inFraction with rfl | digit
        · rfl
        · exact isLexical_of_isDigit (regular.fraction_digits character digit)
  · cases exponent with
    | none => cases inExponent
    | some part =>
        exact isLexical_of_mem_exponent (regular.exponent_regular part rfl)
          character inExponent

theorem Spells.isLexical {lexeme : List Char} {token : Token}
    (spells : Spells lexeme token) :
    ∀ character ∈ lexeme, isLexical character = true := by
  cases spells with
  | number regular _ => exact isLexical_of_mem_numeral regular
  | identifier identifier =>
      rename_i name
      rcases isIdentifier_iff.1 identifier with
        ⟨first, tail, chars, starts, continues⟩
      have begins := continuesIdentifier_of_startsIdentifier starts
      rw [chars]
      exact List.forall_mem_cons.2
        ⟨isLexical_of_continuesIdentifier begins, fun character member =>
          isLexical_of_continuesIdentifier (continues character member)⟩
  | doubleStar => simp [Token.isLexical]
  | _ => exact List.forall_mem_singleton.2 rfl

theorem exists_spells_iff {first : Char} :
    (∃ tail token, Spells (first :: tail) token) ↔
      isLexical first = true := by
  constructor
  · rintro ⟨tail, token, spells⟩
    exact spells.isLexical first List.mem_cons_self
  · intro lexical
    simp only [isLexical, startsNumber, Bool.or_eq_true, decide_eq_true_eq,
      Option.isSome_iff_exists] at lexical
    rcases lexical with (((digit | rfl) | letter) | rfl) | ⟨token, listed⟩
    · have regular : Numeral.IsRegular ⟨[first], none, none⟩ :=
        ⟨List.forall_mem_singleton.2 digit, List.forall_mem_nil _, by simp⟩
      exact ⟨_, _, .number regular rfl⟩
    · have regular : Numeral.IsRegular ⟨[], some ['0'], none⟩ :=
        ⟨List.forall_mem_nil _, List.forall_mem_singleton.2 rfl, by simp⟩
      exact ⟨_, _, .number regular rfl⟩
    · have identifier : isIdentifier (String.ofList [first]).toList = true :=
        isIdentifier_iff.2 ⟨first, [], String.toList_ofList, letter,
          List.forall_mem_nil _⟩
      have spells := Spells.identifier identifier
      rw [String.toList_ofList] at spells
      exact ⟨_, _, spells⟩
    · exact ⟨_, _, .times⟩
    · exact ⟨_, _, spells_of_ofCharacter? listed⟩

/-- Space, tab, line feed, form feed and carriage return. -/
def blankCharacters : List Char :=
  [' ', '\t', '\n', '\x0c', '\r']

theorem isBlank_iff {character : Char} :
    isBlank character = true ↔ character ∈ blankCharacters := by
  simp [isBlank, blankCharacters, or_assoc]

theorem isLexical_of_blank {character : Char}
    (blank : character ∈ blankCharacters) : isLexical character = false := by
  simp only [blankCharacters, List.mem_cons, List.not_mem_nil, or_false]
    at blank
  rcases blank with rfl | rfl | rfl | rfl | rfl <;> decide

theorem utf8Size_of_blank {character : Char}
    (blank : character ∈ blankCharacters) : character.utf8Size = 1 := by
  simp only [blankCharacters, List.mem_cons, List.not_mem_nil, or_false]
    at blank
  rcases blank with rfl | rfl | rfl | rfl | rfl <;> rfl

theorem utf8Size_of_isLexical {character : Char}
    (lexical : isLexical character = true) : character.utf8Size = 1 := by
  rw [Char.utf8Size_eq_one_iff]
  simp only [isLexical, startsNumber, startsIdentifier, Char.isAlpha,
    Char.isUpper, Char.isLower, Char.isDigit, Bool.or_eq_true,
    Bool.and_eq_true, decide_eq_true_eq, ge_iff_le, UInt32.le_iff_toNat_le]
    at lexical ⊢
  rcases lexical with
    (((⟨-, atMost⟩ | rfl) | (⟨-, atMost⟩ | ⟨-, atMost⟩) | rfl) | rfl) | symbol
  · exact atMost.trans (by decide)
  · decide
  · exact atMost.trans (by decide)
  · exact atMost.trans (by decide)
  · decide
  · decide
  · rcases Option.isSome_iff_exists.1 symbol with ⟨token, listed⟩
    unfold ofCharacter? at listed
    split at listed <;> first | decide | cases listed

/-- A lexeme ends before a character that no lexeme has. -/
theorem Spells.isPrefix_of_append {lexeme : List Char} {token : Token}
    (spells : Spells lexeme token) {before after : List Char} {next : Char}
    (foreign : Token.isLexical next = false)
    (stands : lexeme <+: before ++ next :: after) : lexeme <+: before := by
  rcases List.prefix_or_prefix_of_prefix stands
    (List.prefix_append before (next :: after)) with within | ⟨more, rfl⟩
  · exact within
  · have stands := (List.prefix_append_right_inj before).1 stands
    cases more with
    | nil => rw [List.append_nil]
    | cons begin others =>
        obtain rfl : begin = next := (List.cons_prefix_cons.1 stands).1
        have lexical := spells.isLexical begin (by simp)
        rw [foreign] at lexical
        cases lexical

theorem IsLongest.unique {lexeme other text : List Char} {token found : Token}
    (longest : IsLongest lexeme token text)
    (again : IsLongest other found text) : lexeme = other := by
  have atMost := again.longest _ _ longest.spells longest.front
  refine (List.prefix_of_prefix_length_le longest.front again.front
    atMost).eq_of_length (atMost.antisymm ?_)
  exact longest.longest _ _ again.spells again.front

/-- A longest lexeme is the longest also where fewer lexemes stand. -/
theorem IsLongest.mono {lexeme text other : List Char} {token : Token}
    (longest : IsLongest lexeme token text) (front : lexeme <+: other)
    (fewer : ∀ another found, Spells another found → another <+: other →
      another <+: text) : IsLongest lexeme token other where
  spells := longest.spells
  front := front
  longest another found spells stands :=
    longest.longest another found spells (fewer another found spells stands)

/-! Where the scanner takes no lexeme. -/

theorem front_of_isBlank {first : Char} (blank : isBlank first = true)
    (rest : List Char) : front first rest = .blank := by
  rw [front, if_pos blank]

theorem front_of_foreign {first : Char} (blank : isBlank first = false)
    (foreign : isLexical first = false) (rest : List Char) :
    front first rest = .foreign := by
  simp only [isLexical, Bool.or_eq_false_iff, decide_eq_false_iff_not,
    Option.isSome_eq_false_iff, Option.isNone_iff_eq_none] at foreign
  rcases foreign with ⟨⟨⟨number, letter⟩, star⟩, unlisted⟩
  simp [front, blank, number, letter, star, unlisted]

end Token

end RootFinding
