import RootFinding.Proofs.Formula.Spelling

/-! How a text is cut into tokens. It is made up of blanks and of the longest
lexemes, and the places of the tokens are those of their lexemes, counted in
bytes. Where cutting fails, the text before is cut without the rest. -/

namespace RootFinding

namespace Token

def AllBlank (gap : List Char) : Prop :=
  ∀ character ∈ gap, character ∈ blankCharacters

theorem allBlank_nil : AllBlank [] :=
  List.forall_mem_nil _

/-- A lexeme and its token, with what stands between the lexeme before it and
this one. -/
structure Piece where
  gap : List Char
  lexeme : List Char
  token : Token

namespace Piece

def chars (piece : Piece) : List Char :=
  piece.gap ++ piece.lexeme

/-- The text that the pieces make up. -/
def written (pieces : List Piece) : List Char :=
  pieces.flatMap chars

@[simp] theorem written_nil : written [] = [] :=
  rfl

@[simp] theorem written_cons (piece : Piece) (later : List Piece) :
    written (piece :: later) = piece.gap ++ (piece.lexeme ++ written later) :=
  List.append_assoc _ _ _

theorem written_append (earlier later : List Piece) :
    written (earlier ++ later) = written earlier ++ written later :=
  List.flatMap_append

/-- The tokens of the pieces, in a text where `position` bytes come before
them. -/
def placed (position : Nat) : List Piece → List PlacedToken
  | [] => []
  | piece :: later =>
      ⟨piece.token, position + String.utf8Len piece.gap⟩ ::
        placed (position + String.utf8Len piece.chars) later

/-- Only blanks are between the lexemes, and each of them is the longest at its
place. -/
def Fits (rest : List Char) : List Piece → Prop
  | [] => True
  | piece :: later =>
      AllBlank piece.gap ∧
        IsLongest piece.lexeme piece.token
          (piece.lexeme ++ (written later ++ rest)) ∧
        Fits rest later

theorem fits_append {rest : List Char} {earlier later : List Piece} :
    Fits rest (earlier ++ later) ↔
      Fits (written later ++ rest) earlier ∧ Fits rest later := by
  induction earlier with
  | nil => simp [Fits]
  | cons piece others induction =>
      simp only [List.cons_append, Fits, induction, written_append,
        List.append_assoc, and_assoc]

/-- Pieces fit in front of another text if no lexeme that begins among them
reaches further into it. -/
theorem Fits.mono {rest other : List Char}
    (shorter : ∀ before lexeme token, Spells lexeme token →
      lexeme <+: before ++ other → lexeme <+: before ++ rest) :
    ∀ {pieces : List Piece}, Fits rest pieces → Fits other pieces
  | [], _ => trivial
  | piece :: later, ⟨blank, longest, fits⟩ => by
      refine ⟨blank, longest.mono (List.prefix_append _ _) ?_,
        fits.mono shorter⟩
      intro lexeme token spells stands
      rw [← List.append_assoc] at stands ⊢
      exact shorter _ lexeme token spells stands

theorem Fits.of_isPrefix {rest other : List Char} {pieces : List Piece}
    (fits : Fits rest pieces) (isPrefix : other <+: rest) :
    Fits other pieces :=
  fits.mono fun before _ _ _ stands =>
    stands.trans ((List.prefix_append_right_inj before).2 isPrefix)

theorem Fits.append_foreign {gap : List Char} {next : Char}
    {pieces : List Piece} (fits : Fits gap pieces)
    (foreign : isLexical next = false) (after : List Char) :
    Fits (gap ++ next :: after) pieces := by
  refine fits.mono fun before _ _ spells stands => ?_
  rw [← List.append_assoc] at stands
  exact spells.isPrefix_of_append foreign stands

end Piece

open Piece

/-- The pieces and the gap are what comes before the rest of a text. -/
structure Splits (source : List Char) (pieces : List Piece)
    (gap rest : List Char) : Prop where
  source_eq : source = written pieces ++ (gap ++ rest)
  fits : Fits (gap ++ rest) pieces
  blank : AllBlank gap

/-! Blanks and lexemes are as long in bytes as they are in characters, so that
the scanner counts bytes. -/

theorem utf8Len_eq_length {chars : List Char}
    (single : ∀ character ∈ chars, character.utf8Size = 1) :
    String.utf8Len chars = chars.length := by
  induction chars with
  | nil => rfl
  | cons first tail induction =>
      rcases List.forall_mem_cons.1 single with ⟨one, others⟩
      rw [String.utf8Len_cons, induction others, one, List.length_cons]

theorem Spells.utf8Len_eq {lexeme : List Char} {token : Token}
    (spells : Spells lexeme token) :
    String.utf8Len lexeme = lexeme.length :=
  utf8Len_eq_length fun character member =>
    utf8Size_of_isLexical (spells.isLexical character member)

theorem scan_gap {gap : List Char} (blank : AllBlank gap) (position : Nat)
    (rest : List Char) :
    scan position (gap ++ rest) =
      scan (position + String.utf8Len gap) rest := by
  induction gap generalizing position with
  | nil => rfl
  | cons first tail induction =>
      rcases List.forall_mem_cons.1 blank with ⟨listed, others⟩
      rw [List.cons_append, scan, front_of_isBlank (isBlank_iff.2 listed)]
      simp only
      rw [induction others, String.utf8Len_cons, utf8Size_of_blank listed,
        Nat.add_assoc, Nat.add_comm 1]

theorem scan_lexeme {lexeme rest : List Char} {token : Token}
    (longest : IsLongest lexeme token (lexeme ++ rest)) (position : Nat) :
    scan position (lexeme ++ rest) =
      (scan (position + String.utf8Len lexeme) rest).map
        (⟨token, position⟩ :: ·) := by
  have bytes := longest.spells.utf8Len_eq
  cases lexeme with
  | nil => exact absurd rfl longest.spells.ne_nil
  | cons first tail =>
      have found : front first (tail ++ rest) = .token tail token :=
        front_eq_token_iff.2 longest
      have place : position + String.utf8Len (first :: tail) =
          position + 1 + tail.length := by
        rw [bytes, List.length_cons]
        omega
      rw [List.cons_append, scan, found, place]
      simp only [List.drop_left]
      rfl

/-- A scan goes through the pieces and goes on behind them. -/
theorem scan_written {pieces : List Piece} {rest : List Char}
    (fits : Fits rest pieces) (position : Nat) :
    scan position (written pieces ++ rest) =
      (scan (position + String.utf8Len (written pieces)) rest).map
        (placed position pieces ++ ·) := by
  induction pieces generalizing position with
  | nil =>
      change scan position rest =
        (scan position rest).map fun following => following
      generalize scan position rest = outcome
      cases outcome <;> rfl
  | cons piece later induction =>
      rcases fits with ⟨blank, longest, fits⟩
      rw [written_cons, List.append_assoc, List.append_assoc, scan_gap blank,
        scan_lexeme longest, induction fits]
      simp only [String.utf8Len_append, chars, placed, ← Nat.add_assoc]
      generalize scan _ rest = outcome
      cases outcome <;> rfl

theorem Splits.scan_eq {source gap rest : List Char} {pieces : List Piece}
    (splits : Splits source pieces gap rest) (position : Nat) :
    scan position source =
      (scan (position + String.utf8Len (written pieces ++ gap)) rest).map
        (placed position pieces ++ ·) := by
  rw [splits.source_eq, scan_written splits.fits, scan_gap splits.blank,
    String.utf8Len_append, Nat.add_assoc]

/-- The scanner goes no further into the text: it is used up, or neither a blank
nor a lexeme stands at its front. -/
inductive Stops : List Char → Prop
  | finished : Stops []
  | foreign {first : Char} {after : List Char}
      (found : front first after = .foreign) : Stops (first :: after)
  | malformed {first : Char} {after lexeme : List Char}
      (found : front first after = .malformed lexeme) : Stops (first :: after)

theorem Splits.after_blank {first : Char} {source gap rest : List Char}
    {pieces : List Piece} (splits : Splits source pieces gap rest)
    (blank : first ∈ blankCharacters) :
    ∃ pieces gap, Splits (first :: source) pieces gap rest := by
  rcases splits with ⟨rfl, fits, gapBlank⟩
  cases pieces with
  | nil => exact ⟨[], first :: gap, rfl, trivial,
      List.forall_mem_cons.2 ⟨blank, gapBlank⟩⟩
  | cons piece later =>
      refine ⟨{ piece with gap := first :: piece.gap } :: later, gap, ?_,
        ⟨List.forall_mem_cons.2 ⟨blank, fits.1⟩, fits.2⟩, gapBlank⟩
      simp

/-- Every text splits where the scanner stops. -/
theorem exists_splits (source : List Char) :
    ∃ pieces gap rest, Splits source pieces gap rest ∧ Stops rest := by
  fun_induction scan 0 source with
  | case1 => exact ⟨[], [], [], ⟨rfl, trivial, allBlank_nil⟩, .finished⟩
  | case2 position first rest found later =>
      rcases later with ⟨pieces, gap, remaining, splits, stops⟩
      rcases Faces.of_front found with ⟨blank⟩
      rcases splits.after_blank (isBlank_iff.1 blank) with ⟨pieces, gap, splits⟩
      exact ⟨pieces, gap, remaining, splits, stops⟩
  | case3 position first rest tail token found later =>
      rcases later with ⟨pieces, gap, remaining, splits, stops⟩
      have longest := front_eq_token_iff.1 found
      rcases (List.prefix_cons_inj first).1 longest.front with ⟨after, split⟩
      have behind : rest.drop tail.length = after := by
        rw [← split, List.drop_left]
      rw [behind] at splits
      refine ⟨⟨[], first :: tail, token⟩ :: pieces, gap, remaining,
        ⟨?_, ⟨allBlank_nil, ?_, splits.fits⟩, splits.blank⟩, stops⟩
      · rw [← split, splits.source_eq]
        simp
      · rw [← splits.source_eq, List.cons_append, split]
        exact longest
  | case4 position first rest lexeme found =>
      exact ⟨[], [], first :: rest, ⟨rfl, trivial, allBlank_nil⟩,
        .malformed found⟩
  | case5 position first rest found =>
      exact ⟨[], [], first :: rest, ⟨rfl, trivial, allBlank_nil⟩,
        .foreign found⟩

/-! The outcomes of a scan, told by where it stops. -/

section Outcomes

variable {source : String} {pieces : List Piece} {gap rest : List Char}

theorem tokens_eq (splits : Splits source.toList pieces gap rest) :
    tokens source = (scan (String.utf8Len (written pieces ++ gap)) rest).map
      (placed 0 pieces ++ ·) := by
  rw [tokens, splits.scan_eq, Nat.zero_add]

theorem tokens_of_finished (splits : Splits source.toList pieces gap []) :
    tokens source = .ok (placed 0 pieces) := by
  rw [tokens_eq splits, scan, Except.map, List.append_nil]

variable {first : Char} {after : List Char}

theorem tokens_of_foreign
    (splits : Splits source.toList pieces gap (first :: after))
    (found : front first after = .foreign) :
    tokens source = .error (.unexpectedCharacter first
      (String.utf8Len (written pieces ++ gap))) := by
  rw [tokens_eq splits, scan, found]
  rfl

theorem tokens_of_malformed {lexeme : List Char}
    (splits : Splits source.toList pieces gap (first :: after))
    (found : front first after = .malformed lexeme) :
    tokens source = .error (.malformedNumber (String.ofList lexeme)
      (String.utf8Len (written pieces ++ gap))) := by
  rw [tokens_eq splits, scan, found]
  rfl

end Outcomes

/-- What a scan gives, by what stands where it stops. -/
inductive Scanned (source : String) :
    Except CompileError (List PlacedToken) → Prop
  | finished {pieces : List Piece} {gap : List Char}
      (splits : Splits source.toList pieces gap []) :
      Scanned source (.ok (placed 0 pieces))
  | foreign {pieces : List Piece} {gap after : List Char} {first : Char}
      (splits : Splits source.toList pieces gap (first :: after))
      (found : front first after = .foreign) :
      Scanned source (.error (.unexpectedCharacter first
        (String.utf8Len (written pieces ++ gap))))
  | malformed {pieces : List Piece} {gap after lexeme : List Char}
      {first : Char}
      (splits : Splits source.toList pieces gap (first :: after))
      (found : front first after = .malformed lexeme) :
      Scanned source (.error (.malformedNumber (String.ofList lexeme)
        (String.utf8Len (written pieces ++ gap))))

theorem scanned_tokens (source : String) : Scanned source (tokens source) := by
  rcases exists_splits source.toList with ⟨pieces, gap, rest, splits, stops⟩
  cases stops with
  | finished =>
      rw [tokens_of_finished splits]
      exact .finished splits
  | foreign found =>
      rw [tokens_of_foreign splits found]
      exact .foreign splits found
  | malformed found =>
      rw [tokens_of_malformed splits found]
      exact .malformed splits found

theorem Scanned.of_tokens {source : String}
    {outcome : Except CompileError (List PlacedToken)}
    (scanned : tokens source = outcome) : Scanned source outcome :=
  scanned ▸ scanned_tokens source

/-! Where the tokens of the pieces are. -/

theorem exists_piece_of_mem_placed {pieces : List Piece} {position : Nat}
    {found : PlacedToken} (member : found ∈ placed position pieces) :
    ∃ earlier piece later, pieces = earlier ++ piece :: later ∧
      found = ⟨piece.token,
        position + String.utf8Len (written earlier ++ piece.gap)⟩ := by
  induction pieces generalizing position with
  | nil => cases member
  | cons piece later induction =>
      rcases List.mem_cons.1 member with rfl | member
      · exact ⟨[], piece, later, rfl, rfl⟩
      · rcases induction member with ⟨earlier, other, after, rfl, rfl⟩
        refine ⟨piece :: earlier, other, after, rfl, ?_⟩
        simp only [written_cons, chars, String.utf8Len_append, Nat.add_assoc]

theorem Piece.Fits.increasing {rest : List Char} {pieces : List Piece}
    (fits : Fits rest pieces) (position : Nat) :
    (placed position pieces).Pairwise (·.position < ·.position) ∧
      ∀ found ∈ placed position pieces, position ≤ found.position := by
  induction pieces generalizing position with
  | nil => exact ⟨.nil, List.forall_mem_nil _⟩
  | cons piece later induction =>
      rcases fits with ⟨-, longest, fits⟩
      rcases induction fits (position + String.utf8Len piece.chars) with
        ⟨increasing, behind⟩
      have bytes := longest.spells.utf8Len_eq
      have positive := List.length_pos_of_ne_nil longest.spells.ne_nil
      have size : String.utf8Len piece.chars =
          String.utf8Len piece.gap + String.utf8Len piece.lexeme :=
        String.utf8Len_append _ _
      refine ⟨List.pairwise_cons.2 ⟨fun found member => ?_, increasing⟩,
        List.forall_mem_cons.2 ⟨by simp, fun found member => ?_⟩⟩
      · have := behind found member
        simp only
        omega
      · have := behind found member
        omega

/-- The characters stand in the source from the byte `start` on, and begin and
end between characters of the source. -/
structure Stands (source : String) (start : Nat) (chars : List Char) :
    Prop where
  slice : ∃ before after, source.toList = before ++ (chars ++ after) ∧
    start = String.utf8Len before
  begins : (⟨start⟩ : String.Pos.Raw).IsValid source
  ends : (⟨start + String.utf8Len chars⟩ : String.Pos.Raw).IsValid source

theorem isValid_utf8Len {source : String} {before after : List Char}
    (split : source.toList = before ++ after) :
    (⟨String.utf8Len before⟩ : String.Pos.Raw).IsValid source := by
  rw [String.Pos.Raw.isValid_iff_exists_append]
  refine ⟨String.ofList before, String.ofList after, ?_, ?_⟩
  · rw [← String.ofList_append, ← split, String.ofList_toList]
  · ext
    simp

theorem stands_of_append {source : String} {before chars after : List Char}
    (split : source.toList = before ++ (chars ++ after)) :
    Stands source (String.utf8Len before) chars where
  slice := ⟨before, after, split, rfl⟩
  begins := isValid_utf8Len split
  ends := by
    rw [← List.append_assoc] at split
    rw [← String.utf8Len_append]
    exact isValid_utf8Len split

/-- The tokens stand in the source as lexemes, one after another. -/
structure InOrder (source : String) (placed : List PlacedToken) : Prop where
  increasing : placed.Pairwise (·.position < ·.position)
  lexemes : ∀ found ∈ placed, ∃ lexeme, Spells lexeme found.token ∧
    Stands source found.position lexeme

theorem Splits.inOrder {source : String} {pieces : List Piece}
    {gap rest : List Char} (splits : Splits source.toList pieces gap rest) :
    InOrder source (placed 0 pieces) where
  increasing := (splits.fits.increasing 0).1
  lexemes found member := by
    rcases exists_piece_of_mem_placed member with
      ⟨earlier, piece, later, rfl, rfl⟩
    refine ⟨piece.lexeme, (fits_append.1 splits.fits).2.2.1.spells, ?_⟩
    have split : source.toList = (written earlier ++ piece.gap) ++
        (piece.lexeme ++ (written later ++ (gap ++ rest))) := by
      simp [splits.source_eq, written_append]
    rw [Nat.zero_add]
    exact stands_of_append split

/-- The source splits into lexemes and blanks, and the lexemes are those of the
tokens. -/
def IsSegmented (source : String) (found : List PlacedToken) : Prop :=
  ∃ pieces gap, Splits source.toList pieces gap [] ∧ found = placed 0 pieces

/-- The characters stand at the place, and the text before them has tokens. -/
structure BreaksAt (source : String) (position : Nat) (chars : List Char) :
    Prop where
  stands : Stands source position chars
  before : ∃ before after found,
    source.toList = before ++ (chars ++ after) ∧
      position = String.utf8Len before ∧
      tokens (String.ofList before) = .ok found ∧ InOrder source found

theorem Splits.breaksAt {source : String} {pieces : List Piece}
    {gap chars after : List Char}
    (splits : Splits source.toList pieces gap (chars ++ after)) :
    BreaksAt source (String.utf8Len (written pieces ++ gap)) chars := by
  have split : source.toList = (written pieces ++ gap) ++ (chars ++ after) := by
    rw [splits.source_eq, List.append_assoc]
  have before : Splits (String.ofList (written pieces ++ gap)).toList pieces gap
      [] := {
    source_eq := by rw [String.toList_ofList, List.append_nil]
    fits := splits.fits.of_isPrefix (by simp)
    blank := splits.blank }
  exact ⟨stands_of_append split, _, _, _, split, rfl,
    tokens_of_finished before, splits.inOrder⟩

theorem tokens_segmented (source : String) :
    (∀ found, tokens source = .ok found ↔ IsSegmented source found) ∧
      (∀ found, tokens source = .ok found → InOrder source found) ∧
      (∀ character position,
        tokens source = .error (.unexpectedCharacter character position) ↔
          character ∉ blankCharacters ∧
            (∀ tail token, ¬Spells (character :: tail) token) ∧
            BreaksAt source position [character]) ∧
      ∀ text position,
        tokens source = .error (.malformedNumber text position) →
          BreaksAt source position text.toList := by
  refine ⟨fun found => ⟨fun scanned => ?_, ?_⟩, fun found scanned => ?_,
    fun character position => ⟨fun scanned => ?_, ?_⟩,
    fun text position scanned => ?_⟩
  · cases Scanned.of_tokens scanned with
    | finished splits => exact ⟨_, _, splits, rfl⟩
  · rintro ⟨pieces, gap, splits, rfl⟩
    exact tokens_of_finished splits
  · cases Scanned.of_tokens scanned with
    | finished splits => exact splits.inOrder
  · cases Scanned.of_tokens scanned with
    | foreign splits found =>
        rcases Faces.of_front found with _ | _ | _ | ⟨blank, foreign⟩
        rw [← Bool.not_eq_true, isBlank_iff] at blank
        refine ⟨blank, fun tail token spells => ?_, splits.breaksAt⟩
        have lexical := exists_spells_iff.1 ⟨tail, token, spells⟩
        rw [foreign] at lexical
        cases lexical
  · rintro ⟨blank, notLexical, -, before, after, found, split, rfl, scanned, -⟩
    have foreign : isLexical character = false := by
      rw [Bool.eq_false_iff]
      intro lexical
      rcases exists_spells_iff.2 lexical with ⟨tail, token, spells⟩
      exact notLexical tail token spells
    cases Scanned.of_tokens scanned with
    | @finished pieces gap splits =>
        rcases splits with ⟨source_eq, fits, gapBlank⟩
        rw [String.toList_ofList, List.append_nil] at source_eq
        rw [List.append_nil] at fits
        have splits : Splits source.toList pieces gap (character :: after) :=
          ⟨by rw [split, source_eq, List.append_assoc]; rfl,
            fits.append_foreign foreign after, gapBlank⟩
        rw [← isBlank_iff, Bool.not_eq_true] at blank
        rw [source_eq]
        exact tokens_of_foreign splits (front_of_foreign blank foreign after)
  · cases Scanned.of_tokens scanned with
    | @malformed _ _ after _ first splits found =>
        cases Faces.of_front found with
        | malformed _ _ =>
            rw [← Numeral.chars_append_read (first :: after)] at splits
            rw [String.toList_ofList]
            exact splits.breaksAt

end Token

end RootFinding
