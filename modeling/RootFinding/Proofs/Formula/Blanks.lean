import RootFinding.Expression
import RootFinding.Proofs.Outcome
import RootFinding.Proofs.Formula.Relocation
import RootFinding.Proofs.Formula.Segmentation

/-! Blanks between lexemes. More of them there move the tokens behind them and
change nothing else. -/

namespace RootFinding

open Grammar (relocateAll relocateAll_cons relocateAll_append
  relocateAll_congr)

namespace Token

open Piece

/-- Makes room for `size` bytes at the offset. -/
def shift (offset size position : Nat) : Nat :=
  if offset ≤ position then position + size else position

theorem placed_append (position : Nat) (earlier later : List Piece) :
    placed position (earlier ++ later) =
      placed position earlier ++
        placed (position + String.utf8Len (written earlier)) later := by
  induction earlier generalizing position with
  | nil => rfl
  | cons piece others induction =>
      simp only [List.cons_append, placed, induction, written_cons, chars,
        String.utf8Len_append, Nat.add_assoc]

theorem placed_add (position size : Nat) (pieces : List Piece) :
    placed (position + size) pieces =
      relocateAll (· + size) (placed position pieces) := by
  induction pieces generalizing position with
  | nil => rfl
  | cons piece later induction =>
      simp only [placed, relocateAll_cons, PlacedToken.relocate,
        Nat.add_right_comm position size, induction]

theorem placed_gap (position : Nat) (front gap lexeme : List Char)
    (token : Token) (later : List Piece) :
    placed position (⟨front ++ gap, lexeme, token⟩ :: later) =
      placed (position + String.utf8Len front)
        (⟨gap, lexeme, token⟩ :: later) := by
  simp only [placed, chars, String.utf8Len_append, Nat.add_assoc]

theorem relocateAll_shift_of_lt {offset size : Nat} {source : List PlacedToken}
    (before : ∀ found ∈ source, found.position < offset) :
    relocateAll (shift offset size) source = source := by
  have same : relocateAll (shift offset size) source =
      relocateAll id source :=
    relocateAll_congr fun found member =>
      if_neg (Nat.not_le.2 (before found member))
  exact same.trans (List.map_id source)

theorem relocateAll_shift_of_le {offset size : Nat} {source : List PlacedToken}
    (behind : ∀ found ∈ source, offset ≤ found.position) :
    relocateAll (shift offset size) source = relocateAll (· + size) source :=
  relocateAll_congr fun found member => if_pos (behind found member)

/-- The lexemes end before what follows the pieces. -/
theorem Piece.Fits.before {rest : List Char} {pieces : List Piece}
    (fits : Fits rest pieces) {position : Nat} {found : PlacedToken}
    (member : found ∈ placed position pieces) :
    found.position < position + String.utf8Len (written pieces) := by
  rcases exists_piece_of_mem_placed member with
    ⟨earlier, piece, later, rfl, rfl⟩
  have spells := (fits_append.1 fits).2.2.1.spells
  have bytes := spells.utf8Len_eq
  have positive := List.length_pos_of_ne_nil spells.ne_nil
  simp only [written_append, written_cons, String.utf8Len_append]
  omega

/-! Where a text can be cut apart. -/

/-- The text before the cut ends among blanks, which are those of `gap` or those
in front of a lexeme. -/
inductive Cuts (left right : List Char) : List Piece → List Char → Prop
  | within (earlier : List Piece) (piece : Piece) (later : List Piece)
      (before after gap : List Char) (gap_eq : piece.gap = before ++ after)
      (left_eq : left = written earlier ++ before)
      (right_eq : right = after ++ (piece.lexeme ++ (written later ++ gap))) :
      Cuts left right (earlier ++ piece :: later) gap
  | behind (pieces : List Piece) (before gap : List Char)
      (gap_eq : gap = before ++ right)
      (left_eq : left = written pieces ++ before) : Cuts left right pieces gap

theorem Cuts.cons {left right : List Char} {pieces : List Piece}
    {gap : List Char} (cuts : Cuts left right pieces gap) (piece : Piece) :
    Cuts (piece.gap ++ (piece.lexeme ++ left)) right (piece :: pieces) gap := by
  cases cuts with
  | within earlier cut later before after gap gap_eq left_eq right_eq =>
      refine .within (piece :: earlier) cut later before after gap gap_eq ?_
        right_eq
      simp [left_eq]
  | behind pieces before gap gap_eq left_eq =>
      refine .behind (piece :: pieces) before gap gap_eq ?_
      simp [left_eq]

/-- The text before the cut does not end inside a lexeme. -/
def Spares (left : List Char) (pieces : List Piece) : Prop :=
  ∀ earlier piece later head tail, pieces = earlier ++ piece :: later →
    piece.lexeme = head ++ tail →
      left = written earlier ++ (piece.gap ++ head) → head = [] ∨ tail = []

theorem Spares.tail {left : List Char} {piece : Piece} {later : List Piece}
    (spares : Spares (piece.gap ++ (piece.lexeme ++ left)) (piece :: later)) :
    Spares left later := by
  rintro earlier other after head tail rfl lexeme rfl
  exact spares (piece :: earlier) other after head tail rfl lexeme (by simp)

theorem cuts_of_spares {left right : List Char} {pieces : List Piece}
    {gap : List Char} (split : written pieces ++ gap = left ++ right)
    (spares : Spares left pieces) : Cuts left right pieces gap := by
  induction pieces generalizing left with
  | nil => exact .behind [] left gap split rfl
  | cons piece later induction =>
      rw [written_cons, List.append_assoc, List.append_assoc] at split
      rcases List.append_eq_append_iff.1 split with
        ⟨more, rfl, behind⟩ | ⟨after, inGap, rfl⟩
      · rcases List.append_eq_append_iff.1 behind with
          ⟨others, rfl, further⟩ | ⟨others, inLexeme, rfl⟩
        · exact (induction further spares.tail).cons piece
        · rcases spares [] piece later more others rfl inLexeme rfl with
            rfl | rfl
          · rw [List.append_nil]
            refine .within [] piece later piece.gap [] gap
              (List.append_nil _).symm rfl ?_
            rw [inLexeme, List.nil_append, List.nil_append]
          · obtain rfl : more = piece.lexeme ++ [] := by
              rw [inLexeme, List.append_nil, List.append_nil]
            exact (induction rfl spares.tail).cons piece
      · exact .within [] piece later left after gap inGap rfl rfl

/-! More blanks at a cut. -/

theorem placed_insert {rest before after lexeme : List Char} {token : Token}
    {earlier later : List Piece}
    (fits : Fits rest (earlier ++ ⟨before ++ after, lexeme, token⟩ :: later))
    (blanks : List Char) :
    placed 0
        (earlier ++ ⟨before ++ (blanks ++ after), lexeme, token⟩ :: later) =
      relocateAll (shift (String.utf8Len (written earlier ++ before))
        (String.utf8Len blanks))
          (placed 0 (earlier ++ ⟨before ++ after, lexeme, token⟩ :: later)) := by
  rcases fits_append.1 fits with ⟨fitsEarlier, pieceBlank, longest, fitsLater⟩
  -- The bytes in front of the cut are no part of the piece behind it.
  have fitsBehind : Fits rest (⟨after, lexeme, token⟩ :: later) :=
    ⟨(List.forall_mem_append.1 pieceBlank).2, longest, fitsLater⟩
  have behind := (fitsBehind.increasing
    (String.utf8Len (written earlier) + String.utf8Len before)).2
  rw [← String.utf8Len_append] at behind
  rw [placed_append, placed_append, relocateAll_append, Nat.zero_add,
    placed_gap, placed_gap, placed_gap, placed_add, ← String.utf8Len_append,
    relocateAll_shift_of_le behind,
    relocateAll_shift_of_lt fun found member => ?_]
  have := fitsEarlier.before member
  rw [String.utf8Len_append]
  omega

section Insertion

variable {blanks : List Char} (blank : AllBlank blanks)
include blank

theorem Piece.Fits.insert {before after : List Char} {pieces : List Piece}
    (fits : Fits (before ++ after) pieces) :
    Fits (before ++ (blanks ++ after)) pieces := by
  cases blanks with
  | nil => exact fits
  | cons first others =>
      have foreign := isLexical_of_blank (blank first List.mem_cons_self)
      exact (fits.of_isPrefix (List.prefix_append _ _)).append_foreign foreign _

theorem Splits.insert {left right gap : List Char} {pieces : List Piece}
    (splits : Splits (left ++ right) pieces gap [])
    (cuts : Cuts left right pieces gap) :
    ∃ spaced other, Splits (left ++ (blanks ++ right)) spaced other [] ∧
      placed 0 spaced =
        relocateAll (shift (String.utf8Len left) (String.utf8Len blanks))
          (placed 0 pieces) := by
  rcases splits with ⟨-, fits, gapBlank⟩
  rw [List.append_nil] at fits
  cases cuts with
  | behind pieces before gap gap_eq left_eq =>
      subst gap_eq left_eq
      rcases List.forall_mem_append.1 gapBlank with ⟨blankBefore, blankAfter⟩
      refine ⟨pieces, before ++ (blanks ++ right), ⟨by simp, ?_, ?_⟩, ?_⟩
      · rw [List.append_nil]
        exact fits.insert blank
      · exact List.forall_mem_append.2 ⟨blankBefore,
          List.forall_mem_append.2 ⟨blank, blankAfter⟩⟩
      · refine (relocateAll_shift_of_lt fun found member => ?_).symm
        have := fits.before member
        rw [String.utf8Len_append]
        omega
  | within earlier piece later before after gap gap_eq left_eq right_eq =>
      rcases piece with ⟨_, lexeme, token⟩
      subst gap_eq left_eq right_eq
      rcases fits_append.1 fits with
        ⟨fitsEarlier, pieceBlank, longest, fitsLater⟩
      rcases List.forall_mem_append.1 pieceBlank with ⟨blankBefore, blankAfter⟩
      refine ⟨earlier ++ ⟨before ++ (blanks ++ after), lexeme, token⟩ :: later,
        gap, ⟨by simp [written_append], ?_, gapBlank⟩,
        placed_insert fits blanks⟩
      rw [List.append_nil]
      refine fits_append.2 ⟨?_, List.forall_mem_append.2 ⟨blankBefore,
        List.forall_mem_append.2 ⟨blank, blankAfter⟩⟩, longest, fitsLater⟩
      simp only [written_cons, List.append_assoc] at fitsEarlier ⊢
      exact fitsEarlier.insert blank

end Insertion

/-- The offset is strictly inside the lexeme of a token. -/
def InsideLexeme (source : String) (placed : List PlacedToken)
    (offset : Nat) : Prop :=
  ∃ found ∈ placed, ∃ before lexeme after,
    source.toList = before ++ (lexeme ++ after) ∧
      found.position = String.utf8Len before ∧
      IsLongest lexeme found.token (lexeme ++ after) ∧
      found.position < offset ∧
      offset < found.position + String.utf8Len lexeme

theorem not_insideLexeme_start (source : String) (placed : List PlacedToken) :
    ¬InsideLexeme source placed 0 := by
  rintro ⟨found, -, before, lexeme, after, -, -, -, less, -⟩
  exact absurd less (Nat.not_lt_zero _)

theorem not_insideLexeme_end (source : String) (placed : List PlacedToken) :
    ¬InsideLexeme source placed source.utf8ByteSize := by
  rintro ⟨found, -, before, lexeme, after, split, place, -, -, inside⟩
  rw [← String.utf8Len_toList, split] at inside
  simp only [String.utf8Len_append] at inside
  omega

theorem utf8Len_pos {chars : List Char} (nonempty : chars ≠ []) :
    0 < String.utf8Len chars :=
  Nat.pos_of_ne_zero (mt String.utf8Len_eq_zero.1 nonempty)

theorem Splits.spares {source : String} {pieces : List Piece}
    {gap left right : List Char}
    (splits : Splits source.toList pieces gap [])
    (split : source.toList = left ++ right)
    (outside : ¬InsideLexeme source (placed 0 pieces) (String.utf8Len left)) :
    Spares left pieces := by
  rintro earlier piece later head tail rfl lexeme_eq rfl
  by_contra inside
  rw [not_or] at inside
  have size : String.utf8Len piece.lexeme =
      String.utf8Len head + String.utf8Len tail := by
    rw [lexeme_eq, String.utf8Len_append]
  have headPositive := utf8Len_pos inside.1
  have tailPositive := utf8Len_pos inside.2
  refine outside ⟨⟨piece.token,
    0 + String.utf8Len (written earlier ++ piece.gap)⟩, ?_,
    written earlier ++ piece.gap, piece.lexeme, written later ++ gap, ?_,
    Nat.zero_add _, ?_, ?_, ?_⟩
  · rw [placed_append]
    refine List.mem_append_right _ ?_
    simp [placed]
  · simp [splits.source_eq, written_append]
  · have fits := (fits_append.1 splits.fits).2.2.1
    rwa [List.append_nil] at fits
  · simp only [String.utf8Len_append]
    omega
  · simp only [String.utf8Len_append]
    omega

theorem Piece.Fits.utf8Size_eq_one {rest : List Char} {pieces : List Piece}
    (fits : Fits rest pieces) :
    ∀ character ∈ written pieces, character.utf8Size = 1 := by
  induction pieces with
  | nil => exact List.forall_mem_nil _
  | cons piece later induction =>
      rcases fits with ⟨blank, longest, fits⟩
      rw [written_cons]
      refine List.forall_mem_append.2 ⟨fun character member => ?_,
        List.forall_mem_append.2 ⟨fun character member => ?_, induction fits⟩⟩
      · exact utf8Size_of_blank (blank character member)
      · exact utf8Size_of_isLexical (longest.spells.isLexical character member)

/-- A text that has tokens can be cut at every byte. -/
theorem Splits.exists_cut {source gap : List Char} {pieces : List Piece}
    (splits : Splits source pieces gap []) {offset : Nat}
    (within : offset ≤ String.utf8Len source) :
    ∃ left right, source = left ++ right ∧ String.utf8Len left = offset := by
  have single : ∀ character ∈ source, character.utf8Size = 1 := by
    rw [splits.source_eq, List.append_nil]
    exact List.forall_mem_append.2 ⟨splits.fits.utf8Size_eq_one,
      fun character member =>
        utf8Size_of_blank (splits.blank character member)⟩
  rw [utf8Len_eq_length single] at within
  refine ⟨source.take offset, source.drop offset,
    (List.take_append_drop offset source).symm, ?_⟩
  rw [utf8Len_eq_length fun character member =>
    single character (List.mem_of_mem_take member), List.length_take]
  exact Nat.min_eq_left within

theorem tokens_insert {source : String} {found : List PlacedToken}
    (scanned : tokens source = .ok found) {offset : Nat}
    (within : offset ≤ source.utf8ByteSize)
    (outside : ¬InsideLexeme source found offset) :
    ∃ left right, source = left ++ right ∧ left.utf8ByteSize = offset ∧
      ∀ blanks : String, AllBlank blanks.toList →
        tokens (left ++ blanks ++ right) =
          .ok (relocateAll (shift offset blanks.utf8ByteSize) found) := by
  cases Scanned.of_tokens scanned with
  | @finished pieces gap splits =>
      rw [← String.utf8Len_toList] at within
      rcases splits.exists_cut within with ⟨left, right, split, rfl⟩
      have cuts : Cuts left right pieces gap := by
        refine cuts_of_spares ?_ (splits.spares split outside)
        rw [← split, splits.source_eq, List.append_nil]
      refine ⟨String.ofList left, String.ofList right, ?_,
        String.utf8ByteSize_ofList left, fun blanks blank => ?_⟩
      · rw [← String.ofList_append, ← split, String.ofList_toList]
      · rw [split] at splits
        rcases splits.insert blank cuts with ⟨spaced, other, splits, moved⟩
        have splits : Splits (String.ofList left ++ blanks ++
            String.ofList right).toList spaced other [] := by
          simpa using splits
        rw [← String.utf8Len_toList, ← moved]
        exact tokens_of_finished splits

end Token

namespace Expression

open Token

/-- The outcome of reading `other` in place of a source whose tokens were moved
by it. -/
def respace (other : String) (move : Nat → Nat) :
    Except CompileError Expression → Except CompileError Expression
  | .ok expression => .ok ⟨other, expression.formula⟩
  | .error error => .error (error.relocate move)

section Respace

variable {source other : String} {found : List PlacedToken} {move : Nat → Nat}
  (scanned : tokens source = .ok found)
  (moved : tokens other = .ok (relocateAll move found))
include scanned moved

theorem parse_respace : parse other = respace other move (parse source) := by
  rw [parse, parse, scanned, moved, Outcome.ok_bind, Outcome.ok_bind,
    Formula.ofTokens_relocate]
  cases Formula.ofTokens found <;> rfl

theorem compile_respace :
    compile other = respace other move (compile source) := by
  rw [compile, compile, parse_respace scanned moved]
  cases parse source with
  | error error => rfl
  | ok expression =>
      simp only [respace, Outcome.ok_bind, eval]
      cases expression.formula.eval neutralPoint <;> rfl

end Respace

/-- The other source has the tokens of the source at moved places, and with it
the same formula or failure. -/
structure Respaced (source other : String) (found : List PlacedToken)
    (move : Nat → Nat) : Prop where
  tokens_eq : tokens other = .ok (relocateAll move found)
  parse_eq : parse other = respace other move (parse source)
  compile_eq : compile other = respace other move (compile source)

/-- Blanks at the start, at the end and between lexemes do nothing but move what
comes behind them. -/
theorem blanks_respace {source : String} {found : List PlacedToken}
    (scanned : tokens source = .ok found) {offset : Nat}
    (within : offset ≤ source.utf8ByteSize)
    (outside : offset = 0 ∨ offset = source.utf8ByteSize ∨
      ¬InsideLexeme source found offset) :
    ∃ left right, source = left ++ right ∧ left.utf8ByteSize = offset ∧
      ∀ blanks : String, AllBlank blanks.toList →
        Respaced source (left ++ blanks ++ right) found
          (shift offset blanks.utf8ByteSize) := by
  have outside : ¬InsideLexeme source found offset := by
    rcases outside with rfl | rfl | outside
    · exact not_insideLexeme_start source found
    · exact not_insideLexeme_end source found
    · exact outside
  rcases tokens_insert scanned within outside with
    ⟨left, right, split, size, inserted⟩
  refine ⟨left, right, split, size, fun blanks blank => ?_⟩
  have moved := inserted blanks blank
  exact ⟨moved, parse_respace scanned moved, compile_respace scanned moved⟩

theorem blanks_respace_mark :
    ∃ found, tokens "2e" = .ok found ∧ 1 ≤ "2e".utf8ByteSize ∧
      (1 = 0 ∨ 1 = "2e".utf8ByteSize ∨ ¬InsideLexeme "2e" found 1) ∧
      ∃ left right, "2e" = left ++ right ∧ left.utf8ByteSize = 1 ∧
        ∀ blanks : String, AllBlank blanks.toList →
          Respaced "2e" (left ++ blanks ++ right) found
            (shift 1 blanks.utf8ByteSize) := by
  have number : front '2' ['e'] = .token [] (.number
    (Numeral.toDecimal ⟨['2'], none, none⟩).toFloat) := rfl
  have name : front 'e' [] = .token [] (.identifier "e") := rfl
  have splits : Splits "2e".toList [⟨[], ['2'], _⟩, ⟨[], ['e'], _⟩] [] [] :=
    ⟨rfl, ⟨allBlank_nil, front_eq_token_iff.1 number, allBlank_nil,
      front_eq_token_iff.1 name, trivial⟩, allBlank_nil⟩
  have scanned := tokens_of_finished splits
  refine ⟨_, scanned, by decide, .inr (.inr ?outside),
    blanks_respace scanned (by decide) (.inr (.inr ?outside))⟩
  rintro ⟨found, member, before, lexeme, after, split, place, longest,
    less, inside⟩
  rcases List.mem_cons.1 member with rfl | member
  · obtain rfl : before = [] := String.utf8Len_eq_zero.1 place.symm
    rw [← List.nil_append (lexeme ++ after), ← split] at longest
    have same := longest.unique (front_eq_token_iff.1 number)
    rw [same] at inside
    exact absurd inside (by decide)
  · rcases List.mem_singleton.1 member with rfl
    exact absurd less (by decide)

end Expression

end RootFinding
