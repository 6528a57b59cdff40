import Mathlib
import RootFinding.Json.Reader
import RootFinding.Proofs.Decimal.Regular

/-! Texts of JSON values are read back. First the scanner finds the tokens in
the text, and then the reader finds the value in the tokens. -/

namespace RootFinding

theorem Numeral.isStrict_iff {numeral : Numeral} :
    numeral.isStrict = true ↔ numeral.whole ≠ [] ∧
      (numeral.whole.head? ≠ some '0' ∨ numeral.whole.length = 1) ∧
        numeral.fraction ≠ some [] := by
  simp [isStrict, and_assoc]

namespace Json

namespace Token

/-- The token is taken whole off the front of a text. -/
def IsReadable : Token → Prop
  | .number _ numeral => numeral.IsRegular ∧ numeral.isStrict = true
  | .string pieces =>
      ∀ rest, TextPiece.read (pieces.flatMap TextPiece.chars ++ '"' :: rest) =
        some (pieces, rest)
  | _ => True

def isPunctuation : Token → Bool
  | .openList | .closeList | .openObject | .closeObject | .comma | .colon => true
  | _ => false

/-! Scanning one token. -/

section Scan

variable {first : Char} {token : Token} {rest : List Char}

theorem scan_of_punctuation (notBlank : isBlank first = false)
    (found : punctuation? first = some token) :
    scan (first :: rest) = (scan rest).map (token :: ·) := by
  rw [scan, notBlank, if_neg Bool.false_ne_true, found]

theorem scan_of_scalar {tail : List Char} (notBlank : isBlank first = false)
    (notPunctuation : punctuation? first = none)
    (found : scalar? (first :: tail) = some (token, rest)) :
    scan (first :: tail) = (scan rest).map (token :: ·) := by
  rw [scan, notBlank, if_neg Bool.false_ne_true, notPunctuation]
  dsimp only
  split
  · rename_i same
    cases found.symm.trans same
    rfl
  · rename_i missing
    cases found.symm.trans missing

theorem scan_punctuation (punctuation : token.isPunctuation = true)
    (rest : List Char) :
    scan (token.chars ++ rest) = (scan rest).map (token :: ·) := by
  cases token with
  | openList => exact scan_of_punctuation rfl rfl
  | closeList => exact scan_of_punctuation rfl rfl
  | openObject => exact scan_of_punctuation rfl rfl
  | closeObject => exact scan_of_punctuation rfl rfl
  | comma => exact scan_of_punctuation rfl rfl
  | colon => exact scan_of_punctuation rfl rfl
  | _ => cases punctuation

/-! A digit starts a number and no other token. -/

theorem isBlank_of_isDigit (digit : first.isDigit = true) :
    isBlank first = false := by
  rw [Bool.eq_false_iff]
  intro blank
  simp only [isBlank, Bool.or_eq_true, decide_eq_true_eq] at blank
  rcases blank with ((rfl | rfl) | rfl) | rfl <;> cases digit

theorem punctuation_of_isDigit (digit : first.isDigit = true) :
    punctuation? first = none := by
  unfold punctuation?
  split <;> first | rfl | cases digit

theorem scalar_of_isDigit (digit : first.isDigit = true) (tail : List Char) :
    scalar? (first :: tail) = number? false (first :: tail) := by
  unfold scalar?
  split <;> rename_i equal <;> first | rfl | (cases equal; cases digit)

theorem number_append {negative : Bool} {numeral : Numeral}
    (readable : IsReadable (.number negative numeral)) (ends : EndsNumeral rest) :
    number? negative (numeral.chars ++ rest) =
      some (.number negative numeral, rest) := by
  rcases readable with ⟨regular, strict⟩
  simp only [number?, regular.read_append ends, strict, if_true]

theorem exists_digit {numeral : Numeral} (regular : numeral.IsRegular)
    (strict : numeral.isStrict = true) :
    ∃ digit tail, numeral.chars = digit :: tail ∧ digit.isDigit = true := by
  cases whole : numeral.whole with
  | nil => exact absurd whole (Numeral.isStrict_iff.1 strict).1
  | cons digit others =>
      have isDigit := regular.whole_digits digit (whole ▸ List.mem_cons_self)
      unfold Numeral.chars
      rw [whole]
      exact ⟨digit, _, rfl, isDigit⟩

theorem scan_number {negative : Bool} {numeral : Numeral}
    (readable : IsReadable (.number negative numeral)) (ends : EndsNumeral rest) :
    scan (chars (.number negative numeral) ++ rest) =
      (scan rest).map (.number negative numeral :: ·) := by
  have taken := number_append readable ends
  cases negative with
  | true => exact scan_of_scalar rfl rfl taken
  | false =>
      rcases exists_digit readable.1 readable.2 with ⟨digit, tail, split, isDigit⟩
      change scan (numeral.chars ++ rest) = _
      rw [split, List.cons_append] at taken ⊢
      rw [← scalar_of_isDigit isDigit] at taken
      exact scan_of_scalar (isBlank_of_isDigit isDigit)
        (punctuation_of_isDigit isDigit) taken

theorem scan_string {pieces : List TextPiece}
    (readable : IsReadable (.string pieces)) (rest : List Char) :
    scan (chars (.string pieces) ++ rest) =
      (scan rest).map (.string pieces :: ·) := by
  have quoted : chars (.string pieces) ++ rest =
      '"' :: (pieces.flatMap TextPiece.chars ++ '"' :: rest) := by
    simp [chars]
  rw [quoted]
  refine scan_of_scalar rfl rfl ?_
  rw [scalar?, readable rest]

/-- Only numbers care about what follows them. -/
theorem scan_append (readable : token.IsReadable)
    (ends : token.isPunctuation = false → EndsNumeral rest) :
    scan (token.chars ++ rest) = (scan rest).map (token :: ·) := by
  cases token with
  | null => exact scan_of_scalar rfl rfl rfl
  | boolean value =>
      cases value with
      | true => exact scan_of_scalar rfl rfl rfl
      | false => exact scan_of_scalar rfl rfl rfl
  | number negative numeral => exact scan_number readable (ends rfl)
  | string pieces => exact scan_string readable rest
  | _ => exact scan_punctuation rfl rest

end Scan

/-! Scanning a whole text. Numbers never stand next to each other. -/

def Apart (left right : Token) : Prop :=
  left.isPunctuation = true ∨ right.isPunctuation = true

theorem endsNumeral_cons {next : Char}
    (stops : next.isDigit = false ∧ next ≠ '.' ∧ next ≠ 'e' ∧ next ≠ 'E')
    (rest : List Char) : EndsNumeral (next :: rest) := by
  intro found member
  cases member
  exact stops

theorem endsNumeral_of_isPunctuation {token : Token}
    (punctuation : token.isPunctuation = true) (rest : List Char) :
    EndsNumeral (token.chars ++ rest) := by
  cases token with
  | openList => exact endsNumeral_cons (by decide) rest
  | closeList => exact endsNumeral_cons (by decide) rest
  | openObject => exact endsNumeral_cons (by decide) rest
  | closeObject => exact endsNumeral_cons (by decide) rest
  | comma => exact endsNumeral_cons (by decide) rest
  | colon => exact endsNumeral_cons (by decide) rest
  | _ => cases punctuation

theorem scan_flatMap {source : List Token}
    (readable : ∀ token ∈ source, token.IsReadable)
    (apart : source.IsChain Apart) :
    scan (source.flatMap chars) = some source := by
  induction source with
  | nil => simp [scan]
  | cons token rest scanned =>
      have ends : token.isPunctuation = false →
          EndsNumeral (rest.flatMap chars) := by
        intro scalar
        cases rest with
        | nil =>
            intro next member
            cases member
        | cons next later =>
            rcases (List.isChain_cons_cons.1 apart).1 with left | right
            · rw [scalar] at left
              cases left
            · exact endsNumeral_of_isPunctuation right _
      rw [List.flatMap_cons,
        scan_append (readable token List.mem_cons_self) ends,
        scanned (fun other member => readable other (.tail _ member)) apart.tail]
      rfl

end Token

/-! The tokens of a value. -/

/-- A punctuation comes next, and the tokens from there on are apart. -/
structure Follows (rest : List Token) : Prop where
  punctuation : ∀ next ∈ rest.head?, next.isPunctuation = true
  apart : rest.IsChain Token.Apart

section Follows

variable {token : Token} {rest : List Token}

theorem Follows.cons (punctuation : token.isPunctuation = true)
    (apart : rest.IsChain Token.Apart) : Follows (token :: rest) where
  punctuation next member := by
    cases member
    exact punctuation
  apart := List.isChain_cons.2 ⟨fun _ _ => .inl punctuation, apart⟩

theorem Follows.after (follows : Follows rest) (token : Token) :
    (token :: rest).IsChain Token.Apart :=
  List.isChain_cons.2
    ⟨fun next member => .inr (follows.punctuation next member), follows.apart⟩

end Follows

mutual

theorem tokens_apart : ∀ (json : Json) {rest : List Token}, Follows rest →
    (json.tokens ++ rest).IsChain Token.Apart
  | .null, _, follows => follows.after _
  | .boolean _, _, follows => follows.after _
  | .number _ _, _, follows => follows.after _
  | .string _, _, follows => follows.after _
  | .list [], _, follows => (Follows.cons rfl (follows.after _)).apart
  | .list (first :: others), rest, follows => by
      simp only [tokens, List.cons_append, List.append_assoc, List.nil_append]
      exact (Follows.cons rfl (tokens_apart first
        (itemTokens_follow others (.cons rfl follows.apart)))).apart
  | .object [], _, follows => (Follows.cons rfl (follows.after _)).apart
  | .object ((key, value) :: others), rest, follows => by
      simp only [tokens, List.cons_append, List.append_assoc, List.nil_append]
      exact (Follows.cons rfl ((Follows.cons rfl (tokens_apart value
        (memberTokens_follow others (.cons rfl follows.apart)))).after _)).apart

theorem itemTokens_follow : ∀ (items : List Json) {rest : List Token},
    Follows rest → Follows (itemTokens items ++ rest)
  | [], _, follows => follows
  | item :: others, rest, follows => by
      simp only [itemTokens, List.cons_append, List.append_assoc]
      exact .cons rfl (tokens_apart item (itemTokens_follow others follows))

theorem memberTokens_follow :
    ∀ (members : List (List TextPiece × Json)) {rest : List Token},
      Follows rest → Follows (memberTokens members ++ rest)
  | [], _, follows => follows
  | (key, value) :: others, rest, follows => by
      simp only [memberTokens, List.cons_append, List.append_assoc]
      exact .cons rfl ((Follows.cons rfl (tokens_apart value
        (memberTokens_follow others follows))).after _)

end

/-! Reading the tokens of a value. -/

namespace Reader

mutual

theorem take_tokens : ∀ (json : Json) (containers : List Container)
    (fresh : Bool),
    json.tokens.foldlM take ⟨containers, .value fresh⟩ =
      some ⟨containers, .separator json⟩
  | .null, _, _ => rfl
  | .boolean _, _, _ => rfl
  | .number _ _, _, _ => rfl
  | .string _, _, _ => rfl
  | .list [], _, _ => rfl
  | .list (first :: others), containers, _ => by
      have front := take_tokens first (.list [] :: containers) true
      have back := take_itemTokens others containers [] first
      rw [tokens, List.foldlM_cons]
      change (first.tokens ++ _).foldlM take ⟨.list [] :: containers, .value true⟩ = _
      rw [List.foldlM_append, front]
      exact back
  | .object [], _, _ => rfl
  | .object ((key, value) :: others), containers, _ => by
      have front := take_tokens value (.member [] key :: containers) false
      have back := take_memberTokens others containers [] key value
      rw [tokens, List.foldlM_cons]
      change (value.tokens ++ _).foldlM take
        ⟨.member [] key :: containers, .value false⟩ = _
      rw [List.foldlM_append, front]
      exact back

theorem take_itemTokens : ∀ (items : List Json) (outer : List Container)
    (before : List Json) (last : Json),
    (itemTokens items ++ [Token.closeList]).foldlM take
        ⟨.list before :: outer, .separator last⟩ =
      some ⟨outer, .separator (.list (before.reverse ++ last :: items))⟩
  | [], outer, before, last => by
      rw [← List.reverse_cons]
      rfl
  | item :: others, outer, before, last => by
      have front := take_tokens item (.list (last :: before) :: outer) false
      have back := take_itemTokens others outer (last :: before) item
      rw [List.reverse_cons, List.append_assoc, List.singleton_append] at back
      rw [itemTokens, List.cons_append, List.append_assoc, List.foldlM_cons]
      change (item.tokens ++ _).foldlM take
        ⟨.list (last :: before) :: outer, .value false⟩ = _
      rw [List.foldlM_append, front]
      exact back

theorem take_memberTokens : ∀ (members : List (List TextPiece × Json))
    (outer : List Container) (before : List (List TextPiece × Json))
    (key : List TextPiece) (last : Json),
    (memberTokens members ++ [Token.closeObject]).foldlM take
        ⟨.member before key :: outer, .separator last⟩ =
      some ⟨outer,
        .separator (.object (before.reverse ++ (key, last) :: members))⟩
  | [], outer, before, key, last => by
      rw [← List.reverse_cons]
      rfl
  | (next, value) :: others, outer, before, key, last => by
      have front := take_tokens value
        (.member ((key, last) :: before) next :: outer) false
      have back := take_memberTokens others outer ((key, last) :: before) next value
      rw [List.reverse_cons, List.append_assoc, List.singleton_append] at back
      rw [memberTokens, List.cons_append, List.cons_append, List.cons_append,
        List.append_assoc, List.foldlM_cons]
      change (value.tokens ++ _).foldlM take
        ⟨.member ((key, last) :: before) next :: outer, .value false⟩ = _
      rw [List.foldlM_append, front]
      exact back

end

end Reader

/-- Every token of the text is taken whole. -/
def IsReadable (json : Json) : Prop :=
  ∀ token ∈ json.tokens, token.IsReadable

theorem ofText_text {json : Json} (readable : json.IsReadable) :
    ofText? json.text = some json := by
  have nothing : Follows [] := ⟨nofun, .nil⟩
  have apart := tokens_apart json nothing
  rw [List.append_nil] at apart
  have scanned := Token.scan_flatMap readable apart
  have taken := Reader.take_tokens json [] false
  unfold ofText? text ofTokens?
  rw [String.toList_ofList, scanned]
  change (json.tokens.foldlM Reader.take ⟨[], .value false⟩).bind _ = _
  rw [taken]
  rfl

end Json

end RootFinding
