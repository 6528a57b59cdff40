import RootFinding.Formula.Grammar

/-! Tokens at other places. A formula is read from the tokens alone, and the
places that errors name move with the tokens. -/

namespace RootFinding

/-- Moves each place that the error names. -/
def CompileError.relocate (move : Nat → Nat) : CompileError → CompileError
  | .unexpectedCharacter character position =>
      .unexpectedCharacter character (move position)
  | .malformedNumber text position => .malformedNumber text (move position)
  | .unexpectedToken found position => .unexpectedToken found (move position)
  | .unclosedParenthesis position => .unclosedParenthesis (move position)
  | .tooDeep position => .tooDeep (move position)
  | .empty => .empty
  | .unexpectedEnd => .unexpectedEnd
  | .unresolved cause => .unresolved cause

def PlacedToken.relocate (move : Nat → Nat) (placed : PlacedToken) :
    PlacedToken where
  token := placed.token
  position := move placed.position

namespace Grammar

def relocateAll (move : Nat → Nat) (source : List PlacedToken) :
    List PlacedToken :=
  source.map (·.relocate move)

theorem relocateAll_cons (move : Nat → Nat) (next : PlacedToken)
    (rest : List PlacedToken) :
    relocateAll move (next :: rest) =
      next.relocate move :: relocateAll move rest :=
  rfl

theorem relocateAll_append (move : Nat → Nat)
    (source other : List PlacedToken) :
    relocateAll move (source ++ other) =
      relocateAll move source ++ relocateAll move other :=
  List.map_append

theorem relocateAll_congr {move other : Nat → Nat} {source : List PlacedToken}
    (same : ∀ found ∈ source, move found.position = other found.position) :
    relocateAll move source = relocateAll other source :=
  List.map_congr_left fun found member => by
    rw [PlacedToken.relocate, PlacedToken.relocate, same found member]

def Reading.relocate (move : Nat → Nat) : Reading → Reading
  | .ok (formula, rest) => .ok (formula, relocateAll move rest)
  | .error error => .error (error.relocate move)

section Relocation

variable (move : Nat → Nat)

theorem first?_relocate {α : Type} (select : Token → Option α)
    (source : List PlacedToken) :
    first? select (relocateAll move source) =
      (first? select source).map fun (selected, position, rest) =>
        (selected, move position, relocateAll move rest) := by
  cases source with
  | nil => rfl
  | cons next rest =>
      change (select next.token).map _ = ((select next.token).map _).map _
      rw [Option.map_map]
      rfl

theorem close_relocate (opening : Nat) (source : List PlacedToken) :
    close (move opening) (relocateAll move source) =
      ((close opening source).map (relocateAll move)).mapError
        (·.relocate move) := by
  cases source with
  | nil => rfl
  | cons next rest =>
      rcases next with ⟨token, position⟩
      cases token <;> rfl

/-- A reading that goes on alike from moved tokens is moved as a whole. -/
theorem relocate_bind {first : Reading}
    {next moved : Formula × List PlacedToken → Reading}
    (same : ∀ formula rest, moved (formula, relocateAll move rest) =
      (next (formula, rest)).relocate move) :
    (first.relocate move >>= moved) =
      Reading.relocate move (first >>= next) := by
  cases first with
  | error error => rfl
  | ok read => exact same read.1 read.2

/-- What stands up to a parenthesis, and the parenthesis, are moved. -/
theorem relocate_enclosed (opening : Nat) (wrap : Formula → Formula)
    (inner : Reading) :
    (inner.relocate move >>= fun (formula, rest) => do
      let rest ← close (move opening) rest
      return (wrap formula, rest)) =
    Reading.relocate move (inner >>= fun (formula, rest) => do
      let rest ← close opening rest
      return (wrap formula, rest)) := by
  refine relocate_bind move fun formula rest => ?_
  simp only [close_relocate]
  cases close opening rest <;> rfl

mutual

theorem sum_relocate (levels : Nat) (source : List PlacedToken) :
    sum levels (relocateAll move source) =
      (sum levels source).relocate move := by
  rw [sum, sum, product_relocate]
  exact relocate_bind move fun first rest => sumLinks_relocate levels first rest
termination_by 5 * levels + 4

theorem sumLinks_relocate (levels : Nat) (left : Formula)
    (source : List PlacedToken) :
    sumLinks levels left (relocateAll move source) =
      (sumLinks levels left source).relocate move := by
  rw [sumLinks.eq_def, sumLinks.eq_def levels left source, first?_relocate]
  cases first? additive? source with
  | none => rfl
  | some found =>
      rcases found with ⟨operator, position, after⟩
      cases levels with
      | zero => rfl
      | succ below =>
          simp only [Option.map_some]
          rw [product_relocate below after]
          exact relocate_bind move fun right rest =>
            sumLinks_relocate below _ rest
termination_by 5 * levels

theorem product_relocate (levels : Nat) (source : List PlacedToken) :
    product levels (relocateAll move source) =
      (product levels source).relocate move := by
  rw [product, product, unary_relocate]
  exact relocate_bind move fun first rest =>
    productLinks_relocate levels first rest
termination_by 5 * levels + 3

theorem productLinks_relocate (levels : Nat) (left : Formula)
    (source : List PlacedToken) :
    productLinks levels left (relocateAll move source) =
      (productLinks levels left source).relocate move := by
  rw [productLinks.eq_def, productLinks.eq_def levels left source,
    first?_relocate]
  cases first? multiplicative? source with
  | none => rfl
  | some found =>
      rcases found with ⟨operator, position, after⟩
      cases levels with
      | zero => rfl
      | succ below =>
          simp only [Option.map_some]
          rw [unary_relocate below after]
          exact relocate_bind move fun right rest =>
            productLinks_relocate below _ rest
termination_by 5 * levels

theorem unary_relocate (levels : Nat) (source : List PlacedToken) :
    unary levels (relocateAll move source) =
      (unary levels source).relocate move := by
  rw [unary.eq_def, unary.eq_def levels source, first?_relocate]
  cases first? additive? source with
  | none => exact power_relocate levels source
  | some found =>
      rcases found with ⟨sign, position, after⟩
      cases levels with
      | zero => rfl
      | succ below =>
          simp only [Option.map_some]
          rw [unary_relocate below after]
          exact relocate_bind move fun operand rest => rfl
termination_by 5 * levels + 2

theorem power_relocate (levels : Nat) (source : List PlacedToken) :
    power levels (relocateAll move source) =
      (power levels source).relocate move := by
  rw [power.eq_def, power.eq_def levels source, primary_relocate]
  refine relocate_bind move fun base rest => ?_
  simp only [first?_relocate]
  cases first? raising? rest with
  | none => rfl
  | some found =>
      rcases found with ⟨operator, position, after⟩
      cases levels with
      | zero => rfl
      | succ below =>
          simp only [Option.map_some]
          rw [unary_relocate below after]
          exact relocate_bind move fun exponent rest => rfl
termination_by 5 * levels + 1

theorem primary_relocate (levels : Nat) (source : List PlacedToken) :
    primary levels (relocateAll move source) =
      (primary levels source).relocate move := by
  rw [primary.eq_def, primary.eq_def levels source]
  cases source with
  | nil => rfl
  | cons next later =>
      rcases next with ⟨token, position⟩
      rw [relocateAll_cons]
      cases token with
      | identifier name =>
          simp only [PlacedToken.relocate, first?_relocate]
          cases first? opening? later with
          | none => rfl
          | some found =>
              rcases found with ⟨selected, opening, after⟩
              cases levels with
              | zero => rfl
              | succ below =>
                  simp only [Option.map_some]
                  rw [sum_relocate below after]
                  exact relocate_enclosed move opening (application name) _
      | leftParenthesis =>
          cases levels with
          | zero => rfl
          | succ below =>
              simp only [PlacedToken.relocate]
              rw [sum_relocate below later]
              exact relocate_enclosed move position id _
      | _ => rfl
termination_by 5 * levels

end

end Relocation

end Grammar

open Grammar

/-- Reading a formula commutes with moving the tokens. -/
theorem Formula.ofTokens_relocate (move : Nat → Nat)
    (source : List PlacedToken) :
    Formula.ofTokens (relocateAll move source) =
      (Formula.ofTokens source).mapError (·.relocate move) := by
  cases source with
  | nil => rfl
  | cons first rest =>
      change (sum nestingLimit (relocateAll move (first :: rest)) >>= _) = _
      rw [sum_relocate]
      simp only [Formula.ofTokens]
      cases sum nestingLimit (first :: rest) with
      | error error => rfl
      | ok read =>
          rcases read with ⟨formula, _ | ⟨found, later⟩⟩ <;> rfl

/-- Where the tokens are makes no difference to the formula. -/
theorem Formula.ofTokens_eq_ok_of_same {source other : List PlacedToken}
    (same : source.map PlacedToken.token = other.map PlacedToken.token)
    {formula : Formula} (read : ofTokens source = .ok formula) :
    ofTokens other = .ok formula := by
  -- Once all places are zero, the two lists are one.
  have together : relocateAll (fun _ => 0) source =
      relocateAll (fun _ => 0) other := by
    have built := congrArg (List.map fun token => PlacedToken.mk token 0) same
    rw [List.map_map, List.map_map] at built
    exact built
  have relocated := ofTokens_relocate (fun _ => 0) other
  rw [← together, ofTokens_relocate, read] at relocated
  cases outcome : ofTokens other with
  | error error =>
      rw [outcome] at relocated
      cases relocated
  | ok result =>
      rw [outcome] at relocated
      cases relocated
      rfl

end RootFinding
