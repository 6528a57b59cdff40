import RootFinding.Formula.Grammar

/-! The sentences of the grammar, each as a syntax tree with one constructor for
each production. A tree tells the tokens it stands for, the formula it means
and the level of every token that takes one. The limit on levels is no part of
the trees. -/

namespace RootFinding

namespace Grammar

inductive Sign where
  | plus
  | minus
deriving DecidableEq

namespace Sign

def token : Sign → Token
  | .plus => .plus
  | .minus => .minus

def operator : Sign → Operator
  | .plus => .add
  | .minus => .subtract

/-- What a sign in front of an operand makes of it. -/
def apply : Sign → Formula → Formula
  | .plus, operand => operand
  | .minus, operand => .negate operand

end Sign

inductive Scaling where
  | times
  | divide
deriving DecidableEq

namespace Scaling

def token : Scaling → Token
  | .times => .times
  | .divide => .divide

def operator : Scaling → Operator
  | .times => .multiply
  | .divide => .divide

end Scaling

mutual

inductive SumTree where
  | chain (first : ProductTree) (links : SumLinks)

inductive SumLinks where
  | none
  | link (sign : Sign) (position : Nat) (operand : ProductTree)
      (later : SumLinks)

inductive ProductTree where
  | chain (first : UnaryTree) (links : ProductLinks)

inductive ProductLinks where
  | none
  | link (scaling : Scaling) (position : Nat) (operand : UnaryTree)
      (later : ProductLinks)

inductive UnaryTree where
  | signed (sign : Sign) (position : Nat) (operand : UnaryTree)
  | power (power : PowerTree)

inductive PowerTree where
  | primary (primary : PrimaryTree)
  | raised (base : PrimaryTree) (position : Nat) (exponent : UnaryTree)

inductive PrimaryTree where
  | number (value : Float) (position : Nat)
  | name (name : String) (position : Nat)
  | call (name : String) (position opening : Nat) (argument : SumTree)
      (closing : Nat)
  | group (opening : Nat) (inner : SumTree) (closing : Nat)

end

/-! The tokens of a sentence, in their order. -/

mutual

def SumTree.tokens : SumTree → List PlacedToken
  | .chain first links => first.tokens ++ links.tokens

def SumLinks.tokens : SumLinks → List PlacedToken
  | .none => []
  | .link sign position operand later =>
      ⟨sign.token, position⟩ :: (operand.tokens ++ later.tokens)

def ProductTree.tokens : ProductTree → List PlacedToken
  | .chain first links => first.tokens ++ links.tokens

def ProductLinks.tokens : ProductLinks → List PlacedToken
  | .none => []
  | .link scaling position operand later =>
      ⟨scaling.token, position⟩ :: (operand.tokens ++ later.tokens)

def UnaryTree.tokens : UnaryTree → List PlacedToken
  | .signed sign position operand =>
      ⟨sign.token, position⟩ :: operand.tokens
  | .power power => power.tokens

def PowerTree.tokens : PowerTree → List PlacedToken
  | .primary primary => primary.tokens
  | .raised base position exponent =>
      base.tokens ++ ⟨.power, position⟩ :: exponent.tokens

def PrimaryTree.tokens : PrimaryTree → List PlacedToken
  | .number value position => [⟨.number value, position⟩]
  | .name name position => [⟨.identifier name, position⟩]
  | .call name position opening argument closing =>
      ⟨.identifier name, position⟩ :: ⟨.leftParenthesis, opening⟩ ::
        (argument.tokens ++ [⟨.rightParenthesis, closing⟩])
  | .group opening inner closing =>
      ⟨.leftParenthesis, opening⟩ ::
        (inner.tokens ++ [⟨.rightParenthesis, closing⟩])

end

/-! What names stand for. Names are told apart by all of their letters. -/

def nameMeaning (name : String) : Formula :=
  match name with
  | "x" => .x
  | "pi" => .constant .pi
  | "e" => .constant .e
  | _ => .unbound name

def callMeaning (name : String) (argument : Formula) : Formula :=
  match name with
  | "sin" => .call .sin argument
  | "cos" => .call .cos argument
  | "tan" => .call .tan argument
  | "ln" => .call .ln argument
  | "log" => .call .log argument
  | "sqrt" => .call .sqrt argument
  | "abs" => .call .abs argument
  | "exp" => .call .exp argument
  | _ => .unboundCall name argument

theorem nameMeaning_eq_symbol (name : String) :
    nameMeaning name = symbol name := by
  unfold nameMeaning symbol Constant.ofName?
  split <;> simp_all

theorem callMeaning_eq_application (name : String) (argument : Formula) :
    callMeaning name argument = application name argument := by
  unfold callMeaning application ElementaryFunction.ofName?
  split <;> simp_all

/-! The formula of a sentence. Chains associate to the left, so that links
take the formula of all that stands before them. -/

mutual

def SumTree.formula : SumTree → Formula
  | .chain first links => links.formula first.formula

def SumLinks.formula (left : Formula) : SumLinks → Formula
  | .none => left
  | .link sign _ operand later =>
      later.formula (.binary sign.operator left operand.formula)

def ProductTree.formula : ProductTree → Formula
  | .chain first links => links.formula first.formula

def ProductLinks.formula (left : Formula) : ProductLinks → Formula
  | .none => left
  | .link scaling _ operand later =>
      later.formula (.binary scaling.operator left operand.formula)

def UnaryTree.formula : UnaryTree → Formula
  | .signed sign _ operand => sign.apply operand.formula
  | .power power => power.formula

def PowerTree.formula : PowerTree → Formula
  | .primary primary => primary.formula
  | .raised base _ exponent => .binary .power base.formula exponent.formula

def PrimaryTree.formula : PrimaryTree → Formula
  | .number value _ => .number value
  | .name name _ => nameMeaning name
  | .call name _ _ argument _ => callMeaning name argument.formula
  | .group _ inner _ => inner.formula

end

@[simp] theorem PrimaryTree.formula_name (name : String) (position : Nat) :
    (PrimaryTree.name name position).formula = symbol name :=
  nameMeaning_eq_symbol name

@[simp] theorem PrimaryTree.formula_call (name : String)
    (position opening : Nat) (argument : SumTree) (closing : Nat) :
    (PrimaryTree.call name position opening argument closing).formula =
      application name argument.formula :=
  callMeaning_eq_application name argument.formula

/-- A token together with the level that it takes. -/
structure Charge where
  token : PlacedToken
  level : Nat

/-! The charges of a sentence that starts at a level, in the order of their
tokens. A sign, a `^` or a parenthesis takes the level above the one it is met
at. Each link of a chain takes one level more than the link before it, and what
stands to its right starts there. -/

mutual

def SumTree.charges (level : Nat) : SumTree → List Charge
  | .chain first links => first.charges level ++ links.charges level

def SumLinks.charges (level : Nat) : SumLinks → List Charge
  | .none => []
  | .link sign position operand later =>
      ⟨⟨sign.token, position⟩, level + 1⟩ ::
        (operand.charges (level + 1) ++ later.charges (level + 1))

def ProductTree.charges (level : Nat) : ProductTree → List Charge
  | .chain first links => first.charges level ++ links.charges level

def ProductLinks.charges (level : Nat) : ProductLinks → List Charge
  | .none => []
  | .link scaling position operand later =>
      ⟨⟨scaling.token, position⟩, level + 1⟩ ::
        (operand.charges (level + 1) ++ later.charges (level + 1))

def UnaryTree.charges (level : Nat) : UnaryTree → List Charge
  | .signed sign position operand =>
      ⟨⟨sign.token, position⟩, level + 1⟩ :: operand.charges (level + 1)
  | .power power => power.charges level

def PowerTree.charges (level : Nat) : PowerTree → List Charge
  | .primary primary => primary.charges level
  | .raised base position exponent =>
      base.charges level ++
        ⟨⟨.power, position⟩, level + 1⟩ :: exponent.charges (level + 1)

def PrimaryTree.charges (level : Nat) : PrimaryTree → List Charge
  | .number _ _ => []
  | .name _ _ => []
  | .call _ _ opening argument _ =>
      ⟨⟨.leftParenthesis, opening⟩, level + 1⟩ :: argument.charges (level + 1)
  | .group opening inner _ =>
      ⟨⟨.leftParenthesis, opening⟩, level + 1⟩ :: inner.charges (level + 1)

end

/-! The charged tokens of a sentence stand among its tokens in the same
order. -/

mutual

theorem SumTree.charges_sublist (level : Nat) : ∀ tree : SumTree,
    ((tree.charges level).map Charge.token).Sublist tree.tokens
  | .chain first links => by
      simp only [SumTree.charges, SumTree.tokens, List.map_append]
      exact (first.charges_sublist level).append (links.charges_sublist level)

theorem SumLinks.charges_sublist (level : Nat) : ∀ links : SumLinks,
    ((links.charges level).map Charge.token).Sublist links.tokens
  | .none => by simp [SumLinks.charges, SumLinks.tokens]
  | .link sign position operand later => by
      simp only [SumLinks.charges, SumLinks.tokens, List.map_cons,
        List.map_append]
      exact ((operand.charges_sublist (level + 1)).append
        (later.charges_sublist (level + 1))).cons_cons _

theorem ProductTree.charges_sublist (level : Nat) : ∀ tree : ProductTree,
    ((tree.charges level).map Charge.token).Sublist tree.tokens
  | .chain first links => by
      simp only [ProductTree.charges, ProductTree.tokens, List.map_append]
      exact (first.charges_sublist level).append (links.charges_sublist level)

theorem ProductLinks.charges_sublist (level : Nat) : ∀ links : ProductLinks,
    ((links.charges level).map Charge.token).Sublist links.tokens
  | .none => by simp [ProductLinks.charges, ProductLinks.tokens]
  | .link scaling position operand later => by
      simp only [ProductLinks.charges, ProductLinks.tokens, List.map_cons,
        List.map_append]
      exact ((operand.charges_sublist (level + 1)).append
        (later.charges_sublist (level + 1))).cons_cons _

theorem UnaryTree.charges_sublist (level : Nat) : ∀ tree : UnaryTree,
    ((tree.charges level).map Charge.token).Sublist tree.tokens
  | .signed sign position operand => by
      simp only [UnaryTree.charges, UnaryTree.tokens, List.map_cons]
      exact (operand.charges_sublist (level + 1)).cons_cons _
  | .power power => by
      simp only [UnaryTree.charges, UnaryTree.tokens]
      exact power.charges_sublist level

theorem PowerTree.charges_sublist (level : Nat) : ∀ tree : PowerTree,
    ((tree.charges level).map Charge.token).Sublist tree.tokens
  | .primary primary => by
      simp only [PowerTree.charges, PowerTree.tokens]
      exact primary.charges_sublist level
  | .raised base position exponent => by
      simp only [PowerTree.charges, PowerTree.tokens, List.map_append,
        List.map_cons]
      exact (base.charges_sublist level).append
        ((exponent.charges_sublist (level + 1)).cons_cons _)

theorem PrimaryTree.charges_sublist (level : Nat) : ∀ tree : PrimaryTree,
    ((tree.charges level).map Charge.token).Sublist tree.tokens
  | .number value position => by simp [PrimaryTree.charges, PrimaryTree.tokens]
  | .name name position => by simp [PrimaryTree.charges, PrimaryTree.tokens]
  | .call name position opening argument closing => by
      simp only [PrimaryTree.charges, PrimaryTree.tokens, List.map_cons]
      exact .cons _ (((argument.charges_sublist (level + 1)).trans
        (List.sublist_append_left _ _)).cons_cons _)
  | .group opening inner closing => by
      simp only [PrimaryTree.charges, PrimaryTree.tokens, List.map_cons]
      exact ((inner.charges_sublist (level + 1)).trans
        (List.sublist_append_left _ _)).cons_cons _

end

end Grammar

end RootFinding
