import Mathlib.Computability.StateTransition
import RootFinding.Proofs.Formula.Soundness

/-! The functions of the grammar as a machine. The calls that wait for another
one stand on a stack, one counter holds the levels that are taken, and a cursor
counts the tokens that are consumed. A chain keeps the counter that it found
and puts it back at its end. The other constructs give back the one level that
they took.

The grammar passes its functions the levels that are left, and so never gives
one back. The machine comes to the same readings. -/

namespace RootFinding

namespace Grammar

/-- The two functions that read chains of operands. -/
inductive Chain where
  | sum
  | product

/-- The functions of the grammar. A chain is read in one call. -/
inductive Rule where
  | chain (kind : Chain)
  | unary
  | power
  | primary

def Chain.operator? : Chain → Token → Option Operator
  | .sum => additive?
  | .product => multiplicative?

/-- What reads the operands of a chain. -/
def Chain.operand : Chain → Rule
  | .sum => .chain .product
  | .product => .unary

/-- Goes on with a chain whose links so far make up `left`. -/
def Chain.links (levels : Nat) (left : Formula) (source : List PlacedToken) :
    Chain → Reading
  | .sum => sumLinks levels left source
  | .product => productLinks levels left source

def Rule.read (levels : Nat) (source : List PlacedToken) : Rule → Reading
  | .chain .sum => sum levels source
  | .chain .product => product levels source
  | .unary => Grammar.unary levels source
  | .power => Grammar.power levels source
  | .primary => Grammar.primary levels source

namespace Machine

/-- A call that waits for the one it has made, with its local variables. A
chain has kept the counter that it found at its `entry`. -/
inductive Pending where
  | first (chain : Chain) (entry : Nat)
  | link (chain : Chain) (entry : Nat) (left : Formula) (operator : Operator)
  | signed (sign : Operator)
  | unsigned
  | base
  | exponent (operator : Operator) (base : Formula)
  | group (opening : Nat)
  | argument (name : String) (opening : Nat)

/-- The function that waits. -/
def Pending.rule : Pending → Rule
  | .first chain _ => .chain chain
  | .link chain _ _ _ => .chain chain
  | .signed _ => .unary
  | .unsigned => .unary
  | .base => .power
  | .exponent _ _ => .power
  | .group _ => .primary
  | .argument _ _ => .primary

/-- The function that is waited for. -/
def Pending.callee : Pending → Rule
  | .first chain _ => chain.operand
  | .link chain _ _ _ => chain.operand
  | .signed _ => .unary
  | .unsigned => .power
  | .base => .primary
  | .exponent _ _ => .unary
  | .group _ => .chain .sum
  | .argument _ _ => .chain .sum

/-- What happens next: a function starts, its formula goes to the call that
waits for it, or an error goes to all of them. A machine that gives back a
level while its counter is zero stops with an `underflow`. -/
inductive Control where
  | call (rule : Rule)
  | answer (formula : Formula)
  | failure (error : CompileError)
  | underflow

structure State where
  control : Control
  /-- The innermost call is the first. -/
  pending : List Pending
  /-- The counter of the levels that are taken. -/
  depth : Nat
  /-- The number of tokens that are consumed. -/
  next : Nat

namespace State

/-- A function that nothing waits for is called. -/
def entering (rule : Rule) (depth next : Nat) : State :=
  ⟨.call rule, [], depth, next⟩

def advance (state : State) : State :=
  { state with next := state.next + 1 }

def answer (formula : Formula) (state : State) : State :=
  { state with control := .answer formula }

def fail (error : CompileError) (state : State) : State :=
  { state with control := .failure error }

/-- Calls what `waiting` waits for. -/
def call (waiting : Pending) (state : State) : State :=
  { state with
    control := .call waiting.callee
    pending := waiting :: state.pending }

/-- Takes one more level for the token at `position`. -/
def descend (position : Nat) (waiting : Pending) (state : State) : State :=
  if nestingLimit ≤ state.depth then
    state.fail (.tooDeep position)
  else
    { state with depth := state.depth + 1 }.call waiting

/-- Gives back the one level that was taken. -/
def release (formula : Formula) (state : State) : State :=
  match state.depth with
  | 0 => { state with control := .underflow }
  | below + 1 => { state with depth := below }.answer formula

/-- Goes on with a chain whose links so far make up `left`. -/
def extend (source : List PlacedToken) (chain : Chain) (entry : Nat)
    (left : Formula) (state : State) : State :=
  match first? chain.operator? (source.drop state.next) with
  | none => { state with depth := entry }.answer left
  | some (operator, position, _) =>
      state.advance.descend position (.link chain entry left operator)

/-- Goes on with a power whose base is read. -/
def raise (source : List PlacedToken) (base : Formula) (state : State) :
    State :=
  match first? raising? (source.drop state.next) with
  | none => state.answer base
  | some (operator, position, _) =>
      state.advance.descend position (.exponent operator base)

/-- Takes the `)` that closes the `(` at `opening`. -/
def close (source : List PlacedToken) (opening : Nat) (formula : Formula)
    (state : State) : State :=
  match source.drop state.next with
  | [] => state.fail (.unclosedParenthesis opening)
  | ⟨.rightParenthesis, _⟩ :: _ => state.advance.release formula
  | found :: _ => state.advance.fail (unexpected found)

/-- What a function does up to its first call, or to its end. -/
def enter (source : List PlacedToken) (rule : Rule) (state : State) : State :=
  match rule with
  | .chain chain => state.call (.first chain state.depth)
  | .unary =>
      match first? additive? (source.drop state.next) with
      | none => state.call .unsigned
      | some (sign, position, _) =>
          state.advance.descend position (.signed sign)
  | .power => state.call .base
  | .primary =>
      match source.drop state.next with
      | [] => state.fail .unexpectedEnd
      | first :: rest =>
          match first.token with
          | .number value => state.advance.answer (.number value)
          | .identifier name =>
              match first? opening? rest with
              | none => state.advance.answer (symbol name)
              | some (_, opening, _) =>
                  state.advance.advance.descend opening
                    (.argument name opening)
          | .leftParenthesis =>
              state.advance.descend first.position (.group first.position)
          | _ => state.advance.fail (unexpected first)

/-- What the call that has waited does with the formula it is given. -/
def resume (source : List PlacedToken) (waiting : Pending) (formula : Formula)
    (state : State) : State :=
  match waiting with
  | .first chain entry => state.extend source chain entry formula
  | .link chain entry left operator =>
      state.extend source chain entry (.binary operator left formula)
  | .signed sign => state.release (Grammar.signed sign formula)
  | .unsigned => state.answer formula
  | .base => state.raise source formula
  | .exponent operator base =>
      state.release (.binary operator base formula)
  | .group opening => state.close source opening formula
  | .argument name opening =>
      state.close source opening (application name formula)

end State

/-- The machine stops at an error, and at a formula that no call waits for. -/
def step (source : List PlacedToken) : State → Option State
  | ⟨.call rule, pending, depth, next⟩ =>
      some (State.enter source rule ⟨.call rule, pending, depth, next⟩)
  | ⟨.answer formula, waiting :: pending, depth, next⟩ =>
      some (State.resume source waiting formula
        ⟨.answer formula, pending, depth, next⟩)
  | ⟨.answer _, [], _, _⟩ => none
  | ⟨.failure _, _, _, _⟩ => none
  | ⟨.underflow, _, _, _⟩ => none

/-- A run for the tokens of `source`. -/
abbrev Reaches (source : List PlacedToken) : State → State → Prop :=
  StateTransition.Reaches (step source)

end Machine

/-! The equations of the two chains are the same. -/

theorem Chain.read_eq (chain : Chain) (levels : Nat)
    (source : List PlacedToken) :
    (Rule.chain chain).read levels source =
      chain.operand.read levels source >>= fun read =>
        chain.links levels read.1 read.2 := by
  cases chain with
  | sum => rw [Rule.read, Grammar.sum]; rfl
  | product => rw [Rule.read, Grammar.product]; rfl

theorem Chain.links_eq (chain : Chain) (levels : Nat) (left : Formula)
    (source : List PlacedToken) :
    chain.links levels left source =
      match first? chain.operator? source, levels with
      | none, _ => .ok (left, source)
      | some (_, position, _), 0 => .error (.tooDeep position)
      | some (operator, _, rest), below + 1 =>
          chain.operand.read below rest >>= fun read =>
            chain.links below (.binary operator left read.1) read.2 := by
  cases chain with
  | sum => exact sumLinks.eq_def ..
  | product => exact productLinks.eq_def ..

theorem drop_eq_cons {source rest : List PlacedToken} {next : Nat}
    {first : PlacedToken} (front : source.drop next = first :: rest) :
    next < source.length ∧ rest = source.drop (next + 1) := by
  constructor
  · by_contra past
    rw [List.drop_eq_nil_of_le (by omega)] at front
    cases front
  · rw [← List.tail_drop, front, List.tail_cons]

theorem first?_drop {α : Type} {select : Token → Option α} {value : α}
    {position next : Nat} {source rest : List PlacedToken}
    (taken : first? select (source.drop next) = some (value, position, rest)) :
    next < source.length ∧ rest = source.drop (next + 1) := by
  rcases first?_eq_some taken with ⟨token, -, front⟩
  exact drop_eq_cons front

namespace Machine

/-! The machine comes to what the grammar reads. -/

/-- A run from `state` comes to `reading`. At a formula the calls of `pending`
wait, the counter is `depth`, and `least` or more tokens are consumed. -/
def Completes (source : List PlacedToken) (state : State)
    (pending : List Pending) (depth least : Nat) : Reading → Prop
  | .ok (formula, rest) =>
      ∃ next, least ≤ next ∧ next ≤ source.length ∧ source.drop next = rest ∧
        Reaches source state ⟨.answer formula, pending, depth, next⟩
  | .error error =>
      ∃ last, last.control = .failure error ∧ Reaches source state last

/-- Whatever waits for it, a call comes to its reading. It consumes a token and
leaves the counter as it finds it. -/
def CallCompletes (source : List PlacedToken) (levels : Nat) (rule : Rule) :
    Prop :=
  ∀ pending depth next, depth + levels = nestingLimit →
    Completes source ⟨.call rule, pending, depth, next⟩ pending depth (next + 1)
      (rule.read levels (source.drop next))

variable {source : List PlacedToken} {state after : State}
  {control : Control} {waiting : Pending} {pending : List Pending}
  {depth last least next below levels position : Nat} {reading : Reading}
  {formula : Formula} {error : CompileError}

namespace Completes

theorem after_steps (steps : Reaches source state after)
    (completes : Completes source after pending depth least reading) :
    Completes source state pending depth least reading := by
  cases reading with
  | ok read =>
      rcases completes with ⟨next, progressed, available, left, run⟩
      exact ⟨next, progressed, available, left, steps.trans run⟩
  | error error =>
      rcases completes with ⟨last, failed, run⟩
      exact ⟨last, failed, steps.trans run⟩

theorem after_step (steps : step source state = some after)
    (completes : Completes source after pending depth least reading) :
    Completes source state pending depth least reading :=
  completes.after_steps (.single steps)

theorem mono {least' : Nat} (less : least' ≤ least)
    (completes : Completes source state pending depth least reading) :
    Completes source state pending depth least' reading := by
  cases reading with
  | ok read =>
      rcases completes with ⟨next, progressed, rest⟩
      exact ⟨next, by omega, rest⟩
  | error error => exact completes

theorem answered (progressed : least ≤ next)
    (available : next ≤ source.length) :
    Completes source ⟨.answer formula, pending, depth, next⟩ pending depth least
      (.ok (formula, source.drop next)) :=
  ⟨next, progressed, available, rfl, .refl⟩

theorem failed (failure : state.control = .failure error) :
    Completes source state pending depth least (.error error) :=
  ⟨state, failure, .refl⟩

/-- A call that waits goes on with the formula it is given. -/
theorem bind {outer : List Pending} {depth' least' : Nat}
    {goOn : Formula × List PlacedToken → Reading}
    (called : Completes source state outer depth' least' reading)
    (goesOn : ∀ formula next, least' ≤ next → next ≤ source.length →
      Completes source ⟨.answer formula, outer, depth', next⟩
        pending depth least (goOn (formula, source.drop next))) :
    Completes source state pending depth least (reading >>= goOn) := by
  cases reading with
  | ok read =>
      rcases read with ⟨formula, rest⟩
      rcases called with ⟨next, progressed, available, rfl, run⟩
      exact (goesOn formula next progressed available).after_steps run
  | error error => exact called

theorem too_deep (exhausted : depth + 0 = nestingLimit) :
    Completes source
      (State.descend position waiting ⟨control, pending, depth, next⟩)
      pending last least (.error (.tooDeep position)) := by
  apply failed
  rw [State.descend, if_pos (by simp only; omega), State.fail]

/-- A call one level deeper, and what the call that waits for it does with the
formula. -/
theorem descend {goOn : Formula × List PlacedToken → Reading}
    (fits : depth + (below + 1) = nestingLimit)
    (called : CallCompletes source below waiting.callee)
    (goesOn : ∀ formula after, next < after → after ≤ source.length →
      Completes source
        (State.resume source waiting formula
          ⟨.answer formula, pending, depth + 1, after⟩)
        pending last least (goOn (formula, source.drop after))) :
    Completes source
      (State.descend position waiting ⟨control, pending, depth, next⟩)
      pending last least
      (waiting.callee.read below (source.drop next) >>= goOn) := by
  rw [State.descend, if_neg (by simp only; omega)]
  exact (called (waiting :: pending) (depth + 1) next (by omega)).bind
    fun formula after progressed available =>
      (goesOn formula after progressed available).after_step rfl

end Completes

/-- What a call does before it calls another one, and what it does with the
formula that it waits for. -/
theorem call_completes {rule : Rule} {waiting : Pending}
    {goOn : Formula × List PlacedToken → Reading}
    (fits : depth + levels = nestingLimit)
    (enters : State.enter source rule ⟨.call rule, pending, depth, next⟩ =
      State.call waiting ⟨.call rule, pending, depth, next⟩)
    (called : CallCompletes source levels waiting.callee)
    (goesOn : ∀ formula after, next < after → after ≤ source.length →
      Completes source
        (State.resume source waiting formula
          ⟨.answer formula, pending, depth, after⟩)
        pending last least (goOn (formula, source.drop after))) :
    Completes source ⟨.call rule, pending, depth, next⟩ pending last least
      (waiting.callee.read levels (source.drop next) >>= goOn) := by
  have steps : step source ⟨.call rule, pending, depth, next⟩ =
      some (State.call waiting ⟨.call rule, pending, depth, next⟩) :=
    congrArg some enters
  apply Completes.after_step steps
  exact (called (waiting :: pending) depth next fits).bind
    fun formula after progressed available =>
      (goesOn formula after progressed available).after_step rfl

/-- A chain goes on to its end, where the counter is what it was at the
entry. -/
theorem links_complete (chain : Chain) (entry : Nat)
    (operands : ∀ below < levels, CallCompletes source below chain.operand)
    (fits : depth + levels = nestingLimit) (available : next ≤ source.length)
    (left : Formula) :
    Completes source
      (State.extend source chain entry left ⟨control, pending, depth, next⟩)
      pending entry next (chain.links levels left (source.drop next)) := by
  induction levels generalizing depth next left control with
  | zero =>
      rw [State.extend, chain.links_eq]
      cases taken : first? chain.operator? (source.drop next) with
      | none => exact .answered le_rfl available
      | some found => exact .too_deep fits
  | succ below links =>
      rw [State.extend, chain.links_eq]
      cases taken : first? chain.operator? (source.drop next) with
      | none => exact .answered le_rfl available
      | some found =>
          rcases found with ⟨operator, position, rest⟩
          rcases first?_drop taken with ⟨-, rfl⟩
          apply Completes.descend fits (operands below (by omega))
          intro right after progressed available
          -- A link keeps its level, so that the chain goes on one level deeper.
          apply Completes.mono (Nat.le_of_lt (Nat.lt_of_succ_lt progressed))
          exact links (fun below less => operands below (by omega))
            (by omega) available (.binary operator left right)

theorem chain_completes (chain : Chain)
    (operands : CallCompletes source levels chain.operand)
    (deeper : ∀ below < levels, CallCompletes source below chain.operand) :
    CallCompletes source levels (.chain chain) := by
  intro pending depth next fits
  have called : CallCompletes source levels
      (Pending.first chain depth).callee :=
    operands
  rw [chain.read_eq]
  apply call_completes fits rfl called
  intro first after progressed available
  apply Completes.mono progressed
  exact links_complete chain depth deeper fits available first

theorem unary_completes
    (deeper : ∀ below < levels, CallCompletes source below .unary)
    (powers : CallCompletes source levels .power) :
    CallCompletes source levels .unary := by
  intro pending depth next fits
  rw [Rule.read, Grammar.unary.eq_def]
  cases taken : first? additive? (source.drop next) with
  | none =>
      have enters : State.enter source .unary
          ⟨.call .unary, pending, depth, next⟩ =
            State.call .unsigned ⟨.call .unary, pending, depth, next⟩ := by
        simp only [State.enter, taken]
      have called : CallCompletes source levels Pending.unsigned.callee :=
        powers
      -- Without a sign, the formula of the power is passed on as it is.
      have completes :
          Completes source ⟨.call .unary, pending, depth, next⟩ pending depth
            (next + 1) (Grammar.power levels (source.drop next) >>= pure) :=
        call_completes fits enters called
          fun operand after progressed available =>
            .answered progressed available
      rwa [bind_pure] at completes
  | some found =>
      rcases found with ⟨sign, position, rest⟩
      rcases first?_drop taken with ⟨-, rfl⟩
      have enters : step source ⟨.call .unary, pending, depth, next⟩ =
          some (State.descend position (.signed sign)
            ⟨.call .unary, pending, depth, next + 1⟩) := by
        simp only [step, State.enter, taken, State.advance]
      apply Completes.after_step enters
      cases levels with
      | zero => exact .too_deep fits
      | succ below =>
          have called : CallCompletes source below
              (Pending.signed sign).callee :=
            deeper below (by omega)
          exact .descend fits called fun operand after progressed available =>
            .answered (Nat.le_of_lt progressed) available

theorem power_completes
    (deeper : ∀ below < levels, CallCompletes source below .unary)
    (primaries : CallCompletes source levels .primary) :
    CallCompletes source levels .power := by
  intro pending depth next fits
  have called : CallCompletes source levels Pending.base.callee := primaries
  rw [Rule.read, Grammar.power.eq_def]
  apply call_completes fits rfl called
  intro base after progressed available
  rw [State.resume, State.raise]
  dsimp only
  cases taken : first? raising? (source.drop after) with
  | none => exact .answered progressed available
  | some found =>
      rcases found with ⟨operator, position, rest⟩
      rcases first?_drop taken with ⟨-, rfl⟩
      cases levels with
      | zero => exact .too_deep fits
      | succ below =>
          have called : CallCompletes source below
              (Pending.exponent operator base).callee :=
            deeper below (by omega)
          apply Completes.descend fits called
          intro exponent last raised available
          exact .answered
            (progressed.trans (Nat.lt_of_succ_lt raised)) available

/-- What is read inside of parentheses is followed by the `)`. -/
theorem close_completes {opening : Nat} (progressed : least ≤ next) :
    Completes source
      (State.close source opening formula
        ⟨control, pending, depth + 1, next⟩) pending depth least
      (Grammar.close opening (source.drop next) >>= fun rest =>
        pure (formula, rest)) := by
  rw [State.close]
  cases front : source.drop next with
  | nil => exact .failed rfl
  | cons first rest =>
      rcases drop_eq_cons front with ⟨available, rfl⟩
      rcases first with ⟨token, position⟩
      cases token with
      | rightParenthesis =>
          exact .answered (progressed.trans (Nat.le_succ next)) available
      | _ => exact .failed rfl

theorem primary_completes
    (deeper : ∀ below < levels, CallCompletes source below (.chain .sum)) :
    CallCompletes source levels .primary := by
  intro pending depth next fits
  rw [Rule.read, Grammar.primary.eq_def]
  apply Completes.after_step rfl
  rw [State.enter]
  cases front : source.drop next with
  | nil => exact .failed rfl
  | cons first rest =>
      rcases drop_eq_cons front with ⟨available, rfl⟩
      rcases first with ⟨token, position⟩
      dsimp only
      cases token with
      | number value => exact .answered le_rfl available
      | identifier name =>
          dsimp only
          cases taken : first? opening? (source.drop (next + 1)) with
          | none => exact .answered le_rfl available
          | some found =>
              rcases found with ⟨selected, opening, rest⟩
              rcases first?_drop taken with ⟨-, rfl⟩
              cases levels with
              | zero => exact .too_deep fits
              | succ below =>
                  have called : CallCompletes source below
                      (Pending.argument name opening).callee :=
                    deeper below (by omega)
                  apply Completes.descend fits called
                  intro argument after progressed _
                  exact close_completes
                    (Nat.le_of_lt (Nat.lt_of_succ_lt progressed))
      | leftParenthesis =>
          cases levels with
          | zero => exact .too_deep fits
          | succ below =>
              have called : CallCompletes source below
                  (Pending.group position).callee :=
                deeper below (by omega)
              apply Completes.descend fits called
              intro inner after progressed _
              exact close_completes (Nat.le_of_lt progressed)
      | _ => exact .failed rfl

/-- Every call comes to its reading. The induction is on the levels that are
left. At the same levels the functions call one another in one order only. -/
theorem calls_complete (source : List PlacedToken) (levels : Nat)
    (rule : Rule) : CallCompletes source levels rule := by
  induction levels using Nat.strong_induction_on generalizing rule with
  | _ levels deeper =>
      have primaries : CallCompletes source levels .primary :=
        primary_completes fun below less => deeper below less _
      have powers : CallCompletes source levels .power :=
        power_completes (fun below less => deeper below less _) primaries
      have unaries : CallCompletes source levels .unary :=
        unary_completes (fun below less => deeper below less _) powers
      have products : CallCompletes source levels (.chain .product) :=
        chain_completes .product unaries fun below less => deeper below less _
      have sums : CallCompletes source levels (.chain .sum) :=
        chain_completes .sum products fun below less => deeper below less _
      cases rule with
      | chain kind =>
          cases kind with
          | sum => exact sums
          | product => exact products
      | unary => exact unaries
      | power => exact powers
      | primary => exact primaries

end Machine

end Grammar

end RootFinding
