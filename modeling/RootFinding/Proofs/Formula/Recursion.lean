import RootFinding.Proofs.Formula.Machine

/-! How deep the functions of the grammar call one another. Every call that
waits has found the counter at a place that the calls around it determine, so
that no level is given back that was not taken, and each level that is taken
makes room for five more calls only. -/

namespace RootFinding

namespace Grammar

/-- The place of a function among those that may call one another without
taking a level. -/
def Rule.rank : Rule → Nat
  | .chain .sum => 1
  | .chain .product => 2
  | .unary => 3
  | .power => 4
  | .primary => 5

theorem Rule.one_le_rank (rule : Rule) : 1 ≤ rule.rank := by
  rcases rule with (_ | _) | _ | _ | _ <;> decide

theorem Rule.rank_le_five (rule : Rule) : rule.rank ≤ 5 := by
  rcases rule with (_ | _) | _ | _ | _ <;> decide

theorem Chain.operand_rank (chain : Chain) :
    chain.operand.rank = (Rule.chain chain).rank + 1 := by
  cases chain <;> rfl

namespace Machine

/-- A call that found the counter at `entry` has made another one at `depth`. A
chain keeps `entry` itself, and the other calls can tell it from `depth`. -/
def Pending.Calls (entry depth : Nat) : Pending → Prop
  | .first _ saved => saved = entry ∧ depth = entry
  | .link _ saved _ _ => saved = entry ∧ entry < depth
  | .unsigned => depth = entry
  | .base => depth = entry
  | .signed _ => depth = entry + 1
  | .exponent _ _ => depth = entry + 1
  | .group _ => depth = entry + 1
  | .argument _ _ => depth = entry + 1

/-- The calls that wait while `rule`, which found the counter at `depth`, is
read. The outermost of them is a call of `start` at the counter `bottom`. -/
inductive Nested (start : Rule) (bottom : Nat) :
    List Pending → Rule → Nat → Prop
  | start (allowed : bottom ≤ nestingLimit) :
      Nested start bottom [] start bottom
  | call {waiting : Pending} {pending : List Pending} {entry depth : Nat}
      (outer : Nested start bottom pending waiting.rule entry)
      (calls : waiting.Calls entry depth) (allowed : depth ≤ nestingLimit) :
      Nested start bottom (waiting :: pending) waiting.callee depth

/-- What holds in every state of a run. An answer is given where the function
that gives it found the counter. -/
inductive Sound (start : Rule) (bottom : Nat) : State → Prop
  | call {rule : Rule} {pending : List Pending} {depth next : Nat}
      (nested : Nested start bottom pending rule depth) :
      Sound start bottom ⟨.call rule, pending, depth, next⟩
  | answer {rule : Rule} {formula : Formula} {pending : List Pending}
      {depth next : Nat} (nested : Nested start bottom pending rule depth) :
      Sound start bottom ⟨.answer formula, pending, depth, next⟩
  | failure {rule : Rule} {error : CompileError} {pending : List Pending}
      {entry depth next : Nat} (nested : Nested start bottom pending rule entry)
      (taken : entry ≤ depth) (allowed : depth ≤ nestingLimit) :
      Sound start bottom ⟨.failure error, pending, depth, next⟩

variable {source : List PlacedToken} {start rule : Rule} {state after : State}
  {control : Control} {waiting : Pending} {pending : List Pending}
  {bottom entry depth next position : Nat} {formula : Formula}

theorem Pending.Calls.entry_le (calls : waiting.Calls entry depth) :
    entry ≤ depth := by
  cases waiting <;> simp only [Pending.Calls] at calls <;> omega

/-- Without a level a call goes to the next rank. One level makes up for all
ranks. -/
theorem Pending.Calls.rank_le (calls : waiting.Calls entry depth) :
    waiting.rule.rank + 1 + 5 * entry ≤ waiting.callee.rank + 5 * depth := by
  cases waiting with
  | first chain saved =>
      have rank := chain.operand_rank
      simp only [Pending.Calls] at calls
      simp only [Pending.rule, Pending.callee]
      omega
  | link chain saved left operator =>
      have rank := chain.operand_rank
      simp only [Pending.Calls] at calls
      simp only [Pending.rule, Pending.callee]
      omega
  | _ =>
      simp only [Pending.Calls] at calls
      simp only [Pending.rule, Pending.callee, Rule.rank]
      omega

namespace Nested

theorem le_limit (nested : Nested start bottom pending rule depth) :
    depth ≤ nestingLimit := by
  cases nested with
  | start allowed => exact allowed
  | call _ _ allowed => exact allowed

theorem bottom_le (nested : Nested start bottom pending rule depth) :
    bottom ≤ depth := by
  induction nested with
  | start => exact le_rfl
  | call _ calls _ reached => exact reached.trans calls.entry_le

/-- Each call that waits is one rank, or a level, above the call it waits
for. -/
theorem length_le (nested : Nested start bottom pending rule depth) :
    pending.length + start.rank + 5 * bottom ≤ rule.rank + 5 * depth := by
  induction nested with
  | start => simp
  | call outer calls allowed shallow =>
      have rank := calls.rank_le
      rw [List.length_cons]
      omega

theorem length_lt (nested : Nested start bottom pending rule depth) :
    pending.length + 1 + 5 * bottom ≤ 5 * (depth + 1) := by
  have shallow := nested.length_le
  have first := start.one_le_rank
  have last := rule.rank_le_five
  omega

end Nested

namespace State

/-- The functions of the grammar that have not come to their ends. -/
def active (state : State) : Nat :=
  match state.control with
  | .answer _ => state.pending.length
  | _ => state.pending.length + 1

end State

namespace Sound

theorem bottom_le (sound : Sound start bottom state) :
    bottom ≤ state.depth := by
  cases sound with
  | call nested => exact nested.bottom_le
  | answer nested => exact nested.bottom_le
  | failure nested taken _ => exact nested.bottom_le.trans taken

theorem le_limit (sound : Sound start bottom state) :
    state.depth ≤ nestingLimit := by
  cases sound with
  | call nested => exact nested.le_limit
  | answer nested => exact nested.le_limit
  | failure _ _ allowed => exact allowed

theorem not_underflow (sound : Sound start bottom state) :
    state.control ≠ .underflow := by
  cases sound <;> exact Control.noConfusion

theorem active_le (sound : Sound start bottom state) :
    state.active + 5 * bottom ≤ 5 * (state.depth + 1) := by
  cases sound with
  | call nested => exact nested.length_lt
  | answer nested =>
      have shallow := nested.length_lt
      simp only [State.active]
      omega
  | failure nested taken _ =>
      have shallow := nested.length_lt
      simp only [State.active]
      omega

theorem called (nested : Nested start bottom pending waiting.rule entry)
    (calls : waiting.Calls entry depth) (allowed : depth ≤ nestingLimit) :
    Sound start bottom
      (State.call waiting ⟨control, pending, depth, next⟩) :=
  .call (.call nested calls allowed)

theorem descend (nested : Nested start bottom pending waiting.rule entry)
    (taken : entry ≤ depth) (allowed : depth ≤ nestingLimit)
    (calls : waiting.Calls entry (depth + 1)) :
    Sound start bottom
      (State.descend position waiting ⟨control, pending, depth, next⟩) := by
  rw [State.descend]
  by_cases full : nestingLimit ≤ depth
  · rw [if_pos full]
    exact .failure nested taken allowed
  · rw [if_neg full]
    exact called nested calls (Nat.lt_of_not_le full)

/-- A level that was taken is there to be given back. -/
theorem release (nested : Nested start bottom pending rule entry)
    (taken : depth = entry + 1) :
    Sound start bottom
      (State.release formula ⟨control, pending, depth, next⟩) := by
  subst taken
  exact .answer nested

theorem extend {chain : Chain}
    (nested : Nested start bottom pending (.chain chain) entry)
    (taken : entry ≤ depth) (allowed : depth ≤ nestingLimit) :
    Sound start bottom
      (State.extend source chain entry formula
        ⟨control, pending, depth, next⟩) := by
  rw [State.extend]
  split
  · exact .answer nested
  · exact descend nested taken allowed ⟨rfl, Nat.lt_succ_of_le taken⟩

theorem close {opening : Nat}
    (nested : Nested start bottom pending rule entry)
    (taken : depth = entry + 1) (allowed : depth ≤ nestingLimit) :
    Sound start bottom
      (State.close source opening formula ⟨control, pending, depth, next⟩) := by
  have above : entry ≤ depth := by omega
  rw [State.close]
  split
  · exact .failure nested above allowed
  · exact release nested taken
  · exact .failure nested above allowed

/-- A function makes its first call, or comes to its end, where it finds the
counter. -/
theorem enter (nested : Nested start bottom pending rule depth) :
    Sound start bottom
      (State.enter source rule ⟨control, pending, depth, next⟩) := by
  have allowed := nested.le_limit
  cases rule with
  | chain chain => exact called nested ⟨rfl, rfl⟩ allowed
  | unary =>
      rw [State.enter]
      dsimp only
      split
      · exact called nested rfl allowed
      · exact descend nested le_rfl allowed rfl
  | power => exact called nested rfl allowed
  | primary =>
      rw [State.enter]
      dsimp only
      split
      · exact .failure nested le_rfl allowed
      · split
        · exact .answer nested
        · split
          · exact .answer nested
          · exact descend nested le_rfl allowed rfl
        · exact descend nested le_rfl allowed rfl
        · exact .failure nested le_rfl allowed

/-- A call that is given a formula puts the counter back where it found it, or
calls again. -/
theorem resume (nested : Nested start bottom pending waiting.rule entry)
    (calls : waiting.Calls entry depth) (allowed : depth ≤ nestingLimit) :
    Sound start bottom
      (State.resume source waiting formula
        ⟨control, pending, depth, next⟩) := by
  cases waiting with
  | first chain saved =>
      rcases calls with ⟨rfl, rfl⟩
      exact extend nested le_rfl allowed
  | link chain saved left operator =>
      rcases calls with ⟨rfl, taken⟩
      exact extend nested (Nat.le_of_lt taken) allowed
  | signed sign => exact release nested calls
  | unsigned =>
      subst calls
      exact .answer nested
  | base =>
      subst calls
      change Sound start bottom (State.raise source formula _)
      rw [State.raise]
      split
      · exact .answer nested
      · exact descend nested le_rfl allowed rfl
  | exponent operator base => exact release nested calls
  | group opening => exact close nested calls allowed
  | argument name opening => exact close nested calls allowed

theorem step (sound : Sound start bottom state)
    (steps : step source state = some after) : Sound start bottom after := by
  cases sound with
  | call nested =>
      cases steps
      exact enter nested
  | answer nested =>
      cases nested with
      | start => cases steps
      | call outer calls allowed =>
          cases steps
          exact resume outer calls allowed
  | failure => cases steps

theorem run (sound : Sound start bottom state)
    (reached : Reaches source state after) : Sound start bottom after := by
  induction reached with
  | refl => exact sound
  | tail _ steps sound => exact sound.step steps

end Sound

/-- The last state of a run from a call that finds the counter at `depth` and
`next` tokens consumed. A formula is given with the counter put back, when more
tokens are consumed, though none past the end. -/
def State.Gives (source : List PlacedToken) (depth next : Nat) (last : State) :
    Reading → Prop
  | .ok (formula, rest) =>
      last.control = .answer formula ∧ last.pending = [] ∧
        last.depth = depth ∧ next < last.next ∧ last.next ≤ source.length ∧
        source.drop last.next = rest
  | .error error => last.control = .failure error

/-- What a call of `rule` does that finds the counter at `depth` and `next`
tokens consumed. -/
structure Disciplined (source : List PlacedToken) (rule : Rule)
    (depth next : Nat) : Prop where
  /-- The run ends with what the grammar reads. -/
  ends : ∃ last ∈ StateTransition.eval (step source)
      (State.entering rule depth next),
    last.Gives source depth next
      (rule.read (nestingLimit - depth) (source.drop next))
  /-- The counter stays between its entry and the limit. -/
  within : ∀ state, Reaches source (State.entering rule depth next) state →
    depth ≤ state.depth ∧ state.depth ≤ nestingLimit
  /-- No level is given back while the counter is zero. -/
  balanced : ∀ state, Reaches source (State.entering rule depth next) state →
    state.control ≠ .underflow

theorem Sound.entering (allowed : depth ≤ nestingLimit) :
    Sound rule depth (State.entering rule depth next) :=
  .call (.start allowed)

theorem Completes.gives {reading : Reading}
    (completes : Completes source state [] depth (next + 1) reading) :
    ∃ last ∈ StateTransition.eval (step source) state,
      last.Gives source depth next reading := by
  cases reading with
  | ok read =>
      rcases read with ⟨formula, rest⟩
      rcases completes with ⟨last, progressed, available, left, run⟩
      exact ⟨_, StateTransition.mem_eval.mpr ⟨run, rfl⟩,
        rfl, rfl, rfl, progressed, available, left⟩
  | error error =>
      rcases completes with ⟨⟨control, pending, level, reached⟩, failed, run⟩
      cases failed
      exact ⟨_, StateTransition.mem_eval.mpr ⟨run, rfl⟩, rfl⟩

/-- Every call ends, keeps the counter in bounds and leaves it as it finds it.
However long the source is, there are never more than five calls to a level. -/
theorem calls_are_disciplined (source : List PlacedToken) :
    (∀ rule depth next, depth ≤ nestingLimit →
      Disciplined source rule depth next) ∧
    ∀ state, Reaches source (State.entering (.chain .sum) 0 0) state →
      state.active ≤ 5 * (nestingLimit + 1) := by
  constructor
  · intro rule depth next allowed
    have sound (state : State)
        (reached : Reaches source (State.entering rule depth next) state) :
        Sound rule depth state :=
      (Sound.entering allowed).run reached
    have completes := calls_complete source (nestingLimit - depth) rule
      [] depth next (Nat.add_sub_of_le allowed)
    exact {
      ends := completes.gives
      within := fun state reached =>
        ⟨(sound state reached).bottom_le, (sound state reached).le_limit⟩
      balanced := fun state reached => (sound state reached).not_underflow }
  · intro state reached
    have sound : Sound (.chain .sum) 0 state :=
      (Sound.entering (Nat.zero_le _)).run reached
    have active := sound.active_le
    have limited := sound.le_limit
    omega

theorem calls_are_disciplined_sign :
    255 ≤ nestingLimit ∧
      Disciplined [⟨.minus, 0⟩, ⟨.identifier "x", 1⟩] .unary 255 0 ∧
      Rule.unary.read (nestingLimit - 255)
        [⟨.minus, 0⟩, ⟨.identifier "x", 1⟩] = .ok (.negate .x, []) := by
  refine ⟨by decide, (calls_are_disciplined _).1 _ _ _ (by decide), ?_⟩
  cbv

end Machine

end Grammar

end RootFinding
