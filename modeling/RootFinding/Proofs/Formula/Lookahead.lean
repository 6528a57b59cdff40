import Mathlib.Data.List.Basic
import RootFinding.Proofs.Formula.Sentence

/-! Readers that look at one token at a time. What such a reader gives is told
by the tokens it took and by the one after them, so that it stays the same
whatever follows. An account of a reader says this for each of its results,
and where the result is an error, how the tokens so far fit the grammar. -/

namespace RootFinding

/-- An operand has to follow an operator, a sign or a `(`, and nothing else. -/
def Token.awaitsOperand : Token → Bool
  | .plus => true
  | .minus => true
  | .times => true
  | .divide => true
  | .power => true
  | .leftParenthesis => true
  | .number _ => false
  | .identifier _ => false
  | .rightParenthesis => false

namespace Grammar

/-- The positions of the `(` that no `)` matches, the last of them first, after
those of `outer`. -/
def unclosed (outer : List Nat) : List PlacedToken → List Nat
  | [] => outer
  | next :: rest =>
      match next.token with
      | .leftParenthesis => unclosed (next.position :: outer) rest
      | .rightParenthesis => unclosed outer.tail rest
      | _ => unclosed outer rest

theorem unclosed_append (outer : List Nat) (first later : List PlacedToken) :
    unclosed outer (first ++ later) = unclosed (unclosed outer first) later := by
  induction first generalizing outer with
  | nil => rfl
  | cons next rest induction =>
      rcases next with ⟨token, position⟩
      cases token <;> exact induction _

theorem head?_append_cons {α : Type} (first later other : List α) (next : α) :
    (first ++ next :: later).head? = (first ++ next :: other).head? := by
  cases first <;> rfl

theorem head?_append_eq {α : Type} {rest other : List α} (first : List α)
    (same : other.head? = rest.head?) :
    (first ++ other).head? = (first ++ rest).head? := by
  cases first with
  | nil => exact same
  | cons next later => rfl

/-! An account of the result of a reader, on a source, of what the trees of a
type stand for. -/

variable {α β τ υ φ : Type}

abbrev Reader (α : Type) :=
  List PlacedToken → Except CompileError (α × List PlacedToken)

def andThen (first : Reader α) (next : α → Reader β) : Reader β :=
  fun source => first source >>= fun (value, rest) => next value rest

inductive Account (tokens : τ → List PlacedToken) (read : Reader α) :
    List PlacedToken → Except CompileError (α × List PlacedToken) → Prop
  | ok {value : α} {rest : List PlacedToken} (tree : τ)
      (stable : ∀ other, other.head? = rest.head? →
        read (tokens tree ++ other) = .ok (value, other)) :
      Account tokens read (tokens tree ++ rest) (.ok (value, rest))
  | unexpected {before after : List PlacedToken} {found : PlacedToken}
      (tree : τ) (possible : before <+: tokens tree)
      (stable : ∀ other,
        read (before ++ found :: other) = .error (unexpected found)) :
      Account tokens read (before ++ found :: after)
        (.error (unexpected found))
  | unexpectedEnd {source : List PlacedToken} (tree : τ)
      (possible : source <+: tokens tree)
      (awaits : ∀ last ∈ source.getLast?, last.token.awaitsOperand = true) :
      Account tokens read source (.error .unexpectedEnd)
  | unclosed {source : List PlacedToken} {opening : Nat} (tree : τ)
      (possible : source <+: tokens tree)
      (ends : ∃ last ∈ source.getLast?, last.token.awaitsOperand = false)
      (innermost : ∀ outer, (unclosed outer source).head? = some opening) :
      Account tokens read source (.error (.unclosedParenthesis opening))
  | tooDeep {source : List PlacedToken} {position : Nat} :
      Account tokens read source (.error (.tooDeep position))

/-- A reader is accounted for on a source by what it gives there. -/
abbrev Accounted (tokens : τ → List PlacedToken) (read : Reader α)
    (source : List PlacedToken) : Prop :=
  Account tokens read source (read source)

/-- A reader that takes nothing. -/
theorem accounted_nothing {tokens : τ → List PlacedToken} {read : Reader α}
    {source : List PlacedToken} (value : α) (tree : τ)
    (empty : tokens tree = [])
    (stable : ∀ other, other.head? = source.head? →
      read other = .ok (value, other)) :
    Accounted tokens read source := by
  have account : Account tokens read (tokens tree ++ source)
      (.ok (value, source)) := .ok tree fun other same => by
    rw [empty]
    exact stable other same
  rw [empty] at account
  rwa [Accounted, stable source rfl]

/-- A reader that does not take the first token. -/
theorem accounted_refused {tokens : τ → List PlacedToken} {read : Reader α}
    {found : PlacedToken} {rest : List PlacedToken} (tree : τ)
    (refused : ∀ other, read (found :: other) = .error (unexpected found)) :
    Accounted tokens read (found :: rest) := by
  rw [Accounted, refused]
  exact .unexpected tree List.nil_prefix refused

/-- A reader that does what another does, as long as the first token is that of
the source. -/
theorem Accounted.of_head {nextTokens : υ → List PlacedToken}
    {tokens : φ → List PlacedToken} {read next : Reader α}
    {source : List PlacedToken} (convert : υ → φ)
    (converted : ∀ tree, tokens (convert tree) = nextTokens tree)
    (reads : ∀ other, other.head? = source.head? → read other = next other)
    (accounted : Accounted nextTokens next source) :
    Accounted tokens read source := by
  unfold Accounted at accounted ⊢
  rw [reads source rfl]
  generalize next source = outcome at accounted
  cases accounted with
  | ok tree stable =>
      rw [← converted]
      refine .ok (convert tree) fun other same => ?_
      rw [converted, reads _ (head?_append_eq _ same)]
      exact stable other same
  | unexpected tree begins stable =>
      refine .unexpected (convert tree) (by rwa [converted]) fun other => ?_
      rw [reads _ (head?_append_cons _ _ _ _)]
      exact stable other
  | unexpectedEnd tree begins awaits =>
      exact .unexpectedEnd (convert tree) (by rwa [converted]) awaits
  | unclosed tree begins ends innermost =>
      exact .unclosed (convert tree) (by rwa [converted]) ends innermost
  | tooDeep => exact .tooDeep

/-- One reader after another, the second of which may find no token left. -/
theorem Accounted.andThen {firstTokens : τ → List PlacedToken}
    {tokens : φ → List PlacedToken} {first : Reader α} {next : α → Reader β}
    {source : List PlacedToken} (nextTokens : υ → List PlacedToken)
    [Nonempty υ] (join : τ → υ → φ)
    (joined : ∀ tree later,
      tokens (join tree later) = firstTokens tree ++ nextTokens later)
    (firstAccounted : Accounted firstTokens first source)
    (nextAccounted : ∀ value rest, Accounted nextTokens (next value) rest)
    (optional : ∀ value, next value [] ≠ .error .unexpectedEnd) :
    Accounted tokens (andThen first next) source := by
  have possible {before : List PlacedToken} {tree : τ} (later : υ)
      (begins : before <+: firstTokens tree) :
      before <+: tokens (join tree later) := by
    rw [joined]
    exact begins.trans (List.prefix_append _ _)
  have possibleAfter {before : List PlacedToken} (tree : τ) {later : υ}
      (begins : before <+: nextTokens later) :
      firstTokens tree ++ before <+: tokens (join tree later) := by
    rw [joined]
    exact (List.prefix_append_right_inj _).mpr begins
  have ⟨anyLater⟩ := ‹Nonempty υ›
  unfold Accounted at firstAccounted ⊢
  rw [Grammar.andThen]
  generalize result : first source = outcome at firstAccounted
  cases firstAccounted with
  | unexpected tree begins stable =>
      exact .unexpected (join tree anyLater) (possible anyLater begins)
        fun other => by rw [Grammar.andThen, stable]; rfl
  | unexpectedEnd tree begins awaits =>
      exact .unexpectedEnd _ (possible anyLater begins) awaits
  | unclosed tree begins ends innermost =>
      exact .unclosed _ (possible anyLater begins) ends innermost
  | tooDeep => exact .tooDeep
  | @ok value rest tree stable =>
      have account := nextAccounted value rest
      unfold Accounted at account
      simp only [Outcome.ok_bind]
      generalize nextResult : next value rest = nextOutcome at account
      cases account with
      | @ok final remaining later nextStable =>
          rw [← List.append_assoc, ← joined]
          refine .ok (join tree later) fun other same => ?_
          rw [joined, List.append_assoc, Grammar.andThen,
            stable _ (head?_append_eq _ same)]
          exact nextStable other same
      | @unexpected before after found later begins nextStable =>
          rw [← List.append_assoc]
          refine .unexpected _ (possibleAfter tree begins) fun other => ?_
          rw [List.append_assoc, Grammar.andThen,
            stable _ (head?_append_cons _ _ _ _)]
          exact nextStable other
      | unexpectedEnd later begins awaits =>
          refine .unexpectedEnd _ (possibleAfter tree begins) ?_
          intro last isLast
          cases rest with
          | nil => exact absurd nextResult (optional value)
          | cons head others =>
              rw [List.getLast?_append_cons] at isLast
              exact awaits last isLast
      | unclosed later begins ends innermost =>
          refine .unclosed _ (possibleAfter tree begins) ?_ fun outer => ?_
          · rcases ends with ⟨last, isLast, ended⟩
            exact ⟨last, List.mem_getLast?_append_of_mem_getLast? isLast, ended⟩
          · rw [unclosed_append]
            exact innermost _
      | tooDeep => exact .tooDeep

/-- What only changes the value reads the same. -/
theorem Accounted.yield {tokens : τ → List PlacedToken} {read : Reader α}
    {source : List PlacedToken} (change : α → β)
    (accounted : Accounted tokens read source) :
    Accounted tokens
      (Grammar.andThen read fun value rest => .ok (change value, rest))
      source :=
  accounted.andThen (fun _ : Unit => []) (fun tree _ => tree)
    (fun _ _ => (List.append_nil _).symm)
    (fun _ _ => accounted_nothing _ () rfl fun _ _ => rfl) nofun

/-- A token in front of what another reader reads, which may find no token left
after one that awaits an operand. -/
theorem Accounted.after {tokens : φ → List PlacedToken} {read : Reader α}
    {first : PlacedToken} {rest : List PlacedToken}
    (nextTokens : υ → List PlacedToken) (next : Reader α)
    (reads : ∀ other, read (first :: other) = next other) (join : υ → φ)
    (joined : ∀ later, tokens (join later) = first :: nextTokens later)
    (awaits : first.token.awaitsOperand = true ∨
      next [] ≠ .error .unexpectedEnd)
    (nextAccounted : Accounted nextTokens next rest) :
    Accounted tokens read (first :: rest) := by
  have possible {before : List PlacedToken} {later : υ}
      (begins : before <+: nextTokens later) :
      first :: before <+: tokens (join later) := by
    rw [joined]
    exact (List.prefix_cons_inj first).mpr begins
  unfold Accounted at nextAccounted ⊢
  rw [reads]
  generalize result : next rest = outcome at nextAccounted
  cases nextAccounted with
  | ok later stable =>
      rw [← List.cons_append, ← joined]
      refine .ok (join later) fun other same => ?_
      rw [joined, List.cons_append, reads]
      exact stable other same
  | unexpected later begins stable =>
      rw [← List.cons_append]
      refine .unexpected _ (possible begins) fun other => ?_
      rw [List.cons_append, reads]
      exact stable other
  | unexpectedEnd later begins nextAwaits =>
      refine .unexpectedEnd _ (possible begins) fun last isLast => ?_
      cases rest with
      | nil =>
          obtain rfl : first = last := by simpa using isLast
          exact awaits.resolve_right (absurd result)
      | cons head others =>
          rw [List.getLast?_cons_cons] at isLast
          exact nextAwaits last isLast
  | unclosed later begins ends innermost =>
      refine .unclosed _ (possible begins) ?_ fun outer => ?_
      · rcases ends with ⟨last, isLast, ended⟩
        exact ⟨last, List.mem_getLast?_cons isLast, ended⟩
      · have split := unclosed_append outer [first] rest
        rw [List.singleton_append] at split
        rw [split]
        exact innermost _
  | tooDeep => exact .tooDeep

end Grammar

end RootFinding
