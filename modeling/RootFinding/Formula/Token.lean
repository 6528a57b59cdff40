import RootFinding.Formula.CompileError

/-! The tokens of a source text. Each is the longest lexeme at its place, and
only blanks stand between lexemes. -/

namespace RootFinding

inductive Token where
  | number (value : Float)
  | identifier (name : String)
  | plus
  | minus
  | times
  | divide
  | power
  | leftParenthesis
  | rightParenthesis
deriving BEq, Inhabited

structure PlacedToken where
  token : Token
  position : Nat
deriving BEq, Inhabited

namespace Token

def text : Token → String
  | .number value => NumberStyle.plain.text value
  | .identifier name => name
  | .plus => "+"
  | .minus => "-"
  | .times => "*"
  | .divide => "/"
  | .power => "^"
  | .leftParenthesis => "("
  | .rightParenthesis => ")"

def isBlank (character : Char) : Bool :=
  character = ' ' || character = '\t' || character = '\n' ||
    character = '\x0c' || character = '\r'

def startsIdentifier (character : Char) : Bool :=
  character.isAlpha || character = '_'

def continuesIdentifier (character : Char) : Bool :=
  character.isAlphanum || character = '_'

def startsNumber (character : Char) : Bool :=
  character.isDigit || character = '.'

/-- The tokens of one character. A `*` is one too where no other `*` follows
it. -/
def ofCharacter? : Char → Option Token
  | '+' => some .plus
  | '-' => some .minus
  | '/' => some .divide
  | '^' => some .power
  | '(' => some .leftParenthesis
  | ')' => some .rightParenthesis
  | _ => none

/-! What stands at the front of a text. A token's `tail` is its lexeme without
the first character. -/

inductive Front where
  | blank
  | token (tail : List Char) (token : Token)
  | malformed (lexeme : List Char)
  | foreign
deriving Inhabited

def times? : List Char → Front
  | '*' :: _ => .token ['*'] .power
  | _ => .token [] .times

def number? (numeral : Numeral) : Front :=
  match numeral.toFloat? with
  | some value => .token (numeral.chars.drop 1) (.number value)
  | none => .malformed numeral.chars

/-- The front of the text `first :: rest`. -/
def front (first : Char) (rest : List Char) : Front :=
  if isBlank first then
    .blank
  else if first = '*' then
    times? rest
  else if startsNumber first then
    number? (Numeral.read (first :: rest)).1
  else if startsIdentifier first then
    let tail := rest.takeWhile continuesIdentifier
    .token tail (.identifier (String.ofList (first :: tail)))
  else
    match ofCharacter? first with
    | some token => .token [] token
    | none => .foreign

/-- The tokens of a text that `position` bytes precede. Every blank and every
character of a lexeme is one byte long. -/
def scan (position : Nat) : List Char → Except CompileError (List PlacedToken)
  | [] => .ok []
  | first :: rest =>
      match front first rest with
      | .blank => scan (position + 1) rest
      | .token tail token => do
          let following ← scan (position + 1 + tail.length)
            (rest.drop tail.length)
          return ⟨token, position⟩ :: following
      | .malformed lexeme =>
          .error (.malformedNumber (String.ofList lexeme) position)
      | .foreign => .error (.unexpectedCharacter first position)
termination_by source => source.length
decreasing_by all_goals simp; try omega

end Token

/-- Splits a source text into tokens. -/
def tokens (source : String) : Except CompileError (List PlacedToken) :=
  Token.scan 0 source.toList

end RootFinding
