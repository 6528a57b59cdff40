import RootFinding.Formula.Basic

/-! Why a source text is no formula. Positions count the bytes before a place
in the text. -/

namespace RootFinding

inductive CompileError where
  | empty
  | unexpectedCharacter (character : Char) (position : Nat)
  | malformedNumber (text : String) (position : Nat)
  | unexpectedToken (found : String) (position : Nat)
  | unexpectedEnd
  | unclosedParenthesis (position : Nat)
  | tooDeep (position : Nat)
  | unresolved (cause : EvaluationError)
deriving DecidableEq, Repr

namespace CompileError

def message : CompileError → String
  | .empty => "expression is empty"
  | .unexpectedCharacter character position =>
      "unexpected character '" ++ character.toString ++ "' at position " ++
        position.repr
  | .malformedNumber text position =>
      "invalid number '" ++ text ++ "' at position " ++ position.repr
  | .unexpectedToken found position =>
      "unexpected '" ++ found ++ "' at position " ++ position.repr
  | .unexpectedEnd => "unexpected end of expression"
  | .unclosedParenthesis position =>
      "parenthesis opened at position " ++ position.repr ++ " is never closed"
  | .tooDeep position =>
      "expression nests too deeply at position " ++ position.repr
  | .unresolved cause => "expression does not evaluate: " ++ cause.message

end CompileError

end RootFinding
