import RootFinding.Decimal.Numeral
import RootFinding.Json.TextPiece

/-! JSON values as they are written, less the blanks between their tokens. -/

namespace RootFinding

inductive Json where
  | null
  | boolean (value : Bool)
  | number (negative : Bool) (numeral : Numeral)
  | string (pieces : List Json.TextPiece)
  | list (items : List Json)
  | object (members : List (List Json.TextPiece × Json))
deriving Inhabited

namespace Json

inductive Token where
  | null
  | boolean (value : Bool)
  | number (negative : Bool) (numeral : Numeral)
  | string (pieces : List TextPiece)
  | openList
  | closeList
  | openObject
  | closeObject
  | comma
  | colon
deriving DecidableEq, Repr

def Token.chars : Token → List Char
  | .null => ['n', 'u', 'l', 'l']
  | .boolean true => ['t', 'r', 'u', 'e']
  | .boolean false => ['f', 'a', 'l', 's', 'e']
  | .number negative numeral =>
      if negative then '-' :: numeral.chars else numeral.chars
  | .string pieces => '"' :: (pieces.flatMap TextPiece.chars ++ ['"'])
  | .openList => ['[']
  | .closeList => [']']
  | .openObject => ['\x7b']
  | .closeObject => ['\x7d']
  | .comma => [',']
  | .colon => [':']

mutual

def tokens : Json → List Token
  | .null => [.null]
  | .boolean value => [.boolean value]
  | .number negative numeral => [.number negative numeral]
  | .string pieces => [.string pieces]
  | .list [] => [.openList, .closeList]
  | .list (first :: rest) =>
      .openList :: (first.tokens ++ (itemTokens rest ++ [.closeList]))
  | .object [] => [.openObject, .closeObject]
  | .object ((key, value) :: rest) =>
      .openObject :: .string key :: .colon ::
        (value.tokens ++ (memberTokens rest ++ [.closeObject]))

/-- The items of a list after the first. -/
def itemTokens : List Json → List Token
  | [] => []
  | item :: rest => .comma :: (item.tokens ++ itemTokens rest)

/-- The members of an object after the first. -/
def memberTokens : List (List TextPiece × Json) → List Token
  | [] => []
  | (key, value) :: rest =>
      .comma :: .string key :: .colon ::
        (value.tokens ++ memberTokens rest)

end

/-- The text without any blanks. -/
def text (json : Json) : String :=
  String.ofList (json.tokens.flatMap Token.chars)

end Json

end RootFinding
