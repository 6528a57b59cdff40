import RootFinding.Json.Token

/-! Reading JSON. The reader takes one token at a time, and keeps the lists and
objects that are still open on a stack. -/

namespace RootFinding

namespace Json

/-- A list or an object whose closing token has not come yet. What has been
read of it is kept last first. -/
inductive Container where
  | list (items : List Json)
  | object (members : List (List TextPiece × Json))
  | member (members : List (List TextPiece × Json)) (key : List TextPiece)

/-- What the next token has to be. A `fresh` container is empty so far and may
close at once. -/
inductive Expectation where
  | value (fresh : Bool)
  | key (fresh : Bool)
  | colon (key : List TextPiece)
  | separator (value : Json)

structure Reader where
  containers : List Container
  expectation : Expectation

namespace Reader

def start : Reader where
  containers := []
  expectation := .value false

def scalar? : Token → Option Json
  | .null => some .null
  | .boolean value => some (.boolean value)
  | .number negative numeral => some (.number negative numeral)
  | .string pieces => some (.string pieces)
  | _ => none

/-- Reads a token where a value has to start, or a fresh list to close. -/
def takeValue (containers : List Container) (fresh : Bool) (token : Token) :
    Option Reader :=
  match token, containers, fresh with
  | .openList, _, _ => some ⟨.list [] :: containers, .value true⟩
  | .openObject, _, _ => some ⟨.object [] :: containers, .key true⟩
  | .closeList, .list items :: outer, true =>
      some ⟨outer, .separator (.list items.reverse)⟩
  | _, _, _ =>
      (scalar? token).map fun value => ⟨containers, .separator value⟩

/-- Reads a token where a key has to stand, or a fresh object to close. -/
def takeKey (containers : List Container) (fresh : Bool) (token : Token) :
    Option Reader :=
  match token, containers, fresh with
  | .string key, _, _ => some ⟨containers, .colon key⟩
  | .closeObject, .object members :: outer, true =>
      some ⟨outer, .separator (.object members.reverse)⟩
  | _, _, _ => none

def takeColon (containers : List Container) (key : List TextPiece)
    (token : Token) : Option Reader :=
  match token, containers with
  | .colon, .object members :: outer =>
      some ⟨.member members key :: outer, .value false⟩
  | _, _ => none

/-- Reads a token after a value: the container of the value goes on or
closes. -/
def takeSeparator (containers : List Container) (value : Json)
    (token : Token) : Option Reader :=
  match token, containers with
  | .comma, .list items :: outer =>
      some ⟨.list (value :: items) :: outer, .value false⟩
  | .closeList, .list items :: outer =>
      some ⟨outer, .separator (.list (value :: items).reverse)⟩
  | .comma, .member members key :: outer =>
      some ⟨.object ((key, value) :: members) :: outer, .key false⟩
  | .closeObject, .member members key :: outer =>
      some ⟨outer, .separator (.object ((key, value) :: members).reverse)⟩
  | _, _ => none

def take (reader : Reader) (token : Token) : Option Reader :=
  match reader.expectation with
  | .value fresh => takeValue reader.containers fresh token
  | .key fresh => takeKey reader.containers fresh token
  | .colon key => takeColon reader.containers key token
  | .separator value => takeSeparator reader.containers value token

/-- The value that has been read, if no container is open. -/
def result? (reader : Reader) : Option Json :=
  match reader.containers, reader.expectation with
  | [], .separator value => some value
  | _, _ => none

end Reader

def ofTokens? (source : List Token) : Option Json := do
  let reader ← source.foldlM Reader.take Reader.start
  reader.result?

/-- Reads a text that holds one value. -/
def ofText? (source : String) : Option Json := do
  let tokens ← Token.scan source.toList
  ofTokens? tokens

end Json

end RootFinding
