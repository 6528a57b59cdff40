import RootFinding.Decimal.Reading
import RootFinding.Decimal.Style
import RootFinding.Json.Library
import RootFinding.Json.Reader

/-! A library at work: the JSON values that stand for the values of a shape,
and their texts. `decode?` reads back what `encode` writes, and some other forms
that mean the same. -/

namespace RootFinding

namespace Json

/-- Numbers have a point, or else an exponent part with its sign. Of two
decimals that are equally near the even one is written. -/
def numberStyle : NumberStyle where
  isPositional exponent := -5 ≤ exponent && exponent < 16
  pointZero := true
  exponentSign exponent := some (if exponent < 0 then .minus else .plus)
  tie := .toEven

/-- A float that is not finite has no number to stand for it. -/
def ofFloat (value : Float) : Json :=
  match ExactValue.ofFloat value with
  | .finite negative magnitude =>
      .number negative (numberStyle.numeral value magnitude)
  | .infinity _ => .null
  | .notANumber => .null

/-- A number past the largest float is refused. -/
def toFloat? : Json → Option Float
  | .number negative numeral =>
      let magnitude := numeral.toDecimal.toFloat
      if magnitude.isFinite then
        some (if negative then -magnitude else magnitude)
      else
        none
  | _ => none

def ofCount (count : Nat) : Json :=
  .number false ⟨Nat.toDigits 10 count, none, none⟩

/-- Counts have neither a sign nor a point nor an exponent part. -/
def toCount? : Json → Option Nat
  | .number false ⟨digits, none, none⟩ =>
      let count := Nat.ofDigitChars 10 digits 0
      if count < countBound then some count else none
  | _ => none

def toBoolean? : Json → Option Bool
  | .boolean value => some value
  | _ => none

def toText? : Json → Option String
  | .string pieces => TextPiece.decode? pieces
  | _ => none

def toPair? (decode : Json → Option α) : Json → Option (α × α)
  | .list [first, second] => do
      let first ← decode first
      let second ← decode second
      return (first, second)
  | _ => none

def toList? (decode : Json → Option α) : Json → Option (List α)
  | .list items => items.mapM decode
  | _ => none

/-! Objects. Members may stand in any order, and members that have no meaning
are passed over. -/

def key (name : String) : List TextPiece :=
  TextPiece.ofString name

/-- An object with named members in the given order. -/
def ofMembers (members : List (String × Json)) : Json :=
  .object (members.map fun (name, value) => (key name, value))

def decodeKey? (member : List TextPiece × Json) : Option (String × Json) :=
  (TextPiece.decode? member.1).map (·, member.2)

/-- The value of a member, `none` within if it is missing. A name may not
occur twice. -/
def member? (members : List (String × Json)) (name : String) :
    Option (Option Json) :=
  match members.filter (·.1 = name) with
  | [] => some none
  | [(_, value)] => some (some value)
  | _ :: _ :: _ => none

/-- The values of the named members. They may also be given as a list, which
then has to be complete. -/
def members? (names : List String) : Json → Option (List (Option Json))
  | .list items =>
      if items.length = names.length then some (items.map some) else none
  | .object members => do
      let members ← members.mapM decodeKey?
      names.mapM (member? members)
  | _ => none

/-! Enumerations. A value is its name, as a string or as the only member of an
object that maps it to `null`. -/

def ofName (name : String) : Json :=
  .string (key name)

def toName? : Json → Option String
  | .string pieces => TextPiece.decode? pieces
  | .object [(pieces, .null)] => TextPiece.decode? pieces
  | _ => none

end Json

/-! Shapes. -/

mutual

def Shape.encode : (shape : Shape) → shape.Value → Json
  | .float, value => .ofFloat value
  | .count, value => .ofCount value
  | .boolean, value => .boolean value
  | .text, value => .string (Json.key value)
  | .choice names, index => .ofName (names.get index)
  | .pair item, (first, second) =>
      .list [item.encode first, item.encode second]
  | .list item, values => .list (values.map item.encode)
  | .optional item, value =>
      match value with
      | some value => item.encode value
      | none => .null
  | .record fields, values => .ofMembers (fields.encode values)

def Fields.encode : (fields : Fields) → fields.Values → List (String × Json)
  | .nil, _ => []
  | .field name shape later, (value, values) =>
      (name, shape.encode value) :: later.encode values

end

/-- The value of a field that is not given. -/
def Shape.missing? : (shape : Shape) → Option shape.Value
  | .optional _ => some none
  | _ => none

mutual

def Shape.decode? : (shape : Shape) → Json → Option shape.Value
  | .float, json => json.toFloat?
  | .count, json => json.toCount?
  | .boolean, json => json.toBoolean?
  | .text, json => json.toText?
  | .choice names, json => do
      let name ← json.toName?
      names.finIdxOf? name
  | .pair item, json => Json.toPair? item.decode? json
  | .list item, json => Json.toList? item.decode? json
  | .optional item, json =>
      match json with
      | .null => some none
      | json => (item.decode? json).map some
  | .record fields, json => do
      let members ← Json.members? fields.names json
      fields.decode? members

/-- The members stand in the order of the fields. -/
def Fields.decode? : (fields : Fields) → List (Option Json) →
    Option fields.Values
  | .nil, _ => some ()
  | .field _ shape later, members => do
      let value ← members.head?.join.elim shape.missing? shape.decode?
      let values ← later.decode? members.tail
      return (value, values)

end

namespace Json

def trees : JsonLibrary Json where
  null := .null
  write := Shape.encode
  read? := Shape.decode?

def library : JsonLibrary String where
  null := text .null
  write shape value := (trees.write shape value).text
  read? shape source := do
    let json ← ofText? source
    trees.read? shape json

def write [JsonCodec α] (value : α) : String :=
  library.serialize value

def read? (α : Type) [JsonCodec α] (source : String) : Option α :=
  library.deserialize? α source

end Json

end RootFinding
