/-! Shapes of data. A shape tells how a value is put together from numbers,
texts and named fields, and nothing of how its values are written. -/

namespace RootFinding

mutual

inductive Shape where
  | float
  | count
  | boolean
  | text
  /-- one of several names -/
  | choice (names : List String)
  | pair (item : Shape)
  | list (item : Shape)
  | optional (item : Shape)
  | record (fields : Fields)

inductive Fields where
  | nil
  | field (name : String) (shape : Shape) (later : Fields)

end

mutual

@[reducible] def Shape.Value : Shape → Type
  | .float => Float
  | .count => Nat
  | .boolean => Bool
  | .text => String
  | .choice names => Fin names.length
  | .pair item => item.Value × item.Value
  | .list item => List item.Value
  | .optional item => Option item.Value
  | .record fields => fields.Values

@[reducible] def Fields.Values : Fields → Type
  | .nil => Unit
  | .field _ shape later => shape.Value × later.Values

end

def Fields.names : Fields → List String
  | .nil => []
  | .field name _ later => name :: later.names

mutual

/-- How many lists and records stand within each other. -/
def Shape.depth : Shape → Nat
  | .float => 0
  | .count => 0
  | .boolean => 0
  | .text => 0
  | .choice _ => 0
  | .pair item => item.depth + 1
  | .list item => item.depth + 1
  | .optional item => item.depth
  | .record fields => fields.depth + 1

def Fields.depth : Fields → Nat
  | .nil => 0
  | .field _ shape later => max shape.depth later.depth

end

namespace Shape

/-- The depth that texts no longer reach. -/
def depthBound : Nat := 128

/-- No value of the shape is like a missing one. Floats are not plain, since
some of them have no text of their own. -/
def isPlain : Shape → Bool
  | .float => false
  | .optional _ => false
  | _ => true

end Shape

mutual

/-- Names are distinct, what may be missing is plain, and the depth is within
its bound. -/
def Shape.isProper : Shape → Bool
  | .float => true
  | .count => true
  | .boolean => true
  | .text => true
  | .choice names => names.Nodup
  | .pair item => item.depth + 1 < Shape.depthBound && item.isProper
  | .list item => item.depth + 1 < Shape.depthBound && item.isProper
  | .optional item => item.isPlain && item.isProper
  | .record fields =>
      fields.depth + 1 < Shape.depthBound && fields.names.Nodup &&
        fields.isProper

def Fields.isProper : Fields → Bool
  | .nil => true
  | .field _ shape later => shape.isProper && later.isProper

end

end RootFinding
