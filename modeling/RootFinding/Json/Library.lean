import RootFinding.Json.Shape

/-! Libraries that write values and read them back. A library knows types by
their shapes alone: what it is told of a type is declared as a `JsonCodec`. -/

namespace RootFinding

/-- The documents are texts, or what texts stand for. -/
structure JsonLibrary (Document : Type) where
  /-- what stands for a missing value -/
  null : Document
  write : (shape : Shape) → shape.Value → Document
  read? : (shape : Shape) → Document → Option shape.Value

/-- A type whose values are laid out in a shape. -/
class JsonCodec (α : Type) where
  shape : Shape
  toValue : α → shape.Value
  ofValue : shape.Value → α
  ofValue_toValue (value : α) : ofValue (toValue value) = value
  toValue_ofValue (value : shape.Value) : toValue (ofValue value) = value

namespace JsonCodec

attribute [simp] ofValue_toValue toValue_ofValue

instance : JsonCodec Float where
  shape := .float
  toValue value := value
  ofValue value := value
  ofValue_toValue _ := rfl
  toValue_ofValue _ := rfl

instance : JsonCodec Nat where
  shape := .count
  toValue value := value
  ofValue value := value
  ofValue_toValue _ := rfl
  toValue_ofValue _ := rfl

instance : JsonCodec Bool where
  shape := .boolean
  toValue value := value
  ofValue value := value
  ofValue_toValue _ := rfl
  toValue_ofValue _ := rfl

instance : JsonCodec String where
  shape := .text
  toValue value := value
  ofValue value := value
  ofValue_toValue _ := rfl
  toValue_ofValue _ := rfl

variable [JsonCodec α]

@[simp] theorem ofValue_comp_toValue :
    (ofValue ∘ toValue : α → α) = id :=
  funext ofValue_toValue

@[simp] theorem toValue_comp_ofValue :
    (toValue ∘ ofValue : (shape α).Value → (shape α).Value) = id :=
  funext toValue_ofValue

instance : JsonCodec (α × α) where
  shape := .pair (shape α)
  toValue pair := (toValue pair.1, toValue pair.2)
  ofValue pair := (ofValue pair.1, ofValue pair.2)
  ofValue_toValue pair := by simp
  toValue_ofValue pair := by simp

instance : JsonCodec (List α) where
  shape := .list (shape α)
  toValue values := values.map toValue
  ofValue values := values.map ofValue
  ofValue_toValue values := by simp
  toValue_ofValue values := by simp

instance : JsonCodec (Option α) where
  shape := .optional (shape α)
  toValue value := value.map toValue
  ofValue value := value.map ofValue
  ofValue_toValue value := by simp
  toValue_ofValue value := by simp

end JsonCodec

namespace JsonLibrary

variable (library : JsonLibrary Document)

def serialize [JsonCodec α] (value : α) : Document :=
  library.write (JsonCodec.shape α) (JsonCodec.toValue value)

def deserialize? (α : Type) [JsonCodec α] (document : Document) : Option α :=
  (library.read? (JsonCodec.shape α) document).map JsonCodec.ofValue

end JsonLibrary

end RootFinding
