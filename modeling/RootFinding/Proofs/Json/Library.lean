import Mathlib
import RootFinding.Decimal.Reading
import RootFinding.Json.Library

/-! What a library promises, and what follows for the values of all shapes. The
promises tell of single numbers and texts, and of how the document of a whole
relates to those of its parts; that wholes are read back, or refused, is then an
induction on shapes. -/

namespace RootFinding

/-- A number in a value. -/
inductive Number where
  | float (value : Float)
  | count (value : ℕ)

namespace Number

def IsFinite : Number → Prop
  | .float value => value.isFinite = true
  | .count _ => True

/-- The number has a text that is read back. -/
def IsRepresentable : Number → Prop
  | .float value => value.isFinite = true
  | .count value => value < countBound

end Number

mutual

/-- The numbers in a value, in the order of its parts. -/
def Shape.numbers : (shape : Shape) → shape.Value → List Number
  | .float, value => [.float value]
  | .count, value => [.count value]
  | .boolean, _ => []
  | .text, _ => []
  | .choice _, _ => []
  | .pair item, (first, second) => item.numbers first ++ item.numbers second
  | .list item, values => values.flatMap item.numbers
  | .optional item, value => value.toList.flatMap item.numbers
  | .record fields, values => fields.numbers values

def Fields.numbers : (fields : Fields) → fields.Values → List Number
  | .nil, _ => []
  | .field _ shape later, (value, values) =>
      shape.numbers value ++ later.numbers values

end

def Shape.Every (property : Number → Prop) (shape : Shape)
    (value : shape.Value) : Prop :=
  ∀ number ∈ shape.numbers value, property number

def Fields.Every (property : Number → Prop) (fields : Fields)
    (values : fields.Values) : Prop :=
  ∀ number ∈ fields.numbers values, property number

section Every

variable {property : Number → Prop} {item : Shape}

@[simp] theorem Shape.every_float {value : Float} :
    Shape.float.Every property value ↔ property (.float value) :=
  List.forall_mem_singleton

@[simp] theorem Shape.every_count {value : ℕ} :
    Shape.count.Every property value ↔ property (.count value) :=
  List.forall_mem_singleton

@[simp] theorem Shape.every_boolean {value : Bool} :
    Shape.boolean.Every property value :=
  List.forall_mem_nil _

@[simp] theorem Shape.every_text {text : String} :
    Shape.text.Every property text :=
  List.forall_mem_nil _

@[simp] theorem Shape.every_choice {names : List String}
    {index : Fin names.length} : (Shape.choice names).Every property index :=
  List.forall_mem_nil _

@[simp] theorem Shape.every_pair {first second : item.Value} :
    (Shape.pair item).Every property (first, second) ↔
      item.Every property first ∧ item.Every property second :=
  List.forall_mem_append

@[simp] theorem Shape.every_list {values : List item.Value} :
    (Shape.list item).Every property values ↔
      ∀ value ∈ values, item.Every property value :=
  List.forall_mem_flatMap

@[simp] theorem Shape.every_none :
    (Shape.optional item).Every property none :=
  List.forall_mem_nil _

@[simp] theorem Shape.every_some {value : item.Value} :
    (Shape.optional item).Every property (some value) ↔
      item.Every property value :=
  List.forall_mem_flatMap.trans List.forall_mem_singleton

@[simp] theorem Shape.every_record {fields : Fields} {values : fields.Values} :
    (Shape.record fields).Every property values ↔
      fields.Every property values :=
  Iff.rfl

@[simp] theorem Fields.every_nil : Fields.nil.Every property () :=
  List.forall_mem_nil _

@[simp] theorem Fields.every_field {name : String} {shape : Shape}
    {later : Fields} {value : shape.Value} {values : later.Values} :
    (Fields.field name shape later).Every property (value, values) ↔
      shape.Every property value ∧ later.Every property values :=
  List.forall_mem_append

end Every

/-- The numbers in a value of a type. -/
def JsonCodec.numbers [JsonCodec α] (value : α) : List Number :=
  (JsonCodec.shape α).numbers (JsonCodec.toValue value)

/-! Parts of proper shapes are proper. -/

section Proper

variable {item : Shape}

theorem Shape.isProper_of_pair (proper : (Shape.pair item).isProper = true) :
    item.isProper = true :=
  (Bool.and_eq_true_iff.1 proper).2

theorem Shape.isProper_of_list (proper : (Shape.list item).isProper = true) :
    item.isProper = true :=
  (Bool.and_eq_true_iff.1 proper).2

theorem Shape.isProper_of_optional
    (proper : (Shape.optional item).isProper = true) : item.isProper = true :=
  (Bool.and_eq_true_iff.1 proper).2

theorem Shape.isProper_of_record {fields : Fields}
    (proper : (Shape.record fields).isProper = true) :
    fields.isProper = true :=
  (Bool.and_eq_true_iff.1 proper).2

theorem Fields.isProper_field {name : String} {shape : Shape} {later : Fields} :
    (Fields.field name shape later).isProper = true ↔
      shape.isProper = true ∧ later.isProper = true :=
  Bool.and_eq_true_iff

end Proper

/-! Lists of readings. -/

theorem mapM_eq_some_iff {α β : Type} {read : α → Option β} {items : List α}
    {values : List β} :
    items.mapM read = some values ↔
      List.Forall₂ (fun item value => read item = some value) items values := by
  induction items generalizing values with
  | nil => simp [eq_comm]
  | cons item rest taken =>
      simp only [List.mapM_cons, Option.bind_eq_bind, Option.bind_eq_some_iff,
        Option.pure_def, Option.some.injEq, List.forall₂_cons_left_iff, taken]
      constructor
      · rintro ⟨first, readFirst, others, readOthers, rfl⟩
        exact ⟨first, others, readFirst, readOthers, rfl⟩
      · rintro ⟨first, others, readFirst, readOthers, rfl⟩
        exact ⟨first, readFirst, others, readOthers, rfl⟩

theorem finIdxOf?_get {names : List String} (distinct : names.Nodup)
    (index : Fin names.length) :
    names.finIdxOf? (names.get index) = some index := by
  rw [List.finIdxOf?_eq_some_iff]
  exact ⟨rfl, fun earlier before same =>
    before.ne (distinct.injective_get same)⟩

/-! The promises. -/

namespace JsonLibrary

open JsonCodec

variable (library : JsonLibrary Document)

/-- The value is read from some document. -/
def Reads (shape : Shape) (value : shape.Value) : Prop :=
  ∃ document, library.read? shape document = some value

/-- Each field is read from some document of its own. -/
def ReadsFields : (fields : Fields) → fields.Values → Prop
  | .nil, _ => True
  | .field _ shape later, (value, values) =>
      library.Reads shape value ∧ ReadsFields later values

/-- Each field is written into a document of its own and read back. -/
def rereadFields : (fields : Fields) → fields.Values → Option fields.Values
  | .nil, _ => some ()
  | .field _ shape later, (value, values) => do
      let value ← library.read? shape (library.write shape value)
      let values ← rereadFields later values
      return (value, values)

/-- The promises of a library. -/
structure IsDocumented : Prop where
  /-- The text that is written for a finite float reads back to that float. -/
  float_written (value : Float) :
    value.isFinite = true →
      library.read? .float (library.write .float value) = some value
  /-- There are no numbers for the other floats, which are written as
  `null`. -/
  float_null (value : Float) :
    value.isFinite = false → library.write .float value = library.null
  null_no_float : library.read? .float library.null = none
  /-- A number past the largest float is an error. -/
  float_read (document : Document) (value : Float) :
    library.read? .float document = some value → value.isFinite = true
  count_written (count : ℕ) :
    count < countBound →
      library.read? .count (library.write .count count) = some count
  /-- A count that does not fit a machine word is an error. -/
  count_read (document : Document) (count : ℕ) :
    library.read? .count document = some count → count < countBound
  boolean_written (value : Bool) :
    library.read? .boolean (library.write .boolean value) = some value
  /-- Texts may have all characters; they are escaped where they must be. -/
  text_written (text : String) :
    library.read? .text (library.write .text text) = some text
  /-- A choice is written as the text of its name. -/
  choice_written (names : List String) (index : Fin names.length) :
    library.write (.choice names) index =
      library.write .text (names.get index)
  /-- A name that is not among those of a choice is an error. -/
  choice_read (names : List String) (name : String) :
    library.read? (.choice names) (library.write .text name) =
      names.finIdxOf? name
  /-- Both parts of a pair are written into its document. -/
  pair_written (item : Shape) (first second : item.Value) :
    (Shape.pair item).isProper = true →
      library.read? (.pair item)
          (library.write (.pair item) (first, second)) = do
        let first ← library.read? item (library.write item first)
        let second ← library.read? item (library.write item second)
        return (first, second)
  /-- A pair is read part by part. -/
  pair_read (item : Shape) (first second : item.Value) :
    (Shape.pair item).isProper = true →
      library.Reads (.pair item) (first, second) →
        library.Reads item first ∧ library.Reads item second
  list_written (item : Shape) (values : List item.Value) :
    (Shape.list item).isProper = true →
      library.read? (.list item) (library.write (.list item) values) =
        values.mapM fun value => library.read? item (library.write item value)
  /-- A list is read item by item. -/
  list_read (item : Shape) (values : List item.Value) :
    (Shape.list item).isProper = true →
      library.Reads (.list item) values →
        ∀ value ∈ values, library.Reads item value
  none_written (item : Shape) :
    library.write (.optional item) none = library.null
  /-- A value that may be missing is written as itself. -/
  some_written (item : Shape) (value : item.Value) :
    library.write (.optional item) (some value) = library.write item value
  null_read (item : Shape) :
    library.read? (.optional item) library.null = some none
  /-- Values of plain shapes are not written as `null`, and nothing else is
  read as a missing value. -/
  optional_read (item : Shape) (value : item.Value) :
    (Shape.optional item).isProper = true →
      library.read? (.optional item) (library.write item value) =
        (library.read? item (library.write item value)).map some
  /-- A value that is not missing is read as itself. -/
  some_read (item : Shape) (value : item.Value) :
    (Shape.optional item).isProper = true →
      library.Reads (.optional item) (some value) → library.Reads item value
  /-- All fields of a record are written into its document, each under its
  name. -/
  record_written (fields : Fields) (values : fields.Values) :
    (Shape.record fields).isProper = true →
      library.read? (.record fields) (library.write (.record fields) values) =
        library.rereadFields fields values
  /-- A record is read field by field, and a missing field as `null`. -/
  record_read (fields : Fields) (values : fields.Values) :
    (Shape.record fields).isProper = true →
      library.Reads (.record fields) values →
        library.ReadsFields fields values

namespace IsDocumented

variable {library : JsonLibrary Document}

/-! What was written is read back if all numbers in it are representable. -/

mutual

theorem read_write (documented : library.IsDocumented) :
    ∀ (shape : Shape) (value : shape.Value),
      shape.isProper = true → shape.Every Number.IsRepresentable value →
        library.read? shape (library.write shape value) = some value
  | .float, value, _, finite =>
      documented.float_written value (Shape.every_float.1 finite)
  | .count, value, _, small =>
      documented.count_written value (Shape.every_count.1 small)
  | .boolean, value, _, _ => documented.boolean_written value
  | .text, value, _, _ => documented.text_written value
  | .choice names, index, distinct, _ => by
      rw [documented.choice_written, documented.choice_read]
      exact finIdxOf?_get (of_decide_eq_true distinct) index
  | .pair item, (first, second), proper, representable => by
      rcases Shape.every_pair.1 representable with ⟨atFirst, atSecond⟩
      have inner := Shape.isProper_of_pair proper
      rw [documented.pair_written item first second proper,
        read_write documented item first inner atFirst,
        read_write documented item second inner atSecond]
      rfl
  | .list item, values, proper, representable => by
      have inner := Shape.isProper_of_list proper
      rw [documented.list_written item values proper, mapM_eq_some_iff,
        List.forall₂_same]
      exact fun value listed => read_write documented item value inner
        (Shape.every_list.1 representable value listed)
  | .optional item, none, _, _ => by
      rw [documented.none_written, documented.null_read]
  | .optional item, some value, proper, representable => by
      rw [documented.some_written, documented.optional_read item value proper,
        read_write documented item value (Shape.isProper_of_optional proper)
          (Shape.every_some.1 representable)]
      rfl
  | .record fields, values, proper, representable => by
      rw [documented.record_written fields values proper]
      exact rereadFields_eq documented fields values
        (Shape.isProper_of_record proper) (Shape.every_record.1 representable)

theorem rereadFields_eq (documented : library.IsDocumented) :
    ∀ (fields : Fields) (values : fields.Values),
      fields.isProper = true → fields.Every Number.IsRepresentable values →
        library.rereadFields fields values = some values
  | .nil, _, _, _ => rfl
  | .field _ shape later, (value, values), proper, representable => by
      rcases Fields.isProper_field.1 proper with ⟨first, others⟩
      rcases Fields.every_field.1 representable with ⟨atFirst, atOthers⟩
      rw [rereadFields, read_write documented shape value first atFirst,
        rereadFields_eq documented later values others atOthers]
      rfl

end

/-! What was written is read back only if all floats in it are finite. -/

mutual

theorem finite_of_read_write (documented : library.IsDocumented) :
    ∀ (shape : Shape) (value other : shape.Value),
      shape.isProper = true →
        library.read? shape (library.write shape value) = some other →
          shape.Every Number.IsFinite value
  | .float, value, other, _, read => by
      rw [Shape.every_float, Number.IsFinite]
      by_contra infinite
      rw [documented.float_null value (Bool.eq_false_of_not_eq_true infinite),
        documented.null_no_float] at read
      cases read
  | .count, _, _, _, _ => Shape.every_count.2 trivial
  | .boolean, _, _, _, _ => Shape.every_boolean
  | .text, _, _, _, _ => Shape.every_text
  | .choice _, _, _, _, _ => Shape.every_choice
  | .pair item, (first, second), _, proper, read => by
      have inner := Shape.isProper_of_pair proper
      rw [documented.pair_written item first second proper] at read
      simp only [Option.bind_eq_bind, Option.bind_eq_some_iff] at read
      rcases read with ⟨_, readFirst, _, readSecond, _⟩
      exact Shape.every_pair.2
        ⟨finite_of_read_write documented item first _ inner readFirst,
          finite_of_read_write documented item second _ inner readSecond⟩
  | .list item, values, others, proper, read => by
      have inner := Shape.isProper_of_list proper
      rw [documented.list_written item values proper, mapM_eq_some_iff] at read
      have finite := read.imp fun value other readItem =>
        And.intro
          (finite_of_read_write documented item value other inner readItem)
          readItem
      exact Shape.every_list.2 ((List.forall₂_and_left ..).1 finite).1
  | .optional item, none, _, _, _ => Shape.every_none
  | .optional item, some value, _, proper, read => by
      rw [documented.some_written, documented.optional_read item value proper,
        Option.map_eq_some_iff] at read
      rcases read with ⟨other, readItem, _⟩
      exact Shape.every_some.2 (finite_of_read_write documented item value other
        (Shape.isProper_of_optional proper) readItem)
  | .record fields, values, others, proper, read => by
      rw [documented.record_written fields values proper] at read
      exact Shape.every_record.2 (finite_of_rereadFields documented fields
        values others (Shape.isProper_of_record proper) read)

theorem finite_of_rereadFields (documented : library.IsDocumented) :
    ∀ (fields : Fields) (values others : fields.Values),
      fields.isProper = true →
        library.rereadFields fields values = some others →
          fields.Every Number.IsFinite values
  | .nil, _, _, _, _ => Fields.every_nil
  | .field _ shape later, (value, values), _, proper, read => by
      rcases Fields.isProper_field.1 proper with ⟨first, others⟩
      simp only [rereadFields, Option.bind_eq_bind,
        Option.bind_eq_some_iff] at read
      rcases read with ⟨_, readValue, _, readValues, _⟩
      exact Fields.every_field.2
        ⟨finite_of_read_write documented shape value _ first readValue,
          finite_of_rereadFields documented later values _ others readValues⟩

end

/-! Nothing else than representable numbers is read, from whatever document. -/

mutual

theorem representable_of_reads (documented : library.IsDocumented) :
    ∀ (shape : Shape) (value : shape.Value),
      shape.isProper = true → library.Reads shape value →
        shape.Every Number.IsRepresentable value
  | .float, value, _, ⟨document, read⟩ =>
      Shape.every_float.2 (documented.float_read document value read)
  | .count, value, _, ⟨document, read⟩ =>
      Shape.every_count.2 (documented.count_read document value read)
  | .boolean, _, _, _ => Shape.every_boolean
  | .text, _, _, _ => Shape.every_text
  | .choice _, _, _, _ => Shape.every_choice
  | .pair item, (first, second), proper, reads => by
      have inner := Shape.isProper_of_pair proper
      rcases documented.pair_read item first second proper reads with
        ⟨readsFirst, readsSecond⟩
      exact Shape.every_pair.2
        ⟨representable_of_reads documented item first inner readsFirst,
          representable_of_reads documented item second inner readsSecond⟩
  | .list item, values, proper, reads =>
      Shape.every_list.2 fun value listed =>
        representable_of_reads documented item value
          (Shape.isProper_of_list proper)
          (documented.list_read item values proper reads value listed)
  | .optional item, none, _, _ => Shape.every_none
  | .optional item, some value, proper, reads =>
      Shape.every_some.2 (representable_of_reads documented item value
        (Shape.isProper_of_optional proper)
        (documented.some_read item value proper reads))
  | .record fields, values, proper, reads =>
      Shape.every_record.2 (representable_of_readsFields documented fields
        values (Shape.isProper_of_record proper)
        (documented.record_read fields values proper reads))

theorem representable_of_readsFields (documented : library.IsDocumented) :
    ∀ (fields : Fields) (values : fields.Values),
      fields.isProper = true → library.ReadsFields fields values →
        fields.Every Number.IsRepresentable values
  | .nil, _, _, _ => Fields.every_nil
  | .field _ shape later, (value, values), proper, ⟨reads, readsLater⟩ => by
      rcases Fields.isProper_field.1 proper with ⟨first, others⟩
      exact Fields.every_field.2
        ⟨representable_of_reads documented shape value first reads,
          representable_of_readsFields documented later values others
            readsLater⟩

end

end IsDocumented

/-! What the promises say about the documents of a type. -/

section Types

variable (α : Type) [JsonCodec α]

/-- Reads a document and writes what it holds. -/
def rewrite? (document : Document) : Option Document :=
  (library.deserialize? α document).map library.serialize

/-- The documents of a type. Counts are those that fit a machine word. -/
structure IsFaithful : Prop where
  /-- Where all floats are finite, reading gives back what was written. -/
  reads_back (value : α) :
    (∀ float, .float float ∈ numbers value → float.isFinite = true) →
      (∀ count, .count count ∈ numbers value → count < countBound) →
        library.deserialize? α (library.serialize value) = some value
  /-- A float that is not finite is never read back, in whatever part of the
  value it is. -/
  refuses (value : α) (float : Float) :
    .float float ∈ numbers value → float.isFinite = false →
      library.deserialize? α (library.serialize value) = none
  /-- Nothing else than finite floats is ever read. -/
  finite (document : Document) (value : α) :
    library.deserialize? α document = some value →
      ∀ float, .float float ∈ numbers value → float.isFinite = true
  /-- What was read and written once stays the same from then on. -/
  settles (document written : Document) :
    library.rewrite? α document = some written →
      library.rewrite? α written = some written

end Types

section Laws

variable {library} [JsonCodec α]

/-- A value that was read is laid out as what was read. -/
theorem reads_of_deserialize {document : Document} {value : α}
    (read : library.deserialize? α document = some value) :
    library.Reads (shape α) (toValue value) := by
  rcases Option.map_eq_some_iff.1 read with ⟨inner, found, rfl⟩
  exact ⟨document, by rw [found, toValue_ofValue]⟩

theorem deserialize_serialize (documented : library.IsDocumented)
    (proper : (shape α).isProper = true) {value : α}
    (representable :
      (shape α).Every Number.IsRepresentable (toValue value)) :
    library.deserialize? α (library.serialize value) = some value := by
  unfold deserialize? serialize
  rw [documented.read_write _ _ proper representable, Option.map_some,
    ofValue_toValue]

theorem IsDocumented.isFaithful (documented : library.IsDocumented)
    (proper : (shape α).isProper = true) : library.IsFaithful α where
  reads_back value finite small := by
    refine deserialize_serialize documented proper fun number listed => ?_
    cases number with
    | float inner => exact finite inner listed
    | count inner => exact small inner listed
  refuses value float listed infinite := by
    rw [Option.eq_none_iff_forall_ne_some]
    intro other read
    rcases Option.map_eq_some_iff.1 read with ⟨inner, found, _⟩
    have finite := documented.finite_of_read_write _ _ _ proper found _ listed
    rw [Number.IsFinite, infinite] at finite
    cases finite
  finite document value read float listed :=
    documented.representable_of_reads _ _ proper (reads_of_deserialize read) _
      listed
  settles document written rewritten := by
    rcases Option.map_eq_some_iff.1 rewritten with ⟨value, read, rfl⟩
    have representable := documented.representable_of_reads _ _ proper
      (reads_of_deserialize read)
    unfold rewrite?
    rw [deserialize_serialize documented proper representable,
      Option.map_some]

end Laws

end JsonLibrary

end RootFinding
