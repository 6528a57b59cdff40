import Mathlib
import RootFinding.Json.Codec
import RootFinding.Proofs.Json.Library
import RootFinding.Proofs.Json.Number
import RootFinding.Proofs.Json.TextPiece

/-! The library at work keeps the promises of libraries. Those about parts are
kept by the JSON values first, where the document of a part stands within the
document of the whole; the texts inherit them, since all that is written can be
taken apart again. -/

namespace RootFinding

namespace Json

/-! The tokens of lists and objects. -/

theorem string_isReadable (text : String) :
    Token.IsReadable (.string (TextPiece.ofString text)) :=
  fun rest => TextPiece.read_ofString rest text

theorem itemTokens_isReadable {items : List Json}
    (readable : ∀ item ∈ items, item.IsReadable) :
    ∀ token ∈ itemTokens items, token.IsReadable := by
  induction items with
  | nil => exact List.forall_mem_nil _
  | cons item rest taken =>
      rcases List.forall_mem_cons.1 readable with ⟨first, others⟩
      exact List.forall_mem_cons.2
        ⟨trivial, List.forall_mem_append.2 ⟨first, taken others⟩⟩

theorem list_isReadable {items : List Json}
    (readable : ∀ item ∈ items, item.IsReadable) :
    (Json.list items).IsReadable := by
  cases items with
  | nil =>
      exact List.forall_mem_cons.2
        ⟨trivial, List.forall_mem_singleton.2 trivial⟩
  | cons item rest =>
      rcases List.forall_mem_cons.1 readable with ⟨first, others⟩
      refine List.forall_mem_cons.2
        ⟨trivial, List.forall_mem_append.2 ⟨first, ?_⟩⟩
      exact List.forall_mem_append.2
        ⟨itemTokens_isReadable others, List.forall_mem_singleton.2 trivial⟩

theorem memberTokens_isReadable {members : List (String × Json)}
    (readable : ∀ member ∈ members, member.2.IsReadable) :
    ∀ token ∈ memberTokens (members.map fun (name, value) => (key name, value)),
      token.IsReadable := by
  induction members with
  | nil => exact List.forall_mem_nil _
  | cons member rest taken =>
      rcases List.forall_mem_cons.1 readable with ⟨first, others⟩
      refine List.forall_mem_cons.2 ⟨trivial, List.forall_mem_cons.2
        ⟨string_isReadable member.1, List.forall_mem_cons.2 ⟨trivial, ?_⟩⟩⟩
      exact List.forall_mem_append.2 ⟨first, taken others⟩

theorem ofMembers_isReadable {members : List (String × Json)}
    (readable : ∀ member ∈ members, member.2.IsReadable) :
    (ofMembers members).IsReadable := by
  cases members with
  | nil =>
      exact List.forall_mem_cons.2
        ⟨trivial, List.forall_mem_singleton.2 trivial⟩
  | cons member rest =>
      rcases List.forall_mem_cons.1 readable with ⟨first, others⟩
      refine List.forall_mem_cons.2 ⟨trivial, List.forall_mem_cons.2
        ⟨string_isReadable member.1, List.forall_mem_cons.2 ⟨trivial,
          List.forall_mem_append.2 ⟨first, ?_⟩⟩⟩⟩
      exact List.forall_mem_append.2
        ⟨memberTokens_isReadable others, List.forall_mem_singleton.2 trivial⟩

/-! Objects and names. -/

section Members

variable {members : List (String × Json)}

theorem filter_name (distinct : (members.map Prod.fst).Nodup)
    {member : String × Json} (listed : member ∈ members) :
    members.filter (·.1 = member.1) = [member] := by
  induction members with
  | nil => cases listed
  | cons first rest found =>
      rcases List.nodup_cons.1 distinct with ⟨fresh, others⟩
      rcases List.mem_cons.1 listed with rfl | later
      · have empty : rest.filter (·.1 = member.1) = [] :=
          List.filter_eq_nil_iff.2 fun other mem same =>
            fresh (List.mem_map.2 ⟨other, mem, of_decide_eq_true same⟩)
        rw [List.filter_cons_of_pos (by simp), empty]
      · have different : ¬first.1 = member.1 := fun same =>
          fresh (List.mem_map.2 ⟨member, later, same.symm⟩)
        rw [List.filter_cons_of_neg (by simpa using different),
          found others later]

theorem members_ofMembers {names : List String}
    (named : members.map Prod.fst = names) (distinct : names.Nodup) :
    members? names (ofMembers members) =
      some (members.map fun member => some member.2) := by
  have keys : (members.map fun (name, value) => (key name, value)).mapM
      decodeKey? = some members := by
    rw [mapM_eq_some_iff, List.forall₂_map_left_iff, List.forall₂_same]
    intro member _
    simp [decodeKey?, key, TextPiece.decode_ofString]
  have values : names.mapM (member? members) =
      some (members.map fun member => some member.2) := by
    rw [mapM_eq_some_iff, ← named, List.forall₂_map_left_iff,
      List.forall₂_map_right_iff, List.forall₂_same]
    intro member listed
    rw [member?, filter_name (named ▸ distinct) listed]
  change ((members.map _).mapM decodeKey?).bind _ = _
  rw [keys]
  exact values

end Members

theorem ofName_isReadable (name : String) : (ofName name).IsReadable :=
  List.forall_mem_singleton.2 (string_isReadable name)

theorem toName_ofName (name : String) : toName? (ofName name) = some name :=
  TextPiece.decode_ofString name

end Json

/-! Values of shapes as JSON values. -/

mutual

theorem Shape.encode_isReadable : ∀ (shape : Shape) (value : shape.Value),
    (shape.encode value).IsReadable
  | .float, value => Json.ofFloat_isReadable value
  | .count, value => Json.ofCount_isReadable value
  | .boolean, _ => List.forall_mem_singleton.2 trivial
  | .text, text => Json.ofName_isReadable text
  | .choice names, index => Json.ofName_isReadable (names.get index)
  | .pair item, (first, second) => by
      refine Json.list_isReadable (List.forall_mem_cons.2
        ⟨item.encode_isReadable first, List.forall_mem_singleton.2 ?_⟩)
      exact item.encode_isReadable second
  | .list item, values =>
      Json.list_isReadable (List.forall_mem_map.2 fun value _ =>
        item.encode_isReadable value)
  | .optional _, none => List.forall_mem_singleton.2 trivial
  | .optional item, some value => item.encode_isReadable value
  | .record fields, values =>
      Json.ofMembers_isReadable (fields.encode_isReadable values)

theorem Fields.encode_isReadable :
    ∀ (fields : Fields) (values : fields.Values),
      ∀ member ∈ fields.encode values, member.2.IsReadable
  | .nil, _ => List.forall_mem_nil _
  | .field _ shape later, (value, values) =>
      List.forall_mem_cons.2
        ⟨shape.encode_isReadable value, later.encode_isReadable values⟩

end

theorem Shape.encode_ne_null {shape : Shape} (plain : shape.isPlain = true)
    (value : shape.Value) : shape.encode value ≠ .null := by
  intro null
  cases shape <;> first | cases null | cases plain

theorem Fields.names_encode : ∀ (fields : Fields) (values : fields.Values),
    (fields.encode values).map Prod.fst = fields.names
  | .nil, _ => rfl
  | .field name _ later, (_, values) =>
      congrArg (name :: ·) (later.names_encode values)

theorem Shape.decode_optional {item : Shape} {json : Json}
    (notNull : json ≠ .null) :
    (Shape.optional item).decode? json = (item.decode? json).map some := by
  cases json with
  | null => exact absurd rfl notNull
  | _ => rfl

namespace Json

/-- Fields are read from the members that were written for them. -/
theorem decode_members : ∀ (fields : Fields) (values : fields.Values),
    fields.decode? ((fields.encode values).map fun member => some member.2) =
      trees.rereadFields fields values
  | .nil, _ => rfl
  | .field _ shape later, (value, values) => by
      change ((shape.decode? (shape.encode value)).bind fun first =>
        (later.decode? ((later.encode values).map fun member =>
          some member.2)).bind fun others => some (first, others)) = _
      rw [decode_members later values]
      rfl

/-- A field that is missing counts as `null`. -/
theorem reads_of_missing {shape : Shape} {value : shape.Value}
    (missing : shape.missing? = some value) : trees.Reads shape value := by
  cases shape with
  | optional item =>
      cases missing
      exact ⟨.null, rfl⟩
  | _ => cases missing

theorem readsFields_of_decode : ∀ (fields : Fields) (values : fields.Values)
    {members : List (Option Json)}, fields.decode? members = some values →
      trees.ReadsFields fields values
  | .nil, _, _, _ => trivial
  | .field _ shape later, (value, values), members, read => by
      simp only [Fields.decode?, Option.bind_eq_bind,
        Option.bind_eq_some_iff] at read
      rcases read with ⟨first, readFirst, others, readOthers, built⟩
      cases built
      refine ⟨?_, readsFields_of_decode later values readOthers⟩
      cases given : members.head?.join with
      | some json =>
          rw [given] at readFirst
          exact ⟨json, readFirst⟩
      | none =>
          rw [given] at readFirst
          exact reads_of_missing readFirst

theorem trees_isDocumented : trees.IsDocumented where
  float_written _ finite := toFloat_ofFloat finite
  float_null _ infinite := ofFloat_eq_null infinite
  null_no_float := rfl
  float_read _ _ read := isFinite_of_toFloat? read
  count_written _ small := toCount_ofCount small
  count_read _ _ read := lt_of_toCount? read
  boolean_written _ := rfl
  text_written := TextPiece.decode_ofString
  choice_written _ _ := rfl
  choice_read names name := by
    change (toName? (ofName name)).bind names.finIdxOf? = _
    rw [toName_ofName]
    rfl
  pair_written _ _ _ _ := rfl
  pair_read item first second _ := by
    rintro ⟨json, read⟩
    change toPair? item.decode? json = some (first, second) at read
    unfold toPair? at read
    split at read
    · simp only [Option.bind_eq_bind, Option.bind_eq_some_iff] at read
      rcases read with ⟨_, readFirst, _, readSecond, built⟩
      cases built
      exact ⟨⟨_, readFirst⟩, ⟨_, readSecond⟩⟩
    · cases read
  list_written item values _ := by
    change (values.map item.encode).mapM item.decode? = _
    rw [List.mapM_map]
    rfl
  list_read item values _ := by
    rintro ⟨json, read⟩
    change toList? item.decode? json = some values at read
    unfold toList? at read
    split at read
    · have reads := (mapM_eq_some_iff.1 read).flip.imp
        fun value json found => And.intro (⟨json, found⟩ : trees.Reads _ value)
          found
      exact ((List.forall₂_and_left ..).1 reads).1
    · cases read
  none_written _ := rfl
  some_written _ _ := rfl
  null_read _ := rfl
  optional_read item value proper :=
    Shape.decode_optional
      (Shape.encode_ne_null (Bool.and_eq_true_iff.1 proper).1 value)
  some_read item value _ := by
    rintro ⟨json, read⟩
    refine ⟨json, ?_⟩
    rcases eq_or_ne json .null with rfl | notNull
    · cases read
    · change (Shape.optional item).decode? json = _ at read
      rw [Shape.decode_optional notNull, Option.map_eq_some_iff] at read
      rcases read with ⟨_, found, same⟩
      cases same
      exact found
  record_written fields values proper := by
    have distinct : fields.names.Nodup := of_decide_eq_true
      (Bool.and_eq_true_iff.1 (Bool.and_eq_true_iff.1 proper).1).2
    change (members? fields.names (ofMembers (fields.encode values))).bind
      fields.decode? = _
    rw [members_ofMembers (fields.names_encode values) distinct]
    exact decode_members fields values
  record_read fields values _ := by
    rintro ⟨json, read⟩
    rcases Option.bind_eq_some_iff.1 read with ⟨members, _, found⟩
    exact readsFields_of_decode fields values found

/-! Texts. -/

theorem read_text (shape other : Shape) (value : other.Value) :
    library.read? shape (library.write other value) =
      trees.read? shape (trees.write other value) := by
  change (ofText? (other.encode value).text).bind shape.decode? = _
  rw [ofText_text (other.encode_isReadable value)]
  rfl

/-- What is read from a JSON value is also read from a text, the one that is
written for it. -/
theorem reads_of_trees {shape : Shape} {value : shape.Value}
    (proper : shape.isProper = true) (reads : trees.Reads shape value) :
    library.Reads shape value := by
  refine ⟨library.write shape value, ?_⟩
  rw [read_text]
  exact trees_isDocumented.read_write shape value proper
    (trees_isDocumented.representable_of_reads shape value proper reads)

theorem trees_of_reads {shape : Shape} {value : shape.Value}
    (reads : library.Reads shape value) : trees.Reads shape value := by
  rcases reads with ⟨text, read⟩
  rcases Option.bind_eq_some_iff.1 read with ⟨json, _, found⟩
  exact ⟨json, found⟩

theorem readsFields_of_trees : ∀ (fields : Fields) (values : fields.Values),
    fields.isProper = true → trees.ReadsFields fields values →
      library.ReadsFields fields values
  | .nil, _, _, _ => trivial
  | .field _ _ later, (_, values), proper, ⟨reads, readsLater⟩ => by
      rcases Fields.isProper_field.1 proper with ⟨first, others⟩
      exact ⟨reads_of_trees first reads,
        readsFields_of_trees later values others readsLater⟩

theorem rereadFields_text : ∀ (fields : Fields) (values : fields.Values),
    library.rereadFields fields values = trees.rereadFields fields values
  | .nil, _ => rfl
  | .field _ shape later, (value, values) => by
      simp only [JsonLibrary.rereadFields]
      rw [read_text, rereadFields_text later values]

theorem read_null (shape : Shape) :
    library.read? shape library.null = trees.read? shape .null :=
  read_text shape (.optional shape) none

theorem library_isDocumented : library.IsDocumented where
  float_written value finite := by
    rw [read_text]
    exact trees_isDocumented.float_written value finite
  float_null value infinite :=
    congrArg text (trees_isDocumented.float_null value infinite)
  null_no_float := read_null .float
  float_read _ value read :=
    have ⟨json, found⟩ := trees_of_reads ⟨_, read⟩
    trees_isDocumented.float_read json value found
  count_written count small := by
    rw [read_text]
    exact trees_isDocumented.count_written count small
  count_read _ count read :=
    have ⟨json, found⟩ := trees_of_reads ⟨_, read⟩
    trees_isDocumented.count_read json count found
  boolean_written value := read_text .boolean .boolean value
  text_written text := by
    rw [read_text]
    exact trees_isDocumented.text_written text
  choice_written _ _ := rfl
  choice_read names name := by
    rw [read_text]
    exact trees_isDocumented.choice_read names name
  pair_written item first second proper := by
    simp only [read_text]
    exact trees_isDocumented.pair_written item first second proper
  pair_read item first second proper reads :=
    have inner := Shape.isProper_of_pair proper
    have ⟨atFirst, atSecond⟩ := trees_isDocumented.pair_read item first second
      proper (trees_of_reads reads)
    ⟨reads_of_trees inner atFirst, reads_of_trees inner atSecond⟩
  list_written item values proper := by
    simp only [read_text]
    exact trees_isDocumented.list_written item values proper
  list_read item values proper reads value listed :=
    reads_of_trees (Shape.isProper_of_list proper)
      (trees_isDocumented.list_read item values proper (trees_of_reads reads)
        value listed)
  none_written _ := rfl
  some_written _ _ := rfl
  null_read item := read_null (.optional item)
  optional_read item value proper := by
    simp only [read_text]
    exact trees_isDocumented.optional_read item value proper
  some_read item value proper reads :=
    reads_of_trees (Shape.isProper_of_optional proper)
      (trees_isDocumented.some_read item value proper (trees_of_reads reads))
  record_written fields values proper := by
    rw [read_text, rereadFields_text]
    exact trees_isDocumented.record_written fields values proper
  record_read fields values proper reads :=
    readsFields_of_trees fields values (Shape.isProper_of_record proper)
      (trees_isDocumented.record_read fields values proper
        (trees_of_reads reads))

end Json

end RootFinding
