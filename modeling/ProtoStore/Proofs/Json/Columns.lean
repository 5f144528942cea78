import ProtoStore.Proofs.Json.Floats
import ProtoStore.Proofs.Json.Maps
import ProtoStore.Schema.Column
import ProtoStore.Store.Convert

/-!
# JSON columns of fields

`Field.shape?` is what a field with a JSON column holds: a list of single values, or a map of them under
keys. `Shape.reread` is what a value of such a field is read back as from its column
(`Shape.ofJson_encode`): itself, but for its floats, of which each is what the reader's arithmetic makes
of it, and nothing if one of them is not finite or gets too great. Where there are no singles, and every
double has a short decimal, the value itself is read back (`Shape.ofJson_of_exact`).
-/

namespace ProtoStore

namespace Json

open ProtoStore.Number

/-! ## Single values -/

/-- The types of the single values of JSON columns; enumerations are stored as numbers. -/
inductive Leaf
  | bool | int32 | int64 | uint32 | uint64 | single | double | string | bytes
deriving Repr, DecidableEq

namespace Leaf

/-- The values of a type. -/
abbrev Value : Leaf → Type
  | bool => Bool
  | int32 => Int32
  | int64 => Int64
  | uint32 => UInt32
  | uint64 => UInt64
  | single => Single
  | double => Double
  | string => String
  | bytes => List UInt8

/-- How values are written and read. -/
def codec : (leaf : Leaf) → Codec leaf.Value
  | bool => Codec.bool
  | int32 => Codec.int32
  | int64 => Codec.int64
  | uint32 => Codec.uint32
  | uint64 => Codec.uint64
  | single => Codec.single
  | double => Codec.double
  | string => Codec.string
  | bytes => Codec.bytes

/-- What a value is read back as. -/
def reread : (leaf : Leaf) → leaf.Value → Option leaf.Value
  | single => Single.reread
  | double => Double.reread
  | bool | int32 | int64 | uint32 | uint64 | string | bytes => some

/-- The values that are read back for sure: of floats, the finite doubles with a short decimal. -/
def Exact : (leaf : Leaf) → leaf.Value → Prop
  | single, _ => False
  | double, x => x.isFinite = true ∧ (Layout.double.spelled (Format.double.decimal x.magnitude)).Short
  | bool, _ | int32, _ | int64, _ | uint32, _ | uint64, _ | string, _ | bytes, _ => True

theorem reread_of_exact {leaf : Leaf} {a : leaf.Value} (h : leaf.Exact a) : leaf.reread a = some a := by
  cases leaf with
  | single => exact h.elim
  | double => exact Double.reread_of_short h.1 h.2
  | bool | int32 | int64 | uint32 | uint64 | string | bytes => rfl

theorem readsIn : (leaf : Leaf) → (a : leaf.Value) → leaf.codec.ReadsIn ']' a (leaf.reread a)
  | bool, x => (Codec.readsBack_bool x).readsIn
  | int32, n => (Codec.readsBack_int32 n).readsIn
  | int64, n => (Codec.readsBack_int64 n).readsIn
  | uint32, n => (Codec.readsBack_uint32 n).readsIn
  | uint64, n => (Codec.readsBack_uint64 n).readsIn
  | single, x => Codec.readsIn_single x
  | double, x => Codec.readsIn_double x
  | string, text => (Codec.readsBack_string text).readsIn
  | bytes, values => (Codec.readsBack_bytes values).readsIn

/-- The type of the values that a storage holds, if they have a JSON form. -/
def ofStorage? : ColumnScalar → Option Leaf
  | .bool => some bool
  | .i32 => some int32
  | .i64 => some int64
  | .u32 => some uint32
  | .u64 => some uint64
  | .f32 => some single
  | .f64 => some double
  | .string => some string
  | .bytes => some bytes
  | .dateTime | .uuid => none

end Leaf

/-! ## Keys -/

/-- The types of the keys of maps. -/
inductive Label
  | bool | int32 | int64 | uint32 | uint64 | string
deriving Repr, DecidableEq

namespace Label

/-- The keys of a type. -/
abbrev Value : Label → Type
  | bool => Bool
  | int32 => Int32
  | int64 => Int64
  | uint32 => UInt32
  | uint64 => UInt64
  | string => String

instance : (label : Label) → DecidableEq label.Value
  | bool => inferInstanceAs (DecidableEq Bool)
  | int32 => inferInstanceAs (DecidableEq Int32)
  | int64 => inferInstanceAs (DecidableEq Int64)
  | uint32 => inferInstanceAs (DecidableEq UInt32)
  | uint64 => inferInstanceAs (DecidableEq UInt64)
  | string => inferInstanceAs (DecidableEq String)

/-- How keys are written and read. -/
def codec : (label : Label) → KeyCodec label.Value
  | bool => .quoted .bool
  | int32 => .quoted .int32
  | int64 => .quoted .int64
  | uint32 => .quoted .uint32
  | uint64 => .quoted .uint64
  | string => .string

theorem readsBack : (label : Label) → (k : label.Value) → label.codec.ReadsBack k
  | bool, x => KeyCodec.readsBack_quoted (Codec.readsBack_bool x) (by cases x <;> decide)
  | int32, n => KeyCodec.readsBack_quoted (Codec.readsBack_int32 n) (plain_intText _)
  | int64, n => KeyCodec.readsBack_quoted (Codec.readsBack_int64 n) (plain_intText _)
  | uint32, n => KeyCodec.readsBack_quoted (Codec.readsBack_uint32 n) (plain_intText n.toNat)
  | uint64, n => KeyCodec.readsBack_quoted (Codec.readsBack_uint64 n) (plain_intText n.toNat)
  | string, text => KeyCodec.readsBack_string text

/-- The type of the keys of a scalar type, if it can be that of keys: no floats and no bytes. -/
def ofScalar? : Scalar → Option Label
  | .int32 | .sint32 | .sfixed32 => some int32
  | .int64 | .sint64 | .sfixed64 => some int64
  | .uint32 | .fixed32 => some uint32
  | .uint64 | .fixed64 => some uint64
  | .bool => some bool
  | .string => some string
  | .double | .float | .bytes => none

end Label

/-! ## Columns -/

/-- What a JSON column holds. -/
inductive Shape
  | list (element : Leaf)
  | map (key : Label) (value : Leaf)
deriving Repr, DecidableEq

namespace Shape

/-- The values of a column; maps are lists of their entries. -/
abbrev Value : Shape → Type
  | list element => List element.Value
  | map key value => List (key.Value × value.Value)

/-- Without a column there are no elements and no entries. -/
instance : (shape : Shape) → Inhabited shape.Value
  | list _ => ⟨([] : List _)⟩
  | map _ _ => ⟨([] : List _)⟩

/-- How values are written and read. -/
def codec : (shape : Shape) → Codec shape.Value
  | list element => element.codec.list
  | map key value => .map key.codec value.codec

/-- Whether a value is one: no two entries of a map have the same key. -/
def Proper : (shape : Shape) → shape.Value → Prop
  | list _, _ => True
  | map _ _, entries => (entries.map Prod.fst).Nodup

/-- The type of the single values in a column. -/
def leaf : Shape → Leaf
  | list element => element
  | map _ value => value

/-- The single values in a column, without the keys. -/
def leaves : (shape : Shape) → shape.Value → List shape.leaf.Value
  | list _, values => values
  | map _ _, entries => entries.map Prod.snd

/-- What a value is read back as: each of its single values is. -/
def reread : (shape : Shape) → shape.Value → Option shape.Value
  | list element, values => values.mapM element.reread
  | map _ value, entries => entries.mapM fun e => (value.reread e.2).map (e.1, ·)

variable {shape : Shape} {value : shape.Value}

theorem readsIn (h : shape.Proper value) : shape.codec.ReadsIn ']' value (shape.reread value) := by
  cases shape with
  | list element => exact Codec.readsIn_list fun a _ => element.readsIn a
  | map key leaf => exact Codec.readsIn_map h fun e _ => ⟨key.readsBack e.1, leaf.readsIn e.2⟩

/-- A value is read back as itself if its single values are. -/
theorem reread_eq_some_self :
    shape.reread value = some value ↔ ∀ a ∈ shape.leaves value, shape.leaf.reread a = some a := by
  cases shape with
  | list element => exact Codec.mapM_eq_some_self
  | map key leaf =>
    have entry : ∀ e : key.Value × leaf.Value,
        (leaf.reread e.2).map (e.1, ·) = some e ↔ leaf.reread e.2 = some e.2 := by
      rintro ⟨k, b⟩
      constructor
      · intro h
        obtain ⟨a, ha, same⟩ := Option.map_eq_some_iff.mp h
        cases same
        exact ha
      · intro h
        rw [h]
        rfl
    show _ ↔ ∀ a ∈ List.map Prod.snd value, leaf.reread a = some a
    rw [List.forall_mem_map]
    exact Codec.mapM_eq_some_self.trans (forall₂_congr fun e _ => entry e)

/-- A column is read as its value is, and otherwise the failure names the field. -/
theorem ofJson_encode (h : shape.Proper value) (field : String) :
    Convert.ofJson shape.codec field (shape.codec.encode value) =
      (shape.reread value).elim (.error (.conversion field .malformedJson)) .ok := by
  have reads := readsIn h
  rw [Convert.ofJson, if_neg (by simpa using Codec.encode_ne_empty_of_readsIn reads),
    Codec.decode?_of_readsIn reads]
  cases shape.reread value <;> rfl

/-- A column without singles, whose doubles are finite and have short decimals, is read as it was written. -/
theorem ofJson_of_exact (h : shape.Proper value) (exact : ∀ a ∈ shape.leaves value, shape.leaf.Exact a)
    (field : String) : Convert.ofJson shape.codec field (shape.codec.encode value) = .ok value := by
  have same := reread_eq_some_self.mpr fun a there => Leaf.reread_of_exact (exact a there)
  rw [ofJson_encode h, same]
  rfl

end Shape

end Json

/-! ## Fields -/

/-- What the JSON column of a field holds, if it has one and a map's keys can be keys. -/
def Field.shape? (field : Field) : Option Json.Shape :=
  match field.kind with
  | .scalar type => (Json.Leaf.ofStorage? type.storage).map .list
  | .enumeration _ => some (.list .int32)
  | .message name =>
    match WellKnown.ofName? name with
    | some (.wrapper scalar) => (Json.Leaf.ofStorage? scalar).map .list
    | _ => none
  | .map key (.scalar type) =>
    (Json.Label.ofScalar? key).bind fun key => (Json.Leaf.ofStorage? type.storage).map (.map key)
  | .map key (.enumeration _) => (Json.Label.ofScalar? key).map (.map · .int32)
  | _ => none

namespace Json

theorem Leaf.isSome_ofStorage? (type : Scalar) : (ofStorage? type.storage).isSome := by
  cases type <;> rfl

theorem Leaf.isSome_of_wrapper {name : String} {scalar : ColumnScalar}
    (h : WellKnown.ofName? name = some (.wrapper scalar)) : (ofStorage? scalar).isSome := by
  obtain ⟨before, after, split, -⟩ := List.lookup_eq_some_iff.mp h
  have known : (name, WellKnown.wrapper scalar) ∈ WellKnown.table := by simp [split]
  simp only [WellKnown.table, List.mem_cons, Prod.mk.injEq, reduceCtorEq, and_false, false_or, or_false,
    WellKnown.wrapper.injEq, List.not_mem_nil] at known
  rcases known with h | h | h | h | h | h | h | h | h <;> rw [h.2] <;> rfl

end Json

section

variable {schema : Schema} {message : Message} {field : Field} {type : ColumnType}

/-- The kinds of fields that have columns, and what their columns are. -/
theorem Field.column_cases (role : field.role schema message = .ok (.column type)) :
    (∃ key value, field.kind = .map key (.scalar value) ∧ type = .json) ∨
      (∃ key name, field.kind = .map key (.enumeration name) ∧ type = .json) ∨
      (∃ scalar, field.kind = .scalar scalar ∧
        type = if field.repeated then .json else .direct scalar.storage field.isOptional) ∨
      (∃ name, field.kind = .enumeration name ∧
        type = if field.repeated then .json else .direct .i32 field.isOptional) ∨
      ∃ name, field.kind = .message name ∧ messageColumn? name field.repeated = some type := by
  unfold Field.role at role
  split at role
  · cases role
  simp only at role
  split at role
  · cases role
  split at role
  · cases role
  · next key value kind =>
    cases role
    exact .inl ⟨key, value, kind, rfl⟩
  · next key name kind =>
    cases role
    exact .inr (.inl ⟨key, name, kind, rfl⟩)
  · cases role
  · next scalar kind =>
    cases role
    exact .inr (.inr (.inl ⟨scalar, kind, rfl⟩))
  · next name kind =>
    cases role
    exact .inr (.inr (.inr (.inl ⟨name, kind, rfl⟩)))
  · next name kind =>
    split at role
    · cases role
    split at role
    · next column found =>
      cases role
      exact .inr (.inr (.inr (.inr ⟨name, kind, found⟩)))
    · cases role

/-- Of the messages, those that wrap a single value have JSON columns. -/
theorem exists_wrapper_of_json {name : String} {repeated : Bool}
    (found : messageColumn? name repeated = some type) (json : type.conversion = .json) :
    ∃ scalar, WellKnown.ofName? name = some (.wrapper scalar) := by
  unfold messageColumn? at found
  split at found <;> cases found <;> try cases json
  next known => exact ⟨_, known⟩

/-- Every field that is stored as JSON holds a list or a map, if its keys can be keys. -/
theorem Field.exists_shape (role : field.role schema message = .ok (.column type))
    (json : type.conversion = .json)
    (keyed : ∀ key value, field.kind = .map key value → (Json.Label.ofScalar? key).isSome) :
    ∃ shape, field.shape? = some shape := by
  rw [← Option.isSome_iff_exists]
  unfold Field.shape?
  rcases Field.column_cases role with ⟨key, value, kind, -⟩ | ⟨key, name, kind, -⟩ | ⟨scalar, kind, -⟩ |
    ⟨name, kind, -⟩ | ⟨name, kind, found⟩ <;> rw [kind]
  · obtain ⟨label, known⟩ := Option.isSome_iff_exists.mp (keyed _ _ kind)
    simp [known, Json.Leaf.isSome_ofStorage?]
  · simpa using keyed _ _ kind
  · simp [Json.Leaf.isSome_ofStorage?]
  · rfl
  · obtain ⟨scalar, known⟩ := exists_wrapper_of_json found json
    simpa [known] using Json.Leaf.isSome_of_wrapper known

end

/-- What is read back from the JSON column of a field: the value that was written exactly if each of its
single values is read as itself, and otherwise the value of what they are read as, or a failure that
names the field if one of them cannot be read. Only floats are read as anything but themselves. -/
theorem Field.json_reread {schema : Schema} {message : Message} {field : Field} {type : ColumnType}
    (role : field.role schema message = .ok (.column type)) (json : type.conversion = .json)
    (keyed : ∀ key value, field.kind = .map key value → (Json.Label.ofScalar? key).isSome) :
    ∃ shape, field.shape? = some shape ∧ ∀ value : shape.Value, shape.Proper value →
      (Convert.ofJson shape.codec field.name (shape.codec.encode value) = .ok value ↔
        ∀ a ∈ shape.leaves value, shape.leaf.reread a = some a) ∧
      Convert.ofJson shape.codec field.name (shape.codec.encode value) =
        (shape.reread value).elim (.error (.conversion field.name .malformedJson)) .ok := by
  obtain ⟨shape, known⟩ := Field.exists_shape role json keyed
  refine ⟨shape, known, fun value proper => ?_⟩
  have reads := Json.Shape.ofJson_encode proper field.name
  refine ⟨?_, reads⟩
  rw [reads, ← Json.Shape.reread_eq_some_self]
  cases shape.reread value <;> simp

/-- A field of many doubles. -/
def ratings : Field where
  name := "ratings"
  number := 1
  kind := .scalar .double
  repeated := true
  presence := .unspecified
  oneof := none
  column := none
  isKey := false
  dropped := false
  association := none

/-- The message with that field. -/
def review : Message := ⟨"Review", "shop.Review", "shop", "shop.proto", [ratings], true, none⟩

/-- The schema of that message. -/
def shop : Schema := ⟨[⟨"shop.proto", "shop", true, [review]⟩]⟩

open Json in
/-- One and a half and minus zero are read back. -/
theorem ratings_reread : ratings.role shop review = .ok (.column .json) ∧
    Convert.ofJson Codec.double.list "ratings"
        (Codec.double.list.encode [⟨0x3ff8000000000000⟩, ⟨0x8000000000000000⟩]) =
      .ok [⟨0x3ff8000000000000⟩, ⟨0x8000000000000000⟩] := by
  have role : ratings.role shop review = .ok (.column .json) := by decide
  obtain ⟨shape, known, reads⟩ := Field.json_reread role rfl (by intro key value h; cases h)
  cases known
  have same : ∀ x ∈ [(⟨0x3ff8000000000000⟩ : Number.Double), ⟨0x8000000000000000⟩], x.reread = some x := by
    decide +kernel
  exact ⟨role, (reads [⟨0x3ff8000000000000⟩, ⟨0x8000000000000000⟩] trivial).1.mpr same⟩

open Json in
/-- What is not a number is written as `null`, which no number is; `3e+23` and `1.9479037806707378` are
read as the doubles before them. -/
theorem ratings_misread : ratings.role shop review = .ok (.column .json) ∧
    Convert.ofJson Codec.double.list "ratings" (Codec.double.list.encode [⟨0x7ff8000000000000⟩]) =
      .error (.conversion "ratings" .malformedJson) ∧
    Convert.ofJson Codec.double.list "ratings"
        (Codec.double.list.encode [⟨0x44cfc3842bd1f072⟩, ⟨0x3fff2a9d279bc4eb⟩]) =
      .ok [⟨0x44cfc3842bd1f071⟩, ⟨0x3fff2a9d279bc4ea⟩] := by
  refine ⟨by decide, by decide +kernel, by decide +kernel⟩

end ProtoStore
