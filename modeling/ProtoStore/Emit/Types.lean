import ProtoStore.Code.Token
import ProtoStore.Schema.Key

/-!
# Types and tests in generated code

The code of column types, of the test for an empty key and of update strategies. `rt` is the path of
the library the generated code uses.
-/

namespace ProtoStore

/-- The type of a value that is not null. -/
def ColumnScalar.code (rt : Code) : ColumnScalar → Code
  | .bool => Code.ofText "bool"
  | .i32 => Code.ofText "i32"
  | .i64 => Code.ofText "i64"
  | .u32 => Code.ofText "u32"
  | .u64 => Code.ofText "u64"
  | .f32 => Code.ofText "f32"
  | .f64 => Code.ofText "f64"
  | .string => Code.ofText ":: prost :: alloc :: string :: String"
  | .bytes => Code.ofText ":: prost :: alloc :: vec :: Vec < u8 >"
  | .dateTime => Code.fill "$ :: chrono :: DateTime < $ :: chrono :: Utc >" [rt, rt]
  | .uuid => Code.fill "$ :: uuid :: Uuid" [rt]

/-- The type of the record field of a column. -/
def ColumnType.code (rt : Code) (type : ColumnType) : Code :=
  if type.nullable then Code.fill ":: core :: option :: Option < $ >" [type.scalar.code rt]
  else type.scalar.code rt

/-- The type of a primary key on the record. -/
def PrimaryKey.typeCode (rt : Code) (key : PrimaryKey) : Code := key.kind.keyType.code rt

/-- The test whether a key is empty. -/
def Emptiness.test (value : Code) : Emptiness → Code
  | .zero => Code.fill "$ == 0" [value]
  | .emptyString => Code.fill "$ . is_empty ()" [value]
  | .null => Code.fill "$ . is_none_or (| id | id . is_nil ())" [value]

/-- The name of a strategy in code. -/
def Strategy.variant : Strategy → String
  | .default => "Default"
  | .replace => "Replace"
  | .append => "Append"
  | .clear => "Clear"

/-- A strategy in code. -/
def Strategy.code (rt : Code) (strategy : Strategy) : Code :=
  Code.fill "$ :: MutationStrategy :: $" [rt, [.atom strategy.variant]]

end ProtoStore
