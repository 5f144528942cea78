import ProtoStore.Code.Token

/-!
# Paths

A path is a sequence of identifiers with `::` between them, such as `crate::storage::v2`, of which
each may have generic arguments.
-/

namespace ProtoStore

/-- A step of a path. -/
structure Segment where
  ident : Ident
  /-- The generic arguments, between their marks; nothing if there are none. -/
  arguments : Code
  /-- Whether `::` stands before the arguments. -/
  marked : Bool
deriving Repr

/-- Steps from one name to another, possibly from the root. -/
structure Path where
  rooted : Bool
  segments : List Segment
deriving Repr

/-- A segment as code. -/
def Segment.code (segment : Segment) : Code :=
  segment.ident.code ++ (if segment.marked then [.atom "::"] else []) ++ segment.arguments

namespace Path

/-- The path of one name. -/
def ofName (rooted : Bool) (name : String) : Path := ⟨rooted, [⟨⟨name, false⟩, [], false⟩]⟩

/-- The path as code. -/
def code (path : Path) : Code :=
  (if path.rooted then [.atom "::"] else [])
    ++ Code.joined [.atom "::"] (path.segments.map Segment.code)

/-- Whether the path can stand at the head of a type. The word `try` begins none. -/
def beginsType (path : Path) : Bool :=
  path.rooted || path.segments.head?.map (·.ident) != some ⟨"try", false⟩

/-- Whether the path can stand in an expression, where `<` compares unless `::` precedes it. -/
def suitsExpressions (path : Path) : Bool :=
  path.segments.all fun segment => segment.arguments.isEmpty || segment.marked

end Path

end ProtoStore
