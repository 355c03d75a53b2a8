import ThemeBlocks.Text.Lines

/-! Paths as texts. A path is kept as it was written; its components are what is left when repeated
slashes, a slash at the end, and single dots are ignored. A dot at the very start of a relative path
counts. -/

namespace ThemeBlocks.Files

structure Path where
  text : String
  deriving Repr, DecidableEq, Inhabited

inductive Component
  | root
  | here
  | up
  | name (text : String)
  deriving Repr, DecidableEq

namespace Path

def isAbsolute (path : Path) : Bool :=
  path.text.toList.head? = some '/'

def segments (path : Path) : List String :=
  (Text.splitAtChar '/' path.text.toList).map .ofList

def componentOf? : String → Option Component
  | "" => none
  | "." => none
  | ".." => some .up
  | name => some (.name name)

def components (path : Path) : List Component :=
  let start :=
    if path.isAbsolute then [.root]
    else if path.segments.head? = some "." then [.here]
    else []
  start ++ path.segments.filterMap componentOf?

/-- An absolute path replaces the one that it is joined to. -/
def join (base path : Path) : Path :=
  if path.isAbsolute then path
  else if base.text.isEmpty then path
  else if base.text.toList.getLast? = some '/' then ⟨base.text ++ path.text⟩
  else ⟨base.text ++ "/" ++ path.text⟩

def dropVoid : List String → List String
  | [] => []
  | segment :: rest => if (componentOf? segment).isNone then dropVoid rest else segment :: rest

/-- The path without its last component. The root has no parent, nor has the empty path. -/
def parent? (path : Path) : Option Path :=
  let start :=
    if path.isAbsolute then "/"
    else if path.segments.head? = some "." then "."
    else ""
  let body := (Text.splitAtChar '/' (path.text.toList.drop start.length)).map String.ofList
  match dropVoid body.reverse with
  | _ :: rest => some ⟨start ++ "/".intercalate (dropVoid rest).reverse⟩
  | [] => if start = "." then some ⟨""⟩ else none

end Path

end ThemeBlocks.Files
