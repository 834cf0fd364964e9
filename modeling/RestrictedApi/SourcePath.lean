import RestrictedApi.Text.Segments

/-!
# Paths of files

A path is kept as it was written.  Paths are compared by their components: a leading `/`, a leading
`.`, every `..` and every name.  Doubled and trailing slashes and a `.` that is not the first
component do not count.
-/

namespace RestrictedApi

inductive PathComponent where
  | root
  /-- A `.` that starts a relative path. -/
  | here
  | up
  | name (label : String)
  deriving DecidableEq, Repr, Inhabited

namespace PathComponent

def rank : PathComponent → Nat
  | .root => 0
  | .here => 1
  | .up => 2
  | .name _ => 3

def label : PathComponent → String
  | .root => "/"
  | .here => "."
  | .up => ".."
  | .name label => label

protected def compare (a b : PathComponent) : Ordering :=
  (compare a.rank b.rank).then (compare a.label b.label)

instance : Ord PathComponent := ⟨PathComponent.compare⟩

end PathComponent

structure SourcePath where
  text : String
  deriving DecidableEq, Repr, Inhabited

namespace SourcePath

def isAbsolute (path : SourcePath) : Bool :=
  Text.begins path.text "/"

def component? (piece : String) : Option PathComponent :=
  if piece = "" ∨ piece = "." then none
  else if piece = ".." then some .up
  else some (.name piece)

def components (path : SourcePath) : List PathComponent :=
  let pieces := Text.segments '/' path.text
  let first :=
    if path.isAbsolute then [.root]
    else if pieces.head? = some "." then [.here]
    else []
  first ++ pieces.filterMap component?

protected def compare (a b : SourcePath) : Ordering :=
  compare a.components b.components

instance : Ord SourcePath := ⟨SourcePath.compare⟩

def same (a b : SourcePath) : Bool :=
  a.components = b.components

/-- `path` seen from `base`: an absolute path stays as it is, any other is written after `base`
and one slash. -/
def join (base path : SourcePath) : SourcePath :=
  if path.isAbsolute then path
  else if base.text = "" ∨ Text.ends base.text "/" then ⟨base.text ++ path.text⟩
  else ⟨base.text ++ "/" ++ path.text⟩

/-- The text of a path up to the end of each of its components, given the text before the pieces. -/
def stems (start : Option String) : List String → List String
  | [] => []
  | piece :: rest =>
      let text := start.elim piece (· ++ "/" ++ piece)
      let counts := start.isNone && (piece = "" || piece = ".") || (component? piece).isSome
      if counts then text :: stems (some text) rest else stems (some text) rest

/-- A path and the paths that its components spell out without the last one, the last two, and so
on.  Nothing is resolved: `..` is a component like any other.  A relative path ends with the empty
one. -/
def ancestors (path : SourcePath) : List SourcePath :=
  let shorter := (stems none (Text.segments '/' path.text)).dropLast.reverse.map fun text =>
    if text = "" then ⟨"/"⟩ else ⟨text⟩
  if path.isAbsolute ∨ path.components = [] then path :: shorter
  else path :: shorter ++ [⟨""⟩]

def fileName? (path : SourcePath) : Option String :=
  match path.components.getLast? with
  | some (.name label) => some label
  | _ => none

/-- What follows the last dot of the file name.  A name whose only dot comes first has none. -/
def extension? (path : SourcePath) : Option String :=
  match path.fileName? with
  | none => none
  | some name =>
      match (Text.segments '.' name).reverse with
      | last :: before =>
          if before = [] ∨ before = [""] then none else some last
      | [] => none

end SourcePath

end RestrictedApi
