import RestrictedApi.SourcePath
import RestrictedApi.Text.Utf8
import Std.Data.TreeMap

/-!
# File systems

A file system without links: directories and files at locations.  A location is the list of names on
the way from the root.  A path is followed piece by piece; every piece but the last must lead to a
directory.
-/

namespace RestrictedApi

inductive FileEntry where
  | directory
  | file (content : List UInt8)
  deriving DecidableEq, Repr, Inhabited

inductive FileError where
  | notFound
  | notDirectory
  | isDirectory
  | nameTooLong
  /-- A name has a character with the number 0, which ends names. -/
  | nulInName
  | notText
  deriving DecidableEq, Repr, Inhabited

namespace FileError

def message : FileError → String
  | .notFound => "No such file or directory (os error 2)"
  | .notDirectory => "Not a directory (os error 20)"
  | .isDirectory => "Is a directory (os error 21)"
  | .nameTooLong => "File name too long (os error 36)"
  | .nulInName => "file name contained an unexpected NUL byte"
  | .notText => "stream did not contain valid UTF-8"

end FileError

abbrev FileLocation := List String

structure FileSystem where
  entries : Std.TreeMap FileLocation FileEntry := ∅
  deriving Inhabited

namespace FileSystem

/-- What stands at a location.  The root is always a directory. -/
def entry? (files : FileSystem) (location : FileLocation) : Option FileEntry :=
  if location = [] then some .directory else files.entries[location]?

def pathTo (location : FileLocation) : SourcePath :=
  ⟨"/" ++ String.intercalate "/" location⟩

/-! ## Following paths -/

def longestName : Nat := 255

def hasNul (path : SourcePath) : Bool :=
  path.text.toList.any (·.toNat = 0)

def step (files : FileSystem) (location : FileLocation) (piece : String) :
    Except FileError FileLocation :=
  match files.entry? location with
  | none => .error .notFound
  | some (.file _) => .error .notDirectory
  | some .directory =>
      if piece = "" ∨ piece = "." then .ok location
      else if piece = ".." then .ok location.dropLast
      else if longestName < piece.utf8ByteSize then .error .nameTooLong
      else if (files.entry? (location ++ [piece])).isSome then .ok (location ++ [piece])
      else .error .notFound

def locate (files : FileSystem) (path : SourcePath) : Except FileError FileLocation :=
  if path.text = "" then .error .notFound
  else if hasNul path then .error .nulInName
  else (Text.segments '/' path.text).foldlM files.step []

def find? (files : FileSystem) (path : SourcePath) : Option FileEntry :=
  match files.locate path with
  | .ok location => files.entry? location
  | .error _ => none

def contains (files : FileSystem) (path : SourcePath) : Bool :=
  (files.find? path).isSome

def isFile (files : FileSystem) (path : SourcePath) : Bool :=
  match files.find? path with
  | some (.file _) => true
  | _ => false

def read (files : FileSystem) (path : SourcePath) : Except FileError (List UInt8) := do
  match files.entry? (← files.locate path) with
  | some (.file content) => .ok content
  | some .directory => .error .isDirectory
  | none => .error .notFound

def readText (files : FileSystem) (path : SourcePath) : Except FileError String := do
  match Text.decode? (← files.read path) with
  | some text => .ok text
  | none => .error .notText

/-- The text of the file at a path that is seen from the directory `current`.  The empty path leads
nowhere, although joined to `current` it would lead there. -/
def readTextFrom (files : FileSystem) (current path : SourcePath) : Except FileError String :=
  if path.text = "" then .error .notFound
  else if hasNul path then .error .nulInName
  else files.readText (current.join path)

/-! ## Changing files -/

/-- Put an entry at a location, with the directories above it. -/
def insert (files : FileSystem) (location : FileLocation) (entry : FileEntry) : FileSystem :=
  let above := (List.range location.length).map fun n => (location.take n, FileEntry.directory)
  ⟨(files.entries.insertMany above).insert location entry⟩

def write (files : FileSystem) (path : SourcePath) (content : List UInt8) :
    Except FileError FileSystem := do
  let pieces := Text.segments '/' path.text
  let directory ← pieces.dropLast.foldlM files.step []
  let name := pieces.getLastD ""
  let location ← files.step directory "."
  if name = "" ∨ name = "." ∨ name = ".." then .error .isDirectory
  else if files.entry? (location ++ [name]) = some .directory then .error .isDirectory
  else .ok (files.insert (location ++ [name]) (.file content))

/-! ## Listing -/

/-- The names that lead from a location to the files under it, the location itself included. -/
def filesUnder (files : FileSystem) (location : FileLocation) : List (List String) :=
  files.entries.toList.filterMap fun (place, entry) =>
    match entry with
    | .file _ => if location.isPrefixOf place then some (place.drop location.length) else none
    | .directory => none

end FileSystem

end RestrictedApi
