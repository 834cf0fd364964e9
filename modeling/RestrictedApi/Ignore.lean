import RestrictedApi.FileSystem
import RestrictedApi.Ignore.Pattern
import RestrictedApi.Text.Blank
import RestrictedApi.Text.Lines

/-!
# Ignored files

Which files of a file system are to be ignored.  A directory can hold two ignore files, `.ignore`
and, within a repository, `.gitignore`; a repository has one more for all of its files.  In a file
the last matching line decides; among files of one kind, the one in the nearest directory; among the
kinds, the first with a matching line.  The files that belong to a repository count only up to the
directory that holds it.
-/

namespace RestrictedApi

structure IgnoreRule where
  negated : Bool
  directoriesOnly : Bool
  pattern : IgnorePattern
  deriving Inhabited

inductive IgnoreLine where
  | nothing
  | rule (rule : IgnoreRule)
  | bad
  deriving Inhabited

namespace IgnoreLine

/-- The text of a pattern in a form that has to match whole paths.  Without a slash it may match at
any depth.  What ends with all components below a directory does not match the directory itself. -/
def completed (anchored : Bool) (text : String) : String :=
  let free := !anchored && !Text.includes text "/" && text ≠ "**"
  let text := if free then "**/" ++ text else text
  if Text.ends text "/**" then text ++ "/*" else text

/-- Read a pattern with what may stand around it: a slash in front ties it to the directory of the
file, a slash behind restricts it to directories. -/
def ofPattern (negated anchored : Bool) (text : String) : IgnoreLine :=
  let chars := text.toList
  let directoriesOnly := Text.ends text "/"
  let chars := if directoriesOnly then chars.dropLast else chars
  let chars :=
    if directoriesOnly && chars.getLast? = some '\\' then chars.dropLast else chars
  match IgnorePattern.parse? (completed anchored (String.ofList chars)) with
  | none => .bad
  | some pattern => .rule { negated, directoriesOnly, pattern }

/-- Read a line.  Blanks at its end do not count unless the last one is escaped. -/
def parse (line : String) : IgnoreLine :=
  if Text.begins line "#" then .nothing
  else
    let kept :=
      if Text.ends line "\\ " then line.toList
      else (line.toList.reverse.dropWhile Text.isBlank).reverse
    match kept with
    | [] => .nothing
    | '\\' :: '!' :: rest => ofPattern false false (String.ofList ('!' :: rest))
    | '\\' :: '#' :: rest => ofPattern false false (String.ofList ('#' :: rest))
    | '!' :: '/' :: rest => ofPattern true true (String.ofList rest)
    | '!' :: rest => ofPattern true false (String.ofList rest)
    | '/' :: rest => ofPattern false true (String.ofList rest)
    | _ => ofPattern false false (String.ofList kept)

def isTooDeep : IgnoreLine → Bool
  | .rule content => content.pattern.isTooDeep
  | _ => false

end IgnoreLine

structure IgnoreFile where
  lines : List IgnoreLine := []
  deriving Inhabited

namespace IgnoreFile

/-- Read an ignore file, up to the first line that is no text.  A byte order mark before the first
line does not count.  A pattern that nests too deep makes the whole file useless. -/
def ofBytes (content : List UInt8) : IgnoreFile :=
  let texts := ((Text.byteLines content).map Text.decode?).takeWhile Option.isSome
  match texts.filterMap id with
  | [] => {}
  | first :: rest =>
      let first := String.ofList (first.toList.dropWhile (· = '\ufeff'))
      let lines := (first :: rest).map IgnoreLine.parse
      if lines.any IgnoreLine.isTooDeep then { lines := [.bad] } else { lines }

def isFlawed (file : IgnoreFile) : Bool :=
  file.lines.any fun line =>
    match line with
    | .bad => true
    | _ => false

/-- What the file says about a path: `true` to ignore it, `false` to take it in. -/
def verdict? (file : IgnoreFile) (path : String) (isDirectory : Bool) : Option Bool :=
  file.lines.reverse.findSome? fun line =>
    match line with
    | .rule rule =>
        if (isDirectory || !rule.directoriesOnly) && rule.pattern.accepts path then
          some !rule.negated
        else none
    | _ => none

end IgnoreFile

namespace FileSystem

def ignoreFile (files : FileSystem) (path : SourcePath) : IgnoreFile :=
  match files.read path with
  | .ok content => IgnoreFile.ofBytes content
  | .error _ => {}

def plainIgnores (files : FileSystem) (directory : FileLocation) : IgnoreFile :=
  files.ignoreFile (pathTo (directory ++ [".ignore"]))

def repositoryIgnores (files : FileSystem) (directory : FileLocation) : IgnoreFile :=
  files.ignoreFile (pathTo (directory ++ [".gitignore"]))

/-! ## Repositories -/

def hasRepository (files : FileSystem) (directory : FileLocation) : Bool :=
  [".git", ".jj"].any fun name => (files.entry? (directory ++ [name])).isSome

def firstLine? (files : FileSystem) (path : SourcePath) : Except FileError (Option String) :=
  match files.read path with
  | .error .isDirectory => .error .isDirectory
  | .error _ => .ok none
  | .ok content =>
      match Text.byteLines content with
      | [] => .ok none
      | line :: _ =>
          match Text.decode? line with
          | none => .error .notText
          | some text => .ok (some text)

/-- The directory that the file `.git` of a directory names.  A relative path is seen from the
directory `current`. -/
def linkedDirectory? (files : FileSystem) (current : SourcePath) (directory : FileLocation) :
    Except FileError (Option SourcePath) := do
  match ← files.firstLine? (pathTo (directory ++ [".git"])) with
  | none => return none
  | some line =>
      let mark := "gitdir: "
      if Text.begins line mark then
        return some (current.join ⟨String.ofList (line.toList.drop mark.length)⟩)
      else return none

/-- The directory of what belongs to a repository as a whole, given the directory that holds the
repository.  It is `.git`; but where that is a file, the file names a directory, and the file
`commondir` there names the one that is meant. -/
def commonDirectory? (files : FileSystem) (current : SourcePath) (directory : FileLocation) :
    Except FileError (Option SourcePath) := do
  let place := directory ++ [".git"]
  if files.isFile (pathTo place) then
    match ← files.linkedDirectory? current directory with
    | none => return none
    | some linked =>
        match ← files.firstLine? (linked.join ⟨"commondir"⟩) with
        | none => return none
        | some line =>
            if Text.begins line "." then return some (linked.join ⟨line⟩)
            else return some (current.join ⟨line⟩)
  else return some (pathTo place)

def commonIgnores (files : FileSystem) (current : SourcePath) (directory : FileLocation) :
    Except FileError IgnoreFile := do
  match ← files.commonDirectory? current directory with
  | none => return {}
  | some common => return files.ignoreFile (common.join ⟨"info/exclude"⟩)

def hasFlawedIgnores (files : FileSystem) (current : SourcePath) (directory : FileLocation) :
    Bool :=
  (files.plainIgnores directory).isFlawed || (files.repositoryIgnores directory).isFlawed ||
    match files.commonIgnores current directory with
    | .error _ => true
    | .ok file => file.isFlawed

/-! ## Verdicts -/

def directoriesAbove (location : FileLocation) : List FileLocation :=
  (List.range location.length).reverse.map location.take

def upTo (stop : FileLocation → Bool) : List FileLocation → List FileLocation
  | [] => []
  | directory :: rest => if stop directory then [directory] else directory :: upTo stop rest

def verdictOf? (isDirectory : Bool) (location : FileLocation) (directories : List FileLocation)
    (ignores : FileLocation → IgnoreFile) : Option Bool :=
  directories.findSome? fun directory =>
    let path := String.intercalate "/" (location.drop directory.length)
    (ignores directory).verdict? path isDirectory

/-- A location is to be ignored.  Relative paths in the files of repositories are seen from the
directory `current`. -/
def ignores (files : FileSystem) (current : SourcePath) (location : FileLocation) : Bool :=
  let isDirectory := files.entry? location = some .directory
  let directories := directoriesAbove location
  let inRepository :=
    if directories.any files.hasRepository then upTo files.hasRepository directories else []
  let common (directory : FileLocation) : IgnoreFile :=
    ((files.commonIgnores current directory).toOption).getD {}
  let verdict :=
    verdictOf? isDirectory location directories files.plainIgnores <|>
      verdictOf? isDirectory location inRepository files.repositoryIgnores <|>
      verdictOf? isDirectory location inRepository common
  verdict = some true

end FileSystem

end RestrictedApi
