import RestrictedApi.Command.Arguments
import RestrictedApi.Tree.Written

/-!
# The program

Reads the files around the current directory, runs a command on them, and writes what it has printed
and changed.  The syntax tree of `A.java` is read from the file `A.java.tree` beside it, as written
by a parser.
-/

namespace RestrictedApi

def locationOf (path : String) : FileLocation :=
  (Text.segments '/' path).filter (· ≠ "")

def addFile (files : FileSystem) (path : String) : IO FileSystem := do
  try
    let content ← IO.FS.readBinFile path
    return files.insert (locationOf path) (.file content.toList)
  catch _ => return files

partial def addTree (files : FileSystem) (path : String) : IO FileSystem := do
  let place ← IO.FS.realPath path
  if ← place.isDir then
    let mut files := files.insert (locationOf path) .directory
    for entry in ← place.readDir do
      files ← addTree files (path ++ "/" ++ entry.fileName)
    return files
  else addFile files path

def standsAt (path : String) : IO Bool := do
  try
    discard (IO.FS.realPath path)
    return true
  catch _ => return false

/-- The files above a directory that matter: configuration files, ignore files, repositories. -/
def addAbove (files : FileSystem) (directory : FileLocation) : IO FileSystem := do
  let mut files := files
  for above in FileSystem.directoriesAbove directory do
    let path := "/" ++ String.intercalate "/" above
    for name in [".ignore", ".gitignore", ".git", ".git/info/exclude", "unstable-lint.toml",
        ".unstable-lint.toml"] do
      files ← addFile files (path ++ "/" ++ name)
    for name in [".git", ".jj"] do
      let place := above ++ [name]
      if (files.entry? place).isNone then
        if ← standsAt (path ++ "/" ++ name) then
          files := files.insert place .directory
  return files

def addResolved (files : FileSystem) (path : SourcePath) : IO FileSystem := do
  try
    let place ← IO.FS.realPath path.text
    addFile files place.toString
  catch _ => return files

def addLinked (files : FileSystem) (current : SourcePath) : IO FileSystem := do
  let mut files := files
  for (place, _) in files.entries.toList do
    if place.getLast? = some ".git" then
      let directory := place.dropLast
      if let some linked := (files.linkedDirectory? current directory).toOption.join then
        files ← addResolved files (linked.join ⟨"commondir"⟩)
      if let some common := (files.commonDirectory? current directory).toOption.join then
        files ← addResolved files (common.join ⟨"info/exclude"⟩)
  return files

/-- The trees that stand beside source files, by the text of the source. -/
def writtenTrees (files : FileSystem) : List (String × ParsedSource) :=
  files.entries.toList.filterMap fun (location, entry) => do
    let name ← location.getLast?
    let .file content := entry | none
    let .file tree ← files.entry? (location.dropLast ++ [name ++ ".tree"]) | none
    let text := Text.decodeLossy content
    let tree ← Text.decode? tree
    let tree := Text.trim tree
    let root ← Node.read? text tree
    return (text, { root, hasErrors := Node.showsError tree })

def LogLine.shown (line : LogLine) : String :=
  match line.level with
  | .info => " INFO " ++ line.text
  | .warn => " WARN " ++ line.text

def Failure.shown (failure : Failure) : String :=
  let causes := if failure.causes.isEmpty then [] else
    ["", "Caused by:"] ++ failure.causes.map ("    " ++ ·)
  String.intercalate "\n" (("Error: " ++ failure.message) :: causes)

def globalDirectory : IO (Option SourcePath) := do
  match ← IO.getEnv "UNSTABLE_LINT_CONFIG_DIR" with
  | some directory => return some ⟨directory⟩
  | none => return (← IO.getEnv "HOME").map fun home => SourcePath.join ⟨home⟩ ⟨".unstable-lint"⟩

def namedPaths (arguments : List String) : List SourcePath :=
  match Command.CommandLine.parse arguments with
  | .error _ => []
  | .ok line =>
      let target : List SourcePath :=
        match line.action with
        | .check options => [options.path]
        | _ => []
      target ++ line.config.toList

end RestrictedApi

open RestrictedApi in
def main (arguments : List String) : IO UInt32 := do
  let current : SourcePath := ⟨(← IO.currentDir).toString⟩
  let globalDirectory ← globalDirectory
  let mut files ← addTree {} current.text
  files ← addAbove files (locationOf current.text)
  for path in namedPaths arguments do
    try
      let place ← IO.FS.realPath (current.join path).text
      files ← addTree files place.toString
      files ← addAbove files (locationOf place.toString)
    catch _ => pure ()
  for directory in globalDirectory do
    files ← addFile files ((current.join directory).join ⟨"config.toml"⟩).text
  files ← addLinked files current
  let trees := writtenTrees files
  let environment : Environment := {
    current, globalDirectory
    parse := fun text => (trees.lookup text).getD default }
  let (outcome, console) := Command.run environment arguments { files }
  for line in console.log do
    IO.eprintln line.shown
  IO.print console.output
  for failure in outcome.failure do
    IO.eprintln failure.shown
  if outcome.exitCode = 2 then
    IO.eprintln (String.intercalate "\n" (Command.HelpTopic.program.lines false))
  let written := current.join ⟨"./unstable-lint.toml"⟩
  if let some content := (console.files.read written).toOption then
    if (files.read written).toOption ≠ some content then
      IO.FS.writeBinFile written.text ⟨content.toArray⟩
  return outcome.exitCode.toUInt32
