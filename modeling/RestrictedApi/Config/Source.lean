import RestrictedApi.Config

/-!
# Where the configuration comes from

A configuration file that the user names is taken as it is.  Otherwise the search starts at the
directory to be checked and climbs to the first one that has a configuration file, but not beyond
one that holds a repository.  After that comes the file of the user, and in the end the defaults.
-/

namespace RestrictedApi

inductive ConfigSource where
  | explicit (path : SourcePath)
  | project (path : SourcePath)
  | global (path : SourcePath)
  | builtIn
  deriving DecidableEq, Repr, Inhabited

namespace ConfigSource

def path? : ConfigSource → Option SourcePath
  | .explicit path => some path
  | .project path => some path
  | .global path => some path
  | .builtIn => none

/-- The names of a project's configuration file; the first one wins. -/
def projectNames : List SourcePath :=
  [⟨"unstable-lint.toml"⟩, ⟨".unstable-lint.toml"⟩]

def globalName : SourcePath := ⟨"config.toml"⟩

def inDirectory? (files : FileSystem) (directory : SourcePath) : Option SourcePath :=
  (projectNames.map directory.join).find? files.isFile

def search (files : FileSystem) : List SourcePath → Option SourcePath
  | [] => none
  | directory :: rest =>
      match inDirectory? files directory with
      | some path => some path
      | none => if files.contains (directory.join ⟨".git"⟩) then none else search files rest

def projectFile? (files : FileSystem) (target : SourcePath) : Option SourcePath :=
  search files target.ancestors

/-- The source of the configuration for a target.  Relative paths are seen from the directory
`current`; `globalDirectory` is where the file of the user would be. -/
def resolve (files : FileSystem) (current : SourcePath) (globalDirectory : Option SourcePath)
    (target : SourcePath) (named : Option SourcePath) : ConfigSource :=
  match named with
  | some path => .explicit path
  | none =>
      match projectFile? files (current.join target) with
      | some path => .project path
      | none =>
          match globalDirectory.map (·.join globalName) with
          | none => .builtIn
          | some path => if files.isFile (current.join path) then .global path else .builtIn

end ConfigSource

end RestrictedApi
