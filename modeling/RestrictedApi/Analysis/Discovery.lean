import RestrictedApi.Analysis
import RestrictedApi.Ignore

/-!
# Finding source files

The files that an analysis reads: those under its root with the extension `java` that are neither
ignored nor excluded, in the order of their paths.
-/

namespace RestrictedApi
namespace Analyzer

def pathOf (analyzer : Analyzer) (names : List String) : SourcePath :=
  if names = [] then analyzer.root else analyzer.root.join ⟨String.intercalate "/" names⟩

/-- A file matches an exclude pattern, either by its full path or by the part of it below the
root. -/
def excludes (analyzer : Analyzer) (names : List String) : Bool :=
  analyzer.exclude.any fun glob =>
    glob.accepts (analyzer.pathOf names).text || glob.accepts (String.intercalate "/" names)

def leavesOut (files : FileSystem) (current : SourcePath) (root : FileLocation)
    (names : List String) : Bool :=
  (List.range names.length).any fun n => files.ignores current (root ++ names.take (n + 1))

/-- The source files of an analysis that is run in the directory `current`.  Ignore files above the
root must be in order. -/
def discover (analyzer : Analyzer) (files : FileSystem) (current : SourcePath) :
    Except AnalysisError (List SourcePath) := do
  let root ← (files.locate analyzer.root).mapError fun _ => .walk
  let respects := analyzer.config.analyzer.respectGitignore
  let above := FileSystem.directoriesAbove root
  if respects && files.entry? root = some .directory &&
      above.any (files.hasFlawedIgnores current) then
    .error .walk
  let kept := (files.filesUnder root).filter fun names =>
    (analyzer.pathOf names).extension? = some "java" &&
      !(respects && leavesOut files current root names) && !analyzer.excludes names
  return (kept.map analyzer.pathOf).mergeSort fun a b => (compare a b).isLE

end Analyzer
end RestrictedApi
