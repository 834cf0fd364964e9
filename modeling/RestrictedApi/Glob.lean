import RestrictedApi.Text.Marks

/-!
# Glob patterns

Patterns of paths.  `?` stands for any character, `[…]` and `[!…]` for one within or outside a set,
`*` for any text, slashes included, and `**` for any number of whole path components.  All other
characters stand for themselves.
-/

namespace RestrictedApi

inductive CharTest where
  | literal (c : Char)
  | any
  | within (ranges : List (Char × Char))
  | outside (ranges : List (Char × Char))
  deriving DecidableEq, Repr, Inhabited

namespace CharTest

def inSome (ranges : List (Char × Char)) (c : Char) : Bool :=
  ranges.any fun range => range.1 ≤ c && c ≤ range.2

def accepts : CharTest → Char → Bool
  | .literal expected, c => c == expected
  | .any, _ => true
  | .within ranges, c => inSome ranges c
  | .outside ranges, c => !inSome ranges c

end CharTest

inductive GlobPart where
  | one (test : CharTest)
  | sequence
  /-- Any number of path components, each with the slash that ends it, or all that is left. -/
  | components
  deriving DecidableEq, Repr, Inhabited

structure Glob where
  parts : List GlobPart
  deriving DecidableEq, Repr, Inhabited

/-! ## Reading patterns -/

inductive GlobProblem where
  | stars
  | partialComponent
  | range
  deriving DecidableEq, Repr

structure GlobError where
  position : Nat
  problem : GlobProblem
  deriving DecidableEq, Repr

namespace GlobProblem

def message : GlobProblem → String
  | .stars => "wildcards are either regular `*` or recursive `**`"
  | .partialComponent => "recursive wildcards must form a single path component"
  | .range => "invalid range pattern"

end GlobProblem

namespace GlobError

def message (error : GlobError) : String :=
  s!"Pattern syntax error near position {error.position}: {error.problem.message}"

end GlobError

namespace Glob

def ranges : List Char → List (Char × Char)
  | first :: '-' :: last :: rest => (first, last) :: ranges rest
  | c :: rest => (c, c) :: ranges rest
  | [] => []

/-- The members of a set and the text after it, given the text after the opening bracket.  The set
has at least one member, so a bracket in the first place does not close it. -/
def members? : List Char → Option (List Char × List Char)
  | [] => none
  | first :: text =>
      match text.dropWhile (· ≠ ']') with
      | [] => none
      | _ :: rest => some (first :: text.takeWhile (· ≠ ']'), rest)

theorem members?_length {text members rest : List Char} (h : members? text = some (members, rest)) :
    rest.length < text.length := by
  cases text with
  | nil => simp [members?] at h
  | cons first text =>
      have hle := (List.dropWhile_suffix (l := text) (fun c => decide (c ≠ ']'))).length_le
      simp only [members?] at h
      split at h
      · simp at h
      · rename_i hdrop
        simp only [Option.some.injEq, Prod.mk.injEq] at h
        rw [hdrop, List.length_cons, h.2] at hle
        exact Nat.lt_succ_of_lt (Nat.lt_of_succ_le hle)

def set? : List Char → Option (CharTest × List Char)
  | '!' :: text => (members? text).map fun (members, rest) => (.outside (ranges members), rest)
  | text => (members? text).map fun (members, rest) => (.within (ranges members), rest)

theorem set?_length {text rest : List Char} {test : CharTest} (h : set? text = some (test, rest)) :
    rest.length < text.length := by
  unfold set? at h
  split at h <;> obtain ⟨⟨members, rest'⟩, hmembers, heq⟩ := Option.map_eq_some_iff.mp h
  · obtain ⟨-, rfl⟩ := Prod.mk.inj heq
    exact Nat.lt_succ_of_lt (members?_length hmembers)
  · obtain ⟨-, rfl⟩ := Prod.mk.inj heq
    exact members?_length hmembers

/-- The parts of a pattern from a position on.  Two stars have to follow the start of the pattern or
a slash, so the character before the position counts. -/
def partsFrom (position : Nat) (previous : Option Char) :
    List Char → Except GlobError (List GlobPart)
  | [] => .ok []
  | '*' :: '*' :: '*' :: _ => .error ⟨position + 2, .stars⟩
  | '*' :: '*' :: rest =>
      if previous.all (· = '/') then
        match rest with
        | [] => .ok [.components]
        | c :: rest =>
            if c = '/' then do
              return .components :: (← partsFrom (position + 3) (some '/') rest)
            else .error ⟨position + 2, .partialComponent⟩
      else .error ⟨position - 1, .partialComponent⟩
  | '*' :: rest => do
      return .sequence :: (← partsFrom (position + 1) (some '*') rest)
  | '?' :: rest => do
      return .one .any :: (← partsFrom (position + 1) (some '?') rest)
  | '[' :: text =>
      match h : set? text with
      | none => .error ⟨position, .range⟩
      | some (test, rest) => do
          have := set?_length h
          let consumed := text.length - rest.length + 1
          return .one test :: (← partsFrom (position + consumed) (some ']') rest)
  | c :: rest => do
      return .one (.literal c) :: (← partsFrom (position + 1) (some c) rest)
termination_by text => text.length

def parse (pattern : String) : Except GlobError Glob := do
  return ⟨← partsFrom 0 none pattern.toList⟩

/-! ## Matching -/

def follow (text : List Char) (marks : Marks) : GlobPart → Marks
  | .one test => marks.advance test.accepts text
  | .sequence => marks.spread (fun _ => true) text
  | .components =>
      let afterSlash := (marks.spread (fun _ => true) text).advance (· = '/') text
      (marks.either afterSlash).either marks.toEnd

def accepts (glob : Glob) (text : String) : Bool :=
  let chars := text.toList
  (glob.parts.foldl (follow chars) (Marks.start chars)).complete

end Glob

end RestrictedApi
