/-!
# Severities

How seriously a finding is taken.  Only errors make a run fail.
-/

namespace RestrictedApi

inductive Severity where
  | info
  | warning
  | error
  deriving DecidableEq, Repr, Inhabited

namespace Severity

def word : Severity → String
  | .info => "info"
  | .warning => "warning"
  | .error => "error"

def ofWord? : String → Option Severity
  | "info" => some .info
  | "warning" => some .warning
  | "error" => some .error
  | _ => none

def rank : Severity → Nat
  | .info => 0
  | .warning => 1
  | .error => 2

instance : Ord Severity := ⟨fun a b => compare a.rank b.rank⟩

theorem ofWord?_word (severity : Severity) : ofWord? severity.word = some severity := by
  cases severity <;> rfl

end Severity

end RestrictedApi
