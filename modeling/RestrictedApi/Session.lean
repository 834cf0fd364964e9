import RestrictedApi.FileSystem
import RestrictedApi.Text.Terminal

/-!
# Sessions

What a command does to the world around it: it prints, it logs, and it reads and writes files.  All
of this is a value, the console.  A command that fails keeps what it has done until then.
-/

namespace RestrictedApi

inductive LogLevel where
  | info
  | warn
  deriving DecidableEq, Repr, Inhabited

structure LogLine where
  level : LogLevel
  text : String
  deriving DecidableEq, Repr, Inhabited

structure Console where
  files : FileSystem := {}
  output : String := ""
  log : List LogLine := []
  deriving Inhabited

/-- A failure as shown to the user: what could not be done, and the causes, outermost first. -/
structure Failure where
  message : String
  causes : List String := []
  deriving DecidableEq, Repr, Inhabited

abbrev Session (ε α : Type) : Type :=
  ExceptT ε (StateM Console) α

namespace Session

def print {ε : Type} (text : String) : Session ε Unit :=
  modify fun console => { console with output := console.output ++ text }

/-- Write a line to the log, in a form that a terminal shows as it is. -/
def log {ε : Type} (level : LogLevel) (text : String) : Session ε Unit :=
  modify fun console => { console with log := console.log ++ [⟨level, Text.forTerminal text⟩] }

def within {ε α : Type} (message : String) (causes : ε → List String) (result : Except ε α) :
    Session Failure α :=
  match result with
  | .ok value => pure value
  | .error error => throw { message, causes := causes error }

end Session

end RestrictedApi
