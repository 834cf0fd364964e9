import RestrictedApi.Command
import RestrictedApi.Command.Help

/-!
# The command line

The arguments of the program: options that any command takes, the name of a command, and the options
of that command.  An option may be written `--name value`, `--name=value` or, if it has a letter,
`-n value`, `-nvalue` or `-n=value`; letters of options without a value can be joined.  After `--`
nothing is an option.
-/

namespace RestrictedApi
namespace Command

inductive ValueKind where
  | any
  | path
  | format
  deriving DecidableEq, Repr

namespace ValueKind

def accepts : ValueKind → String → Bool
  | .any, _ => true
  | .path, value => value ≠ ""
  | .format, value => (OutputFormat.ofWord? value).isSome

end ValueKind

structure OptionSpec where
  name : String
  letter : Option Char := none
  value : Option ValueKind := none
  repeatable : Bool := false
  deriving DecidableEq, Repr

def sharedOptions : List OptionSpec := [
  { name := "verbose", letter := some 'v' },
  { name := "config", letter := some 'c', value := some .path },
  { name := "preset", value := some .any }]

def checkOptions : List OptionSpec := [
  { name := "format", letter := some 'f', value := some .format },
  { name := "rules", value := some .any },
  { name := "exclude", letter := some 'e', value := some .any, repeatable := true }]

def initOptions : List OptionSpec := [{ name := "force" }]

def pathSpec : OptionSpec := { name := "path", value := some .path }

structure Grammar where
  topic : HelpTopic
  options : List OptionSpec
  positionals : List OptionSpec := []
  deriving DecidableEq, Repr

namespace Grammar

def program : Grammar := { topic := .program, options := sharedOptions }

def isProgram (grammar : Grammar) : Bool :=
  grammar.topic = .program

end Grammar

inductive Interruption where
  | usage
  | help (topic : HelpTopic) (long : Bool)
  | version
  deriving DecidableEq, Repr

structure Arguments where
  options : List (String × String) := []
  /-- A value that has not been looked at yet.  This happens when the next option or value comes, or
  at the end. -/
  pending : Option (OptionSpec × String) := none
  deriving DecidableEq, Repr

namespace Arguments

def value? (arguments : Arguments) (name : String) : Option String :=
  (arguments.options.reverse.lookup name)

def values (arguments : Arguments) (name : String) : List String :=
  (arguments.options.filter fun option => option.1 = name).map (·.2)

/-- Add an option.  Most options can be given only once, and values have to be of the right kind. -/
def add (arguments : Arguments) (spec : OptionSpec) (value : String) :
    Except Interruption Arguments :=
  if !spec.repeatable && (arguments.value? spec.name).isSome then .error .usage
  else if !spec.value.all (·.accepts value) then .error .usage
  else .ok { arguments with options := arguments.options ++ [(spec.name, value)] }

def settle (arguments : Arguments) : Except Interruption Arguments :=
  match arguments.pending with
  | none => .ok arguments
  | some (spec, value) => { arguments with pending := none }.add spec value

end Arguments

inductive Token where
  /-- Options, the last of which may still need a value. -/
  | options (arguments : Arguments) (awaits : Option OptionSpec)
  | escape
  | plain

def readLetters (grammar : Grammar) (arguments : Arguments) :
    List Char → Except Interruption Token
  | [] => .ok (.options arguments none)
  | letter :: rest =>
      match grammar.options.find? fun spec => spec.letter = some letter with
      | none =>
          if letter = 'h' then .error (.help grammar.topic false)
          else if letter = 'V' && grammar.isProgram then .error .version
          else .error .usage
      | some spec =>
          match spec.value, rest with
          | none, _ => do readLetters grammar (← arguments.add spec "") rest
          | some _, [] => .ok (.options arguments (some spec))
          | some _, '=' :: value => do
              return .options (← arguments.add spec (String.ofList value)) none
          | some _, value => do
              return .options (← arguments.add spec (String.ofList value)) none

def readLong (grammar : Grammar) (arguments : Arguments) (text : List Char) :
    Except Interruption Token :=
  let name := String.ofList (text.takeWhile (· ≠ '='))
  let value := (text.dropWhile (· ≠ '=')).tail?.map String.ofList
  match grammar.options.find? fun spec => spec.name = name with
  | none =>
      if value.isSome then .error .usage
      else if name = "help" then .error (.help grammar.topic true)
      else if name = "version" && grammar.isProgram then .error .version
      else .error .usage
  | some spec =>
      match spec.value, value with
      | none, none => do return .options (← arguments.add spec "") none
      | none, some _ => .error .usage
      | some _, none => .ok (.options arguments (some spec))
      | some _, some value => do return .options (← arguments.add spec value) none

def isPlain (argument : String) : Bool :=
  argument = "-" || !Text.begins argument "-"

/-- Read one argument.  An option settles what was pending before it. -/
def readToken (grammar : Grammar) (arguments : Arguments) (argument : String) :
    Except Interruption Token :=
  match argument.toList with
  | ['-', '-'] => .ok .escape
  | '-' :: '-' :: text => do readLong grammar (← arguments.settle) text
  | '-' :: letter :: rest => do readLetters grammar (← arguments.settle) (letter :: rest)
  | _ => .ok .plain

def readPositionals (specs : List OptionSpec) (arguments : Arguments) :
    List String → Except Interruption Arguments
  | [] => .ok arguments
  | value :: rest =>
      match specs with
      | [] => .error .usage
      | spec :: specs => do
          let arguments ← arguments.settle
          readPositionals specs { arguments with pending := some (spec, value) } rest

/-- Read arguments: those of a command to their end, and those of the program up to the name of the
command.  What is left is given back.  A value at the end stays pending. -/
def readArguments (grammar : Grammar) (awaits : Option OptionSpec) (arguments : Arguments) :
    List String → Except Interruption (Arguments × List String)
  | [] => if awaits.isSome then .error .usage else .ok (arguments, [])
  | argument :: rest =>
      match awaits with
      | some spec =>
          if isPlain argument then
            readArguments grammar none { arguments with pending := some (spec, argument) } rest
          else .error .usage
      | none => do
          match ← readToken grammar arguments argument with
          | .plain =>
              if grammar.isProgram then return (arguments, argument :: rest)
              else
                let arguments ← readPositionals grammar.positionals arguments [argument]
                let grammar := { grammar with positionals := grammar.positionals.tail }
                readArguments grammar none arguments rest
          | .escape =>
              if grammar.isProgram then .error .usage
              else return (← readPositionals grammar.positionals arguments rest, [])
          | .options arguments awaits => readArguments grammar awaits arguments rest

inductive Action where
  | check (options : CheckOptions)
  | listRules
  | init (force : Bool)
  deriving DecidableEq, Repr

structure CommandLine where
  config : Option SourcePath := none
  preset : Option String := none
  action : Action
  deriving DecidableEq, Repr

def Action.ofArguments (topic : HelpTopic) (arguments : Arguments) : Except Interruption Action :=
  match topic with
  | .check =>
      .ok (.check {
        path := ⟨(arguments.value? "path").getD "."⟩
        format := ((arguments.value? "format").bind OutputFormat.ofWord?).getD .text
        rules := arguments.value? "rules"
        exclude := arguments.values "exclude" })
  | .listRules => .ok .listRules
  | .init => .ok (.init (arguments.value? "force").isSome)
  | _ => .error .usage

def grammarOf? : String → Option Grammar
  | "check" => some {
      topic := .check, options := checkOptions ++ sharedOptions, positionals := [pathSpec] }
  | "list-rules" => some { topic := .listRules, options := sharedOptions }
  | "init" => some { topic := .init, options := initOptions ++ sharedOptions }
  | _ => none

def helpOn : List String → Interruption
  | [] => .help .program true
  | ["help"] => .help .help true
  | [name] => (grammarOf? name).elim .usage fun grammar => .help grammar.topic true
  | _ => .usage

/-- Read the arguments of the program.  A shared option after the name of the command is stronger
than one before it. -/
def CommandLine.parse (arguments : List String) : Except Interruption CommandLine := do
  let (before, rest) ← readArguments .program none {} arguments
  match rest with
  | [] => .error .usage
  | "help" :: topics => .error (helpOn topics)
  | name :: rest =>
      match grammarOf? name with
      | none => .error .usage
      | some grammar =>
          let (after, _) ← readArguments grammar none {} rest
          let after ← after.settle
          let before ← before.settle
          let action ← Action.ofArguments grammar.topic after
          let shared (name : String) := after.value? name <|> before.value? name
          let config := (shared "config").map SourcePath.mk
          return { config, preset := shared "preset", action }

structure Outcome where
  exitCode : Nat
  failure : Option Failure := none
  deriving DecidableEq, Repr, Inhabited

def perform (environment : Environment) (line : CommandLine) : Session Failure Bool := do
  match line.action with
  | .check options => do
      let loaded ← LoadedConfig.load environment options.path line.config
      check environment options (loaded.withPreset line.preset)
  | .listRules => do
      let loaded ← LoadedConfig.load environment ⟨"."⟩ line.config
      listRules (loaded.withPreset line.preset)
      return false
  | .init force => do
      init environment force
      return false

def run (environment : Environment) (arguments : List String) (console : Console) :
    Outcome × Console :=
  let printed (lines : List String) : Console :=
    { console with output := console.output ++ String.join (lines.map (· ++ "\n")) }
  match CommandLine.parse arguments with
  | .error .usage => ({ exitCode := 2 }, console)
  | .error (.help topic long) => ({ exitCode := 0 }, printed (topic.lines long))
  | .error .version => ({ exitCode := 0 }, printed ["unstable-lint 0.2.0"])
  | .ok line =>
      match (perform environment line).run.run console with
      | (.ok found, console) => ({ exitCode := if found then 1 else 0 }, console)
      | (.error failure, console) => ({ exitCode := 1, failure := some failure }, console)

end Command
end RestrictedApi
