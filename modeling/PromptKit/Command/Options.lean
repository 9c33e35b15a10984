import PromptKit.Decimal.Reader
import PromptKit.Text.Search

/-!
The command line: which command is meant, and with which options. An option takes its value after an
equals sign or from the next argument; a short one also right after its letter.
-/
namespace PromptKit.Command

inductive Switch where
  | config
  | memory
  | set
  | maxTokens
  | text
  | template
  | file
  | help
  | version
  deriving DecidableEq, Repr

namespace Switch

def long : Switch → String
  | config => "config"
  | memory => "memory"
  | set => "set"
  | maxTokens => "max-tokens"
  | text => "text"
  | template => "template"
  | file => "file"
  | help => "help"
  | version => "version"

def short : Switch → Option Char
  | config => some 'c'
  | memory => some 'm'
  | template => some 't'
  | file => some 'f'
  | help => some 'h'
  | version => some 'V'
  | set | maxTokens | text => none

def takesValue : Switch → Bool
  | text | help | version => false
  | _ => true

def repeats : Switch → Bool
  | set => true
  | _ => false

def ends : Switch → Bool
  | help | version => true
  | _ => false

def isPath : Switch → Bool
  | config | memory | file => true
  | _ => false

end Switch

inductive UsageFault where
  | noCommand
  | unknownCommand (name : String)
  | unexpected (arg : String)
  | noValue (s : Switch)
  | unwantedValue (s : Switch)
  | badValue (s : Switch) (value : String)
  | repeated (s : Switch)
  | conflict (a b : Switch)
  | required (a b : Switch)
  deriving DecidableEq, Repr

def UsageFault.message : UsageFault → String
  | noCommand => "a command is required"
  | unknownCommand name => "unrecognized subcommand \x27" ++ name ++ "\x27"
  | unexpected arg => "unexpected argument \x27" ++ arg ++ "\x27 found"
  | noValue s => "a value is required for \x27--" ++ s.long ++ "\x27 but none was supplied"
  | unwantedValue s => "unexpected value for \x27--" ++ s.long ++ "\x27 found"
  | badValue s value => "invalid value \x27" ++ value ++ "\x27 for \x27--" ++ s.long ++ "\x27"
  | repeated s => "the argument \x27--" ++ s.long ++ "\x27 cannot be used multiple times"
  | conflict a b =>
    "the argument \x27--" ++ a.long ++ "\x27 cannot be used with \x27--" ++ b.long ++ "\x27"
  | required a b => "one of \x27--" ++ a.long ++ "\x27 and \x27--" ++ b.long ++ "\x27 is required"

/-- A number of tokens: digits, after a plus sign if there is one, that write a word. -/
def tokens? (value : String) : Option Nat :=
  let digits :=
    match value.toList with
    | '+' :: rest => rest
    | cs => cs
  (Decimal.ofDigits? 10 digits).filter (· < wordLimit)

abbrev Setting := Switch × String

/-- A dash alone is a value, and nothing else that begins with one. -/
private def isValue (arg : String) : Bool := !arg.startsWith "-" || arg = "-"

private def valueOf (s : Switch) (attached : Option String) (rest : List String) :
    Except UsageFault (String × List String) :=
  match attached, rest with
  | some v, _ => if s.takesValue then .ok (v, rest) else .error (.unwantedValue s)
  | none, [] => if s.takesValue then .error (.noValue s) else .ok ("", [])
  | none, arg :: more =>
    if !s.takesValue then .ok ("", rest)
    else if isValue arg then .ok (arg, more)
    else .error (.noValue s)

private def switchOf (allowed : List Switch) (arg : String) :
    Except UsageFault (Switch × Option String) :=
  match arg.toList with
  | '-' :: '-' :: name =>
    let (name, value) := Text.splitFirst '=' name
    match allowed.find? fun s => s.long = String.ofList name with
    | some s => .ok (s, value.map String.ofList)
    | none => .error (.unexpected arg)
  | '-' :: letter :: value =>
    match allowed.find? fun s => s.short = some letter with
    | some s =>
      if !s.takesValue && s.ends then .ok (s, none)
      else
        match value with
        | [] => .ok (s, none)
        | '=' :: value => .ok (s, some (String.ofList value))
        | value => .ok (s, some (String.ofList value))
    | none => .error (.unexpected arg)
  | _ => .error (.unexpected arg)

/-- The settings that arguments give, up to one that ends them. The fuel is the number of arguments. -/
def settings (allowed : List Switch) : Nat → List String → Except UsageFault (List Setting)
  | _, [] => .ok []
  | 0, arg :: _ => .error (.unexpected arg)
  | fuel + 1, arg :: rest =>
    if arg = "--" then
      match rest with
      | [] => .ok []
      | arg :: _ => .error (.unexpected arg)
    else do
      let (s, attached) ← switchOf allowed arg
      let (value, rest) ← valueOf s attached rest
      if s.ends then return [(s, value)] else return (s, value) :: (← settings allowed fuel rest)

def checkSettings : List Switch → List Setting → Except UsageFault Unit
  | _, [] => .ok ()
  | seen, (s, value) :: rest => do
    if seen.contains s && !s.repeats then throw (.repeated s)
    if s.isPath && value.isEmpty then throw (.noValue s)
    if s = .maxTokens && (tokens? value).isNone then throw (.badValue s value)
    checkSettings (s :: seen) rest

def valueOf? (s : Switch) (given : List Setting) : Option String := given.lookup s

def valuesOf (s : Switch) (given : List Setting) : List String :=
  (given.filter (·.1 = s)).map (·.2)

def isGiven (s : Switch) (given : List Setting) : Bool := given.any (·.1 = s)

structure RenderOptions where
  config : String := "prompt.toml"
  memory : Option String := none
  assignments : List String := []
  maxTokens : Option Nat := none
  asText : Bool := false

inductive TemplateSource where
  | given (template : String)
  | file (path : String)

end Command

inductive Command where
  | render (options : Command.RenderOptions)
  | compile (source : Command.TemplateSource)
  | functions
  | help
  | version

namespace Command

/-- The options of a render. A limit that the environment gives counts where the command line gives
none, and then has to be a number. -/
def renderOptions (environment : Option String) (given : List Setting) :
    Except UsageFault RenderOptions := do
  let maxTokens ← match valueOf? .maxTokens given, environment with
    | some value, _ => pure (tokens? value)
    | none, some value =>
      match tokens? value with
      | some n => pure (some n)
      | none => throw (.badValue .maxTokens value)
    | none, none => pure none
  return {
    config := (valueOf? .config given).getD ({} : RenderOptions).config
    memory := valueOf? .memory given
    assignments := valuesOf .set given
    maxTokens
    asText := isGiven .text given }

def templateSource (given : List Setting) : Except UsageFault TemplateSource :=
  match valueOf? .template given, valueOf? .file given with
  | some template, none => .ok (.given template)
  | none, some path => .ok (.file path)
  | some _, some _ => .error (.conflict .template .file)
  | none, none => .error (.required .template .file)

/-- Reads the arguments of a command; a request for help goes before what is missing. -/
private def commandOf (allowed : List Switch) (args : List String)
    (build : List Setting → Except UsageFault Command) : Except UsageFault Command := do
  let given ← settings (.help :: allowed) args.length args
  checkSettings [] given
  if isGiven .help given then return .help else build given

def ofArgs (environment : Option String) : List String → Except UsageFault Command
  | "render" :: args =>
    commandOf [.config, .memory, .set, .maxTokens, .text] args fun given =>
      (renderOptions environment given).map .render
  | "compile" :: args =>
    commandOf [.template, .file] args fun given => (templateSource given).map .compile
  | "functions" :: args => commandOf [] args fun _ => .ok .functions
  | "help" :: names =>
    match names.find? fun n => ["render", "compile", "functions", "help"].all (· ≠ n) with
    | some name => .error (.unknownCommand name)
    | none => .ok .help
  | [] => .error .noCommand
  | arg :: rest =>
    if arg.startsWith "-" then do
      let given ← settings [.help, .version] (rest.length + 1) (arg :: rest)
      if isGiven .version given then return .version
      else if isGiven .help given then return .help
      else throw .noCommand
    else .error (.unknownCommand arg)

end PromptKit.Command
