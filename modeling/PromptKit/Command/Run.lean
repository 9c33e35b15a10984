import PromptKit.Command.Assignment
import PromptKit.Command.Options
import PromptKit.Config.File
import PromptKit.Prompt.Message

/-!
Running a command: what it prints and the code it exits with. A command that fails prints nothing on
its standard output.
-/
namespace PromptKit.Command

open Render (Context World)

inductive CommandError where
  | prompt (e : PromptError)
  | templateUnread (path : String) (fault : FileFault)
  | memoryUnread (path : String) (fault : FileFault)
  | memoryUnfit (path : String) (e : PromptError)
  | assignment (fault : AssignmentFault)

namespace CommandError

def message : CommandError → String
  | prompt e => e.message
  | templateUnread path _ => "Failed to read template \x27" ++ path ++ "\x27"
  | memoryUnread path _ => "Failed to read memory file \x27" ++ path ++ "\x27"
  | memoryUnfit path _ => "Failed to load memory file \x27" ++ path ++ "\x27"
  | assignment fault => fault.message

/-- What an error comes from, where the message does not say it. -/
def cause? : CommandError → Option String
  | templateUnread _ fault => some fault.message
  | memoryUnread _ fault => some fault.message
  | memoryUnfit _ e => some e.message
  | _ => none

def report (e : CommandError) : String :=
  "Error: " ++ e.message ++ (e.cause?.map ("\n\nCaused by:\n    " ++ ·)).getD "" ++ "\n"

end CommandError

structure Outcome where
  exit : Nat := 0
  stdout : String := ""
  stderr : String := ""

def loadMemory (files : Files) : Option String → Except CommandError Memory
  | none => .ok .empty
  | some path => do
    let text ← (files.text path).mapError (.memoryUnread path)
    (Memory.ofText text).mapError (.memoryUnfit path)

def renderMemory (files : Files) (o : RenderOptions) : Except CommandError Memory := do
  let m ← loadMemory files o.memory
  (assign m o.assignments).mapError .assignment

structure Rendering where
  text : String
  length : Nat
  maxTokens : Nat

def renderLayout (l : Layout) (clock : Clock) (m : Memory) (asText : Bool) (maxTokens : Nat) :
    Except PromptError (Rendered String) :=
  let ctx : Context := ⟨.withBuiltins, .chars, clock⟩
  let w : World := ⟨.ofMemory m, false⟩
  if asText then (l.renderText ctx w maxTokens).1
  else (l.renderMessages ctx w maxTokens).1.map fun r =>
    ⟨(messagesToJson r.output).pretty, r.length, r.tooLong⟩

/-- Renders a prompt. The configuration comes first, then the memory, then the rendering itself. -/
def renderPrompt (files : Files) (clock : Clock) (o : RenderOptions) :
    Except CommandError Rendering := do
  let config ← (PromptConfig.load files o.config).mapError .prompt
  let layout ← config.layout.mapError .prompt
  let maxTokens := o.maxTokens.getD config.maxTokens
  let m ← renderMemory files o
  let r ← (renderLayout layout clock m o.asText maxTokens).mapError .prompt
  return ⟨r.output, r.length, maxTokens⟩

def templateText (files : Files) : TemplateSource → Except CommandError String
  | .given template => .ok template
  | .file path => (files.text path).mapError (.templateUnread path)

def compileText (files : Files) (source : TemplateSource) : Except CommandError String := do
  let text ← templateText files source
  let ds ← (Template.compile text).mapError .prompt
  return (Json.Value.array (ds.map Template.Directive.toJson)).pretty

def failed (e : CommandError) : Outcome := { exit := 1, stderr := e.report }

def versionText : String := "promptweave 0.4.2\n"

def helpText : String :=
  "Compile and render token-budgeted prompt templates\n\n" ++
  "Usage: promptweave <COMMAND>\n\n" ++
  "Commands:\n" ++
  "  render     Render a prompt configuration into messages or text\n" ++
  "  compile    Compile a template and print its directives as JSON\n" ++
  "  functions  List the builtin template functions\n" ++
  "  help       Print this message or the help of the given subcommand(s)\n\n" ++
  "Options:\n" ++
  "  -h, --help     Print help\n" ++
  "  -V, --version  Print version\n"

def run (files : Files) (clock : Clock) : Command → Outcome
  | .render o =>
    match renderPrompt files clock o with
    | .ok r =>
      { stdout := r.text ++ "\n"
        stderr := "rendered " ++ toString r.length ++ " / " ++ toString r.maxTokens ++ " tokens\n" }
    | .error e => failed e
  | .compile source =>
    match compileText files source with
    | .ok text => { stdout := text ++ "\n" }
    | .error e => failed e
  | .functions => { stdout := String.join (Builtin.all.map fun b => b.name ++ "\n") }
  | .help => { stdout := helpText }
  | .version => { stdout := versionText }

def runArgs (files : Files) (clock : Clock) (environment : Option String) (args : List String) :
    Outcome :=
  match ofArgs environment args with
  | .ok c => c.run files clock
  | .error fault => { exit := 2, stderr := "error: " ++ fault.message ++ "\n" }

def paths : Command → List String
  | .render o => o.config :: o.memory.toList
  | .compile (.file path) => [path]
  | _ => []

end PromptKit.Command
