import PromptKit.Memory
import PromptKit.Text.Search

/-!
Assignments on the command line: a key, an equals sign, and a value, which is JSON if it can be read
as that and text otherwise. A later assignment of a key replaces an earlier one.
-/
namespace PromptKit.Command

open Json (Value)

structure Assignment where
  key : String
  value : Value

inductive AssignmentFault where
  | noEquals (entry : String)
  | emptyKey (entry : String)
  deriving DecidableEq, Repr

def AssignmentFault.message : AssignmentFault → String
  | .noEquals entry => "expected KEY=VALUE, got \x27" ++ entry ++ "\x27"
  | .emptyKey entry => "empty key in \x27" ++ entry ++ "\x27"

def valueOfText (text : String) : Value :=
  match Json.parse text with
  | .ok v => v
  | .error _ => .string text

def Assignment.ofText (entry : String) : Except AssignmentFault Assignment :=
  match Text.splitFirst '=' entry.toList with
  | (_, none) => .error (.noEquals entry)
  | (key, some value) =>
    if key.isEmpty then .error (.emptyKey entry)
    else .ok ⟨String.ofList key, valueOfText (String.ofList value)⟩

def assign (m : Memory) (entries : List String) : Except AssignmentFault Memory :=
  entries.foldlM (fun m entry => (Assignment.ofText entry).map fun a => m.set a.key a.value) m

end PromptKit.Command
