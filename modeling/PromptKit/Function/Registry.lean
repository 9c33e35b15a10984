import PromptKit.Function.Builtin
import PromptKit.Text.Visible

/-!
The functions that templates can call, by name. A name is never registered twice.
-/
namespace PromptKit

structure Registry where
  functions : Dict PromptFunction

namespace Registry

def empty : Registry := ⟨.empty⟩

def get? (r : Registry) (name : String) : Option PromptFunction := r.functions.get? name

def has (r : Registry) (name : String) : Bool := r.functions.has name

def names (r : Registry) : List String := r.functions.keys

def size (r : Registry) : Nat := r.functions.size

def isEmpty (r : Registry) : Bool := r.functions.isEmpty

def add (r : Registry) (name : String) (f : PromptFunction) : Except PromptError Registry :=
  if r.has name then .error (.duplicateFunction name)
  else .ok ⟨r.functions.insert name f⟩

/-- Registers builtins up to the first whose name is taken. -/
def addBuiltins (r : Registry) : List Builtin → Registry × Except PromptError Unit
  | [] => (r, .ok ())
  | b :: rest =>
    match r.add b.name b.function with
    | .ok r => r.addBuiltins rest
    | .error e => (r, .error e)

def withBuiltins : Registry := (empty.addBuiltins Builtin.all).1

def scope (r : Registry) (clock : Clock) : Scope := ⟨r.has, clock⟩

/-- What is called under a name; under a name that nobody registered, a call fails. -/
def function (r : Registry) (name : String) : PromptFunction := (r.get? name).getD (.unknown name)

def invoke (r : Registry) (scope : Scope) (name : String) (args : List String) (store : Store) :
    Outcome :=
  (r.function name).call scope args store

def describe (r : Registry) : String :=
  "FunctionRegistry \x7b functions: [" ++ ", ".intercalate (r.names.map Text.shown) ++ "] \x7d"

end Registry

end PromptKit
