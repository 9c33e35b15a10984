import PromptKit.Function.Registry

/-!
Registrations, one after another. A registration that fails adds nothing, except that the builtins
before a taken name stay.
-/
namespace PromptKit

inductive Registry.Step where
  | add (name : String) (f : PromptFunction)
  | share (name source : String)
  | addBuiltins

namespace Registry

inductive Report where
  | added
  | failed (error : PromptError)
  | absent

private def settle (r : Registry) : Except PromptError Registry → Registry × Report
  | .ok added => (added, .added)
  | .error e => (r, .failed e)

def step (r : Registry) : Step → Registry × Report
  | .add name f => r.settle (r.add name f)
  | .share name source =>
    match r.get? source with
    | some f => r.settle (r.add name f)
    | none => (r, .absent)
  | .addBuiltins =>
    match r.addBuiltins Builtin.all with
    | (r, .ok ()) => (r, .added)
    | (r, .error e) => (r, .failed e)

def stepAll (r : Registry) (steps : List Step) : Registry :=
  steps.foldl (fun r s => (r.step s).1) r

end Registry

end PromptKit
