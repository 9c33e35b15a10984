import PromptKit.Template.Arguments
import PromptKit.Template.Outline

/-!
Compiling a template: the directives of its outline, in order. Empty texts and empty holes leave no
directive.
-/
namespace PromptKit.Template

def textDirective (content : List Char) : List Directive :=
  if content.isEmpty then [] else [.text (String.ofList content)]

def bodyDirective : List Char → List Directive
  | [] => []
  | '$' :: key => [.lookup (String.ofList key)]
  | body => [.call (parseBody body).1 (parseBody body).2]

def Outline.directives (o : Outline) : List Directive :=
  textDirective o.lead ++ o.holes.flatMap fun h => bodyDirective h.body ++ textDirective h.after

def compile (source : String) : Except PromptError (List Directive) :=
  match outline source.toList with
  | .ok o => .ok o.directives
  | .error e => .error (.malformedTemplate e.construct e.offset)

end PromptKit.Template

namespace PromptKit

open Template

structure CompiledTemplate where
  source : String
  directives : List Directive
  deriving DecidableEq, Repr

namespace CompiledTemplate

def ofSource (source : String) : Except PromptError CompiledTemplate :=
  (compile source).map fun directives => ⟨source, directives⟩

def size (t : CompiledTemplate) : Nat := t.directives.length

def isStatic (t : CompiledTemplate) : Bool := !t.directives.any Directive.isDynamic

end CompiledTemplate

end PromptKit
