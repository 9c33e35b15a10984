import PromptKit.Prompt.Layout
import PromptKit.Text.Blank

/-!
The configuration of a prompt, its faults, and the layout it describes.
-/
namespace PromptKit

structure SectionConfig where
  template : String := ""
  role : String := "system"
  budget : Budget := {}

structure PromptConfig where
  maxTokens : Nat := 4096
  separator : String := "\n\n"
  sections : List SectionConfig := []

inductive ConfigFault where
  | zeroMaxTokens
  | noSections
  | emptyRole (index : Nat)
  deriving DecidableEq, Repr

def ConfigFault.toError : ConfigFault → PromptError
  | .zeroMaxTokens => .config "max_tokens must be greater than zero" none
  | .noSections => .config "prompt has no sections" none
  | .emptyRole index =>
    .config "section role must not be empty" (some ("section " ++ toString index))

def SectionConfig.hasRole (s : SectionConfig) : Bool := !(Text.trim s.role).isEmpty

def SectionConfig.compile (s : SectionConfig) : Except PromptError TemplateSection :=
  (CompiledTemplate.ofSource s.template).map fun template => ⟨template, s.role, s.budget⟩

namespace PromptConfig

/-- The first fault, in the order of the constructors. -/
def fault? (c : PromptConfig) : Option ConfigFault :=
  if c.maxTokens = 0 then some .zeroMaxTokens
  else if c.sections.isEmpty then some .noSections
  else (c.sections.findIdx? fun s => !s.hasRole).map .emptyRole

def validate (c : PromptConfig) : Except PromptError Unit :=
  match c.fault? with
  | some fault => .error fault.toError
  | none => .ok ()

def layout (c : PromptConfig) : Except PromptError Layout := do
  c.validate
  let sections ← c.sections.mapM SectionConfig.compile
  return ⟨sections.map .template, c.separator⟩

end PromptConfig

end PromptKit
