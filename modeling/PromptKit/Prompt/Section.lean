import PromptKit.Prompt.Budget
import PromptKit.Render.Schedule
import PromptKit.Template.Compiled

/-!
Sections: a template that renders to one message, or messages that are already there.
-/
namespace PromptKit

open Render (Context World)

structure TemplateSection where
  template : CompiledTemplate
  role : String
  budget : Budget

inductive PromptSection where
  | template (content : TemplateSection)
  | messages (content : List Message) (budget : Budget)

namespace TemplateSection

/-- The text of the parts; the length is measured on it. An empty text is no message. -/
def renderMessages (s : TemplateSection) (ctx : Context) (w : World) (maxTokens : Nat) :
    Except PromptError (Rendered (List Message)) × World :=
  let run := Render.run ctx s.template.directives w
  let result := run.result.map fun parts =>
    let text := String.join parts
    let messages := if text.isEmpty then [] else [⟨s.role, text⟩]
    s.budget.messages ctx.tokenizer messages (ctx.tokenizer.count text) maxTokens
  (result, run.world)

end TemplateSection

namespace PromptSection

def budget : PromptSection → Budget
  | template s => s.budget
  | messages _ b => b

def required (s : PromptSection) : Bool := s.budget.required

def renderMessages (s : PromptSection) (ctx : Context) (w : World) (maxTokens : Nat) :
    Except PromptError (Rendered (List Message)) × World :=
  match s with
  | template t => t.renderMessages ctx w maxTokens
  | messages content b =>
    let length := contentLength ctx.tokenizer content
    (.ok (b.messages ctx.tokenizer content length maxTokens), w)

def renderText (s : PromptSection) (ctx : Context) (w : World) (maxTokens : Nat) :
    Except PromptError (Rendered String) × World :=
  let (rendered, w) := s.renderMessages ctx w maxTokens
  (rendered.map fun r => s.budget.text ctx.tokenizer r maxTokens, w)

end PromptSection

end PromptKit
