import PromptKit.Prompt.Section
import PromptKit.Text.Visible

/-!
A layout: sections that are rendered in order and share one budget. A section that does not fit in
what is left is dropped if it is optional, and fails the layout if it is required.
-/
namespace PromptKit

open Render (Context World)

structure Layout where
  sections : List PromptSection := []
  separator : String := "\n\n"

namespace Layout

def push (l : Layout) (s : PromptSection) : Layout := { l with sections := l.sections ++ [s] }

def messagesFrom (ctx : Context) (maxTokens : Nat) :
    (index length : Nat) → List Message → List PromptSection → World →
      Except PromptError (Rendered (List Message)) × World
  | _, length, output, [], w => (.ok ⟨output, length, false⟩, w)
  | index, length, output, s :: rest, w =>
    let budget := s.budget.tokenBudget (maxTokens - length)
    match s.renderMessages ctx w budget with
    | (.error e, w) => (.error e, w)
    | (.ok r, w) =>
      if r.tooLong then
        if s.required then (.error (.sectionTooLong index r.length budget), w)
        else messagesFrom ctx maxTokens (index + 1) length output rest w
      else messagesFrom ctx maxTokens (index + 1) (length + r.length) (output ++ r.output) rest w

def renderMessages (l : Layout) (ctx : Context) (w : World) (maxTokens : Nat) :
    Except PromptError (Rendered (List Message)) × World :=
  messagesFrom ctx maxTokens 0 0 [] l.sections w

/-- Renders the sections from an index on, after blocks of a length; the separator is counted before
every block but the first. Sections with empty text add no block. -/
def textFrom (ctx : Context) (separator : String) (maxTokens : Nat) :
    (index length : Nat) → List String → List PromptSection → World →
      Except PromptError (Rendered String) × World
  | _, length, blocks, [], w => (.ok ⟨separator.intercalate blocks, length, false⟩, w)
  | index, length, blocks, s :: rest, w =>
    let overhead := if blocks.isEmpty then 0 else ctx.tokenizer.count separator
    let budget := s.budget.tokenBudget (maxTokens - (length + overhead))
    match s.renderText ctx w budget with
    | (.error e, w) => (.error e, w)
    | (.ok r, w) =>
      if r.tooLong then
        if s.required then (.error (.sectionTooLong index r.length budget), w)
        else textFrom ctx separator maxTokens (index + 1) length blocks rest w
      else if r.output.isEmpty then
        textFrom ctx separator maxTokens (index + 1) length blocks rest w
      else
        textFrom ctx separator maxTokens (index + 1) (length + (overhead + r.length))
          (blocks ++ [r.output]) rest w

def renderText (l : Layout) (ctx : Context) (w : World) (maxTokens : Nat) :
    Except PromptError (Rendered String) × World :=
  textFrom ctx l.separator maxTokens 0 0 [] l.sections w

def describe (l : Layout) : String :=
  "PromptLayout \x7b sections: " ++ toString l.sections.length ++ ", separator: " ++
    Text.shown l.separator ++ " \x7d"

end Layout

def Render.World.describe (w : World) : String :=
  "RenderContext \x7b cancelled: " ++ (if w.cancelled then "true" else "false") ++ ", .. \x7d"

end PromptKit
