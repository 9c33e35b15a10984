import PromptKit.Config.Basic
import PromptKit.Shape

/-!
The shapes of configurations, budgets and messages, and what data of such a shape says. Absent fields
have the values they have in the structures themselves.
-/
namespace PromptKit

open Json (Value)

class Readable (α : Type) where
  shape : Shape
  ofDatum : Datum → α

def readValue (α : Type) [Readable α] (v : Value) : Except PromptError α :=
  match (Readable.shape α).ofValue v with
  | .ok d => .ok (Readable.ofDatum d)
  | .error misfit => .error (.json misfit.message)

private def budgetFields : List (String × Shape) :=
  [("tokens", .real), ("required", .flag), ("separator", .text), ("text_prefix", .text)]

private def budgetAt (d : Datum) (first : Nat) : Budget :=
  let absent : Budget := {}
  { tokens := Datum.realD absent.tokens (d.field first)
    required := Datum.flagD absent.required (d.field (first + 1))
    separator := Datum.textD absent.separator (d.field (first + 2))
    textPrefix := Datum.textD absent.textPrefix (d.field (first + 3)) }

instance : Readable Budget where
  shape := .record "SectionBudget" true budgetFields
  ofDatum d := budgetAt d 0

instance : Readable SectionConfig where
  shape := .record "SectionConfig" true ([("template", .text), ("role", .text)] ++ budgetFields)
  ofDatum d :=
    let absent : SectionConfig := {}
    { template := Datum.textD absent.template (d.field 0)
      role := Datum.textD absent.role (d.field 1)
      budget := budgetAt d 2 }

instance : Readable PromptConfig where
  shape := .record "PromptConfig" true
    [("max_tokens", .word), ("separator", .text),
      ("sections", .list (Readable.shape SectionConfig))]
  ofDatum d :=
    let absent : PromptConfig := {}
    { maxTokens := Datum.wordD absent.maxTokens (d.field 0)
      separator := Datum.textD absent.separator (d.field 1)
      sections := (Datum.items (d.field 2)).map Readable.ofDatum }

instance : Readable Message where
  shape := .record "Message" false [("role", .text), ("content", .text)]
  ofDatum d := ⟨Datum.textD "" (d.field 0), Datum.textD "" (d.field 1)⟩

instance [Readable α] : Readable (List α) where
  shape := .list (Readable.shape α)
  ofDatum d := (Datum.items (some d)).map Readable.ofDatum

instance : Readable (Rendered (List Message)) where
  shape := .record "RenderedSection" false
    [("output", Readable.shape (List Message)), ("length", .word), ("too_long", .flag)]
  ofDatum d :=
    { output := (Datum.items (d.field 0)).map Readable.ofDatum
      length := Datum.wordD 0 (d.field 1)
      tooLong := Datum.flagD false (d.field 2) }

end PromptKit
