import PromptKit.Decimal.Binary64
import PromptKit.Prompt.Message
import PromptKit.Tokenizer

/-!
The budget of a section. A fixed budget cuts the output from its end; without one, output is only
marked as too long. The separator stands between messages in text, and the prefix before them. Main
statement: a claimed length counts like a measured one while it fits a word.
-/
namespace PromptKit

def contentLength (t : Tokenizer) : List Message → Nat
  | [] => 0
  | m :: rest => t.count m.content + contentLength t rest

structure Budget where
  tokens : Float := -1.0
  required : Bool := true
  separator : String := "\n"
  textPrefix : String := ""

namespace Budget

/-- The fixed budget; a fraction is dropped, and the greatest length stands for all beyond it. -/
def fixedTokens? (b : Budget) : Option Nat :=
  if b.tokens > 1.0 then some b.tokens.toUInt64.toNat else none

def tokenBudget (b : Budget) (maxTokens : Nat) : Nat :=
  match b.fixedTokens? with
  | some fixed => min fixed maxTokens
  | none => maxTokens

/-- Takes messages away from the end, here the front of the list, while the length exceeds the
budget; the last one taken is put back in part if that leaves room. -/
def trim (t : Tokenizer) (budget : Nat) : Nat → List Message → Nat × List Message
  | length, [] => (length, [])
  | length, m :: before =>
    if length ≤ budget then (length, m :: before)
    else
      let left := length - (t.encode m.content).length
      if left < budget then
        (budget, { m with content := t.take (budget - left) m.content } :: before)
      else trim t budget left before

def messages (b : Budget) (t : Tokenizer) (output : List Message) (length maxTokens : Nat) :
    Rendered (List Message) :=
  let (length, output) :=
    match b.fixedTokens? with
    | some budget =>
      let (length, kept) := trim t budget length output.reverse
      (length, kept.reverse)
    | none => (length, output)
  ⟨output, length, maxTokens < length⟩

def textLength (b : Budget) (t : Tokenizer) (length count : Nat) : Nat :=
  t.count b.textPrefix + length + (count - 1) * t.count b.separator

def textOfLength (b : Budget) (t : Tokenizer) (output : List Message) (length maxTokens : Nat) :
    Rendered String :=
  if output.isEmpty then ⟨"", 0, false⟩
  else
    let whole := b.textPrefix ++ b.separator.intercalate (output.map (·.content))
    match b.fixedTokens? with
    | some budget =>
      if budget < length then ⟨t.take budget whole, budget, maxTokens < budget⟩
      else ⟨whole, length, maxTokens < length⟩
    | none => ⟨whole, length, maxTokens < length⟩

def text (b : Budget) (t : Tokenizer) (rendered : Rendered (List Message)) (maxTokens : Nat) :
    Rendered String :=
  b.textOfLength t rendered.output (b.textLength t rendered.length rendered.output.length) maxTokens

def checkedLength? (b : Budget) (t : Tokenizer) (length count : Nat) : Option Nat := do
  let lead ← wordSum? (t.count b.textPrefix) length
  let joints ← wordProduct? (count - 1) (t.count b.separator)
  wordSum? lead joints

/-- The text of messages whose length is only claimed. A claim can be any word: there is no text where
a sum or a product on the way to the length of the whole does not fit one. -/
def textOfClaim (b : Budget) (t : Tokenizer) (rendered : Rendered (List Message)) (maxTokens : Nat) :
    Option (Rendered String) := do
  if rendered.output.isEmpty then return ⟨"", 0, false⟩
  let length ← b.checkedLength? t rendered.length rendered.output.length
  return b.textOfLength t rendered.output length maxTokens

/-- Every sum and product on the way fits a word just when the whole length does. -/
theorem checkedLength?_eq (b : Budget) (t : Tokenizer) (length count : Nat) :
    b.checkedLength? t length count =
      if b.textLength t length count < wordLimit then some (b.textLength t length count) else none := by
  unfold checkedLength? textLength wordSum? wordProduct?
  generalize (count - 1) * t.count b.separator = joints
  by_cases lead : t.count b.textPrefix + length < wordLimit
  · by_cases small : joints < wordLimit
    · rw [if_pos lead, if_pos small]
      rfl
    · have beyond : ¬ t.count b.textPrefix + length + joints < wordLimit := by omega
      rw [if_pos lead, if_neg small, if_neg beyond]
      rfl
  · have beyond : ¬ t.count b.textPrefix + length + joints < wordLimit := by omega
    rw [if_neg lead, if_neg beyond]
    rfl

/-- Where the length fits a word, a claim is as good as a measurement. -/
theorem textOfClaim_eq_text (b : Budget) (t : Tokenizer) (rendered : Rendered (List Message))
    (maxTokens : Nat)
    (fits : b.textLength t rendered.length rendered.output.length < wordLimit) :
    b.textOfClaim t rendered maxTokens = some (b.text t rendered maxTokens) := by
  unfold textOfClaim text
  rw [checkedLength?_eq, if_pos fits]
  cases empty : rendered.output.isEmpty with
  | true => simp [textOfLength, empty]
  | false => rfl

end Budget

end PromptKit
