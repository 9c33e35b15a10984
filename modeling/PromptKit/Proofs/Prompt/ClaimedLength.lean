import PromptKit.Proofs.Prompt.Removal
import PromptKit.Proofs.Prompt.Truncation

/-!
The text of messages whose length is claimed. There is one just when the sum of what the text takes fits a word,
and it is then what that sum asks for; past the greatest word the arithmetic stops, whatever the budget.
-/
namespace PromptKit

namespace Budget

variable {b : Budget} {t : Tokenizer} {ms : List Message}

/-- What the text of messages has to be like if it takes so many tokens in all. -/
structure TextOf (b : Budget) (t : Tokenizer) (ms : List Message) (sum maxTokens : Nat) (r : Rendered String) :
    Prop where
  unbudgeted : b.fixedTokens? = none → r.output = b.whole ms ∧ r.length = sum ∧ (r.tooLong = true ↔ maxTokens < sum)
  budgeted : ∀ fixed, b.fixedTokens? = some fixed → r.length = min sum fixed ∧
    (sum ≤ fixed → r.output = b.whole ms) ∧
    (fixed < sum → r.output = t.decode ((t.encode (b.whole ms)).take fixed)) ∧
    (r.tooLong = true ↔ maxTokens < min sum fixed)

theorem textOf_textOfLength (present : ms ≠ []) (sum maxTokens : Nat) :
    b.TextOf t ms sum maxTokens (b.textOfLength t ms sum maxTokens) := by
  have filled : ms.isEmpty = false := List.isEmpty_eq_false_iff.mpr present
  unfold textOfLength
  rw [filled, if_neg Bool.false_ne_true]
  constructor
  · intro unlimited
    rw [unlimited]
    exact ⟨rfl, rfl, decide_eq_true_iff⟩
  · intro fixed limited
    rw [limited]
    by_cases beyond : fixed < sum
    · have least : min sum fixed = fixed := by omega
      simp only [if_pos beyond, least]
      exact ⟨trivial, fun within => absurd beyond (Nat.not_lt.mpr within), fun _ => rfl, decide_eq_true_iff⟩
    · have least : min sum fixed = sum := by omega
      simp only [if_neg beyond, least]
      exact ⟨trivial, fun _ => rfl, fun beyond' => absurd beyond' beyond, decide_eq_true_iff⟩

/-- The text of messages of any claimed length: where the sum fits a word, no operation on the way overflows and
the text is what it has to be for that sum. Past the greatest word there is no text. -/
theorem text_of_claimed_length (b : Budget) (t : Tokenizer) (rendered : Rendered (List Message))
    (present : rendered.output ≠ []) (maxTokens : Nat) :
    let sum := t.count b.textPrefix + rendered.length + (rendered.output.length - 1) * t.count b.separator
    b.checkedLength? t rendered.length rendered.output.length = (if sum < wordLimit then some sum else none) ∧
    (sum < wordLimit → ∃ r, b.textOfClaim t rendered maxTokens = some r ∧
      b.TextOf t rendered.output sum maxTokens r) ∧
    (b.textOfClaim t rendered maxTokens = none ↔ wordLimit ≤ sum) := by
  intro sum
  have checked : b.checkedLength? t rendered.length rendered.output.length =
      if sum < wordLimit then some sum else none := b.checkedLength?_eq t _ _
  have filled : rendered.output.isEmpty = false := List.isEmpty_eq_false_iff.mpr present
  have text : b.textOfClaim t rendered maxTokens =
      if sum < wordLimit then some (b.textOfLength t rendered.output sum maxTokens) else none := by
    rw [textOfClaim, filled, checked, if_neg Bool.false_ne_true]
    split <;> rfl
  refine ⟨checked, fun fits => ?_, ?_⟩
  · rw [text, if_pos fits]
    exact ⟨_, rfl, textOf_textOfLength present sum maxTokens⟩
  · rw [text]
    by_cases fits : sum < wordLimit
    · simp [fits]
    · simp [Nat.not_lt.mp fits]

theorem two_messages_fit_a_word :
    let b : Budget := { tokens := 4.0, textPrefix := "> " }
    let rendered : Rendered (List Message) := ⟨[.user "ab", .user "cd"], wordLimit - 4, false⟩
    rendered.output ≠ [] ∧ b.checkedLength? .chars rendered.length 2 = some (wordLimit - 1) ∧
    (∃ r, b.textOfClaim .chars rendered 3 = some r ∧ b.TextOf .chars rendered.output (wordLimit - 1) 3 r) ∧
    b.textOfClaim .chars rendered 3 = some ⟨"> ab", 4, true⟩ := by
  intro b rendered
  have present : rendered.output ≠ [] := List.cons_ne_nil _ _
  have sum : Tokenizer.chars.count b.textPrefix + rendered.length +
      (rendered.output.length - 1) * Tokenizer.chars.count b.separator = wordLimit - 1 := by decide
  have fits : wordLimit - 1 < wordLimit := by decide
  obtain ⟨checked, fitting, _⟩ := text_of_claimed_length b .chars rendered present 3
  rw [sum] at checked fitting
  exact ⟨present, checked.trans (if_pos fits), fitting fits, by decide +kernel⟩

/-- One token more than the greatest word: there is no text, with a budget or without. -/
theorem greatest_claim_overflows :
    let b : Budget := { tokens := 2.0, textPrefix := "p" }
    let rendered : Rendered (List Message) := ⟨[.user "hello"], wordLimit - 1, true⟩
    b.checkedLength? .chars rendered.length 1 = none ∧
    b.textOfClaim .chars rendered 1 = none ∧
    (¬ ∃ r, b.textOfClaim .chars rendered 1 = some r ∧ b.TextOf .chars rendered.output wordLimit 1 r) ∧
    ({ textPrefix := "p" } : Budget).textOfClaim .chars rendered 1 = none := by
  intro b rendered
  have stops : b.textOfClaim .chars rendered 1 = none := by decide +kernel
  refine ⟨by decide, stops, ?_, by decide +kernel⟩
  rintro ⟨r, given, _⟩
  exact nomatch stops.symm.trans given

end Budget

end PromptKit
