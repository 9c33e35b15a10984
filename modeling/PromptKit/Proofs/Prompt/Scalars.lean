import PromptKit.Prompt.Section

/-!
Lengths where every character is one token. Whatever budgets cut away, the length that is reported is
the number of characters that are left.
-/
namespace PromptKit

open Render (Context World)

def scalarCount : List Message → Nat
  | [] => 0
  | m :: rest => m.content.length + scalarCount rest

theorem scalarCount_append (first second : List Message) :
    scalarCount (first ++ second) = scalarCount first + scalarCount second := by
  induction first with
  | nil => simp [scalarCount]
  | cons m rest ih =>
    simp only [List.cons_append, scalarCount, ih]
    omega

theorem scalarCount_reverse (ms : List Message) : scalarCount ms.reverse = scalarCount ms := by
  induction ms with
  | nil => rfl
  | cons m rest ih =>
    simp only [List.reverse_cons, scalarCount_append, ih, scalarCount]
    omega

namespace Tokenizer

theorem length_encode_chars (text : String) : (chars.encode text).length = text.length := by
  simp only [chars, List.length_map, String.length_toList]

theorem count_chars (text : String) : chars.count text = text.length := by
  unfold count
  split
  · rename_i empty
    rw [String.isEmpty_iff.mp empty]
    rfl
  · exact length_encode_chars text

theorem filterMap_scalar? (cs : List Char) : (cs.map (·.val)).filterMap scalar? = cs := by
  have back : ∀ c : Char, scalar? c.val = some c := fun c => dif_pos c.valid
  induction cs with
  | nil => rfl
  | cons c rest ih => rw [List.map_cons, List.filterMap_cons_some (back c), ih]

theorem take_chars (n : Nat) (text : String) :
    chars.take n text = String.ofList (text.toList.take n) := by
  simp only [take, chars, ← List.map_take, filterMap_scalar?]

theorem length_take_chars (n : Nat) (text : String) :
    (chars.take n text).length = min n text.length := by
  rw [take_chars, String.length_ofList, List.length_take, String.length_toList]

end Tokenizer

theorem contentLength_chars (ms : List Message) : contentLength .chars ms = scalarCount ms := by
  induction ms with
  | nil => rfl
  | cons m rest ih => rw [contentLength, scalarCount, Tokenizer.count_chars, ih]

/-- An output that is measured exactly, and marked just when it exceeds what it was allowed. -/
structure Rendered.Exact {α : Type} (size : α → Nat) (maxTokens : Nat) (r : Rendered α) : Prop where
  length : r.length = size r.output
  tooLong : r.tooLong = decide (maxTokens < r.length)

namespace Budget

theorem trim_chars (budget : Nat) (ms : List Message) :
    (trim .chars budget (scalarCount ms) ms).1 = scalarCount (trim .chars budget (scalarCount ms) ms).2 := by
  induction ms with
  | nil => rfl
  | cons m before ih =>
    have left : scalarCount (m :: before) - (Tokenizer.chars.encode m.content).length =
        scalarCount before := by
      rw [Tokenizer.length_encode_chars, scalarCount]
      omega
    rw [trim]
    by_cases fits : scalarCount (m :: before) ≤ budget
    · rw [if_pos fits]
    · simp only [if_neg fits, left]
      by_cases room : scalarCount before < budget
      · rw [if_pos room]
        simp only [scalarCount, Tokenizer.length_take_chars] at fits ⊢
        omega
      · rw [if_neg room]
        exact ih

theorem messages_chars (b : Budget) (output : List Message) (maxTokens : Nat) :
    (b.messages .chars output (scalarCount output) maxTokens).Exact scalarCount maxTokens := by
  unfold messages
  cases b.fixedTokens? with
  | none => exact ⟨rfl, rfl⟩
  | some budget =>
    refine ⟨?_, rfl⟩
    have trimmed := trim_chars budget output.reverse
    rw [scalarCount_reverse] at trimmed
    simp only [scalarCount_reverse, trimmed]

theorem length_intercalate (separator : String) (ms : List Message) :
    (separator.intercalate (ms.map (·.content))).length =
      scalarCount ms + (ms.length - 1) * separator.length := by
  induction ms with
  | nil => simp [scalarCount]
  | cons m rest ih =>
    cases rest with
    | nil => simp [scalarCount]
    | cons next rest =>
      simp only [List.map_cons] at ih ⊢
      rw [String.intercalate_cons_cons, String.length_append, String.length_append, ih]
      simp only [scalarCount, List.length_cons, Nat.add_sub_cancel, Nat.succ_mul]
      omega

theorem length_whole (b : Budget) {r : Rendered (List Message)} (measured : r.length = scalarCount r.output) :
    (b.textPrefix ++ b.separator.intercalate (r.output.map (·.content))).length =
      b.textLength .chars r.length r.output.length := by
  rw [String.length_append, length_intercalate, textLength, Tokenizer.count_chars,
    Tokenizer.count_chars, measured, Nat.add_assoc]

theorem text_chars (b : Budget) {r : Rendered (List Message)} (measured : r.length = scalarCount r.output)
    (maxTokens : Nat) : (b.text .chars r maxTokens).Exact String.length maxTokens := by
  have whole := b.length_whole measured
  by_cases none : r.output.isEmpty = true
  · rw [text, textOfLength, if_pos none]
    exact ⟨rfl, rfl⟩
  · rw [text, textOfLength, if_neg none]
    simp only []
    cases b.fixedTokens? with
    | none => exact ⟨whole.symm, rfl⟩
    | some budget =>
      by_cases exceeds : budget < b.textLength .chars r.length r.output.length
      · simp only [if_pos exceeds]
        refine ⟨?_, rfl⟩
        rw [Tokenizer.length_take_chars, whole, Nat.min_eq_left (Nat.le_of_lt exceeds)]
      · simp only [if_neg exceeds]
        exact ⟨whole.symm, rfl⟩

end Budget

def spoken (role text : String) : List Message := if text.isEmpty then [] else [⟨role, text⟩]

theorem scalarCount_spoken (role text : String) : scalarCount (spoken role text) = text.length := by
  unfold spoken
  split
  · rename_i empty
    rw [String.isEmpty_iff.mp empty]
    rfl
  · rfl

theorem TemplateSection.exists_text_of_renderMessages {t : TemplateSection} {ctx : Context}
    {w final : World} {maxTokens : Nat} {r : Rendered (List Message)}
    (rendered : t.renderMessages ctx w maxTokens = (.ok r, final)) : ∃ text, r =
      t.budget.messages ctx.tokenizer (spoken t.role text) (ctx.tokenizer.count text) maxTokens := by
  obtain ⟨parts, _, same⟩ := exists_ok_of_map (congrArg Prod.fst rendered)
  exact ⟨String.join parts, same.symm⟩

namespace PromptSection

variable {ctx : Context} {s : PromptSection} {w final : World} {maxTokens : Nat}

theorem renderMessages_chars (scalars : ctx.tokenizer = .chars) {r : Rendered (List Message)}
    (rendered : s.renderMessages ctx w maxTokens = (.ok r, final)) : r.Exact scalarCount maxTokens := by
  cases s with
  | template t =>
    obtain ⟨text, rfl⟩ := TemplateSection.exists_text_of_renderMessages rendered
    rw [scalars, Tokenizer.count_chars, ← scalarCount_spoken t.role]
    exact t.budget.messages_chars _ _
  | messages content b =>
    have result := congrArg Prod.fst rendered
    simp only [renderMessages, scalars, contentLength_chars] at result
    obtain rfl := Except.ok.inj result
    exact b.messages_chars _ _

theorem renderText_chars (scalars : ctx.tokenizer = .chars) {r : Rendered String}
    (rendered : s.renderText ctx w maxTokens = (.ok r, final)) : r.Exact String.length maxTokens := by
  obtain ⟨own, messages, rfl⟩ := exists_ok_of_map (congrArg Prod.fst rendered)
  have measured := renderMessages_chars scalars (Prod.ext messages rfl)
  rw [scalars]
  exact s.budget.text_chars measured.length maxTokens

end PromptSection

end PromptKit
