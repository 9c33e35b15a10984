import PromptKit.Proofs.Prompt.Offers
import PromptKit.Proofs.Text.Utf8

/-!
Cutting a text by its tokens. The length that is reported counts the tokens that were kept; it is never
measured again on the text that they decode to. What a layout returns encodes within its limit wherever
cut texts encode within their budgets, and a tokenizer for which they do not can exceed the limit, even
if it is lossless.
-/
namespace PromptKit

open Render (Context World)

namespace Tokenizer

/-- Texts that are longer than a budget are within it once they are cut. -/
def CutsWithin (t : Tokenizer) (fixed : Nat) : Prop :=
  ∀ text, fixed < t.count text → t.count (t.take fixed text) ≤ fixed

theorem chars_cutsWithin (fixed : Nat) : chars.CutsWithin fixed := fun text _ => by
  rw [count_chars, length_take_chars]
  exact Nat.min_le_left fixed text.length

def Lossless (t : Tokenizer) : Prop := ∀ text, t.decode (t.encode text) = text

theorem bytes_lossless : bytes.Lossless := fun text => by
  have back : ∀ b : UInt8, UInt8.ofNat (UInt32.ofNat b.toNat).toNat = b := fun b => by
    have small : b.toNat < 2 ^ 32 := Nat.lt_trans b.toNat_lt (by decide)
    rw [UInt32.toNat_ofNat_of_lt' small, UInt8.ofNat_toNat]
  have same : (bytes.encode text).map (fun token => UInt8.ofNat token.toNat) = Text.utf8Bytes text.toList := by
    simp only [bytes, List.map_map, Function.comp_def, back, List.map_id']
  rw [show bytes.decode (bytes.encode text) = Text.ofUtf8Lossy _ from congrArg Text.ofUtf8Lossy same,
    Text.ofUtf8Lossy_utf8Bytes, String.ofList_toList]

end Tokenizer

namespace Budget

variable {t : Tokenizer} {b : Budget} {fixed length offer : Nat}

theorem trim_of_within {ms : List Message} (within : length ≤ fixed) :
    trim t fixed length ms = (length, ms) := by
  cases ms with
  | nil => rfl
  | cons m before => rw [trim, if_pos within]

theorem within_or_beyond (b : Budget) (length : Nat) :
    (∀ fixed, b.fixedTokens? = some fixed → length ≤ fixed) ∨
      ∃ fixed, b.fixedTokens? = some fixed ∧ fixed < length := by
  cases budgeted : b.fixedTokens? with
  | none => exact .inl fun _ none => by cases none
  | some fixed =>
    rcases Nat.lt_or_ge fixed length with beyond | within
    · exact .inr ⟨fixed, rfl, beyond⟩
    · exact .inl fun own same => Option.some.inj same ▸ within

theorem within_of_fixed (budgeted : b.fixedTokens? = some fixed) (within : length ≤ fixed) :
    ∀ own, b.fixedTokens? = some own → length ≤ own := fun own same => by
  rw [budgeted] at same
  exact Option.some.inj same ▸ within

theorem messages_of_within {output : List Message}
    (within : ∀ fixed, b.fixedTokens? = some fixed → length ≤ fixed) :
    b.messages t output length offer = ⟨output, length, decide (offer < length)⟩ := by
  unfold messages
  cases budgeted : b.fixedTokens? with
  | none => rfl
  | some fixed => simp only [trim_of_within (within fixed budgeted), List.reverse_reverse]

theorem messages_of_beyond {role text : String} (budgeted : b.fixedTokens? = some fixed)
    (beyond : fixed < t.count text) : b.messages t [⟨role, text⟩] (t.count text) offer =
      ⟨if fixed = 0 then [] else [⟨role, t.take fixed text⟩], fixed, decide (offer < fixed)⟩ := by
  have none : t.count text - (t.encode text).length = 0 := by
    have counted := t.count_le_length_encode text
    omega
  unfold messages
  rw [budgeted]
  simp only [List.reverse_singleton, trim, if_neg (Nat.not_le.mpr beyond), none]
  by_cases zero : fixed = 0
  · rw [if_neg (by omega), if_pos zero, zero]
    rfl
  · rw [if_pos (by omega), if_neg zero]
    rfl

/-- The message of a template encodes within the length that is reported for it. -/
theorem contentLength_messages_le (role text : String) (offer : Nat)
    (cuts : ∀ fixed, b.fixedTokens? = some fixed → t.CutsWithin fixed) :
    let r := b.messages t (spoken role text) (t.count text) offer
    contentLength t r.output ≤ r.length := by
  intro r
  rcases b.within_or_beyond (t.count text) with within | ⟨fixed, budgeted, beyond⟩
  · have whole : r = ⟨_, t.count text, decide (offer < t.count text)⟩ := messages_of_within within
    rw [whole]
    exact Nat.le_of_eq (contentLength_spoken t role text)
  · have present : ¬ text.isEmpty = true := fun empty => by
      rw [Tokenizer.count, if_pos empty] at beyond
      contradiction
    have cut : r = ⟨if fixed = 0 then [] else [⟨role, t.take fixed text⟩], fixed, decide (offer < fixed)⟩ := by
      simp only [r, spoken, if_neg present]
      exact messages_of_beyond budgeted beyond
    rw [cut]
    by_cases zero : fixed = 0
    · simp only [if_pos zero, contentLength]
      exact Nat.zero_le fixed
    · simp only [if_neg zero, contentLength, Nat.add_zero]
      exact cuts fixed budgeted text beyond

end Budget

theorem TemplateSection.contentLength_renderMessages_le {s : TemplateSection} {ctx : Context}
    {w final : World} {offer : Nat} {r : Rendered (List Message)}
    (cuts : ∀ fixed, s.budget.fixedTokens? = some fixed → ctx.tokenizer.CutsWithin fixed)
    (rendered : s.renderMessages ctx w offer = (.ok r, final)) :
    contentLength ctx.tokenizer r.output ≤ r.length := by
  obtain ⟨text, rfl⟩ := exists_text_of_renderMessages rendered
  exact Budget.contentLength_messages_le _ _ _ cuts

namespace Mode

variable {ctx : Context} {maxTokens index : Nat} {a b : Account (List Message)} {w : World}

theorem walk_messages_le {sections : List PromptSection} (within : a.length ≤ maxTokens)
    (done : (messages.walk ctx maxTokens index a sections w).result = .ok b) : b.length ≤ maxTokens := by
  refine walk_invariant (P := fun a => a.length ≤ maxTokens) (fun a s w r _ within given short => ?_)
    within done
  have fits : r.length ≤ messages.left maxTokens a := Nat.not_lt.mp fun exceeds => by
    rw [(messages_impartial.tooLong_iff given).mpr exceeds] at short
    contradiction
  rw [left_messages] at fits
  rw [charge_messages]
  simp only
  omega

theorem walk_contents_le {sections : List TemplateSection}
    (cuts : ∀ t ∈ sections, ∀ fixed, t.budget.fixedTokens? = some fixed → ctx.tokenizer.CutsWithin fixed)
    (within : contentLength ctx.tokenizer a.kept.flatten ≤ a.length)
    (done : (messages.walk ctx maxTokens index a (sections.map .template) w).result = .ok b) :
    contentLength ctx.tokenizer b.kept.flatten ≤ b.length := by
  refine walk_invariant (P := fun a => contentLength ctx.tokenizer a.kept.flatten ≤ a.length)
    (fun a s w r mem within given _ => ?_) within done
  obtain ⟨t, inside, rfl⟩ := List.mem_map.mp mem
  have contents : contentLength ctx.tokenizer r.output ≤ r.length :=
    TemplateSection.contentLength_renderMessages_le (cuts t inside) (Prod.ext given rfl)
  rw [charge_messages, List.flatten_append, List.flatten_singleton, contentLength_append]
  exact Nat.add_le_add within contents

end Mode

/-- The length that is reported is within the limit for every tokenizer, and what is returned encodes
within that length where cut texts encode within the fixed budgets. -/
theorem contents_within_limit (sections : List TemplateSection) (separator : String) (ctx : Context)
    (w final : World) (maxTokens : Nat) (r : Rendered (List Message))
    (given : (⟨sections.map .template, separator⟩ : Layout).renderMessages ctx w maxTokens = (.ok r, final)) :
    r.length ≤ maxTokens ∧
      ((∀ t ∈ sections, ∀ fixed, t.budget.fixedTokens? = some fixed → ctx.tokenizer.CutsWithin fixed) →
        contentLength ctx.tokenizer r.output ≤ r.length) := by
  rw [Layout.renderMessages_eq_walk] at given
  obtain ⟨a, done, rfl, _⟩ := Walk.exists_account given
  refine ⟨Mode.walk_messages_le (Nat.zero_le maxTokens) done, fun cuts => ?_⟩
  exact Mode.walk_contents_le (a := .empty) cuts (Nat.le_refl 0) done

theorem cut_rules_within_limit :
    let sections := [TemplateSection.plain "the rules" "system" { tokens := 5.0 }, .plain "hello" "user" {}]
    ((⟨sections.map .template, ""⟩ : Layout).renderMessages charContext default 12).1 =
      .ok ⟨[⟨"system", "the r"⟩, ⟨"user", "hello"⟩], 10, false⟩ ∧
    (∀ t ∈ sections, ∀ fixed, t.budget.fixedTokens? = some fixed → Tokenizer.chars.CutsWithin fixed) ∧
    contentLength .chars [⟨"system", "the r"⟩, ⟨"user", "hello"⟩] ≤ 10 ∧ 10 ≤ 12 := by
  intro sections
  have given : ((⟨sections.map .template, ""⟩ : Layout).renderMessages charContext default 12).1 =
      .ok ⟨[⟨"system", "the r"⟩, ⟨"user", "hello"⟩], 10, false⟩ := by decide +kernel
  have cuts : ∀ t ∈ sections, ∀ fixed, t.budget.fixedTokens? = some fixed →
      Tokenizer.chars.CutsWithin fixed := fun _ _ fixed _ => Tokenizer.chars_cutsWithin fixed
  have within := contents_within_limit sections "" charContext default _ 12 _ (Prod.ext given rfl)
  exact ⟨given, cuts, within.2 cuts, within.1⟩

/-- Half of a character decodes to a replacement that takes more tokens than were kept. -/
theorem cut_character_exceeds_limit :
    Tokenizer.bytes.Lossless ∧
    ((⟨[.template (.plain "aé" "system" { tokens := 2.0 })], ""⟩ : Layout).renderMessages
      { charContext with tokenizer := .bytes } default 2).1 = .ok ⟨[⟨"system", "a�"⟩], 2, false⟩ ∧
    contentLength .bytes [⟨"system", "a�"⟩] = 4 :=
  ⟨Tokenizer.bytes_lossless, by decide +kernel, by decide +kernel⟩

end PromptKit
