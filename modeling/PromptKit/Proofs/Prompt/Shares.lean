import Mathlib.Algebra.Ring.Nat
import PromptKit.Proofs.Prompt.Cuts

/-!
What a template section comes to where every character is one token, from the text that its template
renders to: a message that is cut to the budget, or in text a block that is cut with its prefix. Neither
depends on what the section is offered.
-/
namespace PromptKit

open Render (Context World)

variable {α : Type}

theorem scalarCount_flatten (outputs : List (List Message)) :
    scalarCount outputs.flatten = (outputs.map scalarCount).sum := by
  induction outputs with
  | nil => rfl
  | cons output rest ih => rw [List.flatten_cons, scalarCount_append, ih, List.map_cons, List.sum_cons]

theorem sum_length_le_intercalate (separator : String) (blocks : List String) :
    (blocks.map String.length).sum ≤ (separator.intercalate blocks).length := by
  induction blocks with
  | nil => exact Nat.zero_le _
  | cons block rest ih =>
    cases rest with
    | nil => simp
    | cons next rest =>
      rw [String.intercalate_cons_cons, String.length_append, String.length_append, List.map_cons, List.sum_cons]
      omega

namespace Budget

variable {b : Budget} {fixed : Nat}

def cut (b : Budget) (text : String) : String :=
  match b.fixedTokens? with
  | some fixed => String.ofList (text.toList.take fixed)
  | none => text

theorem cut_of_fixed (budgeted : b.fixedTokens? = some fixed) (text : String) :
    b.cut text = Tokenizer.chars.take fixed text := by
  rw [cut, budgeted, Tokenizer.take_chars]

theorem cut_of_within {text : String} (within : ∀ fixed, b.fixedTokens? = some fixed → text.length ≤ fixed) :
    b.cut text = text := by
  unfold cut
  cases budgeted : b.fixedTokens? with
  | none => rfl
  | some fixed =>
    have short : text.toList.length ≤ fixed := within fixed budgeted
    simp only [List.take_of_length_le short, String.ofList_toList]

theorem length_cut (b : Budget) (text : String) : (b.cut text).length = b.tokenBudget text.length := by
  unfold tokenBudget
  cases budgeted : b.fixedTokens? with
  | none => rw [cut, budgeted]
  | some fixed => rw [cut_of_fixed budgeted, Tokenizer.length_take_chars]

theorem cut_empty (b : Budget) : b.cut "" = "" := by
  rw [← String.length_eq_zero_iff, length_cut]
  exact Nat.le_zero.mp (tokenBudget_le _ _)

/-- Cutting before a prefix is put in front changes nothing that is left after the prefixed text is cut. -/
theorem cut_append_cut (b : Budget) (lead text : String) : b.cut (lead ++ b.cut text) = b.cut (lead ++ text) := by
  unfold cut
  cases b.fixedTokens? with
  | none => rfl
  | some fixed =>
    simp only [String.toList_append, String.toList_ofList, List.take_append, List.take_take,
      Nat.min_eq_left (Nat.sub_le fixed _)]

theorem cut_eq_empty {text : String} (present : text ≠ "") (gone : b.cut text = "") (other : String) :
    b.cut other = "" := by
  have pos : text.length ≠ 0 := fun none => present (String.length_eq_zero_iff.mp none)
  rw [← String.length_eq_zero_iff, length_cut] at gone ⊢
  unfold tokenBudget at gone ⊢
  cases budgeted : b.fixedTokens? with
  | none =>
    simp only [budgeted] at gone
    contradiction
  | some fixed =>
    simp only [budgeted] at gone ⊢
    omega

theorem output_messages (b : Budget) (role text : String) (offer : Nat) :
    (b.messages .chars (spoken role text) text.length offer).output = spoken role (b.cut text) := by
  rcases b.within_or_beyond text.length with within | ⟨fixed, budgeted, beyond⟩
  · rw [messages_of_within within, cut_of_within within]
  · have present : ¬ text.isEmpty = true := fun empty => by
      rw [String.isEmpty_iff.mp empty] at beyond
      contradiction
    have left : (Tokenizer.chars.take fixed text).isEmpty = decide (fixed = 0) := by
      rw [Bool.eq_iff_iff, String.isEmpty_iff, ← String.length_eq_zero_iff, Tokenizer.length_take_chars,
        decide_eq_true_iff]
      omega
    rw [← Tokenizer.count_chars] at beyond ⊢
    rw [spoken, if_neg present, messages_of_beyond budgeted beyond, cut_of_fixed budgeted, spoken, left]
    simp only [decide_eq_true_eq]

theorem output_text {r : Rendered (List Message)} (measured : r.length = scalarCount r.output) (offer : Nat) :
    (b.text .chars r offer).output = if r.output.isEmpty then ""
      else b.cut (b.textPrefix ++ b.separator.intercalate (r.output.map (·.content))) := by
  have whole := b.length_whole measured
  rw [text, textOfLength]
  by_cases none : r.output.isEmpty = true
  · rw [if_pos none, if_pos none]
  · rw [if_neg none, if_neg none]
    cases budgeted : b.fixedTokens? with
    | none => simp only [cut, budgeted]
    | some fixed =>
      by_cases exceeds : fixed < b.textLength .chars r.length r.output.length
      · simp only [if_pos exceeds, cut_of_fixed budgeted]
      · have within := within_of_fixed budgeted (Nat.not_lt.mp exceeds)
        simp only [if_neg exceeds]
        rw [cut_of_within (whole ▸ within)]

end Budget

def Rendered.measured (size : α → Nat) (output : α) : Rendered α := ⟨output, size output, false⟩

theorem Rendered.Exact.eq_against {size : α → Nat} {offer : Nat} {r : Rendered α}
    (exact : r.Exact size offer) : r = (measured size r.output).against offer := by
  cases r with
  | mk output length long =>
    obtain ⟨(rfl : length = size output), (rfl : long = decide (offer < size output))⟩ := exact
    rfl

namespace TemplateSection

def speech (t : TemplateSection) (text : String) : List Message := spoken t.role (t.budget.cut text)

def block (t : TemplateSection) (text : String) : String :=
  if text.isEmpty then "" else t.budget.cut (t.budget.textPrefix ++ text)

theorem scalarCount_speech (t : TemplateSection) (text : String) :
    scalarCount (t.speech text) = t.budget.tokenBudget text.length := by
  rw [speech, scalarCount_spoken, Budget.length_cut]

theorem map_scalarCount_speech (shown : List (TemplateSection × String)) :
    (shown.map fun p => p.1.speech p.2).map scalarCount =
      shown.map fun p => p.1.budget.tokenBudget p.2.length := by
  rw [List.map_map]
  exact List.map_congr_left fun _ _ => scalarCount_speech _ _

theorem tokenBudget_le_block (t : TemplateSection) (text : String) :
    t.budget.tokenBudget text.length ≤ (t.block text).length := by
  unfold block
  split
  · rename_i empty
    rw [String.isEmpty_iff.mp empty]
    exact Budget.tokenBudget_le _ _
  · rw [Budget.length_cut, String.length_append]
    unfold Budget.tokenBudget
    cases t.budget.fixedTokens? with
    | none => exact Nat.le_add_left _ _
    | some fixed =>
      simp only
      omega

/-- The message of a section, with its prefix and cut once more, is the block of the section. -/
theorem text_speech (t : TemplateSection) (text : String) :
    (if (t.speech text).isEmpty then "" else
      t.budget.cut (t.budget.textPrefix ++ t.budget.separator.intercalate ((t.speech text).map (·.content)))) =
    t.block text := by
  unfold speech spoken block
  by_cases empty : text.isEmpty = true
  · have gone : (t.budget.cut text).isEmpty = true := by
      rw [String.isEmpty_iff.mp empty, Budget.cut_empty]
      rfl
    rw [if_pos gone, if_pos empty]
    rfl
  · rw [if_neg empty]
    by_cases gone : (t.budget.cut text).isEmpty = true
    · rw [if_pos gone]
      have present : text ≠ "" := fun none => empty (String.isEmpty_iff.mpr none)
      exact (Budget.cut_eq_empty present (String.isEmpty_iff.mp gone) _).symm
    · rw [if_neg gone]
      simp only [List.isEmpty_cons, List.map_cons, List.map_nil, String.intercalate_singleton,
        Budget.cut_append_cut, if_neg Bool.false_ne_true]

variable {t : TemplateSection} {ctx : Context} {w : World} {parts : List String}

theorem renderMessages_of_run (scalars : ctx.tokenizer = .chars)
    (rendered : (Render.run ctx t.template.directives w).result = .ok parts) (offer : Nat) :
    (PromptSection.template t).renderMessages ctx w offer =
      (.ok ((Rendered.measured scalarCount (t.speech (String.join parts))).against offer),
        (Render.run ctx t.template.directives w).world) := by
  let text := String.join parts
  have held : (PromptSection.template t).renderMessages ctx w offer =
      (.ok (t.budget.messages .chars (spoken t.role text) text.length offer),
        (Render.run ctx t.template.directives w).world) := by
    simp only [PromptSection.renderMessages, TemplateSection.renderMessages, rendered, scalars,
      Tokenizer.count_chars]
    rfl
  rw [held, (PromptSection.renderMessages_chars scalars held).eq_against, Budget.output_messages]
  rfl

theorem renderText_of_run (scalars : ctx.tokenizer = .chars)
    (rendered : (Render.run ctx t.template.directives w).result = .ok parts) (offer : Nat) :
    (PromptSection.template t).renderText ctx w offer =
      (.ok ((Rendered.measured String.length (t.block (String.join parts))).against offer),
        (Render.run ctx t.template.directives w).world) := by
  let text := String.join parts
  let own := (Rendered.measured scalarCount (t.speech text)).against offer
  have held : (PromptSection.template t).renderText ctx w offer =
      (.ok (t.budget.text .chars own offer), (Render.run ctx t.template.directives w).world) := by
    rw [PromptSection.renderText, renderMessages_of_run scalars rendered, scalars]
    rfl
  have output : (t.budget.text .chars own offer).output = t.block text :=
    (Budget.output_text rfl offer).trans (t.text_speech text)
  rw [held, (PromptSection.renderText_chars scalars held).eq_against, output]

end TemplateSection

end PromptKit
