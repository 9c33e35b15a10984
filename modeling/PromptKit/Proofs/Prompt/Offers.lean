import PromptKit.Proofs.Prompt.Accounting

/-!
What a section is offered decides nothing but the mark on its output: outputs, lengths and worlds are
the same for every offer. A fixed budget holds the length, whatever the tokenizer, and so a section is
too long just when its length exceeds what is left.
-/
namespace PromptKit

open Render (Context World)

variable {α : Type}

def Rendered.against (offer : Nat) (r : Rendered α) : Rendered α :=
  { r with tooLong := decide (offer < r.length) }

@[simp] theorem Rendered.length_against (offer : Nat) (r : Rendered α) :
    (r.against offer).length = r.length := rfl

structure Mode.Impartial (m : Mode α) : Prop where
  uniform : ∀ s ctx w offer other, m.render s ctx w other =
    ((m.render s ctx w offer).1.map (·.against other), (m.render s ctx w offer).2)
  held : ∀ s ctx w offer r final fixed, m.render s ctx w offer = (.ok r, final) →
    s.budget.fixedTokens? = some fixed → r.length ≤ fixed

section Lengths

variable {t : Tokenizer} {fixed length maxTokens : Nat} {b : Budget} {output : List Message}

theorem Tokenizer.count_le_length_encode (t : Tokenizer) (text : String) :
    t.count text ≤ (t.encode text).length := by
  unfold count
  split
  · exact Nat.zero_le _
  · exact Nat.le_refl _

theorem contentLength_append (t : Tokenizer) (first second : List Message) :
    contentLength t (first ++ second) = contentLength t first + contentLength t second := by
  induction first with
  | nil => simp [contentLength]
  | cons m rest ih =>
    simp only [List.cons_append, contentLength, ih]
    omega

theorem contentLength_reverse (t : Tokenizer) (ms : List Message) :
    contentLength t ms.reverse = contentLength t ms := by
  induction ms with
  | nil => rfl
  | cons m rest ih =>
    simp only [List.reverse_cons, contentLength_append, ih, contentLength]
    omega

theorem Budget.trim_le {ms : List Message} (measured : length ≤ contentLength t ms) :
    (trim t fixed length ms).1 ≤ fixed := by
  induction ms generalizing length with
  | nil =>
    have none : length = 0 := Nat.le_zero.mp measured
    rw [trim, none]
    exact Nat.zero_le fixed
  | cons m before ih =>
    rw [trim]
    by_cases fits : length ≤ fixed
    · rwa [if_pos fits]
    · rw [if_neg fits]
      by_cases room : length - (t.encode m.content).length < fixed
      · simp only [if_pos room]
        exact Nat.le_refl fixed
      · simp only [if_neg room]
        have counted := t.count_le_length_encode m.content
        rw [contentLength] at measured
        exact ih (by omega)

theorem Budget.length_messages_le (measured : length ≤ contentLength t output)
    (budgeted : b.fixedTokens? = some fixed) :
    (b.messages t output length maxTokens).length ≤ fixed := by
  unfold messages
  rw [budgeted]
  exact trim_le (by rwa [contentLength_reverse])

theorem Budget.length_text_le {r : Rendered (List Message)} (budgeted : b.fixedTokens? = some fixed) :
    (b.text t r maxTokens).length ≤ fixed := by
  unfold text textOfLength
  split
  · exact Nat.zero_le fixed
  · simp only [budgeted]
    split
    · exact Nat.le_refl fixed
    · rename_i within
      exact Nat.not_lt.mp within

theorem Budget.textOfLength_uniform (b : Budget) (t : Tokenizer) (output : List Message)
    (length offer other : Nat) : b.textOfLength t output length other =
      (b.textOfLength t output length offer).against other := by
  unfold textOfLength
  by_cases none : output.isEmpty = true
  · simp only [if_pos none]
    rfl
  · simp only [if_neg none]
    cases b.fixedTokens? with
    | none => rfl
    | some fixed =>
      simp only []
      split <;> rfl

theorem contentLength_spoken (t : Tokenizer) (role text : String) :
    contentLength t (spoken role text) = t.count text := by
  unfold spoken Tokenizer.count
  split
  · rfl
  · rename_i present
    simp only [contentLength, Tokenizer.count, if_neg present, Nat.add_zero]

end Lengths

section Sections

variable {ctx : Context} {s : PromptSection} {w final : World} {offer fixed : Nat}

theorem PromptSection.renderMessages_uniform (s : PromptSection) (ctx : Context) (w : World)
    (offer other : Nat) : s.renderMessages ctx w other =
      ((s.renderMessages ctx w offer).1.map (·.against other), (s.renderMessages ctx w offer).2) := by
  cases s with
  | template t =>
    simp only [renderMessages, TemplateSection.renderMessages]
    cases (Render.run ctx t.template.directives w).result with
    | error e => rfl
    | ok parts => rfl
  | messages content b => rfl

theorem PromptSection.renderText_uniform (s : PromptSection) (ctx : Context) (w : World)
    (offer other : Nat) : s.renderText ctx w other =
      ((s.renderText ctx w offer).1.map (·.against other), (s.renderText ctx w offer).2) := by
  have same := s.renderMessages_uniform ctx w offer other
  cases rendered : s.renderMessages ctx w offer with
  | mk result after =>
    rw [rendered] at same
    simp only [renderText, rendered, same]
    cases result with
    | error e => rfl
    | ok r => exact congrArg (fun text => (Except.ok text, after)) (s.budget.textOfLength_uniform _ _ _ _ _)

theorem PromptSection.length_renderMessages_le {r : Rendered (List Message)}
    (rendered : s.renderMessages ctx w offer = (.ok r, final))
    (budgeted : s.budget.fixedTokens? = some fixed) : r.length ≤ fixed := by
  cases s with
  | template t =>
    obtain ⟨text, rfl⟩ := TemplateSection.exists_text_of_renderMessages rendered
    exact Budget.length_messages_le (Nat.le_of_eq (contentLength_spoken _ _ _).symm) budgeted
  | messages content b =>
    obtain rfl := Except.ok.inj (congrArg Prod.fst rendered)
    exact Budget.length_messages_le (Nat.le_refl _) budgeted

theorem PromptSection.length_renderText_le {r : Rendered String}
    (rendered : s.renderText ctx w offer = (.ok r, final))
    (budgeted : s.budget.fixedTokens? = some fixed) : r.length ≤ fixed := by
  obtain ⟨own, _, rfl⟩ := exists_ok_of_map (congrArg Prod.fst rendered)
  exact Budget.length_text_le budgeted

end Sections

namespace Mode

@[simp] theorem overhead_messages (kept : List (List Message)) : messages.overhead kept = 0 :=
  Nat.le_zero.mp (messages.overhead_le_joint kept)

theorem messages_impartial : messages.Impartial where
  uniform := PromptSection.renderMessages_uniform
  held _ _ _ _ _ _ _ rendered budgeted := PromptSection.length_renderMessages_le rendered budgeted

theorem text_impartial (joint : Nat) : (text joint).Impartial where
  uniform := PromptSection.renderText_uniform
  held _ _ _ _ _ _ _ rendered budgeted := PromptSection.length_renderText_le rendered budgeted

def left (m : Mode α) (maxTokens : Nat) (a : Account α) : Nat :=
  maxTokens - (a.length + m.overhead a.kept)

def charge (m : Mode α) (a : Account α) (r : Rendered α) : Account α :=
  if m.blank r.output then a else ⟨a.length + (m.overhead a.kept + r.length), a.kept ++ [r.output]⟩

def present (m : Mode α) (outputs : List α) : List α := outputs.filter fun output => !m.blank output

theorem append_present_cons (m : Mode α) (kept : List α) (output : α) (outputs : List α) :
    kept ++ m.present (output :: outputs) = kept ++ m.present [output] ++ m.present outputs := by
  rw [List.append_assoc]
  exact congrArg (kept ++ ·) (List.filter_append [output] outputs)

theorem kept_charge (m : Mode α) (a : Account α) (r : Rendered α) :
    (m.charge a r).kept = a.kept ++ m.present [r.output] := by
  unfold charge present
  cases blank : m.blank r.output <;> simp [blank]

theorem charge_messages (a : Account (List Message)) (r : Rendered (List Message)) :
    messages.charge a r = ⟨a.length + r.length, a.kept ++ [r.output]⟩ := by
  have present : ¬ messages.blank r.output = true := Bool.false_ne_true
  rw [charge, if_neg present, overhead_messages, Nat.zero_add]

theorem left_messages (maxTokens : Nat) (a : Account (List Message)) :
    messages.left maxTokens a = maxTokens - a.length := by
  rw [left, overhead_messages, Nat.add_zero]

variable {m : Mode α} {ctx : Context} {maxTokens index : Nat} {a : Account α} {s : PromptSection}
variable {w : World} {r : Rendered α} {v : Visit α}

theorem settle_of_long (given : v.result = .ok r) (long : r.tooLong = true) : m.settle a v = a :=
  settle_of_left (by simp [accepted?, given, long])

theorem settle_of_short (given : v.result = .ok r) (short : r.tooLong = false) :
    m.settle a v = m.charge a r := by
  cases blank : m.blank r.output with
  | true =>
    rw [charge, if_pos blank]
    exact settle_of_left (by simp [accepted?, given, blank])
  | false =>
    rw [charge, blank, if_neg Bool.false_ne_true]
    exact settle_of_accepted (accepted?_eq_some_iff.mpr ⟨given, short, blank⟩)

/-- What the account of a walk keeps with each output that fits holds in the end. -/
theorem walk_invariant {P : Account α → Prop} {sections : List PromptSection} {b : Account α}
    (accepts : ∀ a s w r, s ∈ sections → P a → (m.visit ctx maxTokens a s w).result = .ok r →
      r.tooLong = false → P (m.charge a r))
    (start : P a) (done : (m.walk ctx maxTokens index a sections w).result = .ok b) : P b := by
  induction sections generalizing index a w with
  | nil =>
    obtain rfl := Except.ok.inj done
    exact start
  | cons s rest ih =>
    obtain ⟨passed, onward, _⟩ := walk_cons_of_ok done
    obtain ⟨r, given, _⟩ := Visit.failure?_eq_none_iff.mp passed
    refine ih (fun a s w r mem => accepts a s w r (List.mem_cons_of_mem _ mem)) ?_ onward
    cases long : r.tooLong with
    | true => rwa [settle_of_long given long]
    | false =>
      rw [settle_of_short given long]
      exact accepts a s w r List.mem_cons_self start given long

namespace Impartial

theorem tooLong_eq (impartial : m.Impartial) {offer : Nat} {final : World}
    (rendered : m.render s ctx w offer = (.ok r, final)) : r.tooLong = decide (offer < r.length) := by
  have same := impartial.uniform s ctx w offer offer
  rw [rendered] at same
  exact congrArg Rendered.tooLong (Except.ok.inj (congrArg Prod.fst same))

/-- The fixed budget of a section never makes it too long; what is left does. -/
theorem tooLong_iff (impartial : m.Impartial)
    (given : (m.visit ctx maxTokens a s w).result = .ok r) :
    r.tooLong = true ↔ m.left maxTokens a < r.length := by
  have rendered : m.render s ctx w (s.budget.tokenBudget (m.left maxTokens a)) =
    (.ok r, (m.visit ctx maxTokens a s w).after) := Prod.ext given rfl
  rw [impartial.tooLong_eq rendered, decide_eq_true_iff]
  cases budgeted : s.budget.fixedTokens? with
  | none => simp only [Budget.tokenBudget, budgeted]
  | some fixed =>
    have held := impartial.held s ctx w _ r _ fixed rendered budgeted
    simp only [Budget.tokenBudget, budgeted]
    omega

/-- All that can come of a section that was rendered: it fits, it is refused or it is dropped. -/
theorem visit_cases (impartial : m.Impartial) (index : Nat)
    (given : (m.visit ctx maxTokens a s w).result = .ok r) :
    let v := m.visit ctx maxTokens a s w
    (r.length ≤ m.left maxTokens a ∧ r.tooLong = false ∧ v.failure? index = none ∧
      m.settle a v = m.charge a r) ∨
    (m.left maxTokens a < r.length ∧ s.required = true ∧
      v.failure? index = some (.sectionTooLong index r.length v.budget)) ∨
    m.left maxTokens a < r.length ∧ s.required = false ∧ r.tooLong = true ∧ v.failure? index = none ∧
      m.settle a v = a := by
  intro v
  have item : v.item = s := rfl
  have marked := impartial.tooLong_iff given
  cases long : r.tooLong with
  | false =>
    have fits : r.length ≤ m.left maxTokens a := Nat.not_lt.mp fun exceeds => by
      rw [marked.mpr exceeds] at long
      contradiction
    exact .inl ⟨fits, rfl, by simp [Visit.failure?, v, given, long], settle_of_short given long⟩
  | true =>
    have exceeds := marked.mp long
    cases required : s.required with
    | true => exact .inr (.inl ⟨exceeds, rfl, by simp [Visit.failure?, v, given, long, item, required]⟩)
    | false =>
      refine .inr (.inr ⟨exceeds, rfl, rfl, ?_, settle_of_long given long⟩)
      simp [Visit.failure?, v, given, long, item, required]

theorem visit_eq (impartial : m.Impartial) (ctx : Context) (maxTokens : Nat) (a : Account α)
    (s : PromptSection) (w : World) (other : Nat) (b : Account α) :
    let v := m.visit ctx maxTokens a s w
    let v' := m.visit ctx other b s w
    v'.result = v.result.map (·.against v'.budget) ∧ v'.after = v.after := by
  intro v v'
  have same : m.render s ctx w v'.budget = (v.result.map (·.against v'.budget), v.after) :=
    impartial.uniform s ctx w v.budget v'.budget
  have result := congrArg Prod.fst same
  have after := congrArg Prod.snd same
  exact ⟨result, after⟩

end Impartial

end Mode

def TemplateSection.plain (text role : String) (budget : Budget) : TemplateSection where
  template := ⟨text, [.text text]⟩
  role
  budget

end PromptKit
