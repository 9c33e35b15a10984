import PromptKit.Proofs.Prompt.Shares

/-!
Layouts of which every section is required, where every character is one token. What the templates
render to alone decides what comes of such a layout: there is a limit from which on it succeeds, always
with the same output, and below which it refuses the first section that goes beyond the limit.
-/
namespace PromptKit

open Render (Context World)

variable {α : Type}

inductive Render.Texts (ctx : Context) : World → List TemplateSection → List String → World → Prop
  | nil (w : World) : Texts ctx w [] [] w
  | cons {t : TemplateSection} {rest : List TemplateSection} {w final : World} {parts texts : List String}
      (rendered : (run ctx t.template.directives w).result = .ok parts)
      (later : Texts ctx (run ctx t.template.directives w).world rest texts final) :
      Texts ctx w (t :: rest) (String.join parts :: texts) final

/-- Sections that render to outputs one after another, whatever they are offered. -/
inductive Mode.Yields (m : Mode α) (ctx : Context) (size : α → Nat) :
    World → List PromptSection → List α → World → Prop
  | nil (w : World) : Yields m ctx size w [] [] w
  | cons {s : PromptSection} {rest : List PromptSection} {output : α} {outputs : List α}
      {w next final : World}
      (rendered : ∀ offer, m.render s ctx w offer =
        (.ok ((Rendered.measured size output).against offer), next))
      (later : Yields m ctx size next rest outputs final) :
      Yields m ctx size w (s :: rest) (output :: outputs) final

namespace Mode

/-- The error refuses the first section whose output goes beyond the limit, after what is kept. -/
def Overruns (m : Mode α) (size : α → Nat) (total : List α → Nat) (maxTokens index : Nat) (kept : List α)
    (sections : List PromptSection) (outputs : List α) (e : PromptError) : Prop :=
  ∃ i s output before, sections[i]? = some s ∧ outputs[i]? = some output ∧
    (∀ k ≤ i, total (kept ++ m.present (outputs.take k)) ≤ maxTokens) ∧
    maxTokens < total (kept ++ m.present (outputs.take (i + 1))) ∧
    before = kept ++ m.present (outputs.take i) ∧
    e = .sectionTooLong (index + i) (size output)
      (s.budget.tokenBudget (m.left maxTokens ⟨total before, before⟩))

theorem present_messages (outputs : List (List Message)) : messages.present outputs = outputs :=
  List.filter_eq_self.mpr fun _ _ => rfl

variable {m : Mode α} {ctx : Context} {size : α → Nat} {total : List α → Nat} {maxTokens index : Nat}
variable {a : Account α} {s : PromptSection} {sections rest : List PromptSection} {w final : World}
variable {kept outputs : List α} {output : α} {e : PromptError}

theorem Counts.total_le_append (counts : m.Counts ctx size total) (kept more : List α) :
    total kept ≤ total (kept ++ more) := by
  induction more generalizing kept with
  | nil => rw [List.append_nil]
  | cons output more ih =>
    have longer := ih (kept ++ [output])
    rw [counts.append, List.append_assoc, List.singleton_append] at longer
    omega

theorem Overruns.first (counts : m.Counts ctx size total)
    (weightless : ∀ output, m.blank output = true → size output = 0) (held : a.Exact total maxTokens)
    (exceeds : m.left maxTokens a < size output) (s : PromptSection) :
    m.Overruns size total maxTokens index a.kept (s :: rest) (output :: outputs)
      (.sectionTooLong index (size output) (s.budget.tokenBudget (m.left maxTokens a))) := by
  have heavy : ¬ m.blank output = true := fun blank => by
    rw [weightless output blank] at exceeds
    contradiction
  have alone : m.present [output] = [output] := List.filter_cons_of_pos (by simp [heavy])
  refine ⟨0, s, output, a.kept, rfl, rfl, fun k bound => ?_, ?_, (List.append_nil a.kept).symm, ?_⟩
  · obtain rfl := Nat.le_zero.mp bound
    rw [List.take_zero, present, List.filter_nil, List.append_nil, ← held.length]
    exact held.fits
  · rw [List.take_succ_cons, List.take_zero, alone, counts.append, ← held.length]
    unfold left at exceeds
    omega
  · rw [← held.length, Nat.add_zero]

theorem Overruns.cons (within : total kept ≤ maxTokens)
    (overruns : m.Overruns size total maxTokens (index + 1) (kept ++ m.present [output]) rest outputs e)
    (s : PromptSection) : m.Overruns size total maxTokens index kept (s :: rest) (output :: outputs) e := by
  obtain ⟨i, refused, own, before, there, its, fits, beyond, spent, same⟩ := overruns
  refine ⟨i + 1, refused, own, before, there, its, fun k bound => ?_, ?_, ?_, ?_⟩
  -- nothing is due before the first output but what was kept already
  · cases k with
    | zero => simpa [present] using within
    | succ k =>
      rw [List.take_succ_cons, append_present_cons]
      exact fits k (Nat.le_of_succ_le_succ bound)
  · rwa [List.take_succ_cons, append_present_cons]
  · rwa [List.take_succ_cons, append_present_cons]
  · rw [same, Nat.add_assoc, Nat.add_comm 1 i]

theorem Overruns.total_gt (counts : m.Counts ctx size total)
    (overruns : m.Overruns size total maxTokens index kept sections outputs e) :
    maxTokens < total (kept ++ m.present outputs) := by
  obtain ⟨i, _, _, _, _, _, _, beyond, _⟩ := overruns
  have split : kept ++ m.present outputs =
      kept ++ m.present (outputs.take (i + 1)) ++ m.present (outputs.drop (i + 1)) := by
    rw [List.append_assoc, present, present, present, ← List.filter_append, List.take_append_drop]
  rw [split]
  exact Nat.lt_of_lt_of_le beyond (counts.total_le_append _ _)

/-- A walk along required sections keeps everything, or it refuses the first section that goes beyond
the limit. -/
theorem Impartial.walk_required (impartial : m.Impartial) (counts : m.Counts ctx size total)
    (weightless : ∀ output, m.blank output = true → size output = 0)
    (yields : m.Yields ctx size w sections outputs final) (required : ∀ s ∈ sections, s.required = true)
    (held : a.Exact total maxTokens) :
    let walk := m.walk ctx maxTokens index a sections w
    (∃ b, walk.result = .ok b ∧ b.kept = a.kept ++ m.present outputs ∧ walk.world = final) ∨
      ∃ e, walk.result = .error e ∧ m.Overruns size total maxTokens index a.kept sections outputs e := by
  induction yields generalizing index a with
  | nil w => exact .inl ⟨a, rfl, by simp [present], rfl⟩
  | @cons s rest output outputs w next final rendered later ih =>
    intro walk
    let v := m.visit ctx maxTokens a s w
    have given : v.result = .ok ((Rendered.measured size output).against v.budget) :=
      congrArg Prod.fst (rendered v.budget)
    have after : v.after = next := congrArg Prod.snd (rendered v.budget)
    obtain ⟨fits, _, passed, settled⟩ | ⟨exceeds, _, refused⟩ | ⟨_, optional, _⟩ :=
      impartial.visit_cases index given
    · have onward : walk = ⟨v :: _, _, _⟩ := walk_of_onward passed
      have exact : (m.settle a v).Exact total maxTokens := settle_exact counts held s w
      have kept : (m.settle a v).kept = a.kept ++ m.present [output] := by
        rw [settled, kept_charge]
        rfl
      have further := @ih (index + 1) (m.settle a v) (fun s mem => required s (List.mem_cons_of_mem _ mem)) exact
      rw [onward, after]
      rw [kept] at further
      obtain ⟨b, done, whole, world⟩ | ⟨e, failed, overruns⟩ := further
      · exact .inl ⟨b, done, whole.trans (append_present_cons m _ _ _).symm, world⟩
      · exact .inr ⟨e, failed, overruns.cons (held.length ▸ held.fits) s⟩
    · exact .inr ⟨_, congrArg Walk.result (walk_of_failure refused), .first counts weightless held exceeds s⟩
    -- a required section is never dropped
    · rw [required s List.mem_cons_self] at optional
      contradiction

/-- What required sections come to together is the least limit with which a walk succeeds. -/
theorem Impartial.walk_threshold (impartial : m.Impartial) (counts : m.Counts ctx size total)
    (weightless : ∀ output, m.blank output = true → size output = 0)
    (yields : m.Yields ctx size w sections outputs final) (required : ∀ s ∈ sections, s.required = true)
    (maxTokens : Nat) :
    let walk := m.walk ctx maxTokens 0 .empty sections w
    let kept := m.present outputs
    (total kept ≤ maxTokens → walk.result = .ok ⟨total kept, kept⟩ ∧ walk.world = final) ∧
      (maxTokens < total kept →
        ∃ e, walk.result = .error e ∧ m.Overruns size total maxTokens 0 [] sections outputs e) := by
  intro walk kept
  have held : (Account.empty : Account α).Exact total maxTokens := ⟨counts.none.symm, Nat.zero_le maxTokens⟩
  have came : (∃ b, walk.result = .ok b ∧ b.kept = kept ∧ walk.world = final) ∨
      ∃ e, walk.result = .error e ∧ m.Overruns size total maxTokens 0 [] sections outputs e :=
    impartial.walk_required counts weightless yields required held
  obtain ⟨b, done, whole, world⟩ | ⟨e, failed, overruns⟩ := came
  · have exact : b.Exact total maxTokens := walk_exact counts held done
    rw [← whole, ← exact.length]
    exact ⟨fun _ => ⟨done, world⟩, fun beyond => absurd beyond (Nat.not_lt.mpr exact.fits)⟩
  · exact ⟨fun fits => absurd (overruns.total_gt counts) (Nat.not_lt.mpr fits), fun _ => ⟨e, failed, overruns⟩⟩

theorem messages_yields {sections : List TemplateSection} {texts : List String}
    (scalars : ctx.tokenizer = .chars) (rendered : Render.Texts ctx w sections texts final) :
    messages.Yields ctx scalarCount w (sections.map .template)
      ((sections.zip texts).map fun p => p.1.speech p.2) final := by
  induction rendered with
  | nil w => exact .nil w
  | cons rendered later ih => exact .cons (TemplateSection.renderMessages_of_run scalars rendered) ih

theorem text_yields {sections : List TemplateSection} {texts : List String} (joint : Nat)
    (scalars : ctx.tokenizer = .chars) (rendered : Render.Texts ctx w sections texts final) :
    (text joint).Yields ctx String.length w (sections.map .template)
      ((sections.zip texts).map fun p => p.1.block p.2) final := by
  induction rendered with
  | nil w => exact .nil w
  | cons rendered later ih => exact .cons (TemplateSection.renderText_of_run scalars rendered) ih

end Mode

theorem sum_tokenBudget_le_blocks (joint : Nat) (shown : List (TemplateSection × String)) :
    (shown.map fun p => p.1.budget.tokenBudget p.2.length).sum ≤
      (((Mode.text joint).present (shown.map fun p => p.1.block p.2)).map String.length).sum := by
  induction shown with
  | nil => exact Nat.le_refl 0
  | cons p rest ih =>
    have least := p.1.tokenBudget_le_block p.2
    rw [List.map_cons, List.sum_cons, List.map_cons]
    by_cases empty : (p.1.block p.2).isEmpty = true
    · rw [String.isEmpty_iff.mp empty, String.length_empty] at least
      rw [Mode.present, List.filter_cons_of_neg (by simp [Mode.text, empty])]
      exact Nat.le_trans (Nat.le_of_eq (by rw [Nat.le_zero.mp least, Nat.zero_add])) ih
    · rw [Mode.present, List.filter_cons_of_pos (by simpa [Mode.text] using empty), List.map_cons, List.sum_cons]
      exact Nat.add_le_add least ih

namespace Mode

variable {sections : List TemplateSection} {shown : List (TemplateSection × String)} {e : PromptError}
variable {maxTokens : Nat}

theorem Overruns.of_messages (overruns : messages.Overruns scalarCount (fun kept => scalarCount kept.flatten)
      maxTokens 0 [] (sections.map .template) (shown.map fun p => p.1.speech p.2) e) :
    let lengths := shown.map fun p => p.1.budget.tokenBudget p.2.length
    ∃ i t length, sections[i]? = some t ∧ lengths[i]? = some length ∧
      (∀ k ≤ i, (lengths.take k).sum ≤ maxTokens) ∧ maxTokens < (lengths.take (i + 1)).sum ∧
      e = .sectionTooLong i length (t.budget.tokenBudget (maxTokens - (lengths.take i).sum)) := by
  intro lengths
  obtain ⟨i, s, output, before, there, its, fits, beyond, spent, same⟩ := overruns
  let outputs := shown.map fun p => p.1.speech p.2
  have measured : outputs.map scalarCount = lengths := TemplateSection.map_scalarCount_speech shown
  have due : ∀ k, scalarCount ([] ++ messages.present (outputs.take k)).flatten = (lengths.take k).sum := fun k => by
    rw [List.nil_append, present_messages, scalarCount_flatten, List.map_take, measured]
  obtain ⟨t, inside, rfl⟩ : ∃ t, sections[i]? = some t ∧ .template t = s := by
    rwa [List.getElem?_map, Option.map_eq_some_iff] at there
  have length : lengths[i]? = some (scalarCount output) := by rw [← measured, List.getElem?_map, its]; rfl
  refine ⟨i, t, scalarCount output, inside, length, fun k bound => due k ▸ fits k bound, due (i + 1) ▸ beyond, ?_⟩
  rw [same, left_messages, Nat.zero_add, spent, ← due i]
  rfl

end Mode

/-- A layout of required sections succeeds from a limit on, which is the length of what it renders to,
and text takes no lower one than messages. Below the limit it refuses the first section that goes beyond. -/
theorem required_layout_threshold (sections : List TemplateSection) (separator : String) (ctx : Context)
    (w final : World) (texts : List String) (scalars : ctx.tokenizer = .chars)
    (required : ∀ t ∈ sections, t.budget.required = true)
    (rendered : Render.Texts ctx w sections texts final) :
    let l : Layout := ⟨sections.map .template, separator⟩
    let shown := sections.zip texts
    let lengths := shown.map fun p => p.1.budget.tokenBudget p.2.length
    let messages := (shown.map fun p => p.1.speech p.2).flatten
    let text := separator.intercalate ((shown.map fun p => p.1.block p.2).filter fun block => !block.isEmpty)
    lengths.sum ≤ text.length ∧ ∀ maxTokens,
      (lengths.sum ≤ maxTokens →
        l.renderMessages ctx w maxTokens = (.ok ⟨messages, lengths.sum, false⟩, final)) ∧
      (maxTokens < lengths.sum → ∃ i t length, sections[i]? = some t ∧ lengths[i]? = some length ∧
        (∀ k ≤ i, (lengths.take k).sum ≤ maxTokens) ∧ maxTokens < (lengths.take (i + 1)).sum ∧
        (l.renderMessages ctx w maxTokens).1 = .error (.sectionTooLong i length
          (t.budget.tokenBudget (maxTokens - (lengths.take i).sum)))) ∧
      (text.length ≤ maxTokens →
        l.renderText ctx w maxTokens = (.ok ⟨text, text.length, false⟩, final)) ∧
      (maxTokens < text.length → ∃ i length budget,
        (l.renderText ctx w maxTokens).1 = .error (.sectionTooLong i length budget)) := by
  intro l shown lengths messages text
  have mandatory : ∀ s ∈ l.sections, s.required = true := fun s mem => by
    obtain ⟨t, inside, rfl⟩ := List.mem_map.mp mem
    exact required t inside
  let joint := ctx.tokenizer.count separator
  have inMessages := Mode.messages_impartial.walk_threshold (Mode.messages_counts scalars)
    (fun _ blank => absurd blank Bool.false_ne_true) (Mode.messages_yields scalars rendered) mandatory
  have inText := (Mode.text_impartial joint).walk_threshold (Mode.text_counts scalars separator)
    (fun _ blank => by rw [String.isEmpty_iff.mp blank]; rfl) (Mode.text_yields joint scalars rendered) mandatory
  refine ⟨Nat.le_trans (sum_tokenBudget_le_blocks joint shown) (sum_length_le_intercalate _ _),
    fun maxTokens => ?_⟩
  obtain ⟨messagesFit, messagesFail⟩ := inMessages maxTokens
  obtain ⟨textFits, textFails⟩ := inText maxTokens
  have due : scalarCount messages = lengths.sum := by
    rw [scalarCount_flatten, TemplateSection.map_scalarCount_speech]
  rw [Mode.present_messages] at messagesFit messagesFail
  rw [l.renderMessages_eq_walk, l.renderText_eq_walk]
  refine ⟨fun fits => ?_, fun beyond => ?_, fun fits => ?_, fun beyond => ?_⟩
  · obtain ⟨done, world⟩ := messagesFit (due ▸ fits)
    have result : (l.messageWalk ctx w maxTokens).result = .ok ⟨lengths.sum, _⟩ := due ▸ done
    have after : (l.messageWalk ctx w maxTokens).world = final := world
    rw [result, after]
    rfl
  · obtain ⟨e, failed, overruns⟩ := messagesFail (due ▸ beyond)
    obtain ⟨i, t, length, there, its, fits, exceeds, same⟩ := overruns.of_messages
    have result : (l.messageWalk ctx w maxTokens).result = .error e := failed
    exact ⟨i, t, length, there, its, fits, exceeds, by rw [result, same]; rfl⟩
  · obtain ⟨done, world⟩ := textFits fits
    have result : (l.textWalk ctx w maxTokens).result = .ok ⟨text.length, _⟩ := done
    have after : (l.textWalk ctx w maxTokens).world = final := world
    rw [result, after]
    rfl
  · obtain ⟨e, failed, i, s, block, before, _, _, _, _, _, same⟩ := textFails beyond
    have result : (l.textWalk ctx w maxTokens).result = .error e := failed
    exact ⟨_, _, _, by rw [result, same]; rfl⟩

def rulesAndHello : List TemplateSection :=
  [.plain "the rules" "system" { tokens := 5.0, textPrefix := "> " }, .plain "hello" "user" {}]

theorem rules_and_hello_threshold :
    let l : Layout := ⟨rulesAndHello.map .template, "\n\n"⟩
    charContext.tokenizer = .chars ∧ (∀ t ∈ rulesAndHello, t.budget.required = true) ∧
    Render.Texts charContext default rulesAndHello ["the rules", "hello"] default ∧
    l.renderMessages charContext default 10 =
      (.ok ⟨[⟨"system", "the r"⟩, ⟨"user", "hello"⟩], 10, false⟩, default) ∧
    (l.renderMessages charContext default 9).1 = .error (.sectionTooLong 1 5 4) ∧
    l.renderText charContext default 12 = (.ok ⟨"> the\n\nhello", 12, false⟩, default) ∧
    ∃ i length budget, (l.renderText charContext default 11).1 = .error (.sectionTooLong i length budget) := by
  intro l
  have required : ∀ t ∈ rulesAndHello, t.budget.required = true := by decide +kernel
  have first : (Render.run charContext [.text "the rules"] default).result = .ok ["the rules"] := by
    decide +kernel
  have second : (Render.run charContext [.text "hello"] default).result = .ok ["hello"] := by decide +kernel
  have rendered : Render.Texts charContext default rulesAndHello ["the rules", "hello"] default :=
    .cons (t := rulesAndHello[0]) (w := default) first
      (.cons (t := rulesAndHello[1]) (w := default) second (.nil default))
  let shown := rulesAndHello.zip ["the rules", "hello"]
  have lengths : (shown.map fun p => p.1.budget.tokenBudget p.2.length) = [5, 5] := by decide +kernel
  have messages : (shown.map fun p => p.1.speech p.2).flatten = [⟨"system", "the r"⟩, ⟨"user", "hello"⟩] := by
    decide +kernel
  have text : "\n\n".intercalate ((shown.map fun p => p.1.block p.2).filter fun block => !block.isEmpty) =
    "> the\n\nhello" := by decide +kernel
  have threshold := (required_layout_threshold rulesAndHello "\n\n" charContext default default
    ["the rules", "hello"] rfl required rendered).2
  simp only [shown] at lengths messages text
  simp only [lengths, messages, text] at threshold
  exact ⟨rfl, required, rendered, (threshold 10).1 (by decide), by decide +kernel,
    (threshold 12).2.2.1 (by decide +kernel), (threshold 11).2.2.2 (by decide +kernel)⟩

end PromptKit
