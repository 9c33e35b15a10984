import Mathlib.Algebra.Ring.Nat
import PromptKit.Proofs.Prompt.Offers
import PromptKit.Proofs.Render.Causes

/-!
Layouts whose limit provides for every section. If all sections have fixed budgets, and these add up
to no more than the limit, then every section is offered its whole budget and no output exceeds it,
whatever memory, functions and tokenizer make of the templates.
-/
namespace PromptKit

open Render (Context World)

variable {α β : Type}

def PromptSection.provision (s : PromptSection) : Nat := s.budget.fixedTokens?.getD 0

/-- A section that is offered its whole fixed budget, and stays within it. -/
structure Visit.Accommodated (v : Visit α) : Prop where
  offered : v.item.budget.fixedTokens? = some v.budget
  fits : ∀ r, v.result = .ok r → r.length ≤ v.budget ∧ r.tooLong = false

/-- What comes of sections that are all accommodated: nothing is left out for its length, and only a
section that fails by itself ends the layout. -/
structure Mode.Accommodates (m : Mode α) (ctx : Context) (sections : List PromptSection) (w : World)
    (visits : List (Visit α)) (result : Except PromptError (List α)) (final : World) : Prop where
  visited : m.Visited ctx w visits final
  items : visits.map (·.item) <+: sections
  accommodated : ∀ v ∈ visits, v.Accommodated
  failed : ∀ e, result = .error e → ∃ v, visits.getLast? = some v ∧ v.result = .error e
  whole : ∀ outputs, result = .ok outputs → visits.map (·.item) = sections ∧
    ∃ rs : List (Rendered α), visits.map (·.result) = rs.map .ok ∧
      outputs = m.present (rs.map (·.output))

theorem Visit.Accommodated.error_of_failure {v : Visit α} {index : Nat} {e : PromptError}
    (accommodated : v.Accommodated) (failed : v.failure? index = some e) : v.result = .error e := by
  cases given : v.result with
  | error e' =>
    rw [Visit.failure?_of_error given] at failed
    rw [Option.some.inj failed]
  | ok r =>
    have short := (accommodated.fits r given).2
    simp [Visit.failure?, given, short] at failed

namespace Mode

variable {m : Mode α} {ctx : Context} {maxTokens index : Nat} {a : Account α} {s : PromptSection}
variable {sections rest : List PromptSection} {w : World} {r : Rendered α}

def joints (m : Mode α) (kept : List α) (count : Nat) : Nat :=
  (if kept.isEmpty then count - 1 else count) * m.joint

theorem joints_le (m : Mode α) (kept : List α) (count : Nat) : m.joints kept count ≤ count * m.joint := by
  unfold joints
  split
  · exact Nat.mul_le_mul_right _ (Nat.sub_le count 1)
  · exact Nat.le_refl _

theorem joints_succ (m : Mode α) (kept : List α) (count : Nat) :
    m.joints kept (count + 1) = m.overhead kept + count * m.joint := by
  unfold joints overhead
  split
  · rw [Nat.add_sub_cancel, Nat.zero_add]
  · rw [Nat.succ_mul, Nat.add_comm]

def Provides (m : Mode α) (maxTokens : Nat) (a : Account α) (sections : List PromptSection) : Prop :=
  a.length + ((sections.map (·.provision)).sum + m.joints a.kept sections.length) ≤ maxTokens

theorem Provides.left_ge (provides : m.Provides maxTokens a (s :: rest)) :
    s.provision ≤ m.left maxTokens a := by
  unfold Provides at provides
  unfold left
  rw [List.map_cons, List.sum_cons, List.length_cons, joints_succ] at provides
  omega

theorem Provides.charge (provides : m.Provides maxTokens a (s :: rest)) (held : r.length ≤ s.provision) :
    m.Provides maxTokens (m.charge a r) rest := by
  unfold Provides at provides ⊢
  rw [List.map_cons, List.sum_cons, List.length_cons, joints_succ] at provides
  unfold Mode.charge
  split
  · have fewer : m.joints a.kept rest.length ≤ rest.length * m.joint := m.joints_le a.kept rest.length
    omega
  · have fewer := m.joints_le (a.kept ++ [r.output]) rest.length
    simp only
    omega

theorem Impartial.visit_accommodated (impartial : m.Impartial) {fixed : Nat}
    (budgeted : s.budget.fixedTokens? = some fixed) (provides : m.Provides maxTokens a (s :: rest)) :
    (m.visit ctx maxTokens a s w).Accommodated := by
  have room : fixed ≤ m.left maxTokens a := by
    have least := provides.left_ge
    rwa [PromptSection.provision, budgeted] at least
  have offered : (m.visit ctx maxTokens a s w).budget = fixed := by
    change s.budget.tokenBudget (m.left maxTokens a) = fixed
    rw [Budget.tokenBudget, budgeted]
    exact Nat.min_eq_left room
  refine ⟨by rw [offered]; exact budgeted, fun r given => ?_⟩
  have held := impartial.held s ctx w _ r _ fixed (Prod.ext given rfl) budgeted
  refine ⟨by rwa [offered], Bool.of_not_eq_true fun long => ?_⟩
  have exceeds := (impartial.tooLong_iff given).mp long
  omega

theorem Impartial.walk_accommodated (impartial : m.Impartial)
    (budgeted : ∀ s ∈ sections, ∃ fixed, s.budget.fixedTokens? = some fixed)
    (provides : m.Provides maxTokens a sections) :
    ∀ v ∈ (m.walk ctx maxTokens index a sections w).visits, v.Accommodated := by
  induction sections generalizing index a w with
  | nil =>
    intro v mem
    cases mem
  | cons s rest ih =>
    obtain ⟨fixed, bounded⟩ := budgeted s List.mem_cons_self
    have first : (m.visit ctx maxTokens a s w).Accommodated := impartial.visit_accommodated bounded provides
    intro v mem
    cases failed : (m.visit ctx maxTokens a s w).failure? index with
    | some e =>
      rw [walk_of_failure failed] at mem
      rwa [List.mem_singleton.mp mem]
    | none =>
      rw [walk_of_onward failed] at mem
      cases mem with
      | head => exact first
      | tail _ mem =>
        obtain ⟨r, given, _⟩ := Visit.failure?_eq_none_iff.mp failed
        -- the section takes no more than was put by for it, so the rest is still provided for
        have held : r.length ≤ s.provision := by
          rw [PromptSection.provision, bounded]
          exact impartial.held s ctx w _ r _ fixed (Prod.ext given rfl) bounded
        rw [settle_of_short given (first.fits r given).2] at mem
        exact ih (fun s mem => budgeted s (List.mem_cons_of_mem _ mem)) (provides.charge held) v mem

theorem walk_error {e : PromptError} (failed : (m.walk ctx maxTokens index a sections w).result = .error e) :
    ∃ v i, (m.walk ctx maxTokens index a sections w).visits.getLast? = some v ∧ v.failure? i = some e := by
  induction sections generalizing index a w with
  | nil => cases failed
  | cons s rest ih =>
    cases stops : (m.visit ctx maxTokens a s w).failure? index with
    | some e' =>
      rw [walk_of_failure stops] at failed ⊢
      obtain rfl := Except.error.inj failed
      exact ⟨_, index, rfl, stops⟩
    | none =>
      rw [walk_of_onward stops] at failed ⊢
      obtain ⟨v, i, last, stops⟩ := ih failed
      exact ⟨v, i, by simp [List.getLast?_cons, last], stops⟩

theorem kept_of_fits {visits : List (Visit α)}
    (fits : ∀ v ∈ visits, ∃ r, v.result = .ok r ∧ r.tooLong = false) (a : Account α) :
    ∃ rs : List (Rendered α), visits.map (·.result) = rs.map .ok ∧
      (visits.foldl m.settle a).kept = a.kept ++ m.present (rs.map (·.output)) := by
  induction visits generalizing a with
  | nil => exact ⟨[], rfl, (List.append_nil a.kept).symm⟩
  | cons v rest ih =>
    obtain ⟨r, given, short⟩ := fits v List.mem_cons_self
    obtain ⟨rs, results, kept⟩ := ih (fun v mem => fits v (List.mem_cons_of_mem _ mem)) (m.charge a r)
    refine ⟨r :: rs, by rw [List.map_cons, given, results, List.map_cons], ?_⟩
    rw [List.foldl_cons, settle_of_short given short, kept, kept_charge, ← append_present_cons, List.map_cons]

theorem Impartial.walk_accommodates (impartial : m.Impartial)
    (budgeted : ∀ s ∈ sections, ∃ fixed, s.budget.fixedTokens? = some fixed)
    (provides : m.Provides maxTokens .empty sections) :
    let walk := m.walk ctx maxTokens 0 .empty sections w
    m.Accommodates ctx sections w walk.visits (walk.result.map (·.kept)) walk.world := by
  intro walk
  have accommodated : ∀ v ∈ walk.visits, v.Accommodated := impartial.walk_accommodated budgeted provides
  refine ⟨walk_visited _ _ _ _ _ _ _, (walk_items _ _ _ _ _ _ _).1, accommodated, ?_, ?_⟩
  · intro e failed
    obtain ⟨v, i, last, stops⟩ := walk_error (eq_error_of_map failed)
    exact ⟨v, last, (accommodated v (List.mem_of_getLast? last)).error_of_failure stops⟩
  · intro outputs done
    obtain ⟨b, result, rfl, _⟩ := Walk.exists_account (Prod.ext done rfl)
    refine ⟨(walk_items _ _ _ _ _ _ _).2 b result, ?_⟩
    have fits : ∀ v ∈ walk.visits, ∃ r, v.result = .ok r ∧ r.tooLong = false := fun v mem => by
      obtain ⟨i, passed⟩ := walk_passed result mem
      obtain ⟨r, given, _⟩ := Visit.failure?_eq_none_iff.mp passed
      exact ⟨r, given, ((accommodated v mem).fits r given).2⟩
    rw [walk_result result]
    exact kept_of_fits fits .empty

theorem raises_of_visited {visits : List (Visit α)} {final : World} {e : PromptError} {v : Visit α}
    {t : TemplateSection} (visited : m.Visited ctx w visits final) (mem : v ∈ visits)
    (item : v.item = .template t) (failed : v.result = .error e) : ctx.Raises e := by
  have rendered := visited.render_of_mem mem
  obtain ⟨f, direct⟩ := m.direct t ctx v.before v.budget
  rw [item, direct, failed] at rendered
  exact Render.raises_of_run (eq_error_of_map (congrArg Prod.fst rendered))

/-- What a walk that accommodates its sections fails with is never its own refusal. -/
theorem answers_of_tooLong {sections : List TemplateSection} {visits : List (Visit α)}
    {result : Except PromptError (List α)} {final : World} {i length budget : Nat}
    (accommodates : m.Accommodates ctx (sections.map .template) w visits result final)
    (failed : result = .error (.sectionTooLong i length budget)) :
    ctx.Answers (.sectionTooLong i length budget) := by
  obtain ⟨v, last, own⟩ := accommodates.failed _ failed
  have mem : v ∈ visits := List.mem_of_getLast? last
  obtain ⟨t, _, item⟩ := List.mem_map.mp (accommodates.items.subset (List.mem_map.mpr ⟨v, mem, rfl⟩))
  cases raises_of_visited accommodates.visited mem item.symm own with
  | answered answers => exact answers

theorem Impartial.accommodates_of_walk (impartial : m.Impartial) (combine : List α → β)
    {sections : List TemplateSection} {out : Except PromptError (Rendered β) × World}
    (budgeted : ∀ s ∈ sections.map PromptSection.template, ∃ fixed, s.budget.fixedTokens? = some fixed)
    (provides : m.Provides maxTokens .empty (sections.map .template))
    (rendered : out = ((m.walk ctx maxTokens 0 .empty (sections.map .template) w).result.map
      fun a => ⟨combine a.kept, a.length, false⟩, (m.walk ctx maxTokens 0 .empty (sections.map .template) w).world)) :
    (∀ i length budget, out.1 = .error (.sectionTooLong i length budget) →
      ctx.Answers (.sectionTooLong i length budget)) ∧
    ∃ visits outputs, m.Accommodates ctx (sections.map .template) w visits outputs out.2 ∧
      out.1.map (·.output) = outputs.map combine := by
  let walk := m.walk ctx maxTokens 0 .empty (sections.map .template) w
  have accommodates : m.Accommodates ctx (sections.map .template) w walk.visits
    (walk.result.map (·.kept)) walk.world := impartial.walk_accommodates budgeted provides
  subst rendered
  refine ⟨fun i length budget failed => answers_of_tooLong accommodates ?_, _, _, accommodates, ?_⟩
  · rw [eq_error_of_map failed]
    rfl
  · cases (m.walk ctx maxTokens 0 .empty (sections.map .template) w).result with
    | ok b => rfl
    | error e => rfl

end Mode

theorem Budget.exists_fixedTokens {b : Budget} (fixed : 1.0 < b.tokens) :
    ∃ n, b.fixedTokens? = some n := ⟨_, if_pos fixed⟩

/-- A limit that provides for the fixed budgets of all sections, and in text for the separators between
them, leaves every section its whole budget: none is dropped and none refused. Only a function that
answers with a refusal of its own can make the layout fail with one. -/
theorem provisioned_layout_accommodates (sections : List TemplateSection) (separator : String)
    (ctx : Context) (w : World) (maxTokens : Nat) (fixed : ∀ t ∈ sections, 1.0 < t.budget.tokens) :
    let l : Layout := ⟨sections.map .template, separator⟩
    let total := (l.sections.map (·.provision)).sum
    let joint := ctx.tokenizer.count separator
    let messages := l.renderMessages ctx w maxTokens
    let text := l.renderText ctx w maxTokens
    (total ≤ maxTokens →
      (∀ i length budget, messages.1 = .error (.sectionTooLong i length budget) →
        ctx.Answers (.sectionTooLong i length budget)) ∧
      ∃ visits outputs, Mode.messages.Accommodates ctx l.sections w visits outputs messages.2 ∧
        messages.1.map (·.output) = outputs.map List.flatten) ∧
    (total + (sections.length - 1) * joint ≤ maxTokens →
      (∀ i length budget, text.1 = .error (.sectionTooLong i length budget) →
        ctx.Answers (.sectionTooLong i length budget)) ∧
      ∃ visits blocks, (Mode.text joint).Accommodates ctx l.sections w visits blocks text.2 ∧
        text.1.map (·.output) = blocks.map separator.intercalate) := by
  intro l total joint messages text
  have budgeted : ∀ s ∈ l.sections, ∃ n, s.budget.fixedTokens? = some n := fun s mem => by
    obtain ⟨t, inside, rfl⟩ := List.mem_map.mp mem
    exact Budget.exists_fixedTokens (fixed t inside)
  constructor
  · intro room
    have provides : Mode.messages.Provides maxTokens .empty l.sections := by
      have free : Mode.messages.joints [] l.sections.length = 0 := Nat.mul_zero _
      change 0 + (total + Mode.messages.joints [] l.sections.length) ≤ maxTokens
      omega
    exact Mode.messages_impartial.accommodates_of_walk List.flatten budgeted provides
      (l.renderMessages_eq_walk ctx w maxTokens)
  · intro room
    have provides : (Mode.text joint).Provides maxTokens .empty l.sections := by
      have between : (Mode.text joint).joints [] l.sections.length = (sections.length - 1) * joint := by
        rw [List.length_map]
        rfl
      change 0 + (total + (Mode.text joint).joints [] l.sections.length) ≤ maxTokens
      omega
    exact (Mode.text_impartial joint).accommodates_of_walk separator.intercalate budgeted provides
      (l.renderText_eq_walk ctx w maxTokens)

/-- The first section is cut to its budget, and the two leave nothing of the limit. -/
theorem rules_and_hello_accommodated :
    let rules := TemplateSection.plain "the rules" "system" { tokens := 5.0 }
    let hello := TemplateSection.plain "hello" "user" { tokens := 3.0 }
    let l : Layout := ⟨[.template rules, .template hello], "\n\n"⟩
    (∀ t ∈ [rules, hello], 1.0 < t.budget.tokens) ∧
    (l.sections.map (·.provision)).sum = 8 ∧ charContext.tokenizer.count "\n\n" = 2 ∧
    (l.renderMessages charContext default 8).1 = .ok ⟨[⟨"system", "the r"⟩, ⟨"user", "hel"⟩], 8, false⟩ ∧
    (l.renderText charContext default 10).1 = .ok ⟨"the r\n\nhel", 10, false⟩ ∧
    (∃ visits outputs, Mode.messages.Accommodates charContext l.sections default visits outputs
      (l.renderMessages charContext default 8).2 ∧
      .ok [⟨"system", "the r"⟩, ⟨"user", "hel"⟩] = outputs.map List.flatten) ∧
    ∃ visits blocks, (Mode.text 2).Accommodates charContext l.sections default visits blocks
      (l.renderText charContext default 10).2 ∧
      .ok "the r\n\nhel" = blocks.map "\n\n".intercalate := by
  intro rules hello l
  have fixed : ∀ t ∈ [rules, hello], 1.0 < t.budget.tokens := by decide +kernel
  have total : (l.sections.map (·.provision)).sum = 8 := by decide +kernel
  have joint : charContext.tokenizer.count "\n\n" = 2 := by decide +kernel
  have messages : (l.renderMessages charContext default 8).1 =
    .ok ⟨[⟨"system", "the r"⟩, ⟨"user", "hel"⟩], 8, false⟩ := by decide +kernel
  have text : (l.renderText charContext default 10).1 = .ok ⟨"the r\n\nhel", 10, false⟩ := by decide +kernel
  have inMessages := (provisioned_layout_accommodates [rules, hello] "\n\n" charContext default 8 fixed).1
    (Nat.le_of_eq total)
  have inText := (provisioned_layout_accommodates [rules, hello] "\n\n" charContext default 10 fixed).2
    (by decide +kernel)
  refine ⟨fixed, total, joint, messages, text, ?_, ?_⟩
  · obtain ⟨visits, outputs, accommodates, same⟩ := inMessages.2
    have rendered : .ok [⟨"system", "the r"⟩, ⟨"user", "hel"⟩] =
      (l.renderMessages charContext default 8).1.map (·.output) := by rw [messages, Except.map]
    exact ⟨visits, outputs, accommodates, rendered.trans same⟩
  · obtain ⟨visits, blocks, accommodates, same⟩ := inText.2
    rw [joint] at accommodates
    have rendered : .ok "the r\n\nhel" = (l.renderText charContext default 10).1.map (·.output) := by
      rw [text, Except.map]
    exact ⟨visits, blocks, accommodates, rendered.trans same⟩

end PromptKit
