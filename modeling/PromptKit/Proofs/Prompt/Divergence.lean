import PromptKit.Proofs.Prompt.Offers

/-!
A layout under two limits. Both runs meet the same outputs, and they take the same of them up to an
optional section that the smaller limit drops and the larger one keeps. From there on the larger limit
may leave too little for a required section, and in no other way does it fail where the smaller one
succeeds.
-/
namespace PromptKit

open Render (Context World)

variable {α : Type}

def Walk.Drops (walk : Walk α) (i : Nat) : Prop :=
  ∃ v r, walk.visits[i]? = some v ∧ v.item.required = false ∧ v.result = .ok r ∧ r.tooLong = true

def Walk.Keeps (walk : Walk α) (i : Nat) : Prop :=
  ∃ v r, walk.visits[i]? = some v ∧ v.result = .ok r ∧ r.tooLong = false

/-- The error is that a required section, counted from an index on, needs more than it is offered. -/
def PromptError.Refuses (e : PromptError) (index : Nat) (sections : List PromptSection) (i : Nat) : Prop :=
  ∃ s length budget, sections[i]? = some s ∧ s.required = true ∧
    e = .sectionTooLong (index + i) length budget

theorem PromptError.Refuses.cons {e : PromptError} {index i : Nat} {rest : List PromptSection}
    (refuses : e.Refuses (index + 1) rest i) (s : PromptSection) : e.Refuses index (s :: rest) (i + 1) := by
  obtain ⟨refused, length, budget, there, required, same⟩ := refuses
  refine ⟨refused, length, budget, there, required, ?_⟩
  rw [same, Nat.add_assoc, Nat.add_comm 1 i]

/-- Two walks come to the same, or there is an optional section that one drops and the other keeps, and
the other fails at most by refusing a section after it. -/
def Walk.PartsFrom (small large : Walk α) (index : Nat) (sections : List PromptSection) : Prop :=
  (large.result = small.result ∧ large.world = small.world) ∨
    ∃ i, small.Drops i ∧ large.Keeps i ∧
      ∀ e, large.result = .error e → ∃ j, i < j ∧ e.Refuses index sections j

theorem Walk.PartsFrom.cons {small large : Walk α} {index : Nat} {rest : List PromptSection}
    (parts : small.PartsFrom large (index + 1) rest) (s : PromptSection) (v v' : Visit α) :
    (⟨v :: small.visits, small.result, small.world⟩ : Walk α).PartsFrom
      ⟨v' :: large.visits, large.result, large.world⟩ index (s :: rest) := by
  obtain agree | ⟨i, drops, keeps, refuses⟩ := parts
  · exact .inl agree
  · refine .inr ⟨i + 1, drops, keeps, fun e failed => ?_⟩
    obtain ⟨j, later, refuses⟩ := refuses e failed
    exact ⟨j + 1, Nat.succ_lt_succ later, refuses.cons s⟩

namespace Mode

variable {m : Mode α} {ctx : Context} {maxTokens larger index : Nat} {a b : Account α}
variable {s : PromptSection} {sections rest : List PromptSection} {w : World} {r : Rendered α}

theorem Impartial.rendered_of_onward (impartial : m.Impartial)
    (passed : (m.visit ctx maxTokens a s w).failure? index = none) (other : Nat) (b : Account α) :
    let v := m.visit ctx maxTokens a s w
    let v' := m.visit ctx other b s w
    ∃ r, v.result = .ok r ∧ v'.result = .ok (r.against v'.budget) ∧ v'.after = v.after := by
  intro v v'
  obtain ⟨r, given, _⟩ := Visit.failure?_eq_none_iff.mp passed
  obtain ⟨result, after⟩ := impartial.visit_eq ctx maxTokens a s w other b
  rw [given] at result
  exact ⟨r, given, result, after⟩

theorem Impartial.refuses_of_error (impartial : m.Impartial) {other : Nat} {a' : Account α} {e : PromptError}
    (done : (m.walk ctx maxTokens index a sections w).result = .ok b)
    (failed : (m.walk ctx other index a' sections w).result = .error e) :
    ∃ i, e.Refuses index sections i := by
  induction sections generalizing index a a' w with
  | nil => cases failed
  | cons s rest ih =>
    obtain ⟨passed, onward, _⟩ := walk_cons_of_ok done
    obtain ⟨r, _, given, after⟩ := impartial.rendered_of_onward passed other a'
    rw [← after] at onward
    have later : ∀ next, (m.walk ctx other (index + 1) next rest (m.visit ctx other a' s w).after).result =
        .error e → ∃ i, e.Refuses index (s :: rest) i := fun next failed => by
      obtain ⟨i, refuses⟩ := ih onward failed
      exact ⟨i + 1, refuses.cons s⟩
    obtain ⟨_, _, goesOn, _⟩ | ⟨_, required, refused⟩ | ⟨_, _, _, goesOn, _⟩ :=
      impartial.visit_cases index given
    · rw [walk_of_onward goesOn] at failed
      exact later _ failed
    · rw [walk_of_failure refused] at failed
      exact ⟨0, s, _, _, rfl, required, (Except.error.inj failed).symm⟩
    · rw [walk_of_onward goesOn] at failed
      exact later _ failed

theorem left_mono (m : Mode α) (enough : maxTokens ≤ larger) (a : Account α) :
    m.left maxTokens a ≤ m.left larger a := Nat.sub_le_sub_right enough _

/-- From one account and world, two limits go on alike until the smaller one drops what the larger one
keeps. -/
theorem walk_larger (impartial : m.Impartial) (enough : maxTokens ≤ larger)
    (done : (m.walk ctx maxTokens index a sections w).result = .ok b) :
    (m.walk ctx maxTokens index a sections w).PartsFrom (m.walk ctx larger index a sections w) index sections := by
  induction sections generalizing index a w with
  | nil => exact .inl ⟨rfl, rfl⟩
  | cons s rest ih =>
    let v := m.visit ctx maxTokens a s w
    let v' := m.visit ctx larger a s w
    obtain ⟨passed, onward, _⟩ := walk_cons_of_ok done
    obtain ⟨r, given, given', after⟩ := impartial.rendered_of_onward passed larger a
    -- where both go on from one account, the rest decides
    have alike (same : m.settle a v' = m.settle a v) (passed' : v'.failure? index = none) :
        (m.walk ctx maxTokens index a (s :: rest) w).PartsFrom
          (m.walk ctx larger index a (s :: rest) w) index (s :: rest) := by
      rw [walk_of_onward passed, walk_of_onward passed', same, after]
      exact (ih onward).cons s v v'
    have more := m.left_mono enough a
    obtain ⟨fits, _, _, settled⟩ | ⟨_, _, refused⟩ | ⟨exceeds, optional, long, _, settled⟩ :=
      impartial.visit_cases index given
    · obtain ⟨_, _, passed', settled'⟩ | ⟨exceeds', _⟩ | ⟨exceeds', _⟩ := impartial.visit_cases index given'
      · exact alike (settled'.trans settled.symm) passed'
      · rw [Rendered.length_against] at exceeds'
        omega
      · rw [Rendered.length_against] at exceeds'
        omega
    · rw [passed] at refused
      contradiction
    · obtain ⟨_, short', passed', _⟩ | ⟨_, required, _⟩ | ⟨_, _, _, passed', settled'⟩ :=
        impartial.visit_cases index given'
      · rw [walk_of_onward passed, walk_of_onward passed']
        refine .inr ⟨0, ⟨v, r, rfl, optional, given, long⟩, ⟨v', _, rfl, given', short'⟩, fun e failed => ?_⟩
        rw [← after] at onward
        obtain ⟨j, refuses⟩ := impartial.refuses_of_error onward failed
        exact ⟨j + 1, Nat.succ_pos j, refuses.cons s⟩
      · rw [optional] at required
        contradiction
      · exact alike (settled'.trans settled.symm) passed'

end Mode

/-- A larger limit leaves a layout that succeeds as it is, or it keeps an optional section that the
smaller one drops; then it fails at most by refusing a required section after that one. -/
theorem larger_limit_keeps_prompt_or_section (l : Layout) (ctx : Context) (w : World)
    {maxTokens larger : Nat} (enough : maxTokens ≤ larger) {r : Rendered (List Message)}
    (given : (l.renderMessages ctx w maxTokens).1 = .ok r) :
    l.renderMessages ctx w larger = l.renderMessages ctx w maxTokens ∨
      ∃ i, (l.messageWalk ctx w maxTokens).Drops i ∧ (l.messageWalk ctx w larger).Keeps i ∧
        ∀ e, (l.renderMessages ctx w larger).1 = .error e →
          ∃ j, i < j ∧ e.Refuses 0 l.sections j := by
  rw [l.renderMessages_eq_walk] at given
  obtain ⟨a, done, _, _⟩ := Walk.exists_account (Prod.ext given rfl)
  have parts : (l.messageWalk ctx w maxTokens).PartsFrom (l.messageWalk ctx w larger) 0 l.sections :=
    Mode.walk_larger Mode.messages_impartial enough done
  rw [l.renderMessages_eq_walk ctx w maxTokens, l.renderMessages_eq_walk ctx w larger]
  obtain ⟨result, world⟩ | ⟨i, drops, keeps, refuses⟩ := parts
  · exact .inl (by rw [result, world])
  · exact .inr ⟨i, drops, keeps, fun e failed => refuses e (eq_error_of_map failed)⟩

def remarkBetween : List TemplateSection :=
  [.plain "rules" "system" {}, .plain "one remark" "assistant" { required := false }, .plain "hello" "user" {}]

theorem remark_leaves_no_room :
    let l : Layout := ⟨remarkBetween.map .template, "\n\n"⟩
    10 ≤ 15 ∧ (l.renderMessages charContext default 10).1 =
      .ok ⟨[⟨"system", "rules"⟩, ⟨"user", "hello"⟩], 10, false⟩ ∧
    ∃ i, (l.messageWalk charContext default 10).Drops i ∧ (l.messageWalk charContext default 15).Keeps i ∧
      ∃ j, i < j ∧ (PromptError.sectionTooLong 2 5 0).Refuses 0 l.sections j := by
  intro l
  have given : (l.renderMessages charContext default 10).1 =
      .ok ⟨[⟨"system", "rules"⟩, ⟨"user", "hello"⟩], 10, false⟩ := by decide +kernel
  have failed : (l.renderMessages charContext default 15).1 = .error (.sectionTooLong 2 5 0) := by
    decide +kernel
  refine ⟨by decide, given, ?_⟩
  cases larger_limit_keeps_prompt_or_section l charContext default (by decide : 10 ≤ 15) given with
  | inl same =>
    rw [same, given] at failed
    cases failed
  | inr diverge =>
    obtain ⟨i, drops, keeps, refuses⟩ := diverge
    exact ⟨i, drops, keeps, refuses _ failed⟩

def Render.Context.Timeless (ctx : Context) : Prop :=
  ∀ name f, ctx.registry.get? name = some f →
    ∃ b : Builtin, f = b.function ∧ b ≠ .dateNow ∧ b ≠ .dateYear ∧ b ≠ .dateFormat

/-- Success does not carry over to a larger limit. -/
theorem larger_limit_can_fail :
    ¬ ∀ (sections : List TemplateSection) (separator : String) (ctx : Context) (w : World)
      (maxTokens larger : Nat), ctx.Timeless → maxTokens ≤ larger →
      let l : Layout := ⟨sections.map .template, separator⟩
      (∃ r, (l.renderMessages ctx w maxTokens).1 = .ok r) → ∃ r, (l.renderMessages ctx w larger).1 = .ok r := by
  intro monotone
  let l : Layout := ⟨remarkBetween.map .template, "\n\n"⟩
  have timeless : charContext.Timeless := fun _ _ found => by cases found
  have small : (l.renderMessages charContext default 10).1 =
      .ok ⟨[⟨"system", "rules"⟩, ⟨"user", "hello"⟩], 10, false⟩ := by decide +kernel
  have large : (l.renderMessages charContext default 15).1 = .error (.sectionTooLong 2 5 0) := by
    decide +kernel
  obtain ⟨r, given⟩ := monotone remarkBetween "\n\n" charContext default 10 15 timeless (by decide) ⟨_, small⟩
  exact nomatch large.symm.trans given

end PromptKit
