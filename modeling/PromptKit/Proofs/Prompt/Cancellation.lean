import PromptKit.Function.Sample
import PromptKit.Proofs.Prompt.Visits
import PromptKit.Proofs.Render.Cancellation

/-!
A cancellation is final for a whole layout, in both of its modes: no later poll of any section runs a
body, a section that begins after it fails the layout, and only the last section can outlive it.
-/
namespace PromptKit

open Render (Context World Step)

variable {α β γ : Type}

def Visit.steps (ctx : Context) (v : Visit α) : List Step :=
  match v.item with
  | .template t => Render.steps ctx t.template.directives v.before
  | .messages .. => []

/-- A step at which a body cancels the render of a template when every other call is done. -/
def Render.Step.CancelsLast (directives : List Template.Directive) (step : Step) : Prop :=
  step.before.world.cancelled = false ∧ step.after.world.cancelled = true ∧ step.RunsBody ∧
    ∀ i name args, directives[i]? = some (.call name args) → i ≠ step.poll.position →
      step.before.isDone i = true

/-- What a render of sections comes to around a cancellation, from the visits that it made. -/
structure CancellationFinal (ctx : Context) (sections : List TemplateSection) (w : World)
    (visits : List (Visit α)) (result : Except PromptError β) (final : World) : Prop where
  ran : ∀ v ∈ visits, ∀ t, v.item = .template t → (Render.run ctx t.template.directives v.before).ran =
    ((v.steps ctx).filter (·.RunsBody)).map (·.poll.position)
  before : w.cancelled = true → visits.flatMap (·.steps ctx) = [] ∧ final = w
  during : (visits.flatMap (·.steps ctx)).Pairwise fun earlier later =>
    earlier.after.world.cancelled = true → ¬ later.RunsBody ∧ later.after.world = earlier.after.world
  after : ∀ step ∈ visits.flatMap (·.steps ctx), step.after.world.cancelled = true →
    final = step.after.world
  refused : ∀ v ∈ visits, v.before.cancelled = true → v.steps ctx = [] ∧ result = .error .cancelled
  survived : ∀ output, result = .ok output → final.cancelled = true → sections = [] ∨
    ∃ t v, sections.getLast? = some t ∧ visits.getLast? = some v ∧ v.item = .template t ∧
      ∃ step ∈ v.steps ctx, step.CancelsLast t.template.directives

variable {ctx : Context} {sections rest : List TemplateSection} {w final : World} {t : TemplateSection}
variable {visits : List (Visit α)} {result : Except PromptError β} {v : Visit α} {e : PromptError}

theorem Visit.ran_eq_steps (item : v.item = .template t) :
    (Render.run ctx t.template.directives v.before).ran =
      ((v.steps ctx).filter (·.RunsBody)).map (·.poll.position) := by
  rw [Visit.steps, item]
  exact Render.run_ran_eq_steps ctx t.template.directives v.before

theorem CancellationFinal.map (f : β → γ) (held : CancellationFinal ctx sections w visits result final) :
    CancellationFinal ctx sections w visits (result.map f) final where
  ran := held.ran
  before := held.before
  during := held.during
  after := held.after
  refused v mem cancelled := by
    obtain ⟨idle, failed⟩ := held.refused v mem cancelled
    exact ⟨idle, by rw [failed]; rfl⟩
  survived output given cancelled := by
    cases result with
    | error e => cases given
    | ok output => exact held.survived output rfl cancelled

structure Visit.Renders (ctx : Context) (t : TemplateSection) (w : World) (v : Visit α) : Prop where
  item : v.item = .template t
  start : v.before = w
  after : v.after = (Render.run ctx t.template.directives w).world
  fails : ∀ e, (Render.run ctx t.template.directives w).result = .error e → v.result = .error e
  given : ∀ r, v.result = .ok r → ∃ texts, (Render.run ctx t.template.directives w).result = .ok texts

theorem Mode.visit_renders (m : Mode α) (ctx : Context) (maxTokens : Nat) (a : Account α)
    (t : TemplateSection) (w : World) : (m.visit ctx maxTokens a (.template t) w).Renders ctx t w := by
  obtain ⟨f, same⟩ := m.direct t ctx w (m.visit ctx maxTokens a (.template t) w).budget
  have result : (m.visit ctx maxTokens a (.template t) w).result = _ := congrArg Prod.fst same
  refine ⟨rfl, rfl, congrArg Prod.snd same, fun e failed => ?_, fun r given => ?_⟩
  · rw [result, failed]
    rfl
  · rw [result] at given
    cases rendered : (Render.run ctx t.template.directives w).result with
    | error e =>
      rw [rendered] at given
      cases given
    | ok texts => exact ⟨texts, rfl⟩

namespace Visit.Renders

theorem steps_eq (renders : v.Renders ctx t w) :
    v.steps ctx = Render.steps ctx t.template.directives w := by
  rw [Visit.steps, renders.item, renders.start]

theorem of_cancelled (renders : v.Renders ctx t w) (cancelled : w.cancelled = true) :
    v.steps ctx = [] ∧ v.after = w ∧ v.result = .error .cancelled := by
  have refused : Render.run ctx t.template.directives w = ⟨.error .cancelled, w, []⟩ :=
    Render.run_of_cancelled cancelled
  refine ⟨by rw [renders.steps_eq, Render.steps_of_cancelled cancelled], ?_, ?_⟩
  · rw [renders.after, refused]
  · exact renders.fails _ (by rw [refused])

theorem after_of_cancelled (renders : v.Renders ctx t w) {step : Step} (mem : step ∈ v.steps ctx)
    (cancelled : step.after.world.cancelled = true) : v.after = step.after.world := by
  rw [renders.steps_eq] at mem
  rw [renders.after, Render.run_world_of_cancelled mem cancelled]

theorem exists_cancelsLast (renders : v.Renders ctx t w) {r : Rendered α} (given : v.result = .ok r)
    (cancelled : v.after.cancelled = true) :
    ∃ step ∈ v.steps ctx, step.CancelsLast t.template.directives := by
  obtain ⟨texts, rendered⟩ := renders.given r given
  rw [renders.after] at cancelled
  rw [renders.steps_eq]
  exact Render.run_ok_of_cancelled rendered cancelled

theorem cancellationFinal_of_failure (renders : v.Renders ctx t w)
    (failed : v.result = .error .cancelled → e = .cancelled) :
    CancellationFinal ctx (t :: rest) w [v] (.error e : Except PromptError β) v.after := by
  have polls : [v].flatMap (·.steps ctx) = v.steps ctx := List.flatMap_singleton _ _
  refine ⟨fun _ _ _ => Visit.ran_eq_steps, fun cancelled => ?_, ?_, ?_, ?_, fun _ given => by cases given⟩
  · rw [polls]
    obtain ⟨idle, same, _⟩ := renders.of_cancelled cancelled
    exact ⟨idle, same⟩
  · rw [polls, renders.steps_eq]
    exact Render.pairwise_steps_of_cancelled ctx t.template.directives w
  · intro step mem
    rw [polls] at mem
    exact renders.after_of_cancelled mem
  · intro v' mem cancelled
    rw [List.mem_singleton.mp mem] at cancelled ⊢
    rw [renders.start] at cancelled
    obtain ⟨idle, _, refused⟩ := renders.of_cancelled cancelled
    exact ⟨idle, by rw [failed refused]⟩

theorem cancellationFinal_cons (renders : v.Renders ctx t w) {r : Rendered α} (given : v.result = .ok r)
    (held : CancellationFinal ctx rest v.after visits result final)
    (ends : rest = [] → visits = [] ∧ final = v.after) :
    CancellationFinal ctx (t :: rest) w (v :: visits) result final := by
  have awake : w.cancelled = false := Bool.of_not_eq_true fun cancelled => by
    rw [(renders.of_cancelled cancelled).2.2] at given
    cases given
  refine ⟨fun _ _ _ => Visit.ran_eq_steps,
    fun cancelled => absurd (awake.symm.trans cancelled) Bool.false_ne_true, ?_, ?_, ?_, ?_⟩
  · rw [List.flatMap_cons, List.pairwise_append]
    refine ⟨?_, held.during, fun earlier mem later mem' cancelled => ?_⟩
    · rw [renders.steps_eq]
      exact Render.pairwise_steps_of_cancelled ctx t.template.directives w
    -- a section that was cancelled leaves the others nothing to poll
    · have world := renders.after_of_cancelled mem cancelled
      rw [(held.before (by rwa [world])).1] at mem'
      cases mem'
  · intro step mem cancelled
    cases List.mem_append.mp mem with
    | inl mem =>
      have world := renders.after_of_cancelled mem cancelled
      rw [(held.before (by rwa [world])).2, world]
    | inr mem => exact held.after step mem cancelled
  · intro v' mem cancelled
    cases mem with
    | head =>
      rw [renders.start, awake] at cancelled
      contradiction
    | tail _ mem => exact held.refused v' mem cancelled
  · intro output done cancelled
    refine .inr ?_
    cases held.survived output done cancelled with
    | inl none =>
      obtain ⟨rfl, rfl⟩ := ends none
      exact ⟨t, v, by rw [none]; rfl, rfl, renders.item, renders.exists_cancelsLast given cancelled⟩
    | inr last =>
      obtain ⟨t', v', lastSection, lastVisit, found⟩ := last
      exact ⟨t', v', by simp [List.getLast?_cons, lastSection], by simp [List.getLast?_cons, lastVisit], found⟩

end Visit.Renders

theorem Mode.walk_cancellationFinal (m : Mode α) (ctx : Context) (maxTokens index : Nat) (a : Account α)
    (sections : List TemplateSection) (w : World) :
    let walk := m.walk ctx maxTokens index a (sections.map .template) w
    CancellationFinal ctx sections w walk.visits walk.result walk.world := by
  induction sections generalizing index a w with
  | nil => exact ⟨fun _ _ _ => Visit.ran_eq_steps, fun _ => ⟨rfl, rfl⟩, .nil, by simp [walk], by simp [walk], fun _ _ _ => .inl rfl⟩
  | cons t rest ih =>
    have renders := m.visit_renders ctx maxTokens a t w
    rw [List.map_cons]
    cases failed : (m.visit ctx maxTokens a (.template t) w).failure? index with
    | some e =>
      rw [Mode.walk_of_failure failed]
      refine renders.cancellationFinal_of_failure fun refused => ?_
      rw [Visit.failure?_of_error refused] at failed
      exact (Option.some.inj failed).symm
    | none =>
      obtain ⟨r, given, _⟩ := Visit.failure?_eq_none_iff.mp failed
      rw [Mode.walk_of_onward failed]
      refine renders.cancellationFinal_cons given (ih _ _ _) fun none => ?_
      subst none
      exact ⟨rfl, rfl⟩

/-- The visits of a layout are of its sections in order, and around them a cancellation is final, for
messages as for text. -/
theorem cancellation_is_final (sections : List TemplateSection) (separator : String) (ctx : Context)
    (w : World) (maxTokens : Nat) :
    let l : Layout := ⟨sections.map .template, separator⟩
    let messages := l.renderMessages ctx w maxTokens
    let text := l.renderText ctx w maxTokens
    (Mode.messages.Visited ctx w (l.messageWalk ctx w maxTokens).visits messages.2 ∧
      (l.messageWalk ctx w maxTokens).visits.map (·.item) <+: l.sections ∧
      CancellationFinal ctx sections w (l.messageWalk ctx w maxTokens).visits messages.1 messages.2) ∧
    (Mode.text (ctx.tokenizer.count separator)).Visited ctx w (l.textWalk ctx w maxTokens).visits text.2 ∧
      (l.textWalk ctx w maxTokens).visits.map (·.item) <+: l.sections ∧
      CancellationFinal ctx sections w (l.textWalk ctx w maxTokens).visits text.1 text.2 := by
  intro l messages text
  have messages_eq : messages = _ := l.renderMessages_eq_walk ctx w maxTokens
  have text_eq : text = _ := l.renderText_eq_walk ctx w maxTokens
  rw [messages_eq, text_eq]
  refine ⟨⟨?_, ?_, ?_⟩, ?_, ?_, ?_⟩
  · exact Mode.walk_visited _ _ _ _ _ _ _
  · exact (Mode.walk_items _ _ _ _ _ _ _).1
  · exact (Mode.walk_cancellationFinal _ _ _ _ _ _ _).map _
  · exact Mode.walk_visited _ _ _ _ _ _ _
  · exact (Mode.walk_items _ _ _ _ _ _ _).1
  · exact (Mode.walk_cancellationFinal _ _ _ _ _ _ _).map _

def countAndStop : Context where
  registry := ⟨(Dict.empty.insert "count" (Sample.function (.counter 0) 0)).insert "stop"
    (Sample.function .cancel 1)⟩
  tokenizer := .chars
  clock := ⟨2026, 1, 1, 0, 0, 0⟩

def stopSection : TemplateSection where
  template := ⟨"{{count}}{{stop}}", [.call "count" [], .call "stop" []]⟩
  role := "user"
  budget := {}

theorem stop_outlived_by_last_section :
    let twice : Layout := ⟨[stopSection, stopSection].map .template, ""⟩
    let once : Layout := ⟨[stopSection].map .template, ""⟩
    (twice.renderMessages countAndStop default 20).1 = .error .cancelled ∧
    (twice.renderMessages countAndStop default 20).2.store.calls 0 = 1 ∧
    (once.renderText countAndStop default 20).1 = .ok ⟨"1cancelled", 10, false⟩ ∧
    ∃ v, (once.textWalk countAndStop default 20).visits.getLast? = some v ∧
      ∃ step ∈ v.steps countAndStop, step.CancelsLast stopSection.template.directives := by
  intro twice once
  have rendered : (once.renderText countAndStop default 20).1 = .ok ⟨"1cancelled", 10, false⟩ := by
    decide +kernel
  have held := (cancellation_is_final [stopSection] "" countAndStop default 20).2.2.2
  refine ⟨by decide +kernel, by decide +kernel, rendered, ?_⟩
  obtain none | last := held.survived _ rendered (by decide +kernel)
  · contradiction
  · obtain ⟨t, v, lastSection, lastVisit, _, found⟩ := last
    cases lastSection
    exact ⟨v, lastVisit, found⟩

end PromptKit
