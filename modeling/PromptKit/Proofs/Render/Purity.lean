import PromptKit.Proofs.Function.Registration
import PromptKit.Proofs.Render.Cancellation

/-!
Templates that call no function but builtins, and none that tells the date. Rendering one changes
nothing, and at another time it comes to the same.
-/
namespace PromptKit

def Builtin.tellsDate : Builtin → Bool
  | dateNow | dateYear | dateFormat => true
  | _ => false

theorem Builtin.run_later {b : Builtin} (undated : b.tellsDate = false) (clock later : Clock)
    (args : List String) (memory : Memory) : b.run later args memory = b.run clock args memory := by
  cases b with
  | dateNow | dateYear | dateFormat => contradiction
  | _ => rfl

namespace Render

open Template

def Context.atTime (ctx : Context) (later : Clock) : Context := { ctx with clock := later }

/-- Whatever a directive calls is a builtin that does not tell the date, or is not there at all. -/
def Undated (registry : Registry) (ds : List Directive) : Prop :=
  ∀ name args f, .call name args ∈ ds → registry.get? name = some f →
    ∃ b : Builtin, f = b.function ∧ b.tellsDate = false

variable {ctx : Context} {ds : List Directive} {d : Directive} {w : World} {s : Progress} {p : Poll}
variable {seen : List Store}

theorem undated_of_names (names : ∀ name args, .call name args ∈ ds →
    name ∉ ["date.now", "date.year", "date.format"]) : Undated .withBuiltins ds := by
  intro name args f mem found
  obtain ⟨b, rfl, rfl⟩ := Registry.builtin_of_found found
  refine ⟨b, rfl, ?_⟩
  have other := names b.name args mem
  cases b with
  | dateNow | dateYear | dateFormat => exact absurd (by decide) other
  | _ => rfl

theorem function_of_undated {registry : Registry} (undated : Undated registry ds) {name : String}
    {args : List String} (mem : .call name args ∈ ds) : ∃ g, registry.function name = .pure g ∧
      ∀ scope later args memory, g { scope with clock := later } args memory = g scope args memory := by
  cases found : registry.get? name with
  | none => exact ⟨_, Registry.function_of_absent found, fun _ _ _ _ => rfl⟩
  | some f =>
    obtain ⟨b, rfl, timeless⟩ := undated name args f mem found
    exact ⟨_, Registry.function_of_found found, fun scope later => b.run_later timeless scope.clock later⟩

theorem evaluate_later (undated : Undated ctx.registry ds) (mem : d ∈ ds) (later : Clock) :
    evaluate (ctx.atTime later) d seen w = evaluate ctx d seen w := by
  cases d with
  | text content => rfl
  | lookup key => rfl
  | call name args =>
    obtain ⟨g, same, timeless⟩ := function_of_undated undated mem
    have answered : g (ctx.atTime later).scope args w.store.memory = g ctx.scope args w.store.memory :=
      timeless ctx.scope later args w.store.memory
    simp only [evaluate, Context.atTime, same, PromptFunction.pure, PromptFunction.after] at answered ⊢
    rw [answered]

theorem pause_of_undated (undated : Undated ctx.registry ds) (mem : d ∈ ds) : pause ctx d seen w = w := by
  cases d with
  | text content => rfl
  | lookup key => rfl
  | call name args =>
    obtain ⟨g, same, _⟩ := function_of_undated undated mem
    simp [pause, same, PromptFunction.pure, PromptFunction.after]

theorem world_evaluate (undated : Undated ctx.registry ds) (mem : d ∈ ds) :
    (evaluate ctx d seen w).2 = w := by
  cases d with
  | text content => rfl
  | lookup key => rfl
  | call name args =>
    obtain ⟨store, cancelled⟩ := w
    cases cancelled with
    | true => rfl
    | false =>
      obtain ⟨g, same, _⟩ := function_of_undated undated mem
      rw [evaluate, same]
      rfl

theorem Progress.poll_later (undated : Undated ctx.registry ds) (mem : p.directive ∈ ds) (later : Clock) :
    s.poll (ctx.atTime later) p = s.poll ctx p := by
  have finished : s.finish (ctx.atTime later) p = s.finish ctx p := by
    unfold finish
    rw [evaluate_later undated mem]
    rfl
  have waited : s.wait (ctx.atTime later) p = s.wait ctx p := by
    have undated' : Undated (ctx.atTime later).registry ds := undated
    unfold wait
    rw [pause_of_undated undated mem, pause_of_undated undated' mem]
  unfold poll
  rw [finished, waited]
  rfl

theorem Progress.world_poll (undated : Undated ctx.registry ds) (mem : p.directive ∈ ds) :
    (s.poll ctx p).world = s.world := by
  rcases s.poll_cases ctx p with same | ⟨_, _, waited⟩ | ⟨_, _, finished⟩
  · rw [same]
  · rw [waited]
    exact pause_of_undated undated mem
  · rw [finished]
    exact world_evaluate undated mem

theorem runPolls_later (undated : Undated ctx.registry ds) {polls : List Poll}
    (inside : ∀ p ∈ polls, p.directive ∈ ds) (later : Clock) (s : Progress) :
    runPolls (ctx.atTime later) polls s = runPolls ctx polls s := by
  induction polls generalizing s with
  | nil => rfl
  | cons p rest ih =>
    have polled := Progress.poll_later (s := s) undated (inside p List.mem_cons_self) later
    rw [runPolls_cons, runPolls_cons, polled, ih fun q mem => inside q (List.mem_cons_of_mem p mem)]

theorem directive_of_allPolls (mem : p ∈ allPolls ctx.registry ds) : p.directive ∈ ds :=
  List.mem_of_getElem? (mem_allPolls.mp mem).1

theorem run_later (undated : Undated ctx.registry ds) (later : Clock) (w : World) :
    run (ctx.atTime later) ds w = run ctx ds w := by
  have polled : runPolls (ctx.atTime later) (allPolls ctx.registry ds) (Progress.start ds w) =
      runPolls ctx (allPolls ctx.registry ds) (Progress.start ds w) :=
    runPolls_later undated (fun _ => directive_of_allPolls) later _
  unfold run
  rw [← polled]
  rfl

theorem world_run (undated : Undated ctx.registry ds) (w : World) : (run ctx ds w).world = w := by
  cases cancelled : w.cancelled with
  | true => rw [run_of_cancelled cancelled]
  | false =>
    rw [(run_of_awake cancelled).1]
    have kept : ∀ p ∈ allPolls ctx.registry ds, ∀ s : Progress, s.world = w → (s.poll ctx p).world = w := by
      intro p mem s same
      rw [Progress.world_poll undated (directive_of_allPolls mem), same]
    exact runPolls_invariant kept rfl

end Render

end PromptKit
