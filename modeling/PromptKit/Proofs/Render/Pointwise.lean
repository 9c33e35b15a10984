import PromptKit.Proofs.Render.Immediate
import PromptKit.Proofs.Render.Purity

/-!
Templates over builtins. A builtin does not wait and changes nothing, so with the builtins for a registry a
render is pointwise: each directive gives what it gives by itself, and the first that fails decides.
-/
namespace PromptKit.Render

open Template

variable {ctx : Context} {registry : Registry} {ds : List Directive} {d : Directive} {w : World}

theorem immediate_of_undated (undated : Undated registry ds) : Immediate registry ds := by
  intro d mem
  cases d with
  | text content => rfl
  | lookup key => rfl
  | call name args =>
    obtain ⟨g, same, _⟩ := function_of_undated undated mem
    rw [finishRound, same]
    rfl

theorem inert_of_undated (undated : Undated ctx.registry ds) (w : World) : Inert ctx w ds :=
  fun _ mem => world_evaluate undated mem

theorem run_of_undated (undated : Undated ctx.registry ds) (awake : w.cancelled = false) :
    (run ctx ds w).result = ds.mapM (alone ctx w) ∧ (run ctx ds w).world = w :=
  run_of_inert (immediate_of_undated undated) (inert_of_undated undated w) awake

theorem Undated.singleton (undated : Undated registry ds) (mem : d ∈ ds) : Undated registry [d] := by
  intro name args f single found
  obtain rfl := List.mem_singleton.mp single
  exact undated name args f mem found

theorem run_singleton (undated : Undated ctx.registry ds) (mem : d ∈ ds) (awake : w.cancelled = false)
    (later : Clock) :
    (run (ctx.atTime later) [d] w).result = (alone ctx w d).map fun text => [text] := by
  rw [run_later (undated.singleton mem), (run_of_undated (undated.singleton mem) awake).1]
  rw [List.mapM_cons, List.mapM_nil]
  cases alone ctx w d <;> rfl

/-- With builtins that do not tell the date, a render changes nothing. It succeeds just when each directive
does by itself, and gives their parts; otherwise the first that fails by itself decides. -/
theorem builtins_render_pointwise (builtins : ctx.registry = .withBuiltins)
    (undated : ∀ name args, .call name args ∈ ds → name ∉ ["date.now", "date.year", "date.format"])
    (awake : w.cancelled = false) :
    (run ctx ds w).world = w ∧
    (∀ d ∈ ds, ∀ later, (run (ctx.atTime later) [d] w).result = (alone ctx w d).map fun text => [text]) ∧
    ((∃ texts, (run ctx ds w).result = .ok texts) ↔ ∀ d ∈ ds, ∃ text, alone ctx w d = .ok text) ∧
    (∀ texts, (run ctx ds w).result = .ok texts →
      List.Forall₂ (fun d text => alone ctx w d = .ok text) ds texts) ∧
    ∀ e, (run ctx ds w).result = .error e → ∃ before d after, ds = before ++ d :: after ∧
      (∀ earlier ∈ before, ∃ text, alone ctx w earlier = .ok text) ∧ alone ctx w d = .error e := by
  have undated : Undated ctx.registry ds := builtins ▸ undated_of_names undated
  obtain ⟨result, world⟩ := run_of_undated undated awake
  refine ⟨world, fun d mem later => run_singleton undated mem awake later, ?_⟩
  rw [result]
  exact mapM_pointwise (alone ctx w) ds

def unknownAmongTrims : List Directive :=
  List.replicate 30 (.call "str.trim" [" a "]) ++ [.call "no.name" [], .call "str.trim" []]

theorem unknown_name_decides :
    let ctx : Context := ⟨.withBuiltins, .chars, ⟨2026, 1, 1, 0, 0, 0⟩⟩
    eagerLimit < unknownAmongTrims.length ∧
    (run ctx unknownAmongTrims default).result = .error (.unknownFunction "no.name") ∧
    (run ctx unknownAmongTrims default).world = default ∧
    ∃ before d after, unknownAmongTrims = before ++ d :: after ∧
      (∀ earlier ∈ before, ∃ text, alone ctx default earlier = .ok text) ∧
      alone ctx default d = .error (.unknownFunction "no.name") := by
  intro ctx
  have undated : ∀ name args, .call name args ∈ unknownAmongTrims →
      name ∉ ["date.now", "date.year", "date.format"] := by
    intro name args mem
    simp only [unknownAmongTrims, List.mem_append, List.mem_replicate, List.mem_cons, List.not_mem_nil,
      Directive.call.injEq, or_false] at mem
    rcases mem with ⟨_, rfl, _⟩ | ⟨rfl, _⟩ | ⟨rfl, _⟩ <;> decide
  have failed : (run ctx unknownAmongTrims default).result = .error (.unknownFunction "no.name") := by
    decide +kernel
  have builtins : ctx.registry = .withBuiltins := rfl
  obtain ⟨world, _, _, _, first⟩ := builtins_render_pointwise builtins undated (w := default) rfl
  exact ⟨by decide, failed, world, first _ failed⟩

end PromptKit.Render
