import PromptKit.Proofs.Function.Arity
import PromptKit.Proofs.Render.Causes
import PromptKit.Proofs.Template.Stretches

/-!
Calls of `default` and `coalesce` in templates. No argument that was read is empty, so each of the two gives
its first argument as it stands, whatever else the template calls, and their other branches are never taken.
-/
namespace PromptKit

namespace Template

variable {source name : String} {ds : List Directive} {args : List String}

theorem exists_body_of_call (compiled : compile source = .ok ds) (called : .call name args ∈ ds) :
    ∃ body, parseBody body = (name, args) := by
  obtain ⟨o, _, _, rfl⟩ := compile_eq_ok_iff.mp compiled
  rcases Outline.mem_directives.mp called with ⟨t, _, inside⟩ | ⟨h, _, inside⟩
  · cases (Outline.eq_text_of_mem inside).2
  · unfold bodyDirective at inside
    split at inside
    · cases inside
    · cases List.mem_singleton.mp inside
    · cases List.mem_singleton.mp inside
      exact ⟨_, rfl⟩

theorem filled_of_call (compiled : compile source = .ok ds) (called : .call name args ∈ ds) :
    ∀ arg ∈ args, arg ≠ "" := by
  intro arg mem
  obtain ⟨body, read⟩ := exists_body_of_call compiled called
  rw [parseBody_eq] at read
  rw [← (Prod.mk.inj read).2] at mem
  obtain ⟨word, there, rfl⟩ := List.mem_map.mp (List.mem_of_mem_tail mem)
  have filled : word ≠ [] := (quotable_of_mem_words there).1
  simpa using filled

end Template

namespace Builtin

variable {b : Builtin} {first : String}

theorem run_of_first (fallback : b = default ∨ b = coalesce) (filled : first ≠ "") (rest : List String)
    (clock : Clock) (memory : Memory) : b.run clock (first :: rest) memory = .ok (.string first) := by
  have filled : first.isEmpty = false := by simpa using filled
  rcases fallback with rfl | rfl
  -- The value that is kept for an empty argument does not come up.
  · change (if first.isEmpty then _ else _) = _
    rw [filled]
    rfl
  · have found : ((first :: rest).find? fun arg => !arg.isEmpty) = some first := by simp [filled]
    rw [run, found]
    rfl

end Builtin

namespace Render

open Template

variable {ctx : Context} {ds : List Directive} {w : World} {s : Progress} {p : Poll} {i : Nat}
variable {texts : List String} {seen : List Store}

def Progress.Evaluated (ctx : Context) (ds : List Directive) (s : Progress) : Prop :=
  ∀ (i : Nat) (part : Part), s.parts[i]? = some (some part) →
    ∃ d seen world, ds[i]? = some d ∧ (evaluate ctx d seen world).1 = part

theorem Progress.Evaluated.poll (due : p.Due ctx.registry ds) (evaluated : s.Evaluated ctx ds) :
    (s.poll ctx p).Evaluated ctx ds := by
  intro i part there
  cases s.parts_poll ctx p with
  | inl same =>
    rw [same] at there
    exact evaluated i part there
  | inr finished =>
    rw [finished.2.2, Progress.parts_finish, List.getElem?_set] at there
    split at there
    · rename_i here
      split at there
      · cases there
        exact ⟨p.directive, s.seen p.position, s.world, by rw [← here, due.1], rfl⟩
      · contradiction
    · exact evaluated i part there

theorem lastProgress_evaluated (ctx : Context) (ds : List Directive) (w : World) :
    (lastProgress ctx ds w).Evaluated ctx ds := by
  refine runPolls_invariant (fun p mem s evaluated => evaluated.poll (mem_allPolls.mp mem)) ?_
  intro i part there
  have done := Progress.isDone_iff.mpr ⟨part, there⟩
  rw [isDone_start] at done
  contradiction

theorem exists_world_of_ok (given : (run ctx ds w).result = .ok texts) {d : Directive} (there : ds[i]? = some d) :
    ∃ seen world text, texts[i]? = some text ∧ (evaluate ctx d seen world).1 = .ok text := by
  have quiet := quiet_of_ok given
  have whole := eq_map_of_done (isSome_of_quiet quiet) (anyError_of_quiet quiet)
  obtain ⟨text, done⟩ := exists_text_of_ok given (List.getElem?_eq_some_iff.mp there).1
  obtain ⟨own, seen, world, same, evaluated⟩ := lastProgress_evaluated ctx ds w i _ done
  rw [there] at same
  rw [run_of_quiet (awake_of_ok given) quiet] at given
  rw [Except.ok.inj given] at whole
  rw [whole, List.getElem?_map, Option.map_eq_some_iff] at done
  obtain ⟨text', placed, equal⟩ := done
  obtain rfl : text' = text := Except.ok.inj (Option.some.inj equal)
  exact ⟨seen, world, text', placed, by rw [Option.some.inj same, evaluated]⟩

def Context.HasBuiltins (ctx : Context) : Prop := ∀ b : Builtin, ctx.registry.get? b.name = some b.function

theorem hasBuiltins_of_eq (same : ctx.registry = .withBuiltins) : ctx.HasBuiltins := by
  intro b
  rw [same]
  cases b <;> rfl

theorem evaluate_builtin (builtins : ctx.HasBuiltins) (b : Builtin) (args : List String) (seen : List Store)
    (awake : w.cancelled = false) : evaluate ctx (.call b.name args) seen w =
      ((b.run ctx.clock args w.store.memory).map (display ctx.tokenizer), w) := by
  obtain ⟨store, cancelled⟩ := w
  change cancelled = false at awake
  subst awake
  rw [evaluate, if_neg Bool.false_ne_true, Registry.function_of_found (builtins b)]
  rfl

theorem part_of_fallback (builtins : ctx.HasBuiltins) {b : Builtin} (fallback : b = .default ∨ b = .coalesce)
    {args : List String} (filled : ∀ arg ∈ args, arg ≠ "") {text : String}
    (given : (evaluate ctx (.call b.name args) seen w).1 = .ok text) :
    text = args.headD "" ∧ (b = .default → args ≠ []) := by
  have awake : w.cancelled = false := by
    rw [← Bool.not_eq_true]
    intro cancelled
    rw [evaluate_of_cancelled rfl cancelled] at given
    cases given
  rw [evaluate_builtin builtins b args seen awake] at given
  cases args with
  | nil =>
    rcases fallback with rfl | rfl
    · cases given
    · cases given
      exact ⟨rfl, fun other => by cases other⟩
  | cons first rest =>
    rw [Builtin.run_of_first fallback (filled first List.mem_cons_self)] at given
    cases given
    exact ⟨rfl, fun _ => List.cons_ne_nil first rest⟩

/-- In a compiled template, `default` and `coalesce` give their first argument as it is written, for they have
no empty one. Without an argument `default` fails, and `coalesce` gives no text. -/
theorem fallback_gives_first (source : String) (ds : List Directive) (compiled : compile source = .ok ds)
    (ctx : Context) (builtins : ctx.HasBuiltins) (name : String) (args : List String)
    (called : Directive.call name args ∈ ds) (fallback : name = "default" ∨ name = "coalesce") :
    (∀ arg ∈ args, arg ≠ "") ∧
    (∀ first rest, args = first :: rest →
      (∀ memory, Builtin.execute name ctx.clock args memory = .ok (.string first)) ∧
      ∀ seen w, w.cancelled = false → evaluate ctx (.call name args) seen w = (.ok first, w)) ∧
    (args = [] → name = "default" → ∀ seen w, w.cancelled = false → evaluate ctx (.call name args) seen w =
      (.error (.functionFailed "default" "expected at least 1 argument(s), got 0"), w)) ∧
    (args = [] → name = "coalesce" → ∀ seen w, w.cancelled = false →
      evaluate ctx (.call name args) seen w = (.ok "", w)) ∧
    ∀ w texts, (run ctx ds w).result = .ok texts → ∀ i : Nat, ds[i]? = some (.call name args) →
      texts[i]? = some (args.headD "") ∧ (name = "default" → args ≠ []) := by
  have filled := filled_of_call compiled called
  obtain ⟨b, rfl, either⟩ : ∃ b : Builtin, b.name = name ∧ (b = .default ∨ b = .coalesce) := by
    rcases fallback with rfl | rfl
    · exact ⟨.default, rfl, .inl rfl⟩
    · exact ⟨.coalesce, rfl, .inr rfl⟩
  refine ⟨filled, ?_, ?_, ?_, ?_⟩
  · rintro first rest rfl
    have given := Builtin.run_of_first either (filled first List.mem_cons_self) rest ctx.clock
    refine ⟨fun memory => by rw [Builtin.execute_name, given], fun seen w awake => ?_⟩
    rw [evaluate_builtin builtins b _ seen awake, given]
    rfl
  · rintro rfl same seen w awake
    obtain rfl : b = .default := Builtin.name_injective same
    rw [evaluate_builtin builtins .default [] seen awake]
    rfl
  · rintro rfl same seen w awake
    obtain rfl : b = .coalesce := Builtin.name_injective same
    rw [evaluate_builtin builtins .coalesce [] seen awake]
    rfl
  · intro w texts given i there
    obtain ⟨seen, world, text, placed, evaluated⟩ := exists_world_of_ok given there
    obtain ⟨rfl, present⟩ := part_of_fallback builtins either filled evaluated
    exact ⟨placed, fun same => present (Builtin.name_injective same)⟩

def emptyRunFirst : String := "\x7b\x7bdefault \x27\x27\x22 a\x22b\x7d\x7d\x7b\x7bcoalesce `` \x7d\x7d"

theorem empty_run_is_no_argument :
    let ctx : Context := ⟨.withBuiltins, .chars, ⟨2026, 1, 1, 0, 0, 0⟩⟩
    let ds : List Directive := [.call "default" [" a", "b"], .call "coalesce" []]
    compile emptyRunFirst = .ok ds ∧ ctx.HasBuiltins ∧ (∀ arg ∈ [" a", "b"], arg ≠ "") ∧
    evaluate ctx (.call "default" [" a", "b"]) [] default = (.ok " a", default) ∧
    evaluate ctx (.call "coalesce" []) [] default = (.ok "", default) ∧
    ∀ texts, (run ctx ds default).result = .ok texts → texts[0]? = some " a" := by
  intro ctx ds
  have compiled : compile emptyRunFirst = .ok ds := by decide
  have builtins : ctx.HasBuiltins := hasBuiltins_of_eq rfl
  obtain ⟨filled, first, _, _, parts⟩ := fallback_gives_first _ ds compiled ctx builtins "default" [" a", "b"]
    (by decide) (.inl rfl)
  obtain ⟨_, _, _, none, _⟩ := fallback_gives_first _ ds compiled ctx builtins "coalesce" [] (by decide) (.inr rfl)
  exact ⟨compiled, builtins, filled, (first _ _ rfl).2 [] default rfl, none rfl rfl [] default rfl,
    fun texts given => (parts default texts given 0 rfl).1⟩

end Render

end PromptKit
