import PromptKit.Proofs.Render.Isolation

/-!
Where the error of a render comes from: the render was cancelled, a name is not registered, or a
function answered with that very error.
-/
namespace PromptKit.Render

open Template

/-- An error with which some function of the registry answers some call. -/
def Context.Answers (ctx : Context) (e : PromptError) : Prop :=
  ∃ name f args seen store, ctx.registry.get? name = some f ∧
    (f.body ctx.scope args seen store).result = .error e

inductive Context.Raises (ctx : Context) : PromptError → Prop
  | cancelled : Raises ctx .cancelled
  | unknown {name : String} (absent : ctx.registry.get? name = none) : Raises ctx (.unknownFunction name)
  | answered {e : PromptError} (answers : ctx.Answers e) : Raises ctx e

variable {ctx : Context} {ds : List Directive} {d : Directive} {w : World} {s : Progress} {p : Poll}
variable {e : PromptError} {seen : List Store}

theorem raises_of_evaluate (failed : (evaluate ctx d seen w).1 = .error e) : ctx.Raises e := by
  cases d with
  | text content => cases failed
  | lookup key => cases failed
  | call name args =>
    rw [evaluate] at failed
    split at failed
    · obtain rfl := Except.error.inj failed
      exact .cancelled
    · cases found : ctx.registry.get? name with
      | none =>
        rw [Registry.function_of_absent found] at failed
        obtain rfl := Except.error.inj failed
        exact .unknown found
      | some f =>
        simp only [Registry.function_of_found found] at failed
        cases answer : (f.body ctx.scope args seen w.store).result with
        | ok v =>
          rw [answer] at failed
          cases failed
        | error e' =>
          rw [answer] at failed
          obtain rfl := Except.error.inj failed
          exact .answered ⟨name, f, args, seen, w.store, found, answer⟩

def Progress.Raised (ctx : Context) (s : Progress) : Prop := ∀ e, some (.error e) ∈ s.parts → ctx.Raises e

theorem Progress.Raised.poll (raised : s.Raised ctx) (p : Poll) : (s.poll ctx p).Raised ctx := by
  intro e mem
  cases s.parts_poll ctx p with
  | inl same =>
    rw [same] at mem
    exact raised e mem
  | inr finished =>
    rw [finished.2.2, Progress.parts_finish] at mem
    cases List.mem_or_eq_of_mem_set mem with
    | inl mem => exact raised e mem
    | inr same => exact raises_of_evaluate (Option.some.inj same).symm

theorem raises_of_run (failed : (run ctx ds w).result = .error e) : ctx.Raises e := by
  cases cancelled : w.cancelled with
  | true =>
    rw [run, if_pos cancelled] at failed
    obtain rfl := Except.error.inj failed
    exact .cancelled
  | false =>
    have start : (Progress.start ds w).Raised ctx := fun e mem => by
      obtain ⟨_, _, none⟩ := List.mem_map.mp mem
      cases none
    have raised : (lastProgress ctx ds w).Raised ctx := runPolls_invariant (fun p _ _ raised => raised.poll p) start
    cases surfaces : surfaced (lastProgress ctx ds w).parts with
    | none =>
      rw [run_of_quiet cancelled surfaces] at failed
      cases failed
    | some e' =>
      rw [run_of_surfaced cancelled surfaces] at failed
      obtain rfl := Except.error.inj failed
      exact raised e' (mem_of_surfaced surfaces)

end PromptKit.Render
