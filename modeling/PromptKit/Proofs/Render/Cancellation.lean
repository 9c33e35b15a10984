import PromptKit.Proofs.Render.Steps

/-!
What becomes of a render that is cancelled. From then on no poll runs a body or changes the world, and
the render succeeds only if every other call was done by then.
-/
namespace PromptKit.Render

open Template

variable {ctx : Context} {ds : List Directive} {w : World} {s : Progress} {p : Poll}
variable {polls : List Poll} {step : Step} {texts : List String}

theorem steps_of_cancelled (cancelled : w.cancelled = true) : steps ctx ds w = [] := if_pos cancelled

theorem run_of_cancelled (cancelled : w.cancelled = true) :
    run ctx ds w = ⟨.error .cancelled, w, []⟩ := if_pos cancelled

theorem Progress.poll_of_cancelled (cancelled : s.world.cancelled = true) :
    (s.poll ctx p).world = s.world ∧ (s.poll ctx p).ran = s.ran := by
  rcases s.poll_cases ctx p with unchanged | ⟨_, waits, waited⟩ | ⟨_, _, finished⟩
  · rw [unchanged]
    exact ⟨rfl, rfl⟩
  · have passive : isCall p.directive = false := by
      cases call : isCall p.directive with
      | false => rfl
      | true =>
        rw [Poll.ends_iff.mpr (.inr ⟨call, cancelled⟩)] at waits
        contradiction
    rw [waited]
    exact ⟨pause_of_not_isCall passive, rfl⟩
  · have idle : runsBody ctx s.world p.directive = false := runsBody_of_cancelled cancelled
    have same : (evaluate ctx p.directive (s.seen p.position) s.world).2 = s.world := by
      cases call : isCall p.directive with
      | true => rw [evaluate_of_cancelled call cancelled]
      | false =>
        have silent : ∃ text, evaluate ctx p.directive (s.seen p.position) s.world = (.ok text, s.world) :=
          evaluate_of_not_isCall call
        obtain ⟨text, given⟩ := silent
        rw [given]
    rw [finished, Progress.finish_of_evaluate rfl, idle]
    exact ⟨same, rfl⟩

theorem runPolls_of_cancelled (cancelled : s.world.cancelled = true) :
    (runPolls ctx polls s).world = s.world := by
  refine runPolls_invariant (P := fun t => t.world = s.world) (fun p _ t same => ?_) rfl
  rw [(Progress.poll_of_cancelled (by rwa [same])).1, same]

theorem stepsFrom_of_cancelled (cancelled : s.world.cancelled = true)
    (mem : step ∈ stepsFrom ctx polls s) : ¬ step.RunsBody ∧ step.after.world = s.world := by
  have same : step.before.world = s.world := by
    refine stepsFrom_invariant (P := fun t => t.world = s.world) (fun p _ t same => ?_) rfl mem
    rw [(Progress.poll_of_cancelled (by rwa [same])).1, same]
  have cancelled' : step.before.world.cancelled = true := by rwa [same]
  have polled := (polled_of_mem mem).2
  have world : step.after.world = step.before.world := by
    rw [polled, (Progress.poll_of_cancelled cancelled').1]
  have ran : step.after.ran = step.before.ran := by
    rw [polled, (Progress.poll_of_cancelled cancelled').2]
  exact ⟨fun runs => runs ran, world.trans same⟩

theorem pairwise_steps_of_cancelled (ctx : Context) (ds : List Directive) (w : World) :
    (steps ctx ds w).Pairwise fun earlier later => earlier.after.world.cancelled = true →
      ¬ later.RunsBody ∧ later.after.world = earlier.after.world :=
  pairwise_steps fun _ _ _ _ mem cancelled => stepsFrom_of_cancelled cancelled mem

theorem run_world_of_cancelled (mem : step ∈ steps ctx ds w)
    (cancelled : step.after.world.cancelled = true) : (run ctx ds w).world = step.after.world := by
  obtain ⟨rest, _, same⟩ := runPolls_of_mem (mem_steps mem)
  rw [(run_of_awake (awake_of_mem mem)).1, lastProgress, same]
  exact runPolls_of_cancelled cancelled

/-- Once the render is cancelled, a call that is not done will never give a text. -/
theorem runPolls_never_ok {i : Nat} (cancelled : s.world.cancelled = true)
    (calls : ∀ p ∈ polls, p.position = i → isCall p.directive = true)
    (pending : s.isDone i = false) (text : String) :
    (runPolls ctx polls s).parts[i]? ≠ some (some (.ok text)) := by
  have lost : ∀ t ∈ s.parts[i]?, t ≠ some (.ok text) := by
    intro t there given
    have done := Progress.isDone_iff.mpr ⟨_, by rw [← given]; exact there⟩
    rw [pending] at done
    contradiction
  refine (runPolls_invariant (P := fun t => t.world.cancelled = true ∧
    t.parts[i]? ≠ some (some (.ok text))) (fun p mem t kept => ?_) ⟨cancelled, fun same => ?_⟩).2
  · obtain ⟨cancelled, missing⟩ := kept
    refine ⟨by rwa [(Progress.poll_of_cancelled cancelled).1], ?_⟩
    cases t.parts_poll ctx p with
    | inl same => rwa [same]
    | inr finished =>
      rw [finished.2.2, Progress.parts_finish]
      by_cases here : p.position = i
      · rw [evaluate_of_cancelled (calls p mem here) cancelled, here, List.getElem?_set]
        split
        · split <;> simp
        · exact missing
      · rwa [List.getElem?_set_ne here]
  · exact lost _ same rfl

theorem evaluate_cancels {d : Directive} {seen : List Store} (awake : w.cancelled = false)
    (cancels : (evaluate ctx d seen w).2.cancelled = true) : runsBody ctx w d = true := by
  cases d with
  | text content => exact absurd (awake.symm.trans cancels) Bool.false_ne_true
  | lookup key => exact absurd (awake.symm.trans cancels) Bool.false_ne_true
  | call name args =>
    cases present : ctx.registry.has name with
    | true => simp [runsBody, awake, present]
    | false =>
      rw [evaluate, awake, Registry.function_of_absent (Registry.has_eq_false_iff.mp present)] at cancels
      cases cancels

/-- What cancels a render is the body of a call, or a call that is not done then. -/
theorem Progress.ran_of_cancels (awake : s.world.cancelled = false)
    (cancels : (s.poll ctx p).world.cancelled = true) :
    (s.poll ctx p).ran = p.position :: s.ran ∨
      isCall p.directive = true ∧ (s.poll ctx p).isDone p.position = false := by
  rcases s.poll_cases ctx p with unchanged | ⟨pending, _, waited⟩ | ⟨_, _, finished⟩
  · rw [unchanged, awake] at cancels
    contradiction
  · rw [waited] at cancels ⊢
    refine .inr ⟨?_, pending⟩
    rw [← Bool.not_eq_false]
    intro passive
    rw [wait, pause_of_not_isCall passive, awake] at cancels
    contradiction
  · rw [finished, Progress.finish_of_evaluate rfl] at cancels ⊢
    rw [evaluate_cancels awake cancels]
    exact .inl rfl

theorem exists_cancelling_step (awake : s.world.cancelled = false)
    (cancelled : (runPolls ctx polls s).world.cancelled = true) :
    ∃ step ∈ stepsFrom ctx polls s,
      step.before.world.cancelled = false ∧ step.after.world.cancelled = true := by
  induction polls generalizing s with
  | nil => exact absurd (awake.symm.trans cancelled) Bool.false_ne_true
  | cons p rest ih =>
    cases now : (s.poll ctx p).world.cancelled with
    | true => exact ⟨_, mem_stepsFrom_cons.mpr (.inl rfl), awake, now⟩
    | false =>
      rw [runPolls_cons] at cancelled
      split at cancelled
      · exact absurd (now.symm.trans cancelled) Bool.false_ne_true
      · rename_i goesOn
        obtain ⟨step, mem, before, after⟩ := ih now cancelled
        have quiet := Option.not_isSome_iff_eq_none.mp goesOn
        exact ⟨step, mem_stepsFrom_cons.mpr (.inr ⟨quiet, mem⟩), before, after⟩

theorem isCall_of_allPolls {i : Nat} {name : String} {args : List String}
    (call : ds[i]? = some (.call name args)) (mem : p ∈ allPolls ctx.registry ds)
    (here : p.position = i) : isCall p.directive = true := by
  have due := (mem_allPolls.mp mem).1
  rw [here, call] at due
  rw [← Option.some.inj due]
  rfl

theorem Progress.isDone_poll_ne {i : Nat} (other : i ≠ p.position) :
    (s.poll ctx p).isDone i = s.isDone i := by
  cases s.parts_poll ctx p with
  | inl same => rw [isDone, same, isDone]
  | inr finished => rw [finished.2.2, Progress.isDone_finish_ne other]

/-- If a render succeeds, every call was done by the poll at which it was cancelled. -/
theorem isDone_of_ok_of_cancelled (given : (run ctx ds w).result = .ok texts)
    (mem : step ∈ stepsFrom ctx (allPolls ctx.registry ds) (Progress.start ds w))
    (cancelled : step.after.world.cancelled = true) {i : Nat} {name : String} {args : List String}
    (call : ds[i]? = some (.call name args)) : step.after.isDone i = true := by
  refine Bool.of_not_eq_false fun pending => ?_
  obtain ⟨rest, inside, same⟩ := runPolls_of_mem mem
  obtain ⟨text, there⟩ := exists_text_of_ok given (List.getElem?_eq_some_iff.mp call).1
  rw [lastProgress, same] at there
  refine runPolls_never_ok cancelled (fun p mem here => ?_) pending text there
  exact isCall_of_allPolls call (inside mem) here

/-- A render can be cancelled and still succeed, but only by the call that is done last. -/
theorem run_ok_of_cancelled (given : (run ctx ds w).result = .ok texts)
    (cancelled : (run ctx ds w).world.cancelled = true) :
    ∃ step ∈ steps ctx ds w,
      step.before.world.cancelled = false ∧ step.after.world.cancelled = true ∧ step.RunsBody ∧
      ∀ i name args, ds[i]? = some (.call name args) → i ≠ step.poll.position →
        step.before.isDone i = true := by
  have awake := awake_of_ok given
  rw [(run_of_awake awake).1] at cancelled
  obtain ⟨step, mem, before, after⟩ := exists_cancelling_step awake cancelled
  obtain ⟨made, polled⟩ := polled_of_mem mem
  have done {i : Nat} {name : String} {args : List String} (call : ds[i]? = some (.call name args)) :
      step.after.isDone i = true := isDone_of_ok_of_cancelled given mem after call
  refine ⟨step, by rwa [steps_of_awake awake], before, after, ?_, fun i name args call other => ?_⟩
  · rw [polled] at after
    cases Progress.ran_of_cancels before after with
    | inl ran =>
      rw [Step.RunsBody, polled, ran]
      exact List.cons_ne_self _ _
    | inr waiting =>
      -- a call that cancels while it waits is not done, and never will be
      obtain ⟨called, pending⟩ := waiting
      obtain ⟨name, args, call⟩ := isCall_iff.mp called
      have late := done (call ▸ (mem_allPolls.mp made).1)
      rw [polled, pending] at late
      contradiction
  · rw [← Progress.isDone_poll_ne other, ← polled]
    exact done call

end PromptKit.Render
