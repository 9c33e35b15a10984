import PromptKit.Function.Sample
import PromptKit.Proofs.Render.Steps

/-!
What a render still does after a directive has failed. With few directives, nothing; with many, it
goes on while something before the failed directive is not done, and bodies of other calls run.
-/
namespace PromptKit.Render

open Template

def Step.Fails (step : Step) : Prop :=
  step.before.isDone step.poll.position = false ∧
    ∃ e, step.after.parts[step.poll.position]? = some (some (.error e))

variable {ctx : Context} {ds : List Directive} {w : World} {s : Progress} {step later : Step}
variable {polls : List Poll} {i : Nat} {part : Part} {e : PromptError} {parts : List (Option Part)}

theorem exists_pending_of_frontError (quiet : frontError parts = none)
    (failed : parts[i]? = some (some (.error e))) : ∃ j < i, parts[j]? = some none := by
  induction parts generalizing i with
  | nil => cases failed
  | cons first rest ih =>
    cases i with
    | zero =>
      cases failed
      cases quiet
    | succ i =>
      cases first with
      | none => exact ⟨0, Nat.zero_lt_succ i, rfl⟩
      | some part =>
        cases part with
        | error e' => cases quiet
        | ok text =>
          obtain ⟨j, before, pending⟩ := ih quiet failed
          exact ⟨j + 1, Nat.succ_lt_succ before, pending⟩

/-- An error is held back only by something before it that is not done, and only among many. -/
theorem exists_pending_of_quiet (quiet : surfaced parts = none)
    (failed : parts[i]? = some (some (.error e))) :
    eagerLimit < parts.length ∧ ∃ j < i, parts[j]? = some none := by
  unfold surfaced at quiet
  split at quiet
  · exact absurd quiet (anyError_of_getElem? failed)
  · rename_i many
    exact ⟨Nat.lt_of_not_le many, exists_pending_of_frontError quiet failed⟩

theorem length_of_mem (mem : step ∈ stepsFrom ctx polls s) :
    step.before.parts.length = s.parts.length := by
  refine stepsFrom_invariant (P := fun t => t.parts.length = s.parts.length) (fun p _ t size => ?_) rfl mem
  rw [Progress.length_parts_poll, size]

theorem kept_of_mem (there : s.parts[i]? = some (some part)) (mem : step ∈ stepsFrom ctx polls s) :
    step.before.parts[i]? = some (some part) :=
  stepsFrom_invariant (P := fun t => t.parts[i]? = some (some part))
    (fun _ _ _ there => Progress.poll_keeps there) there mem

theorem length_of_mem_steps (mem : step ∈ steps ctx ds w) :
    step.before.parts.length = ds.length ∧ step.after.parts.length = ds.length := by
  have polled := mem_steps mem
  have size : step.before.parts.length = ds.length := by
    rw [length_of_mem polled, Progress.start, List.length_map]
  exact ⟨size, by rw [(polled_of_mem polled).2, Progress.length_parts_poll, size]⟩

theorem run_of_failed_step (mem : step ∈ steps ctx ds w) (few : ds.length ≤ eagerLimit)
    (fails : step.Fails) :
    (run ctx ds w).world = step.after.world ∧ (run ctx ds w).ran = step.after.ran.reverse := by
  obtain ⟨e, there⟩ := fails.2
  have surfaces : surfaced step.after.parts ≠ none := by
    rw [surfaced_of_small (by rwa [(length_of_mem_steps mem).2])]
    exact anyError_of_getElem? there
  have last : lastProgress ctx ds w = step.after := runPolls_of_surfaced (mem_steps mem) surfaces
  rw [← last]
  exact run_of_awake (awake_of_mem mem)

theorem exists_pending_of_failed (quiet : surfaced step.after.parts = none) (fails : step.Fails)
    (mem : later ∈ stepsFrom ctx polls step.after) : eagerLimit < step.after.parts.length ∧
      ∃ i < step.poll.position, later.before.isDone i = false := by
  obtain ⟨e, there⟩ := fails.2
  obtain ⟨many, i, before, pending⟩ :=
    exists_pending_of_quiet (quiet_before quiet mem) (kept_of_mem there mem)
  refine ⟨by rwa [← length_of_mem mem], i, before, ?_⟩
  unfold Progress.isDone
  rw [pending]
  rfl

/-- A render of few directives ends at the first failure: nothing runs and nothing changes any more.
With many, a poll is made after a failure only while something before the failed directive is not done. -/
theorem failure_ends_polling (ctx : Context) (ds : List Directive) (w : World) :
    (∀ step ∈ steps ctx ds w, step.Fails → ds.length ≤ eagerLimit →
      (run ctx ds w).world = step.after.world ∧ (run ctx ds w).ran = step.after.ran.reverse) ∧
    (steps ctx ds w).Pairwise fun failed later => failed.Fails →
      eagerLimit < ds.length ∧ ∃ i < failed.poll.position, later.before.isDone i = false := by
  refine ⟨fun step mem fails few => run_of_failed_step mem few fails, ?_⟩
  have polled : (steps ctx ds w).Pairwise fun failed later => failed.Fails →
      eagerLimit < failed.after.parts.length ∧
        ∃ i < failed.poll.position, later.before.isDone i = false :=
    pairwise_steps fun _ _ quiet _ mem fails => exists_pending_of_failed quiet fails mem
  refine polled.imp_of_mem fun {failed _} mem _ held fails => ?_
  rw [← (length_of_mem_steps mem).2]
  exact held fails

def putAndFail : Context where
  registry := ⟨(Dict.empty.insert "put" (Sample.function .set 1)).insert "fail"
    (Sample.function (.fail "fail" "boom") 0)⟩
  tokenizer := .chars
  clock := ⟨2026, 1, 1, 0, 0, 0⟩

def putBeforeFail (lookUps : Nat) : List Directive :=
  .call "put" ["k", "v"] :: .call "fail" [] :: List.replicate lookUps (.lookup "k")

theorem one_lt_length_steps_few : 1 < (steps putAndFail (putBeforeFail 28) default).length := by
  decide +kernel

theorem length_steps_many : (steps putAndFail (putBeforeFail 29) default).length = 32 := by
  decide +kernel

/-- As many directives as are watched all at once: the waiting call is dropped. -/
theorem failure_ends_few_polls :
    (putBeforeFail 28).length ≤ eagerLimit ∧
    (run putAndFail (putBeforeFail 28) default).ran = [1] ∧
    (run putAndFail (putBeforeFail 28) default).world.store.memory.has "k" = false := by
  obtain ⟨world, ran⟩ := (failure_ends_polling putAndFail (putBeforeFail 28) default).1
    _ (List.getElem_mem one_lt_length_steps_few) ⟨by decide +kernel, .functionFailed "fail" "boom", by decide +kernel⟩
    (by decide)
  rw [world, ran]
  exact ⟨by decide, by decide +kernel, by decide +kernel⟩

/-- With one more, the body of the waiting call runs in a round after the failure, and what it stores
stays. -/
theorem body_runs_after_failure :
    ¬ (steps putAndFail (putBeforeFail 29) default).Pairwise (fun failed later => failed.Fails →
      later.poll.position ≠ failed.poll.position → ¬ later.RunsBody) ∧
    ((steps putAndFail (putBeforeFail 29) default)[1]?.map fun step =>
      step.after.world.store.memory.has "k") = some false ∧
    (run putAndFail (putBeforeFail 29) default).result = .error (.functionFailed "fail" "boom") ∧
    (run putAndFail (putBeforeFail 29) default).world.store.memory.has "k" = true := by
  refine ⟨fun quiet => ?_, by decide +kernel, by decide +kernel, by decide +kernel⟩
  have pair := List.pairwise_iff_getElem.mp quiet 1 31 (by rw [length_steps_many]; decide)
    (by rw [length_steps_many]; decide) (by decide)
  refine pair ⟨by decide +kernel, .functionFailed "fail" "boom", by decide +kernel⟩ (by decide +kernel) ?_
  decide +kernel

end PromptKit.Render
