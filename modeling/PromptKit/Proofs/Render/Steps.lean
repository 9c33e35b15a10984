import PromptKit.Proofs.Render.Refinement

/-!
The polls that a render makes, one by one, with the states between them. What every poll keeps holds
all along, and a poll is made only while no error has surfaced.
-/
namespace PromptKit.Render

open Template

structure Step where
  poll : Poll
  before : Progress
  after : Progress

def Step.RunsBody (step : Step) : Prop := step.after.ran ≠ step.before.ran

instance (step : Step) : Decidable step.RunsBody :=
  inferInstanceAs (Decidable (step.after.ran ≠ step.before.ran))

def stepsFrom (ctx : Context) : List Poll → Progress → List Step
  | [], _ => []
  | p :: rest, s =>
    let next := s.poll ctx p
    ⟨p, s, next⟩ :: if (surfaced next.parts).isSome then [] else stepsFrom ctx rest next

/-- The polls of a render up to the one at which an error surfaces. -/
def steps (ctx : Context) (ds : List Directive) (w : World) : List Step :=
  if w.cancelled then [] else stepsFrom ctx (allPolls ctx.registry ds) (Progress.start ds w)

variable {ctx : Context} {ds : List Directive} {w : World} {s : Progress} {p : Poll}
variable {polls : List Poll} {step : Step}

section Runs

variable {rest : List Poll} {P : Progress → Prop}

theorem mem_stepsFrom_cons : step ∈ stepsFrom ctx (p :: rest) s ↔
    step = ⟨p, s, s.poll ctx p⟩ ∨
      surfaced (s.poll ctx p).parts = none ∧ step ∈ stepsFrom ctx rest (s.poll ctx p) := by
  rw [stepsFrom, List.mem_cons]
  cases surfaced (s.poll ctx p).parts <;> simp

theorem runPolls_invariant (kept : ∀ p ∈ polls, ∀ s, P s → P (s.poll ctx p)) (start : P s) :
    P (runPolls ctx polls s) := by
  induction polls generalizing s with
  | nil => exact start
  | cons p rest ih =>
    have next := kept p List.mem_cons_self s start
    rw [runPolls_cons]
    split
    · exact next
    · exact ih (fun q mem => kept q (List.mem_cons_of_mem p mem)) next

theorem stepsFrom_invariant (kept : ∀ p ∈ polls, ∀ s, P s → P (s.poll ctx p)) (start : P s)
    (mem : step ∈ stepsFrom ctx polls s) : P step.before := by
  induction polls generalizing s with
  | nil => cases mem
  | cons p rest ih =>
    have next := kept p List.mem_cons_self s start
    cases mem_stepsFrom_cons.mp mem with
    | inl first =>
      rw [first]
      exact start
    | inr later => exact ih (fun q mem => kept q (List.mem_cons_of_mem p mem)) next later.2

theorem polled_of_mem (mem : step ∈ stepsFrom ctx polls s) :
    step.poll ∈ polls ∧ step.after = step.before.poll ctx step.poll := by
  induction polls generalizing s with
  | nil => cases mem
  | cons p rest ih =>
    cases mem_stepsFrom_cons.mp mem with
    | inl first =>
      rw [first]
      exact ⟨List.mem_cons_self, rfl⟩
    | inr later =>
      obtain ⟨polled, same⟩ := ih later.2
      exact ⟨List.mem_cons_of_mem p polled, same⟩

theorem quiet_before (quiet : surfaced s.parts = none) (mem : step ∈ stepsFrom ctx polls s) :
    surfaced step.before.parts = none := by
  induction polls generalizing s with
  | nil => cases mem
  | cons p rest ih =>
    cases mem_stepsFrom_cons.mp mem with
    | inl first => rwa [first]
    | inr later => exact ih later.1 later.2

theorem runPolls_of_surfaced (mem : step ∈ stepsFrom ctx polls s)
    (surfaces : surfaced step.after.parts ≠ none) : runPolls ctx polls s = step.after := by
  induction polls generalizing s with
  | nil => cases mem
  | cons p rest ih =>
    rw [runPolls_cons]
    cases mem_stepsFrom_cons.mp mem with
    | inl first =>
      rw [first] at surfaces ⊢
      exact if_pos (Option.isSome_iff_ne_none.mpr surfaces)
    | inr later =>
      rw [later.1]
      exact ih later.2

theorem runPolls_of_mem (mem : step ∈ stepsFrom ctx polls s) :
    ∃ rest, rest ⊆ polls ∧ runPolls ctx polls s = runPolls ctx rest step.after := by
  induction polls generalizing s with
  | nil => cases mem
  | cons p rest ih =>
    rw [runPolls_cons]
    cases mem_stepsFrom_cons.mp mem with
    | inl first =>
      rw [first]
      split
      · exact ⟨[], List.nil_subset _, rfl⟩
      · exact ⟨rest, List.subset_cons_self p rest, rfl⟩
    | inr later =>
      obtain ⟨left, inside, same⟩ := ih later.2
      rw [later.1]
      exact ⟨left, List.subset_cons_of_subset p inside, same⟩

theorem Progress.ran_poll (s : Progress) (ctx : Context) (p : Poll) :
    (s.poll ctx p).ran = s.ran ∨ (s.poll ctx p).ran = p.position :: s.ran := by
  rcases s.poll_cases ctx p with unchanged | ⟨_, _, waited⟩ | ⟨_, _, finished⟩
  · exact .inl (by rw [unchanged])
  · exact .inl (by rw [waited]; rfl)
  · rw [finished, Progress.finish_of_evaluate rfl]
    simp only
    split
    · exact .inr rfl
    · exact .inl rfl

theorem runPolls_ran (ctx : Context) (polls : List Poll) (s : Progress) :
    (runPolls ctx polls s).ran.reverse = s.ran.reverse ++
      ((stepsFrom ctx polls s).filter (·.RunsBody)).map (·.poll.position) := by
  induction polls generalizing s with
  | nil => simp [runPolls, stepsFrom]
  | cons p rest ih =>
    let step : Step := ⟨p, s, s.poll ctx p⟩
    have first : (s.poll ctx p).ran.reverse =
        s.ran.reverse ++ ([step].filter (·.RunsBody)).map (·.poll.position) := by
      cases s.ran_poll ctx p with
      | inl same => simp [step, Step.RunsBody, same]
      | inr more => simp [step, Step.RunsBody, more]
    rw [runPolls_cons, stepsFrom]
    split
    · rw [first]
    · rw [ih, first, List.append_assoc, ← List.map_append, ← List.filter_append, List.singleton_append]

/-- What holds between a state in which no error has surfaced and every poll made from there on holds
between any two polls of a run. -/
theorem pairwise_stepsFrom {R : Step → Step → Prop}
    (related : ∀ (earlier : Step) (rest : List Poll), surfaced earlier.after.parts = none →
      ∀ later ∈ stepsFrom ctx rest earlier.after, R earlier later) :
    (stepsFrom ctx polls s).Pairwise R := by
  induction polls generalizing s with
  | nil => exact .nil
  | cons p rest ih =>
    rw [stepsFrom]
    cases surfaces : surfaced (s.poll ctx p).parts with
    | some e => simp
    | none =>
      refine List.pairwise_cons.mpr ⟨fun later mem => ?_, by simpa [surfaces] using ih⟩
      exact related ⟨p, s, s.poll ctx p⟩ rest surfaces later (by simpa [surfaces] using mem)

end Runs

theorem run_of_awake (awake : w.cancelled = false) :
    (run ctx ds w).world = (lastProgress ctx ds w).world ∧
      (run ctx ds w).ran = (lastProgress ctx ds w).ran.reverse := by
  cases surfaces : surfaced (lastProgress ctx ds w).parts with
  | none => rw [run_of_quiet awake surfaces]; exact ⟨rfl, rfl⟩
  | some e => rw [run_of_surfaced awake surfaces]; exact ⟨rfl, rfl⟩

theorem quiet_of_ok {texts : List String} (given : (run ctx ds w).result = .ok texts) :
    surfaced (lastProgress ctx ds w).parts = none := by
  cases surfaces : surfaced (lastProgress ctx ds w).parts with
  | none => rfl
  | some e =>
    rw [run_of_surfaced (awake_of_ok given) surfaces] at given
    contradiction

theorem exists_text_of_ok {texts : List String} {i : Nat} (given : (run ctx ds w).result = .ok texts)
    (inside : i < ds.length) :
    ∃ text, (lastProgress ctx ds w).parts[i]? = some (some (.ok text)) := by
  have quiet := quiet_of_ok given
  have whole := eq_map_of_done (isSome_of_quiet quiet) (anyError_of_quiet quiet)
  rw [← length_lastProgress ctx ds w, whole, List.length_map] at inside
  rw [whole, List.getElem?_map, List.getElem?_eq_getElem inside]
  exact ⟨_, rfl⟩

theorem steps_of_awake (awake : w.cancelled = false) :
    steps ctx ds w = stepsFrom ctx (allPolls ctx.registry ds) (Progress.start ds w) := by
  rw [steps, awake]
  exact if_neg Bool.false_ne_true

theorem awake_of_mem (mem : step ∈ steps ctx ds w) : w.cancelled = false := by
  cases cancelled : w.cancelled with
  | false => rfl
  | true =>
    rw [steps, if_pos cancelled] at mem
    cases mem

theorem mem_steps (mem : step ∈ steps ctx ds w) :
    step ∈ stepsFrom ctx (allPolls ctx.registry ds) (Progress.start ds w) := by
  rwa [steps_of_awake (awake_of_mem mem)] at mem

theorem run_ran_eq_steps (ctx : Context) (ds : List Directive) (w : World) :
    (run ctx ds w).ran = ((steps ctx ds w).filter (·.RunsBody)).map (·.poll.position) := by
  cases cancelled : w.cancelled with
  | true =>
    rw [run, steps, if_pos cancelled, if_pos cancelled]
    rfl
  | false =>
    rw [(run_of_awake cancelled).2, steps_of_awake cancelled, lastProgress, runPolls_ran]
    rfl

theorem pairwise_steps {R : Step → Step → Prop}
    (related : ∀ (earlier : Step) (rest : List Poll), surfaced earlier.after.parts = none →
      ∀ later ∈ stepsFrom ctx rest earlier.after, R earlier later) :
    (steps ctx ds w).Pairwise R := by
  unfold steps
  split
  · exact .nil
  · exact pairwise_stepsFrom related

end PromptKit.Render
