import PromptKit.Function.Sample
import PromptKit.Proofs.Render.Agreement

/-!
A render is a sequence of turns: polling many directives at once comes to what comes of making the polls
one after another, in each of which a function may act; and if functions do nothing while they wait, to
what comes of evaluating the directives one at a time, each when its waiting ends.
-/
namespace PromptKit.Render

open Template

variable {ctx : Context} {ds : List Directive} {w : World} {e : PromptError}

/-- Making the polls of a template one at a time, by round and by position. -/
def runInTurn (ctx : Context) (ds : List Directive) (w : World) : Turns :=
  inTurn ctx (pollOrder ctx.registry ds) .empty w

/-- Evaluating the directives of a template one at a time, by the round in which each is done and by
position. -/
def evaluateInTurn (ctx : Context) (ds : List Directive) (w : World) : Turns :=
  inTurn ctx (finishOrder ctx.registry ds) .empty w

def lastProgress (ctx : Context) (ds : List Directive) (w : World) : Progress :=
  runPolls ctx (allPolls ctx.registry ds) (Progress.start ds w)

theorem run_of_quiet (awake : w.cancelled = false)
    (quiet : surfaced (lastProgress ctx ds w).parts = none) :
    run ctx ds w = ⟨.ok ((lastProgress ctx ds w).parts.filterMap value?), (lastProgress ctx ds w).world,
      (lastProgress ctx ds w).ran.reverse⟩ := by
  unfold lastProgress at quiet ⊢
  simp only [run, awake, Bool.false_eq_true, if_false, quiet]

theorem run_of_surfaced (awake : w.cancelled = false)
    (surfaces : surfaced (lastProgress ctx ds w).parts = some e) :
    run ctx ds w = ⟨.error e, (lastProgress ctx ds w).world, (lastProgress ctx ds w).ran.reverse⟩ := by
  unfold lastProgress at surfaces ⊢
  simp only [run, awake, Bool.false_eq_true, if_false, surfaces]

theorem isDone_start (i : Nat) : (Progress.start ds w).isDone i = false := by
  unfold Progress.isDone Progress.start
  rw [List.getElem?_map]
  cases ds[i]? <;> rfl

theorem anyError_start : anyError (Progress.start ds w).parts = none := by
  refine anyError_eq_none_iff.mpr fun e mem => ?_
  obtain ⟨_, _, same⟩ := List.mem_map.mp mem
  contradiction

theorem length_lastProgress (ctx : Context) (ds : List Directive) (w : World) :
    (lastProgress ctx ds w).parts.length = ds.length := by
  rw [lastProgress, length_parts_runPolls]
  exact List.length_map _

theorem lastProgress_agrees (ctx : Context) (ds : List Directive) (w : World) :
    Agrees (Progress.start ds w) (lastProgress ctx ds w) (runInTurn ctx ds w) := by
  rw [runInTurn, pollOrder_eq_allPolls]
  exact runPolls_agrees .allPolls (List.length_map _) (fun p _ => isDone_start p.position) anyError_start

theorem isSome_of_quiet (quiet : surfaced (lastProgress ctx ds w).parts = none) :
    ∀ part ∈ (lastProgress ctx ds w).parts, part.isSome = true := by
  intro part mem
  obtain ⟨i, inside, found⟩ := List.mem_iff_getElem.mp mem
  have within : i < ds.length := by rwa [← length_lastProgress ctx ds w]
  have polled : ⟨finishRound ctx.registry ds[i], i, ds[i]⟩ ∈ allPolls ctx.registry ds :=
    mem_allPolls.mpr ⟨List.getElem?_eq_getElem within, le_rfl⟩
  have size : (Progress.start ds w).parts.length = ds.length := List.length_map _
  have done := isDone_runPolls quiet polled rfl (by rwa [size])
  obtain ⟨part', there⟩ := Progress.isDone_iff.mp done
  have same : (lastProgress ctx ds w).parts[i]? = some (some part') := there
  rw [List.getElem?_eq_getElem inside, found] at same
  rw [Option.some.inj same]
  rfl

theorem anyError_of_quiet (quiet : surfaced (lastProgress ctx ds w).parts = none) :
    anyError (lastProgress ctx ds w).parts = none := by
  rwa [← surfaced_of_done (isSome_of_quiet quiet)]

theorem eq_map_of_done {parts : List (Option Part)} (done : ∀ part ∈ parts, part.isSome = true)
    (quiet : anyError parts = none) :
    parts = (parts.filterMap value?).map fun text => some (.ok text) := by
  induction parts with
  | nil => rfl
  | cons part rest ih =>
    have later := ih fun part mem => done part (List.mem_cons_of_mem _ mem)
    cases part with
    | none => exact absurd (done none List.mem_cons_self) (by decide)
    | some part =>
      cases part with
      | error e => cases quiet
      | ok text => exact congrArg (some (.ok text) :: ·) (later quiet)

theorem runInTurn_of_idle (idle : ctx.Idle) (ds : List Directive) (w : World) :
    runInTurn ctx ds w = evaluateInTurn ctx ds w := by
  rw [runInTurn, evaluateInTurn, pollOrder_eq_allPolls, finishOrder_eq_filter]
  exact inTurn_of_idle idle .allPolls .empty .empty w

theorem turns_of_ok {texts : List (String × Nat)} (all : (runInTurn ctx ds w).result = .ok texts) :
    let last := finishOrder ctx.registry ds
    texts.map (·.2) = last.map (·.position) ∧
      (runInTurn ctx ds w).ran = (last.filter (isCall ·.directive)).map (·.position) := by
  rw [runInTurn, pollOrder_eq_allPolls] at all ⊢
  rw [finishOrder_eq_filter]
  exact inTurn_positions all

theorem positions_of_turns {texts : List (String × Nat)}
    (all : (runInTurn ctx ds w).result = .ok texts) :
    (texts.map (·.2)).Perm (List.range ds.length) := by
  rw [(turns_of_ok all).1, List.range_eq_range', ← List.zipIdx_map_snd 0 ds]
  have perm : (finishOrder ctx.registry ds).Perm (ds.zipIdx.map (lastPoll ctx.registry)) := finishOrder_perm
  have placed := perm.map (·.position)
  rwa [List.map_map] at placed

theorem perm_zipIdx_of_positions {texts : List (String × Nat)} {ordered : List String}
    (positions : (texts.map (·.2)).Perm (List.range ordered.length))
    (given : ∀ part ∈ texts, ordered[part.2]? = some part.1) : texts.Perm ordered.zipIdx := by
  have once : (texts.map (·.2)).Nodup := positions.nodup_iff.mpr List.nodup_range
  refine (List.perm_ext_iff_of_nodup once.of_map (nodup_zipIdx ordered)).mpr fun part => ?_
  rw [List.mem_zipIdx_iff_getElem?]
  refine ⟨given part, fun found => ?_⟩
  have inside : part.2 < ordered.length := (List.getElem?_eq_some_iff.mp found).1
  have mem := positions.mem_iff.mpr (List.mem_range.mpr inside)
  obtain ⟨part', mem', same⟩ := List.mem_map.mp mem
  have found' := given part' mem'
  rw [same, found] at found'
  rwa [Prod.ext (Option.some.inj found') same.symm]

theorem run_of_turns_ok (awake : w.cancelled = false) {texts : List (String × Nat)}
    (all : (runInTurn ctx ds w).result = .ok texts) :
    ∃ ordered, run ctx ds w = ⟨.ok ordered, (runInTurn ctx ds w).world,
        (runInTurn ctx ds w).ran⟩ ∧
      ordered.length = ds.length ∧ texts.Perm ordered.zipIdx := by
  have positions := positions_of_turns all
  cases lastProgress_agrees ctx ds w with
  | error e failed =>
    rw [all] at failed
    contradiction
  | ok texts' all' effects quiet given =>
    rw [all] at all'
    cases all'
    have silent := surfaced_of_quiet quiet
    have whole := eq_map_of_done (isSome_of_quiet silent) quiet
    have size : ((lastProgress ctx ds w).parts.filterMap value?).length = ds.length := by
      rw [← length_lastProgress ctx ds w]
      conv => rhs; rw [whole, List.length_map]
    refine ⟨_, ?_, size, perm_zipIdx_of_positions (by rwa [size]) fun part mem => ?_⟩
    · rw [run_of_quiet awake silent, effects.world, effects.ran]
      simp [Progress.start]
    · have there := given part mem
      rw [whole, List.getElem?_map] at there
      obtain ⟨text, found, same⟩ := Option.map_eq_some_iff.mp there
      cases same
      exact found

theorem run_of_turns_error (awake : w.cancelled = false) (few : ds.length ≤ eagerLimit)
    (failed : (runInTurn ctx ds w).result = .error e) :
    run ctx ds w = ⟨.error e, (runInTurn ctx ds w).world,
      (runInTurn ctx ds w).ran⟩ := by
  cases lastProgress_agrees ctx ds w with
  | ok texts all =>
    rw [failed] at all
    contradiction
  | error e' failed' stuck stops =>
    rw [failed] at failed'
    cases failed'
    have size : (Progress.start ds w).parts.length = ds.length := List.length_map _
    obtain ⟨first, effects⟩ := stops (by rwa [size])
    have surfaces : surfaced (lastProgress ctx ds w).parts = some e := by
      rw [surfaced_of_small (by rwa [length_lastProgress]), first]
    rw [run_of_surfaced awake surfaces, effects.world, effects.ran]
    simp [Progress.start]

theorem awake_of_ok {texts : List String} (rendered : (run ctx ds w).result = .ok texts) :
    w.cancelled = false := by
  cases cancelled : w.cancelled with
  | false => rfl
  | true =>
    rw [run, if_pos cancelled] at rendered
    contradiction

section Call

variable {name : String} {args : List String}

/-- None of the polls before the last asks for the render to be cancelled. -/
def Context.Steady (ctx : Context) (name : String) (args : List String) : Prop :=
  ∀ seen store, ((ctx.registry.function name).wait ctx.scope args seen store).cancels = false

/-- The turns that are left of a call come to what is left of calling its function. -/
theorem inTurn_of_steady (steady : ctx.Steady name args) {round left i : Nat} {found : Seen}
    (due : round + left = finishRound ctx.registry (.call name args)) (awake : w.cancelled = false) :
    let polls : List Poll := (List.range' round (left + 1)).map fun round => ⟨round, i, .call name args⟩
    let outcome := (ctx.registry.function name).callFrom ctx.scope args left (found i) w.store
    inTurn ctx polls found w =
      ⟨outcome.result.map fun v => [(display ctx.tokenizer v, i)], ⟨outcome.store, outcome.cancels⟩,
        if ctx.registry.has name then [i] else []⟩ := by
  induction left generalizing round found w with
  | zero =>
    have ends : (⟨round, i, .call name args⟩ : Poll).ends ctx w = true := Poll.ends_iff.mpr (.inl due)
    rw [List.range'_succ, List.map_cons]
    intro polls outcome
    have evaluated : evaluate ctx (.call name args) (found i) w =
        (outcome.result.map (display ctx.tokenizer), ⟨outcome.store, outcome.cancels⟩) := by
      simp [evaluate, awake, outcome, PromptFunction.callFrom]
    cases answered : outcome.result with
    | error e =>
      rw [answered] at evaluated
      rw [inTurn_of_error ends evaluated]
      simp [runsBody, awake, Except.map]
    | ok v =>
      rw [answered] at evaluated
      rw [inTurn_of_ok ends evaluated]
      simp [runsBody, awake, Except.map, inTurn]
  | succ left ih =>
    have waits : (⟨round, i, .call name args⟩ : Poll).ends ctx w = false := by
      rw [← Bool.not_eq_true, Poll.ends_iff]
      rintro (last | disturbed)
      · have same : round = finishRound ctx.registry (.call name args) := last
        omega
      · rw [awake] at disturbed
        cases disturbed.2
    have paused : (pause ctx (.call name args) (found i) w).cancelled = false := by
      simp [pause, awake, steady _ _]
    rw [List.range'_succ, List.map_cons]
    intro polls outcome
    rw [inTurn_of_waits waits, ih (by omega) paused]
    simp [outcome, PromptFunction.callFrom, pause, Seen.note, steady _ _]

/-- Rendering a call by itself comes to invoking its function. -/
theorem run_of_call (steady : ctx.Steady name args) (awake : w.cancelled = false) :
    let outcome := ctx.registry.invoke ctx.scope name args w.store
    run ctx [.call name args] w =
      ⟨outcome.result.map fun v => [display ctx.tokenizer v], ⟨outcome.store, outcome.cancels⟩,
        if ctx.registry.has name then [0] else []⟩ := by
  intro outcome
  have turns : runInTurn ctx [.call name args] w =
      ⟨outcome.result.map fun v => [(display ctx.tokenizer v, 0)], ⟨outcome.store, outcome.cancels⟩,
        if ctx.registry.has name then [0] else []⟩ := by
    rw [runInTurn, pollOrder_singleton, pollsOf, List.range_eq_range']
    exact inTurn_of_steady steady (Nat.zero_add _) awake
  cases answered : outcome.result with
  | error e =>
    have failed : (runInTurn ctx [.call name args] w).result = .error e := by
      rw [turns, answered]
      rfl
    rw [run_of_turns_error awake (by simp [eagerLimit]) failed, turns]
    rfl
  | ok v =>
    have all : (runInTurn ctx [.call name args] w).result = .ok [(display ctx.tokenizer v, 0)] := by
      rw [turns, answered]
      rfl
    obtain ⟨ordered, same, size, order⟩ := run_of_turns_ok awake all
    obtain ⟨text, rfl⟩ := List.length_eq_one_iff.mp size
    cases List.singleton_perm.mp order
    rw [same, turns]
    rfl

end Call

end PromptKit.Render
