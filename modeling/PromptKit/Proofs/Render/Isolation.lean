import PromptKit.Function.Sample
import PromptKit.Proofs.Render.Steps

/-!
Functions that depend on their arguments alone. Rendering is then pointwise: the parts are those that
the directives give by themselves, and how long each function waits decides at most which of several
errors is met.
-/
namespace PromptKit.Render

open Template

/-- What a function gives depends on its arguments alone; it changes nothing and never cancels. -/
def Context.Isolated (ctx : Context) : Prop :=
  ∀ name f, ctx.registry.get? name = some f → ∀ args,
    (∀ seen store, f.wait ctx.scope args seen store = ⟨store, false⟩) ∧
    ∃ result, ∀ seen store, f.body ctx.scope args seen store = ⟨result, store, false⟩

/-- Contexts that differ at most in how many rounds each function waits. -/
structure Context.SameButRounds (ctx other : Context) : Prop where
  tokenizer : ctx.tokenizer = other.tokenizer
  clock : ctx.clock = other.clock
  actions : ∀ name, (ctx.registry.get? name).map (fun f => (f.wait, f.body)) =
    (other.registry.get? name).map (fun f => (f.wait, f.body))

def alone (ctx : Context) (w : World) (d : Directive) : Part := (evaluate ctx d [] w).1

def FailsAlone (ctx : Context) (w : World) (d : Directive) : Prop := ∃ e, alone ctx w d = .error e

variable {ctx other : Context} {ds : List Directive} {w : World} {s : Progress}
variable {p : Poll} {e : PromptError} {texts : List String}

theorem Context.Isolated.idle (isolated : ctx.Isolated) : ctx.Idle := by
  intro name f found args seen store
  obtain ⟨idle, result, given⟩ := isolated name f found args
  exact ⟨idle seen store, (given seen store).trans (given [] store).symm⟩

theorem evaluate_of_isolated (isolated : ctx.Isolated) (awake : w.cancelled = false) (d : Directive)
    (seen : List Store) : evaluate ctx d seen w = (alone ctx w d, w) := by
  rw [evaluate_of_idle isolated.idle]
  refine Prod.ext rfl ?_
  cases d with
  | text content => rfl
  | lookup key => rfl
  | call name args =>
    obtain ⟨store, cancelled⟩ := w
    cases awake
    cases found : ctx.registry.get? name with
    | none => rw [evaluate, Registry.function_of_absent found]; rfl
    | some f =>
      obtain ⟨_, result, given⟩ := isolated name f found args
      simp [evaluate, Registry.function_of_found found, given]

section Rounds

variable (same : ctx.SameButRounds other)
include same

theorem Context.SameButRounds.scope : ctx.scope = other.scope := by
  have has : ctx.registry.has = other.registry.has := by
    funext name
    have actions := congrArg Option.isSome (same.actions name)
    rwa [Option.isSome_map, Option.isSome_map] at actions
  unfold Context.scope Registry.scope
  rw [has, same.clock]

theorem Context.SameButRounds.found {name : String} {g : PromptFunction}
    (found : other.registry.get? name = some g) :
    ∃ f, ctx.registry.get? name = some f ∧ f.wait = g.wait ∧ f.body = g.body := by
  have actions := same.actions name
  rw [found, Option.map_some, Option.map_eq_some_iff] at actions
  obtain ⟨f, found', equal⟩ := actions
  exact ⟨f, found', congrArg Prod.fst equal, congrArg Prod.snd equal⟩

theorem Context.SameButRounds.alone_eq (w : World) (d : Directive) : alone other w d = alone ctx w d := by
  cases d with
  | text content => rfl
  | lookup key => simp only [alone, evaluate, same.tokenizer]
  | call name args =>
    have body : (other.registry.function name).body = (ctx.registry.function name).body := by
      cases found : other.registry.get? name with
      | some g =>
        obtain ⟨f, found', _, body⟩ := same.found found
        rw [Registry.function_of_found found, Registry.function_of_found found', body]
      | none =>
        have actions := same.actions name
        rw [found, Option.map_none, Option.map_eq_none_iff] at actions
        rw [Registry.function_of_absent found, Registry.function_of_absent actions]
    simp only [alone, evaluate, body, same.scope, same.tokenizer]

theorem Context.Isolated.of_sameButRounds (isolated : ctx.Isolated) : other.Isolated := by
  intro name g found args
  obtain ⟨f, found', wait, body⟩ := same.found found
  rw [← same.scope, ← wait, ← body]
  exact isolated name f found' args

end Rounds

section Parts

variable {parts : List (Option Part)}

theorem mem_of_anyError (first : anyError parts = some e) : some (.error e) ∈ parts := by
  induction parts with
  | nil => cases first
  | cons part rest ih =>
    cases part with
    | none => exact List.mem_cons_of_mem _ (ih first)
    | some part =>
      cases part with
      | ok text => exact List.mem_cons_of_mem _ (ih first)
      | error e' =>
        cases first
        exact List.mem_cons_self

theorem getElem?_of_frontError (first : frontError parts = some e) :
    ∃ i : Nat, parts[i]? = some (some (.error e)) ∧
      ∀ j < i, ∃ text, parts[j]? = some (some (.ok text)) := by
  induction parts with
  | nil => cases first
  | cons part rest ih =>
    cases part with
    | none => cases first
    | some part =>
      cases part with
      | error e' =>
        cases first
        exact ⟨0, rfl, fun j before => absurd before (Nat.not_lt_zero j)⟩
      | ok text =>
        obtain ⟨i, there, given⟩ := ih first
        refine ⟨i + 1, there, fun j before => ?_⟩
        cases j with
        | zero => exact ⟨text, rfl⟩
        | succ j => exact given j (Nat.lt_of_succ_lt_succ before)

theorem mem_of_surfaced (surfaces : surfaced parts = some e) : some (.error e) ∈ parts := by
  unfold surfaced at surfaces
  split at surfaces
  · exact mem_of_anyError surfaces
  · obtain ⟨i, there, _⟩ := getElem?_of_frontError surfaces
    exact List.mem_of_getElem? there

end Parts

structure Progress.Faithful (ctx : Context) (ds : List Directive) (w : World) (s : Progress) : Prop where
  world : s.world = w
  parts : ∀ (i : Nat) (part : Part), s.parts[i]? = some (some part) → ∃ d, ds[i]? = some d ∧ alone ctx w d = part

theorem Progress.Faithful.poll (isolated : ctx.Isolated) (awake : w.cancelled = false)
    (due : p.Due ctx.registry ds) (faithful : s.Faithful ctx ds w) :
    (s.poll ctx p).Faithful ctx ds w := by
  rcases s.poll_cases ctx p with unchanged | ⟨_, _, waited⟩ | ⟨_, _, finished⟩
  · rwa [unchanged]
  · rw [waited]
    refine ⟨?_, faithful.parts⟩
    rw [Progress.wait, pause_of_idle isolated.idle]
    exact faithful.world
  · have evaluated := evaluate_of_isolated isolated awake p.directive (s.seen p.position)
    rw [← faithful.world] at evaluated
    rw [finished, Progress.finish_of_evaluate evaluated]
    refine ⟨faithful.world, fun i part there => ?_⟩
    rw [List.getElem?_set] at there
    split at there
    · rename_i here
      split at there
      · cases there
        exact ⟨p.directive, by rw [← here, due.1], by rw [faithful.world]⟩
      · contradiction
    · exact faithful.parts i part there

theorem lastProgress_faithful (isolated : ctx.Isolated) (awake : w.cancelled = false) :
    (lastProgress ctx ds w).Faithful ctx ds w := by
  refine runPolls_invariant (fun p mem s faithful => faithful.poll isolated awake (mem_allPolls.mp mem)) ?_
  refine ⟨rfl, fun i part there => ?_⟩
  have done := Progress.isDone_iff.mpr ⟨part, there⟩
  rw [isDone_start] at done
  contradiction

theorem failsAlone_of_error (isolated : ctx.Isolated) (awake : w.cancelled = false)
    (failed : (run ctx ds w).result = .error e) : ∃ d ∈ ds, alone ctx w d = .error e := by
  cases surfaces : surfaced (lastProgress ctx ds w).parts with
  | none =>
    rw [run_of_quiet awake surfaces] at failed
    contradiction
  | some e' =>
    rw [run_of_surfaced awake surfaces] at failed
    cases failed
    obtain ⟨i, there⟩ := List.mem_iff_getElem?.mp (mem_of_surfaced surfaces)
    obtain ⟨d, found, fails⟩ := (lastProgress_faithful isolated awake).parts i _ there
    exact ⟨d, List.mem_of_getElem? found, fails⟩

theorem map_alone_of_ok (isolated : ctx.Isolated) (awake : w.cancelled = false)
    (given : (run ctx ds w).result = .ok texts) : ds.map (alone ctx w) = texts.map .ok := by
  have quiet := quiet_of_ok given
  have whole := eq_map_of_done (isSome_of_quiet quiet) (anyError_of_quiet quiet)
  have size := length_lastProgress ctx ds w
  rw [run_of_quiet awake quiet] at given
  rw [Except.ok.inj given] at whole
  rw [whole, List.length_map] at size
  refine List.ext_getElem? fun i => ?_
  rw [List.getElem?_map, List.getElem?_map]
  cases found : texts[i]? with
  | none =>
    rw [List.getElem?_eq_none_iff, size, ← List.getElem?_eq_none_iff] at found
    rw [found]
    rfl
  | some text =>
    have there : (lastProgress ctx ds w).parts[i]? = some (some (.ok text)) := by
      rw [whole, List.getElem?_map, found]
      rfl
    obtain ⟨d, found', same⟩ := (lastProgress_faithful isolated awake).parts i _ there
    rw [found', Option.map_some, same]
    rfl

/-- A render succeeds just when every directive does by itself, and gives the same parts. -/
theorem run_ok_iff (isolated : ctx.Isolated) (awake : w.cancelled = false) :
    (run ctx ds w).result = .ok texts ↔ ds.map (alone ctx w) = texts.map .ok := by
  refine ⟨map_alone_of_ok isolated awake, fun all => ?_⟩
  cases rendered : (run ctx ds w).result with
  | ok texts' =>
    have all' := map_alone_of_ok isolated awake rendered
    rw [all] at all'
    have same : texts = texts' := List.map_injective_iff.mpr (fun _ _ same => Except.ok.inj same) all'
    rw [same]
  | error e =>
    obtain ⟨d, mem, fails⟩ := failsAlone_of_error isolated awake rendered
    have given : alone ctx w d ∈ texts.map Except.ok := by
      rw [← all]
      exact List.mem_map_of_mem mem
    obtain ⟨text, _, same⟩ := List.mem_map.mp given
    rw [fails] at same
    contradiction

section Errors

theorem inTurn_error_of_isolated (isolated : ctx.Isolated) (awake : w.cancelled = false) {polls : List Poll}
    {seen : Seen} (last : ∀ p ∈ polls, p.IsLast ctx.registry)
    (failed : (inTurn ctx polls seen w).result = .error e) :
    ∃ before first after, polls = before ++ first :: after ∧ alone ctx w first.directive = .error e ∧
      ∀ earlier ∈ before, ¬ FailsAlone ctx w earlier.directive := by
  induction polls with
  | nil => cases failed
  | cons p rest ih =>
    have ends : p.ends ctx w = true := Poll.ends_iff.mpr (.inl (last p List.mem_cons_self))
    have evaluated := evaluate_of_isolated isolated awake p.directive (seen p.position)
    cases part : alone ctx w p.directive with
    | error e' =>
      rw [part] at evaluated
      rw [inTurn_of_error ends evaluated] at failed
      cases failed
      exact ⟨[], p, rest, rfl, part, fun _ mem => absurd mem List.not_mem_nil⟩
    | ok text =>
      rw [part] at evaluated
      rw [inTurn_of_ok ends evaluated] at failed
      cases later : (inTurn ctx rest seen w).result with
      | ok texts =>
        rw [later] at failed
        contradiction
      | error e' =>
        rw [later] at failed
        cases failed
        obtain ⟨before, first, after, split, fails, succeed⟩ :=
          ih (fun q mem => last q (List.mem_cons_of_mem p mem)) later
        refine ⟨p :: before, first, after, by rw [split]; rfl, fails, fun earlier mem => ?_⟩
        cases mem with
        | head =>
          intro failure
          obtain ⟨e'', same⟩ := failure
          rw [part] at same
          contradiction
        | tail _ mem => exact succeed earlier mem

/-- Of few directives, the one whose failure is met first is the one that is done first. -/
theorem run_error_of_few (isolated : ctx.Isolated) (awake : w.cancelled = false)
    (few : ds.length ≤ eagerLimit) (failed : (run ctx ds w).result = .error e) :
    ∃ first ∈ ds.zipIdx, alone ctx w first.1 = .error e ∧ ∀ turn ∈ ds.zipIdx,
      FailsAlone ctx w turn.1 → finishKey ctx.registry first ≤ finishKey ctx.registry turn := by
  have failed' : (evaluateInTurn ctx ds w).result = .error e := by
    rw [← runInTurn_of_idle isolated.idle]
    cases all : (runInTurn ctx ds w).result with
    | ok given =>
      obtain ⟨ordered, same, _⟩ := run_of_turns_ok awake all
      rw [same] at failed
      contradiction
    | error e' =>
      rw [run_of_turns_error awake few all] at failed
      cases failed
      rfl
  have last : ∀ p ∈ finishOrder ctx.registry ds, p.IsLast ctx.registry := by
    intro p mem
    obtain ⟨_, _, rfl⟩ := List.mem_map.mp (finishOrder_perm.mem_iff.mp mem)
    rfl
  obtain ⟨before, first, after, split, fails, succeed⟩ := inTurn_error_of_isolated isolated awake last failed'
  have sorted : (finishOrder ctx.registry ds).Pairwise _ := pairwise_finishOrder
  rw [split] at sorted
  have least := (List.pairwise_cons.mp (List.pairwise_append.mp sorted).2.1).1
  have placed : first ∈ finishOrder ctx.registry ds := by
    rw [split]
    exact List.mem_append_right before List.mem_cons_self
  obtain ⟨first, inside, rfl⟩ := List.mem_map.mp (finishOrder_perm.mem_iff.mp placed)
  refine ⟨first, inside, fails, fun turn mem failure => ?_⟩
  have polled : lastPoll ctx.registry turn ∈ finishOrder ctx.registry ds :=
    finishOrder_perm.mem_iff.mpr (List.mem_map_of_mem mem)
  rw [split, List.mem_append, List.mem_cons] at polled
  obtain earlier | same | later := polled
  · exact absurd failure (succeed _ earlier)
  · exact le_of_eq (congrArg Poll.key same).symm
  · exact le_of_lt (least _ later)

/-- Of many directives, the first that fails decides. -/
theorem run_error_of_many (isolated : ctx.Isolated) (awake : w.cancelled = false)
    (many : eagerLimit < ds.length) (failed : (run ctx ds w).result = .error e) :
    ∃ first ∈ ds.zipIdx, alone ctx w first.1 = .error e ∧ ∀ turn ∈ ds.zipIdx,
      FailsAlone ctx w turn.1 → first.2 ≤ turn.2 := by
  have faithful : (lastProgress ctx ds w).Faithful ctx ds w := lastProgress_faithful isolated awake
  cases surfaces : surfaced (lastProgress ctx ds w).parts with
  | none =>
    rw [run_of_quiet awake surfaces] at failed
    contradiction
  | some e' =>
    rw [run_of_surfaced awake surfaces] at failed
    cases failed
    rw [surfaced, if_neg (by rw [length_lastProgress]; omega)] at surfaces
    obtain ⟨i, there, before⟩ := getElem?_of_frontError surfaces
    obtain ⟨d, found, fails⟩ := faithful.parts i _ there
    refine ⟨(d, i), List.mk_mem_zipIdx_iff_getElem?.mpr found, fails, fun turn mem failure => ?_⟩
    refine Nat.le_of_not_lt fun earlier => ?_
    obtain ⟨text, there'⟩ := before turn.2 earlier
    obtain ⟨d', found', given⟩ := faithful.parts turn.2 _ there'
    rw [List.mem_zipIdx_iff_getElem?.mp mem] at found'
    cases found'
    obtain ⟨e'', fails'⟩ := failure
    rw [given] at fails'
    contradiction

end Errors

/-- Whatever the rounds in which isolated functions wait, a render gives the parts that the directives
give by themselves, or fails because one of them does: with few directives it is the one that is done
first, with many the first of the template. -/
theorem run_independent_of_rounds (isolated : ctx.Isolated) (same : ctx.SameButRounds other)
    (ds : List Directive) (awake : w.cancelled = false) :
    (∀ texts, (run ctx ds w).result = .ok texts ↔ ds.map (alone ctx w) = texts.map .ok) ∧
    (∀ texts, (run other ds w).result = .ok texts ↔ (run ctx ds w).result = .ok texts) ∧
    ((∃ e, (run ctx ds w).result = .error e) ↔ ∃ d ∈ ds, FailsAlone ctx w d) ∧
    (∀ e, (run ctx ds w).result = .error e → ds.length ≤ eagerLimit →
      ∃ first ∈ ds.zipIdx, alone ctx w first.1 = .error e ∧ ∀ turn ∈ ds.zipIdx,
        FailsAlone ctx w turn.1 → finishKey ctx.registry first ≤ finishKey ctx.registry turn) ∧
    (∀ e, (run ctx ds w).result = .error e → eagerLimit < ds.length →
      ∃ first ∈ ds.zipIdx, alone ctx w first.1 = .error e ∧ ∀ turn ∈ ds.zipIdx,
        FailsAlone ctx w turn.1 → first.2 ≤ turn.2) := by
  have pointwise : ∀ texts, (run ctx ds w).result = .ok texts ↔ ds.map (alone ctx w) = texts.map .ok :=
    fun _ => run_ok_iff isolated awake
  refine ⟨pointwise, fun texts => ?_, ⟨fun failed => ?_, fun failure => ?_⟩,
    fun e failed few => run_error_of_few isolated awake few failed,
    fun e failed many => run_error_of_many isolated awake many failed⟩
  · have equal : alone other w = alone ctx w := funext (same.alone_eq w)
    rw [run_ok_iff (isolated.of_sameButRounds same) awake, equal, pointwise]
  · obtain ⟨e, failed⟩ := failed
    obtain ⟨d, mem, fails⟩ := failsAlone_of_error isolated awake failed
    exact ⟨d, mem, e, fails⟩
  · obtain ⟨d, mem, e, fails⟩ := failure
    cases rendered : (run ctx ds w).result with
    | error e' => exact ⟨e', rfl⟩
    | ok texts =>
      have given := List.mem_map_of_mem (f := alone ctx w) mem
      rw [(pointwise texts).mp rendered, fails] at given
      obtain ⟨_, _, same⟩ := List.mem_map.mp given
      contradiction

def echoAndFail (echo fail : Nat) : Context where
  registry := ⟨(Dict.empty.insert "echo" (Sample.function .echo echo)).insert "fail"
    (Sample.function (.fail "fail" "boom") fail)⟩
  tokenizer := .chars
  clock := ⟨2026, 1, 1, 0, 0, 0⟩

theorem echoAndFail_get? (m n : Nat) (name : String) : (echoAndFail m n).registry.get? name =
    if "fail" = name then some (Sample.function (.fail "fail" "boom") n)
    else if "echo" = name then some (Sample.function .echo m) else none := by
  simp only [echoAndFail, Registry.get?, Dict.get?_insert, Dict.get?_empty]

theorem echoAndFail_isolated (m n : Nat) : (echoAndFail m n).Isolated := by
  intro name f found args
  rw [echoAndFail_get?] at found
  split at found
  · cases found
    exact ⟨fun _ _ => rfl, _, fun _ _ => rfl⟩
  · split at found
    · cases found
      exact ⟨fun _ _ => rfl, _, fun _ _ => rfl⟩
    · contradiction

theorem echoAndFail_sameButRounds (m n m' n' : Nat) :
    (echoAndFail m n).SameButRounds (echoAndFail m' n') := by
  refine ⟨rfl, rfl, fun name => ?_⟩
  rw [echoAndFail_get?, echoAndFail_get?]
  split
  · rfl
  · split <;> rfl

def echoTwice : List Directive := [.call "echo" ["a"], .text "-", .call "echo" ["b"]]

theorem echoes_independent_of_rounds :
    (∀ texts, (run (echoAndFail 0 1) echoTwice default).result = .ok texts ↔
      (run (echoAndFail 3 0) echoTwice default).result = .ok texts) ∧
    (run (echoAndFail 3 0) echoTwice default).result = .ok ["a", "-", "b"] ∧
    (∃ e, (run (echoAndFail 3 0) (.call "fail" [] :: echoTwice) default).result = .error e) := by
  have isolated := echoAndFail_isolated 3 0
  have same := echoAndFail_sameButRounds 3 0 0 1
  have succeeds := run_independent_of_rounds isolated same echoTwice (w := default) rfl
  have fails := run_independent_of_rounds isolated same (.call "fail" [] :: echoTwice) (w := default) rfl
  refine ⟨succeeds.2.1, (succeeds.1 _).mpr rfl, fails.2.2.1.mpr ?_⟩
  exact ⟨.call "fail" [], List.mem_cons_self, .functionFailed "fail" "boom", rfl⟩

end PromptKit.Render
