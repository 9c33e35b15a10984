import PromptKit.Proofs.Render.Isolation
import PromptKit.Proofs.Traversal

/-!
Directives that do not wait. They are polled once, in template order, so that a render evaluates one after
another up to the first that fails, however many they are. If none of them changes the world, each gives
what it gives by itself.
-/
namespace PromptKit.Render

open Template

def Immediate (registry : Registry) (ds : List Directive) : Prop := ∀ d ∈ ds, finishRound registry d = 0

def firstPolls (start : Nat) (ds : List Directive) : List Poll :=
  (ds.zipIdx start).map fun turn => ⟨0, turn.2, turn.1⟩

def partsAfter (texts : List String) (waiting : List Directive) : List (Option Part) :=
  texts.map (fun text => some (.ok text)) ++ waiting.map fun _ => none

variable {ctx : Context} {registry : Registry} {ds : List Directive} {d : Directive} {w : World}
variable {s final : Progress} {p : Poll} {t : Turns} {next : World} {text : String} {texts : List String}
variable {e : PromptError}

section Polls

theorem lastRound_of_immediate (immediate : Immediate registry ds) : lastRound registry ds = 0 := by
  unfold lastRound
  induction ds with
  | nil => rfl
  | cons d ds ih =>
    obtain ⟨first, later⟩ := List.forall_mem_cons.mp immediate
    rw [List.map_cons, List.foldl_cons, first]
    exact ih later

theorem allPolls_of_immediate (immediate : Immediate registry ds) :
    allPolls registry ds = firstPolls 0 ds := by
  rw [allPolls, lastRound_of_immediate immediate]
  simp [roundPolls, firstPolls]

theorem firstPolls_cons (start : Nat) (d : Directive) (ds : List Directive) :
    firstPolls start (d :: ds) = ⟨0, start, d⟩ :: firstPolls (start + 1) ds := rfl

end Polls

section Parts

theorem anyError_partsAfter (texts : List String) (waiting : List Directive) :
    anyError (partsAfter texts waiting) = none := by
  refine anyError_eq_none_iff.mpr fun e mem => ?_
  rcases List.mem_append.mp mem with given | pending
  · obtain ⟨_, _, same⟩ := List.mem_map.mp given
    cases same
  · obtain ⟨_, _, same⟩ := List.mem_map.mp pending
    cases same

def partsUpTo (texts : List String) (e : PromptError) (rest : List (Option Part)) : List (Option Part) :=
  texts.map (fun text => some (.ok text)) ++ some (.error e) :: rest

theorem anyError_partsUpTo (texts : List String) (e : PromptError) (rest : List (Option Part)) :
    anyError (partsUpTo texts e rest) = some e := by
  induction texts with
  | nil => rfl
  | cons text texts ih => exact ih

theorem frontError_partsUpTo (texts : List String) (e : PromptError) (rest : List (Option Part)) :
    frontError (partsUpTo texts e rest) = some e := by
  induction texts with
  | nil => rfl
  | cons text texts ih => exact ih

theorem surfaced_partsUpTo (texts : List String) (e : PromptError) (rest : List (Option Part)) :
    surfaced (partsUpTo texts e rest) = some e := by
  unfold surfaced
  rw [anyError_partsUpTo, frontError_partsUpTo, ite_self]

theorem set_partsAfter (texts : List String) (d : Directive) (waiting : List Directive) (part : Part) :
    (partsAfter texts (d :: waiting)).set texts.length (some part) =
      texts.map (fun text => some (.ok text)) ++ some part :: waiting.map fun _ => none := by
  rw [partsAfter, List.set_append_right _ _ (by simp)]
  simp

theorem isDone_partsAfter {waiting : List Directive} (parts : s.parts = partsAfter texts (d :: waiting)) :
    s.isDone texts.length = false := by
  unfold Progress.isDone
  rw [parts, partsAfter, List.getElem?_append_right (by simp)]
  simp

end Parts

/-- What polling comes to, after some texts, next to turns: what is given follows these texts, or the error
of the turns surfaces. -/
structure Follows (texts : List String) (s final : Progress) (t : Turns) : Prop where
  effects : SameEffects s final t
  given : ∀ more, t.result = .ok more → final.parts = partsAfter (texts ++ more.map (·.1)) []
  failed : ∀ e, t.result = .error e → surfaced final.parts = some e

theorem Follows.of_error (failed : evaluate ctx p.directive (s.seen p.position) s.world = (.error e, next))
    (surfaces : surfaced (s.finish ctx p).parts = some e) :
    Follows texts s (s.finish ctx p)
      ⟨.error e, next, if runsBody ctx s.world p.directive then [p.position] else []⟩ := by
  have finished := Progress.finish_of_evaluate failed
  refine ⟨⟨?_, ?_⟩, fun more none => (nomatch none), fun e' same => ?_⟩
  · rw [finished]
  · rw [finished]
    cases runsBody ctx s.world p.directive <;> simp
  · rw [surfaces, Except.error.inj same]

theorem Follows.of_ok (given : evaluate ctx p.directive (s.seen p.position) s.world = (.ok text, next))
    (follows : Follows (texts ++ [text]) (s.finish ctx p) final t) :
    Follows texts s final ⟨t.result.map ((text, p.position) :: ·), t.world,
      (if runsBody ctx s.world p.directive then [p.position] else []) ++ t.ran⟩ := by
  refine ⟨follows.effects.of_finish given, fun more same => ?_, fun e same => ?_⟩
  · obtain ⟨more', done, rfl⟩ := exists_ok_of_map same
    have whole := follows.given more' done
    rwa [List.append_assoc] at whole
  · exact follows.failed e (eq_error_of_map same)

theorem runPolls_follows (immediate : Immediate ctx.registry ds) (parts : s.parts = partsAfter texts ds) :
    Follows texts s (runPolls ctx (firstPolls texts.length ds) s)
      (inTurn ctx (firstPolls texts.length ds) s.seen s.world) := by
  -- the texts are those of the directives polled so far, and the next is polled at their number
  induction ds generalizing s texts with
  | nil =>
    refine ⟨⟨rfl, rfl⟩, fun more none => ?_, fun e none => (nomatch none)⟩
    cases none
    rw [List.map_nil, List.append_nil]
    exact parts
  | cons d ds ih =>
    obtain ⟨first, later⟩ := List.forall_mem_cons.mp immediate
    let p : Poll := ⟨0, texts.length, d⟩
    have ends : p.ends ctx s.world = true := Poll.ends_iff.mpr (.inl first.symm)
    have polled : s.poll ctx p = s.finish ctx p := Progress.poll_of_ends (isDone_partsAfter parts) ends
    have done : (s.finish ctx p).parts = texts.map (fun text => some (.ok text)) ++
        some (evaluate ctx d (s.seen texts.length) s.world).1 :: ds.map fun _ => none := by
      rw [Progress.parts_finish, parts, set_partsAfter]
    rw [firstPolls_cons, runPolls_cons, polled]
    cases evaluated : evaluate ctx d (s.seen texts.length) s.world with
    | mk part next =>
      rw [evaluated] at done
      cases part with
      | error e =>
        have surfaces : surfaced (s.finish ctx p).parts = some e := by
          rw [done]
          exact surfaced_partsUpTo texts e _
        rw [surfaces, Option.isSome_some, if_pos rfl, inTurn_of_error ends evaluated]
        exact .of_error evaluated surfaces
      | ok text =>
        have done : (s.finish ctx p).parts = partsAfter (texts ++ [text]) ds := by
          simp [done, partsAfter]
        have finished := Progress.finish_of_evaluate (p := p) evaluated
        have world : (s.finish ctx p).world = next := by rw [finished]
        have seen : (s.finish ctx p).seen = s.seen := by rw [finished]
        have follows := ih later done
        rw [List.length_append, List.length_singleton, world, seen] at follows
        rw [done, surfaced_of_quiet (anyError_partsAfter _ _), inTurn_of_ok ends evaluated]
        exact follows.of_ok evaluated

theorem filterMap_value?_partsAfter (texts : List String) : (partsAfter texts []).filterMap value? = texts := by
  rw [partsAfter, List.map_nil, List.append_nil, List.filterMap_map]
  exact List.filterMap_some

/-- Directives that do not wait are rendered one after another, as many as there are. -/
theorem run_of_immediate (immediate : Immediate ctx.registry ds) (awake : w.cancelled = false) :
    let turns := inTurn ctx (firstPolls 0 ds) .empty w
    run ctx ds w = ⟨turns.result.map (·.map (·.1)), turns.world, turns.ran⟩ := by
  intro turns
  have follows : Follows [] (Progress.start ds w) (lastProgress ctx ds w) turns := by
    rw [lastProgress, allPolls_of_immediate immediate]
    exact runPolls_follows immediate rfl
  have ran : (lastProgress ctx ds w).ran.reverse = turns.ran := by
    rw [follows.effects.ran, Progress.start, List.append_nil, List.reverse_reverse]
  cases result : turns.result with
  | error e => rw [run_of_surfaced awake (follows.failed e result), follows.effects.world, ran]; rfl
  | ok more =>
    have parts := follows.given more result
    have quiet : surfaced (lastProgress ctx ds w).parts = none := by
      rw [parts, surfaced_of_quiet (anyError_partsAfter _ _)]
    rw [run_of_quiet awake quiet, parts, filterMap_value?_partsAfter, follows.effects.world, ran]
    rfl

def Inert (ctx : Context) (w : World) (ds : List Directive) : Prop := ∀ d ∈ ds, (evaluate ctx d [] w).2 = w

theorem inTurn_of_inert (immediate : Immediate ctx.registry ds) (inert : Inert ctx w ds) (start : Nat) :
    (inTurn ctx (firstPolls start ds) .empty w).result.map (·.map (·.1)) = ds.mapM (alone ctx w) ∧
      (inTurn ctx (firstPolls start ds) .empty w).world = w := by
  induction ds generalizing start with
  | nil => exact ⟨rfl, rfl⟩
  | cons d ds ih =>
    obtain ⟨first, later⟩ := List.forall_mem_cons.mp inert
    obtain ⟨done, soon⟩ := List.forall_mem_cons.mp immediate
    obtain ⟨result, world⟩ := ih soon later (start + 1)
    have ends : Poll.ends ctx w ⟨0, start, d⟩ = true := Poll.ends_iff.mpr (.inl done.symm)
    rw [firstPolls_cons, List.mapM_cons, ← result]
    cases part : alone ctx w d with
    | error e =>
      have failed : evaluate ctx d (Seen.empty start) w = (.error e, w) := Prod.ext part first
      rw [inTurn_of_error ends failed]
      exact ⟨rfl, rfl⟩
    | ok text =>
      have given : evaluate ctx d (Seen.empty start) w = (.ok text, w) := Prod.ext part first
      rw [inTurn_of_ok ends given]
      refine ⟨?_, world⟩
      cases (inTurn ctx (firstPolls (start + 1) ds) .empty w).result <;> rfl

theorem run_of_inert (immediate : Immediate ctx.registry ds) (inert : Inert ctx w ds)
    (awake : w.cancelled = false) :
    (run ctx ds w).result = ds.mapM (alone ctx w) ∧ (run ctx ds w).world = w := by
  rw [run_of_immediate immediate awake]
  exact inTurn_of_inert immediate inert 0

end PromptKit.Render
