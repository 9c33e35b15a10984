import PromptKit.Proofs.Render.Polling

/-!
Polling agrees with turns: what polling many directives at once comes to, with parts that are done and
errors that surface or wait, is what comes of making the same polls one after another.
-/
namespace PromptKit.Render

open Template

variable {ctx : Context} {ds : List Directive} {s final : Progress} {p : Poll} {rest : List Poll}
variable {t : Turns} {next : World} {text : String} {e : PromptError}

structure SameEffects (s final : Progress) (t : Turns) : Prop where
  world : final.world = t.world
  ran : final.ran = t.ran.reverse ++ s.ran

/-- Polling, from one state to another, against turns. An error among the turns is never lost, and
with few directives nothing happens after it. -/
inductive Agrees (s final : Progress) (t : Turns) : Prop
  | ok (texts : List (String × Nat)) (result : t.result = .ok texts) (effects : SameEffects s final t)
      (quiet : anyError final.parts = none)
      (parts : ∀ part ∈ texts, final.parts[part.2]? = some (some (.ok part.1)))
  | error (e : PromptError) (result : t.result = .error e) (stuck : anyError final.parts ≠ none)
      (stops : s.parts.length ≤ eagerLimit → anyError final.parts = some e ∧ SameEffects s final t)

theorem SameEffects.of_finish (evaluated : evaluate ctx p.directive (s.seen p.position) s.world = (.ok text, next))
    (effects : SameEffects (s.finish ctx p) final t) :
    SameEffects s final ⟨t.result.map ((text, p.position) :: ·), t.world,
      (if runsBody ctx s.world p.directive then [p.position] else []) ++ t.ran⟩ := by
  refine ⟨effects.world, ?_⟩
  rw [effects.ran, Progress.finish_of_evaluate evaluated]
  cases runsBody ctx s.world p.directive <;> simp

theorem Agrees.of_ok (given : evaluate ctx p.directive (s.seen p.position) s.world = (.ok text, next))
    (inside : p.position < s.parts.length)
    (agrees : Agrees (s.finish ctx p) (runPolls ctx rest (s.finish ctx p)) t) :
    Agrees s (runPolls ctx rest (s.finish ctx p)) ⟨t.result.map ((text, p.position) :: ·), t.world,
      (if runsBody ctx s.world p.directive then [p.position] else []) ++ t.ran⟩ := by
  have there : (s.finish ctx p).parts[p.position]? = some (some (.ok text)) := by
    rw [Progress.finish_of_evaluate given, List.getElem?_set_self inside]
  cases agrees with
  | ok texts result effects quiet parts =>
    refine .ok ((text, p.position) :: texts) (by rw [result]; rfl) (effects.of_finish given) quiet ?_
    intro part mem
    cases mem with
    | head => exact runPolls_keeps ctx rest there
    | tail _ mem => exact parts part mem
  | error e result stuck stops =>
    refine .error e (by rw [result]; rfl) stuck fun few => ?_
    obtain ⟨first, effects⟩ := stops (by rwa [Progress.length_parts_finish])
    exact ⟨first, effects.of_finish given⟩

theorem Agrees.of_error (polled : s.poll ctx p = s.finish ctx p)
    (failed : evaluate ctx p.directive (s.seen p.position) s.world = (.error e, next))
    (quiet : anyError s.parts = none)
    (inside : p.position < s.parts.length) :
    Agrees s (runPolls ctx (p :: rest) s)
      ⟨.error e, next, if runsBody ctx s.world p.directive then [p.position] else []⟩ := by
  have finished := Progress.finish_of_evaluate failed
  have there : (s.finish ctx p).parts[p.position]? = some (some (.error e)) := by
    rw [finished, List.getElem?_set_self inside]
  have first : anyError (s.finish ctx p).parts = some e := by
    rw [finished]
    exact anyError_set_error quiet inside
  rw [runPolls_cons, polled]
  refine .error e rfl ?_ fun few => ?_
  · split
    · exact anyError_of_getElem? there
    · exact anyError_of_getElem? (runPolls_keeps ctx rest there)
  · have few' : (s.finish ctx p).parts.length ≤ eagerLimit := by
      rwa [Progress.length_parts_finish]
    rw [surfaced_of_small few', first, Option.isSome_some, if_pos rfl]
    refine ⟨first, ?_, ?_⟩
    · rw [finished]
    · rw [finished]
      cases runsBody ctx s.world p.directive <;> simp

theorem Agrees.of_wait (agrees : Agrees (s.wait ctx p) final t) : Agrees s final t := by
  cases agrees with
  | ok texts result effects quiet parts => exact .ok texts result ⟨effects.world, effects.ran⟩ quiet parts
  | error e result stuck stops =>
    refine .error e result stuck fun few => ?_
    obtain ⟨first, effects⟩ := stops few
    exact ⟨first, effects.world, effects.ran⟩

theorem runPolls_agrees {polls : List Poll} (schedule : Schedule ctx.registry ds polls)
    (size : s.parts.length = ds.length) (pending : ∀ p ∈ polls, s.isDone p.position = false)
    (quiet : anyError s.parts = none) :
    Agrees s (runPolls ctx polls s) (inTurn ctx polls s.seen s.world) := by
  -- for every state in which nothing that is still polled is done, and nothing has failed
  induction polls generalizing s with
  | nil => exact .ok [] rfl ⟨rfl, rfl⟩ quiet (by simp)
  | cons p rest ih =>
    have inside : p.position < s.parts.length := by
      rw [size]
      exact (List.getElem?_eq_some_iff.mp (schedule.due p List.mem_cons_self).1).1
    cases ends : p.ends ctx s.world with
    | true =>
      have polled := Progress.poll_of_ends (pending p List.mem_cons_self) ends
      cases evaluated : evaluate ctx p.directive (s.seen p.position) s.world with
      | mk part next =>
        cases part with
        | error e =>
          rw [inTurn_of_error ends evaluated]
          exact .of_error polled evaluated quiet inside
        | ok text =>
          have last := Poll.isLast_of_ok ends evaluated
          have finished := Progress.finish_of_evaluate evaluated
          have quiet' : anyError (s.finish ctx p).parts = none := by
            rw [finished]
            exact anyError_set_ok quiet text
          have size' : (s.finish ctx p).parts.length = ds.length := by
            rw [Progress.length_parts_finish, size]
          have pending' : ∀ q ∈ rest, (s.finish ctx p).isDone q.position = false := by
            intro q mem
            rw [Progress.isDone_finish_ne (schedule.not_again last mem)]
            exact pending q (List.mem_cons_of_mem p mem)
          have later := ih schedule.tail size' pending' quiet'
          have world : (s.finish ctx p).world = next := by rw [finished]
          have seen : (s.finish ctx p).seen = s.seen := by rw [finished]
          rw [world, seen] at later
          rw [runPolls_cons, polled, surfaced_of_quiet quiet', inTurn_of_ok ends evaluated]
          exact later.of_ok evaluated inside
    | false =>
      have polled := Progress.poll_of_waits (pending p List.mem_cons_self) ends
      have kept : surfaced (s.wait ctx p).parts = none := surfaced_of_quiet quiet
      rw [runPolls_cons, polled, kept, inTurn_of_waits ends]
      have later := ih (s := s.wait ctx p) schedule.tail size
        (fun q mem => pending q (List.mem_cons_of_mem p mem)) quiet
      exact later.of_wait

end PromptKit.Render
