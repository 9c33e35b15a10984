import PromptKit.Proofs.Function.Registration
import PromptKit.Proofs.Render.Order

/-!
Polls that take turns: each is made when the one before it is over, up to the first at which a directive
fails.
-/
namespace PromptKit.Render

open Template

def runsBody (ctx : Context) (w : World) : Directive → Bool
  | .call name _ => !w.cancelled && ctx.registry.has name
  | _ => false

structure Turns where
  /-- The texts, each with the position of its directive, or the error of the last turn. -/
  result : Except PromptError (List (String × Nat))
  world : World
  ran : List Nat

/-- A directive that is not done acts in its turn; one that is done is evaluated in it. -/
def inTurn (ctx : Context) : List Poll → Seen → World → Turns
  | [], _, w => ⟨.ok [], w, []⟩
  | p :: rest, seen, w =>
    if p.ends ctx w then
      let ran := if runsBody ctx w p.directive then [p.position] else []
      match evaluate ctx p.directive (seen p.position) w with
      | (.error e, next) => ⟨.error e, next, ran⟩
      | (.ok text, next) =>
        let later := inTurn ctx rest seen next
        ⟨later.result.map ((text, p.position) :: ·), later.world, ran ++ later.ran⟩
    else
      inTurn ctx rest (seen.note p.position w.store) (pause ctx p.directive (seen p.position) w)

variable {ctx : Context} {d : Directive} {seen : List Store} {w : World}

theorem isCall_iff : isCall d = true ↔ ∃ name args, d = .call name args := by
  cases d <;> simp [isCall]

theorem evaluate_of_not_isCall (passive : isCall d = false) :
    ∃ text, evaluate ctx d seen w = (.ok text, w) := by
  cases d with
  | text content => exact ⟨content, rfl⟩
  | lookup key => exact ⟨_, rfl⟩
  | call name args => contradiction

theorem evaluate_of_cancelled (call : isCall d = true) (cancelled : w.cancelled = true) :
    evaluate ctx d seen w = (.error .cancelled, w) := by
  cases d with
  | text content => contradiction
  | lookup key => contradiction
  | call name args => simp [evaluate, cancelled]

theorem pause_of_not_isCall (passive : isCall d = false) : pause ctx d seen w = w := by
  cases d with
  | text content => rfl
  | lookup key => rfl
  | call name args => contradiction

theorem runsBody_of_cancelled (cancelled : w.cancelled = true) : runsBody ctx w d = false := by
  cases d <;> simp [runsBody, cancelled]

theorem has_of_body_ok {r : Registry} {name : String} {scope : Scope} {args : List String} {store : Store}
    {v : Json.Value} (answered : ((r.function name).body scope args seen store).result = .ok v) :
    r.has name = true := by
  rw [← Bool.not_eq_false]
  intro absent
  rw [Registry.function_of_absent (Registry.has_eq_false_iff.mp absent)] at answered
  cases answered

theorem runsBody_of_ok {text : String} {next : World} (given : evaluate ctx d seen w = (.ok text, next)) :
    runsBody ctx w d = isCall d := by
  cases d with
  | text content => rfl
  | lookup key => rfl
  | call name args =>
    cases cancelled : w.cancelled with
    | true =>
      rw [evaluate_of_cancelled rfl cancelled] at given
      cases given
    | false =>
      simp only [evaluate, cancelled, Bool.false_eq_true, if_false, Prod.mk.injEq] at given
      cases answered : ((ctx.registry.function name).body ctx.scope args seen w.store).result with
      | error e =>
        rw [answered] at given
        cases given.1
      | ok v => simp [runsBody, isCall, cancelled, has_of_body_ok answered]

theorem Poll.ends_iff {p : Poll} :
    p.ends ctx w = true ↔ p.IsLast ctx.registry ∨ isCall p.directive = true ∧ w.cancelled = true := by
  rw [ends, Bool.or_eq_true, Bool.and_eq_true, decide_eq_true_eq]
  rfl

theorem Poll.isLast_of_ok {p : Poll} {text : String} {next : World} (ends : p.ends ctx w = true)
    (given : evaluate ctx p.directive seen w = (.ok text, next)) : p.IsLast ctx.registry := by
  cases ends_iff.mp ends with
  | inl last => exact last
  | inr disturbed =>
    rw [evaluate_of_cancelled disturbed.1 disturbed.2] at given
    cases given

theorem Poll.not_isLast_of_waits {p : Poll} (waits : p.ends ctx w = false) : ¬ p.IsLast ctx.registry := by
  intro last
  rw [ends_iff.mpr (.inl last)] at waits
  contradiction

section Steps

variable {p : Poll} {rest polls : List Poll} {found : Seen} {next : World}

theorem inTurn_of_error {e : PromptError} (ends : p.ends ctx w = true)
    (failed : evaluate ctx p.directive (found p.position) w = (.error e, next)) :
    inTurn ctx (p :: rest) found w =
      ⟨.error e, next, if runsBody ctx w p.directive then [p.position] else []⟩ := by
  rw [inTurn, if_pos ends, failed]

theorem inTurn_of_ok {text : String} (ends : p.ends ctx w = true)
    (given : evaluate ctx p.directive (found p.position) w = (.ok text, next)) :
    inTurn ctx (p :: rest) found w =
      ⟨(inTurn ctx rest found next).result.map ((text, p.position) :: ·), (inTurn ctx rest found next).world,
        (if runsBody ctx w p.directive then [p.position] else []) ++ (inTurn ctx rest found next).ran⟩ := by
  rw [inTurn, if_pos ends, given]

theorem inTurn_of_waits (waits : p.ends ctx w = false) : inTurn ctx (p :: rest) found w =
    inTurn ctx rest (found.note p.position w.store) (pause ctx p.directive (found p.position) w) := by
  rw [inTurn, if_neg (Bool.eq_false_iff.mp waits)]

/-- Once the render is cancelled, turns go on up to the first call and change nothing. -/
theorem inTurn_of_cancelled (cancelled : w.cancelled = true) (call : ∃ p ∈ polls, isCall p.directive = true) :
    inTurn ctx polls found w = ⟨.error .cancelled, w, []⟩ := by
  induction polls generalizing found with
  | nil =>
    obtain ⟨p, mem, _⟩ := call
    cases mem
  | cons p rest ih =>
    cases called : isCall p.directive with
    | true =>
      rw [inTurn_of_error (Poll.ends_iff.mpr (.inr ⟨called, cancelled⟩)) (evaluate_of_cancelled called cancelled),
        runsBody_of_cancelled cancelled]
      rfl
    | false =>
      have later : ∃ q ∈ rest, isCall q.directive = true := by
        obtain ⟨q, mem, called'⟩ := call
        cases mem with
        | head => rw [called] at called'; contradiction
        | tail _ mem => exact ⟨q, mem, called'⟩
      cases ends : p.ends ctx w with
      | true =>
        have silent : ∃ text, evaluate ctx p.directive (found p.position) w = (.ok text, w) :=
          evaluate_of_not_isCall called
        obtain ⟨text, given⟩ := silent
        rw [inTurn_of_ok ends given, ih later, runsBody_of_cancelled cancelled]
        rfl
      | false => rw [inTurn_of_waits ends, pause_of_not_isCall called, ih later]

/-- Turns that no failure ends give a text for each directive that is done in one, and run each body. -/
theorem inTurn_positions {texts : List (String × Nat)} (all : (inTurn ctx polls found w).result = .ok texts) :
    let last := polls.filter (·.IsLast ctx.registry)
    texts.map (·.2) = last.map (·.position) ∧
      (inTurn ctx polls found w).ran = (last.filter (isCall ·.directive)).map (·.position) := by
  induction polls generalizing found w texts with
  | nil =>
    cases all
    exact ⟨rfl, rfl⟩
  | cons p rest ih =>
    cases ends : p.ends ctx w with
    | false =>
      rw [inTurn_of_waits ends] at all ⊢
      rw [List.filter_cons_of_neg (by simpa using Poll.not_isLast_of_waits ends)]
      exact ih all
    | true =>
      cases evaluated : evaluate ctx p.directive (found p.position) w with
      | mk part next =>
        cases part with
        | error e =>
          rw [inTurn_of_error ends evaluated] at all
          contradiction
        | ok text =>
          rw [inTurn_of_ok ends evaluated] at all ⊢
          rw [List.filter_cons_of_pos (by simpa using Poll.isLast_of_ok ends evaluated)]
          cases later : (inTurn ctx rest found next).result with
          | error e =>
            rw [later] at all
            contradiction
          | ok more =>
            rw [later] at all
            cases all
            obtain ⟨positions, ran⟩ := ih later
            refine ⟨by simp [positions], ?_⟩
            rw [runsBody_of_ok evaluated, ran]
            cases call : isCall p.directive <;> simp [call]

end Steps

section Idle

/-- Functions do nothing before their last poll: until then they change nothing, and take nothing from
what they find. -/
def Context.Idle (ctx : Context) : Prop :=
  ∀ name f, ctx.registry.get? name = some f → ∀ args seen store,
    f.wait ctx.scope args seen store = ⟨store, false⟩ ∧
    f.body ctx.scope args seen store = f.body ctx.scope args [] store

theorem evaluate_of_idle (idle : ctx.Idle) (d : Directive) (seen : List Store) (w : World) :
    evaluate ctx d seen w = evaluate ctx d [] w := by
  cases d with
  | text content => rfl
  | lookup key => rfl
  | call name args =>
    cases found : ctx.registry.get? name with
    | none => simp only [evaluate, Registry.function_of_absent found]; rfl
    | some f => simp only [evaluate, Registry.function_of_found found, (idle name f found args seen w.store).2]

theorem pause_of_idle (idle : ctx.Idle) (d : Directive) (seen : List Store) (w : World) :
    pause ctx d seen w = w := by
  cases d with
  | text content => rfl
  | lookup key => rfl
  | call name args =>
    cases found : ctx.registry.get? name with
    | none => simp [pause, Registry.function_of_absent found, PromptFunction.unknown, PromptFunction.pure,
        PromptFunction.after]
    | some f => simp [pause, Registry.function_of_found found, (idle name f found args seen w.store).1]

/-- If functions do nothing before their last poll, the other polls can be left out. -/
theorem inTurn_of_idle (idle : ctx.Idle) {ds : List Directive} {polls : List Poll}
    (schedule : Schedule ctx.registry ds polls) (found other : Seen) (w : World) :
    inTurn ctx polls found w = inTurn ctx (polls.filter (·.IsLast ctx.registry)) other w := by
  induction polls generalizing found w with
  | nil => rfl
  | cons p rest ih =>
    have same := fun found => ih schedule.tail found
    by_cases last : p.IsLast ctx.registry
    · have ends : p.ends ctx w = true := Poll.ends_iff.mpr (.inl last)
      have equal : evaluate ctx p.directive (found p.position) w =
          evaluate ctx p.directive (other p.position) w := by
        rw [evaluate_of_idle idle, evaluate_of_idle idle _ (other p.position)]
      rw [List.filter_cons_of_pos (by simpa using last)]
      cases evaluated : evaluate ctx p.directive (found p.position) w with
      | mk part next =>
        rw [evaluated] at equal
        cases part with
        | error e => rw [inTurn_of_error ends evaluated, inTurn_of_error ends equal.symm]
        | ok text => rw [inTurn_of_ok ends evaluated, inTurn_of_ok ends equal.symm, same]
    · rw [List.filter_cons_of_neg (by simpa using last)]
      cases ends : p.ends ctx w with
      | false => rw [inTurn_of_waits ends, pause_of_idle idle, same]
      | true =>
        -- a call that is cancelled while it waits: its last poll is still to come, and fails as well
        obtain ⟨call, cancelled⟩ := (Poll.ends_iff.mp ends).resolve_left last
        have waiting := schedule.mem_filter_of_waits last
        rw [inTurn_of_cancelled cancelled ⟨p, List.mem_cons_self, call⟩,
          inTurn_of_cancelled cancelled ⟨_, waiting, call⟩]

end Idle

end PromptKit.Render
