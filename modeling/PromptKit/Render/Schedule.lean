import PromptKit.Display
import PromptKit.Function.Registry
import PromptKit.Template.Directive

/-!
Evaluating the directives of a template. They are polled in rounds, in template order; a directive is
done in the first round, a function in the round its waiting ends, or, once the render is cancelled,
at its next poll, with an error. At the polls before that a function acts and goes on waiting. Up to
thirty directives, the first error ends the render; with more, an error waits until everything before
it is done.
-/
namespace PromptKit.Render

open Template

structure Context where
  registry : Registry
  tokenizer : Tokenizer
  clock : Clock

def Context.scope (ctx : Context) : Scope := ctx.registry.scope ctx.clock

structure World where
  store : Store
  cancelled : Bool

instance : Inhabited World := ⟨⟨default, false⟩⟩

abbrev Part := Except PromptError String

/-- The part of one directive, from what it found while it waited, and the world after it. A call runs
no body once the render is cancelled. -/
def evaluate (ctx : Context) (d : Directive) (seen : List Store) (w : World) : Part × World :=
  match d with
  | .text content => (.ok content, w)
  | .lookup key => (.ok (((w.store.memory.get? key).map (display ctx.tokenizer)).getD ""), w)
  | .call name args =>
    if w.cancelled then (.error .cancelled, w)
    else
      let outcome := (ctx.registry.function name).body ctx.scope args seen w.store
      (outcome.result.map (display ctx.tokenizer), ⟨outcome.store, outcome.cancels⟩)

def pause (ctx : Context) (d : Directive) (seen : List Store) (w : World) : World :=
  match d with
  | .call name args =>
    let pause := (ctx.registry.function name).wait ctx.scope args seen w.store
    ⟨pause.store, w.cancelled || pause.cancels⟩
  | _ => w

def isCall : Directive → Bool
  | .call .. => true
  | _ => false

/-- The round in which a directive is done, if the render is not cancelled before. -/
def finishRound (registry : Registry) : Directive → Nat
  | .call name args => (registry.function name).rounds args
  | _ => 0

structure Poll where
  round : Nat
  position : Nat
  directive : Directive

def roundPolls (registry : Registry) (ds : List Directive) (round : Nat) : List Poll :=
  ds.zipIdx.filterMap fun (d, i) =>
    if round ≤ finishRound registry d then some ⟨round, i, d⟩ else none

def lastRound (registry : Registry) (ds : List Directive) : Nat :=
  (ds.map (finishRound registry)).foldl max 0

def allPolls (registry : Registry) (ds : List Directive) : List Poll :=
  (List.range (lastRound registry ds + 1)).flatMap (roundPolls registry ds)

def Poll.ends (ctx : Context) (w : World) (p : Poll) : Bool :=
  p.round = finishRound ctx.registry p.directive || isCall p.directive && w.cancelled

/-- What each call found when it was polled, by position, the last poll first. -/
abbrev Seen := Nat → List Store

def Seen.empty : Seen := fun _ => []

def Seen.note (seen : Seen) (position : Nat) (store : Store) : Seen := fun i =>
  if i = position then store :: seen i else seen i

structure Progress where
  parts : List (Option Part)
  world : World
  seen : Seen
  /-- The positions of the calls whose bodies ran, the last one first. -/
  ran : List Nat

def Progress.start (ds : List Directive) (w : World) : Progress :=
  ⟨ds.map fun _ => none, w, .empty, []⟩

def Progress.isDone (s : Progress) (position : Nat) : Bool :=
  (s.parts[position]?.getD none).isSome

def Progress.finish (s : Progress) (ctx : Context) (p : Poll) : Progress :=
  let (part, world) := evaluate ctx p.directive (s.seen p.position) s.world
  let runs := isCall p.directive && !s.world.cancelled && ctx.registry.has (callee p.directive)
  { s with
    parts := s.parts.set p.position (some part)
    world
    ran := if runs then p.position :: s.ran else s.ran }
where
  callee : Directive → String
    | .call name _ => name
    | _ => ""

def Progress.wait (s : Progress) (ctx : Context) (p : Poll) : Progress :=
  { s with
    world := pause ctx p.directive (s.seen p.position) s.world
    seen := s.seen.note p.position s.world.store }

def Progress.poll (s : Progress) (ctx : Context) (p : Poll) : Progress :=
  if s.isDone p.position then s
  else if p.ends ctx s.world then s.finish ctx p
  else s.wait ctx p

def eagerLimit : Nat := 30

def anyError : List (Option Part) → Option PromptError
  | [] => none
  | some (.error e) :: _ => some e
  | _ :: rest => anyError rest

/-- The first error before which everything is done. -/
def frontError : List (Option Part) → Option PromptError
  | some (.ok _) :: rest => frontError rest
  | some (.error e) :: _ => some e
  | _ => none

def surfaced (parts : List (Option Part)) : Option PromptError :=
  if parts.length ≤ eagerLimit then anyError parts else frontError parts

def runPolls (ctx : Context) : List Poll → Progress → Progress
  | [], s => s
  | p :: rest, s =>
    let s := s.poll ctx p
    if (surfaced s.parts).isSome then s else runPolls ctx rest s

structure Run where
  result : Except PromptError (List String)
  world : World
  /-- The positions of the calls whose bodies ran, in the order in which they ran. -/
  ran : List Nat

def value? : Option Part → Option String
  | some (.ok text) => some text
  | _ => none

/-- Renders directives into parts, in template order. A render that is cancelled before it begins
polls nothing. -/
def run (ctx : Context) (ds : List Directive) (w : World) : Run :=
  if w.cancelled then ⟨.error .cancelled, w, []⟩
  else
    let s := runPolls ctx (allPolls ctx.registry ds) (Progress.start ds w)
    match surfaced s.parts with
    | some e => ⟨.error e, s.world, s.ran.reverse⟩
    | none => ⟨.ok (s.parts.filterMap value?), s.world, s.ran.reverse⟩

end PromptKit.Render
