import PromptKit.Function.Clock
import PromptKit.Memory

/-!
Functions that templates call. A call waits for a number of polls and then runs the body of its function
once. At every poll it may change memory, count and ask for the render to be cancelled; it cannot take a
cancellation back.
-/
namespace PromptKit

open Json (Value)

structure Scope where
  knows : String → Bool
  clock : Clock

structure Store where
  memory : Memory
  calls : Nat → Nat

def Store.ofMemory (m : Memory) : Store := ⟨m, fun _ => 0⟩

instance : Inhabited Store := ⟨.ofMemory .empty⟩

def Store.count (s : Store) (counter : Nat) : Store :=
  { s with calls := fun n => if n = counter then s.calls n + 1 else s.calls n }

structure Pause where
  store : Store
  cancels : Bool

structure Outcome where
  result : Except PromptError Value
  store : Store
  cancels : Bool

/-- For its arguments, a function waits some rounds, and is done in the one after them. In each round it
knows the stores that it found in those before, the last one first: so it can go on with what it read. -/
structure PromptFunction where
  rounds : List String → Nat
  wait : Scope → List String → List Store → Store → Pause
  body : Scope → List String → List Store → Store → Outcome

namespace PromptFunction

def after (rounds : Nat) (body : Scope → List String → Store → Outcome) : PromptFunction where
  rounds _ := rounds
  wait _ _ _ store := ⟨store, false⟩
  body scope args _ := body scope args

def pure (f : Scope → List String → Memory → Except PromptError Value) : PromptFunction :=
  after 0 fun scope args store => ⟨f scope args store.memory, store, false⟩

def unknown (name : String) : PromptFunction := pure fun _ _ _ => .error (.unknownFunction name)

variable (f : PromptFunction) (scope : Scope) (args : List String)

/-- The polls that are left of a call, with nothing in between. -/
def callFrom : Nat → List Store → Store → Outcome
  | 0, seen, store => f.body scope args seen store
  | left + 1, seen, store =>
    let pause := f.wait scope args seen store
    let outcome := callFrom left (store :: seen) pause.store
    { outcome with cancels := pause.cancels || outcome.cancels }

def call (store : Store) : Outcome := f.callFrom scope args (f.rounds args) [] store

end PromptFunction

end PromptKit
