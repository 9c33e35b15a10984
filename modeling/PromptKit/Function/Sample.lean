import PromptKit.Function.Basic

/-!
Small functions whose effects can be seen: they echo, fail, count their calls, change memory or
cancel the render.
-/
namespace PromptKit

open Json (Value)

inductive Sample where
  | echo
  | list
  | const (value : Value)
  | fail (name message : String)
  | counter (id : Nat)
  | set
  | delete
  | has
  | knows
  | cancel

namespace Sample

private def first (args : List String) : String := args[0]?.getD ""

private def second (args : List String) : String := args[1]?.getD ""

def body (s : Sample) (scope : Scope) (args : List String) (store : Store) : Outcome :=
  let done (v : Value) : Outcome := ⟨.ok v, store, false⟩
  match s with
  | echo => done (.string ("|".intercalate args))
  | list => done (.array (args.map .string))
  | const value => done value
  | fail name message => ⟨.error (.functionFailed name message), store, false⟩
  | counter id => ⟨.ok (.nat (store.calls id + 1)), store.count id, false⟩
  | set =>
    ⟨.ok .null, { store with memory := store.memory.set (first args) (.string (second args)) }, false⟩
  | delete => ⟨.ok .null, { store with memory := store.memory.delete (first args) }, false⟩
  | has => done (.bool (store.memory.has (first args)))
  | knows => done (.bool (scope.knows (first args)))
  | cancel => ⟨.ok (.string "cancelled"), store, true⟩

def function (s : Sample) (rounds : Nat) : PromptFunction := .after rounds s.body

end Sample

end PromptKit
