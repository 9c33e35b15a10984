import PromptKit.Json.Value

/-!
Messages, and what rendering a part of a prompt came to.
-/
namespace PromptKit

open Json (Value)

structure Message where
  role : String
  content : String
  deriving DecidableEq, Repr

def Message.system (content : String) : Message := ⟨"system", content⟩

def Message.user (content : String) : Message := ⟨"user", content⟩

def Message.assistant (content : String) : Message := ⟨"assistant", content⟩

def Message.toJson (m : Message) : Value :=
  .object [("role", .string m.role), ("content", .string m.content)]

def messagesToJson (ms : List Message) : Value := .array (ms.map Message.toJson)

structure Rendered (α : Type) where
  output : α
  length : Nat
  tooLong : Bool
  deriving DecidableEq, Repr

end PromptKit
