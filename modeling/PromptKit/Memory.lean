import PromptKit.Error
import PromptKit.Json.Reader

/-!
Memory: the values that templates look up, under flat keys. A stored null is present.
-/
namespace PromptKit

open Json (Value)

structure Memory where
  values : Dict Value

namespace Memory

def empty : Memory := ⟨.empty⟩

instance : Inhabited Memory := ⟨empty⟩

def get? (m : Memory) (key : String) : Option Value := m.values.get? key

def has (m : Memory) (key : String) : Bool := m.values.has key

def set (m : Memory) (key : String) (value : Value) : Memory := ⟨m.values.insert key value⟩

def delete (m : Memory) (key : String) : Memory := ⟨m.values.erase key⟩

def keys (m : Memory) : List String := m.values.keys

def size (m : Memory) : Nat := m.values.size

def isEmpty (m : Memory) : Bool := m.values.isEmpty

def ofJson : Value → Except PromptError Memory
  | .object fields => .ok ⟨.ofList fields⟩
  | v => .error (.config ("Memory must be a JSON object, got " ++ v.kind) none)

def ofText (text : String) : Except PromptError Memory :=
  match Json.parse text with
  | .ok v => ofJson v
  | .error f => .error (.json f.text)

def toJson (m : Memory) : Value := .object m.values.entries

@[simp]
theorem get?_empty (key : String) : empty.get? key = none := Dict.get?_empty key

theorem get?_set (m : Memory) (key k : String) (value : Value) :
    (m.set k value).get? key = if k = key then some value else m.get? key := Dict.get?_insert ..

theorem get?_delete (m : Memory) (key k : String) :
    (m.delete k).get? key = if k = key then none else m.get? key := Dict.get?_erase ..

end Memory

end PromptKit
