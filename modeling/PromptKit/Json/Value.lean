import PromptKit.Dict

/-!
JSON values. A number is a whole number or a double, and the two never compare equal: `1` and `1.0`
are different values and print differently. The fields of an object are a list; an object that was
read has them in ascending order, one entry a key.
-/
namespace PromptKit.Json

inductive Number where
  | whole (n : Int)
  | real (x : Float)

inductive Value where
  | null
  | bool (b : Bool)
  | number (n : Number)
  | string (s : String)
  | array (items : List Value)
  | object (fields : List (String × Value))

instance : Inhabited Value := ⟨.null⟩

def Value.ofFields (fields : List (String × Value)) : Value :=
  .object (Dict.ofList fields).entries

def Value.nat (n : Nat) : Value := .number (.whole n)

def Value.kind : Value → String
  | .null => "null"
  | .bool _ => "a boolean"
  | .number _ => "a number"
  | .string _ => "a string"
  | .array _ => "an array"
  | .object _ => "an object"

end PromptKit.Json
