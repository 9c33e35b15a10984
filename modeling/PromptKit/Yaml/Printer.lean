import PromptKit.Json.Printer
import PromptKit.Yaml.Scalar

/-!
A JSON value as a YAML document in block form. Nested blocks are indented by two; a list under a key
is not indented.
-/
namespace PromptKit.Yaml

open Json (Value Number)

def numberStyle : Decimal.Style where
  least := -4
  greatest := 15
  signed := false
  notANumber := ".nan"
  infinity := ".inf"
  minusInfinity := "-.inf"

/-- The longest key, in bytes, that stands before its colon on one line. -/
def simpleKeyLimit : Nat := 128

private def margin (n : Nat) : List Char := List.replicate n ' '

def stack (indent : Nat) (above below : List Char) : List Char :=
  if above.getLast?.any isBreak then above ++ margin indent ++ below
  else above ++ '\n' :: margin indent ++ below

def stackAll (indent : Nat) : List (List Char) → List Char
  | [] => []
  | part :: parts => parts.foldl (stack indent) part

private def isSimpleKey (key : String) : Bool :=
  !(Traits.ofText key.toList).multiline && key.utf8ByteSize ≤ simpleKeyLimit

private def writeText (indent : Nat) (s : String) : List Char :=
  (Form.ofText s).write (indent + 2) s

mutual
def afterMark (indent : Nat) : Value → List Char
  | .null => "null".toList
  | .bool b => if b then "true".toList else "false".toList
  | .number (.whole n) => (toString n).toList
  | .number (.real x) => (numberStyle.write x).toList
  | .string s => writeText indent s
  | .array [] => ['[', ']']
  | .object [] => ['\x7b', '\x7d']
  | .array items => stackAll (indent + 2) (elements (indent + 2) items)
  | .object fields => stackAll (indent + 2) (entries (indent + 2) fields)

def underKey (indent : Nat) : Value → List Char
  | .array (item :: items) =>
    '\n' :: margin indent ++ stackAll indent (elements indent (item :: items))
  | .object (field :: fields) =>
    '\n' :: margin (indent + 2) ++ stackAll (indent + 2) (entries (indent + 2) (field :: fields))
  | v => ' ' :: afterMark indent v

def elements (indent : Nat) : List Value → List (List Char)
  | [] => []
  | item :: items => ('-' :: ' ' :: afterMark indent item) :: elements indent items

def entries (indent : Nat) : List (String × Value) → List (List Char)
  | [] => []
  | (key, value) :: fields =>
    (if isSimpleKey key then writeText indent key ++ ':' :: underKey indent value
      else
        stack indent ('?' :: ' ' :: writeText indent key) (':' :: ' ' :: afterMark indent value)) ::
      entries indent fields
end

private def root : Value → List Char
  | .array (item :: items) => stackAll 0 (elements 0 (item :: items))
  | .object (field :: fields) => stackAll 0 (entries 0 (field :: fields))
  | v => afterMark 0 v

def write (v : Value) : String :=
  let text := root v
  String.ofList (if text.getLast?.any isBreak then text else text ++ ['\n'])

end PromptKit.Yaml
