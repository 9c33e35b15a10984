import PromptKit.Shape
import PromptKit.Yaml.Node
import PromptKit.Yaml.Plain

/-!
Reading a YAML document into a shape. What a scalar may be is up to the shape: any scalar is a text,
and only an unquoted one, or a block that says so in its tag, is a truth value or a number.
-/
namespace PromptKit.Yaml

def boolTag : String := "tag:yaml.org,2002:bool"
def wholeTag : String := "tag:yaml.org,2002:int"
def realTag : String := "tag:yaml.org,2002:float"

namespace Node

def bareText? (expected : String) : Node → Option String
  | .scalar text .plain _ => some text
  | .scalar text .literal tag => if tag = some expected then some text else none
  | _ => none

def text? : Node → Option String
  | .scalar text .. => some text
  | _ => none

def isEmpty : Node → Bool
  | .scalar text .plain _ => text.isEmpty
  | _ => false

end Node

def word? (s : String) : Option Nat := (unsigned? s.toList).filter (· < wordLimit)

mutual
/-- Reads a node. A record may be a list of its fields in order, and unknown fields are passed over. -/
def readNodeAs (d : Document) : Shape → Node → Option Datum
  | .text, n => (d.resolve n).text?.map .text
  | .flag, n => ((d.resolve n).bareText? boolTag).bind fun s => (bool? s).map .flag
  | .word, n => ((d.resolve n).bareText? wholeTag).bind fun s => (word? s).map .word
  | .real, n => ((d.resolve n).bareText? realTag).bind fun s => (real? s).map .real
  | .list item, n =>
    match d.resolve n with
    | .list items => (items.mapM fun n => readNodeAs d item n).map .list
    | n => if n.isEmpty then some (.list []) else none
  | .record _ lenient fields, n =>
    match d.resolve n with
    | .list items =>
      if fields.length < items.length then none
      else
        let placed := items.map some ++ (fields.drop items.length).map fun _ => none
        (readFieldsAs d lenient fields placed).map .record
    | .mapping entries => do
      let keyed ← entries.mapM fun (k, v) => (d.resolve k).text?.map (·, v)
      if fields.any fun (name, _) => 1 < (keyed.filter (·.1 = name)).length then none
      else
        let named := fields.map fun (name, _) => keyed.lookup name
        (readFieldsAs d lenient fields named).map .record
    | n =>
      if !n.isEmpty then none
      else (readFieldsAs d lenient fields (fields.map fun _ => none)).map .record

def readFieldsAs (d : Document) (lenient : Bool) :
    List (String × Shape) → List (Option Node) → Option (List (Option Datum))
  | (_, s) :: fields, some n :: rest => do
    return some (← readNodeAs d s n) :: (← readFieldsAs d lenient fields rest)
  | _ :: fields, none :: rest =>
    if lenient then (readFieldsAs d lenient fields rest).map (none :: ·) else none
  | _, _ => some []
end

def parseShape? (s : Shape) (text : String) : Option Datum := do
  let d ← Document.ofText? text
  readNodeAs d s (d.root.getD .empty)

end PromptKit.Yaml
