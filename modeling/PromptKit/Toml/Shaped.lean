import PromptKit.Shape
import PromptKit.Toml.Reader

/-!
Reading a TOML document into a shape. A whole number is also a real one; nothing else is taken for
what it is not, except that a date has fields, none of which any record knows.
-/
namespace PromptKit.Toml

def Value.items? : Value → Option (List Value)
  | .list items => some items
  | .rows tables => some (tables.map (.table .header))
  | _ => none

def Value.entries? : Value → Option Entries
  | .table _ entries => some entries
  | .moment => some []
  | _ => none

def realOfWhole (n : Int) : Float :=
  if n < 0 then -(Float.ofNat n.natAbs) else Float.ofNat n.natAbs

def Value.scalar? : Shape → Value → Option Datum
  | .text, .text s => some (.text s)
  | .flag, .flag b => some (.flag b)
  | .word, .whole n => if n < 0 then none else some (.word n.natAbs)
  | .real, .whole n => some (.real (realOfWhole n))
  | .real, .real x => some (.real x)
  | _, _ => none

mutual
/-- Reads a value. A record may be a list of its fields in order, after which anything may follow. -/
def readValueAs : Shape → Value → Option Datum
  | .list item, v => do
    let items ← v.items?
    return .list (← items.mapM fun v => readValueAs item v)
  | .record _ lenient fields, v =>
    match v.items? with
    | some items =>
      let placed := (items.take fields.length).map some ++ (fields.drop items.length).map fun _ => none
      (readFieldsAs lenient fields placed).map .record
    | none => do
      let entries ← v.entries?
      let named := fields.map fun (name, _) => List.lookup name entries
      return .record (← readFieldsAs lenient fields named)
  | s, v => v.scalar? s

def readFieldsAs (lenient : Bool) :
    List (String × Shape) → List (Option Value) → Option (List (Option Datum))
  | (_, s) :: fields, some v :: rest => do
    return some (← readValueAs s v) :: (← readFieldsAs lenient fields rest)
  | _ :: fields, none :: rest =>
    if lenient then (readFieldsAs lenient fields rest).map (none :: ·) else none
  | _, _ => some []
end

def parseShape? (s : Shape) (text : String) : Option Datum :=
  (Value.ofText? text).bind (readValueAs s)

end PromptKit.Toml
