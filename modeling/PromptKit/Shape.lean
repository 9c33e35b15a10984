import PromptKit.Json.Printer
import PromptKit.Text.Visible

/-!
Shapes that data is read into, whatever format it is written in, and the ways in which a JSON value
can fail to have a shape.
-/
namespace PromptKit

open Json (Value Number)

inductive Shape where
  | text
  | flag
  | real
  | word
  | list (item : Shape)
  /-- Named fields in order; fields of a lenient record may be absent. -/
  | record (name : String) (lenient : Bool) (fields : List (String × Shape))

inductive Datum where
  | text (s : String)
  | flag (b : Bool)
  | real (x : Float)
  | word (n : Nat)
  | list (items : List Datum)
  | record (fields : List (Option Datum))

namespace Datum

def textD (default : String) : Option Datum → String
  | some (.text s) => s
  | _ => default

def flagD (default : Bool) : Option Datum → Bool
  | some (.flag b) => b
  | _ => default

def realD (default : Float) : Option Datum → Float
  | some (.real x) => x
  | _ => default

def wordD (default : Nat) : Option Datum → Nat
  | some (.word n) => n
  | _ => default

def items : Option Datum → List Datum
  | some (.list items) => items
  | _ => []

def field (d : Datum) (index : Nat) : Option Datum :=
  match d with
  | .record fields => fields[index]?.getD none
  | _ => none

end Datum

def Shape.expected : Shape → String
  | .text => "a string"
  | .flag => "a boolean"
  | .real => "f64"
  | .word => "usize"
  | .list _ => "a sequence"
  | .record name _ _ => "struct " ++ name

inductive Found where
  | null
  | flag (b : Bool)
  | number (n : Number)
  | text (s : String)
  | list
  | record

def Found.description : Found → String
  | .null => "null"
  | .flag b => "boolean \x60" ++ (if b then "true" else "false") ++ "\x60"
  | .number (.whole n) => "integer \x60" ++ toString n ++ "\x60"
  | .number (.real x) => "floating point \x60" ++ (Number.real x).text ++ "\x60"
  | .text s => "string " ++ Text.shown s
  | .list => "sequence"
  | .record => "map"

inductive Misfit where
  | wrongType (found : Found) (shape : Shape)
  | wrongValue (found : Found) (shape : Shape)
  | tooShort (length : Nat) (name : String) (fields : Nat)
  | tooLong (length : Nat)
  | missing (field : String)
  | duplicate (field : String)

def Misfit.message : Misfit → String
  | .wrongType found shape =>
    "invalid type: " ++ found.description ++ ", expected " ++ shape.expected
  | .wrongValue found shape =>
    "invalid value: " ++ found.description ++ ", expected " ++ shape.expected
  | .tooShort length name fields =>
    "invalid length " ++ toString length ++ ", expected struct " ++ name ++ " with " ++
      toString fields ++ (if fields = 1 then " element" else " elements")
  | .tooLong length =>
    "invalid length " ++ toString length ++ ", expected fewer elements in array"
  | .missing field => "missing field \x60" ++ field ++ "\x60"
  | .duplicate field => "duplicate field \x60" ++ field ++ "\x60"

namespace Shape

def ofNumber (s : Shape) (n : Number) : Except Misfit Datum :=
  match s, n with
  | .real, .whole k => .ok (.real (if k < 0 then -(Float.ofNat k.natAbs) else Float.ofNat k.natAbs))
  | .real, .real x => .ok (.real x)
  | .word, .whole k =>
    if k < 0 then .error (.wrongValue (.number n) s) else .ok (.word k.natAbs)
  | _, _ => .error (.wrongType (.number n) s)

def complete (lenient : Bool) (found : List (String × Datum)) :
    List (String × Shape) → Except Misfit (List (Option Datum))
  | [] => .ok []
  | (name, _) :: rest =>
    match List.lookup name found with
    | none => if lenient then (complete lenient found rest).map (none :: ·) else .error (.missing name)
    | some d => (complete lenient found rest).map (some d :: ·)

def absent (lenient : Bool) (name : String) (count read : Nat) (rest : List (String × Shape)) :
    Except Misfit (List (Option Datum)) :=
  if rest.isEmpty || lenient then .ok (rest.map fun _ => none)
  else .error (.tooShort read name count)

mutual
/-- Reads a JSON value. A record may be an object, in which unknown fields are passed over, or a list
of its fields in order. -/
def ofValue (s : Shape) : Value → Except Misfit Datum
  | .null => .error (.wrongType .null s)
  | .bool b =>
    match s with
    | .flag => .ok (.flag b)
    | _ => .error (.wrongType (.flag b) s)
  | .number n => s.ofNumber n
  | .string t =>
    match s with
    | .text => .ok (.text t)
    | _ => .error (.wrongType (.text t) s)
  | .array items =>
    match s with
    | .list item => (listOfValues item items).map .list
    | .record name lenient fields =>
      (placedOfValues lenient name fields.length items.length 0 fields items).map .record
    | _ => .error (.wrongType .list s)
  | .object members =>
    match s with
    | .record _ lenient fields => do
      let found ← namedOfValues fields members
      return .record (← complete lenient found fields)
    | _ => .error (.wrongType .record s)

def listOfValues (item : Shape) : List Value → Except Misfit (List Datum)
  | [] => .ok []
  | v :: rest => do
    let d ← ofValue item v
    return d :: (← listOfValues item rest)

def placedOfValues (lenient : Bool) (name : String) (count length read : Nat)
    (fields : List (String × Shape)) : List Value → Except Misfit (List (Option Datum))
  | [] => absent lenient name count read fields
  | v :: rest =>
    match fields with
    | [] => .error (.tooLong length)
    | (_, shape) :: fields => do
      let d ← ofValue shape v
      return some d :: (← placedOfValues lenient name count length (read + 1) fields rest)

def namedOfValues (fields : List (String × Shape)) :
    List (String × Value) → Except Misfit (List (String × Datum))
  | [] => .ok []
  | (key, v) :: rest =>
    match List.lookup key fields with
    | none => namedOfValues fields rest
    | some shape => do
      let d ← ofValue shape v
      return (key, d) :: (← namedOfValues fields rest)
end

end Shape

end PromptKit
