import PromptKit.Decimal.Reader

/-!
The character classes of YAML, and what an unquoted scalar means: nothing, a truth value, a number, or
text.
-/
namespace PromptKit.Yaml

def isBreak (c : Char) : Bool :=
  c = '\n' || c = '\r' || c = '\x85' || c = '\u2028' || c = '\u2029'

def isBlank (c : Char) : Bool := c = ' ' || c = '\t'

def isSpaceLike (c : Char) : Bool := isBlank c || isBreak c || c = '\x00'

def isPrintable (c : Char) : Bool :=
  let n := c.toNat
  n = 10 || (0x20 ≤ n && n ≤ 0x7e) || (0xa0 ≤ n && n ≠ 0xfeff && n ≠ 0xfffe && n ≠ 0xffff)

inductive Plain where
  | null
  | bool (b : Bool)
  | whole (n : Int)
  | real (x : Float)
  | text

def nulls : List String := ["null", "Null", "NULL", "~"]
def trues : List String := ["true", "True", "TRUE"]
def falses : List String := ["false", "False", "FALSE"]

def bool? (s : String) : Option Bool :=
  if trues.contains s then some true else if falses.contains s then some false else none

private def unsign : List Char → List Char
  | '-' :: rest => rest
  | '+' :: rest => rest
  | cs => cs

private def unplus : List Char → List Char
  | '+' :: rest => rest
  | cs => cs

private def hasSign : List Char → Bool
  | '-' :: _ => true
  | '+' :: _ => true
  | _ => false

def zeroPadded (cs : List Char) : Bool :=
  match unsign cs with
  | '0' :: d :: rest => (d :: rest).all Decimal.isDigit
  | _ => false

private def based? : List Char → Option (Nat × List Char)
  | '0' :: 'x' :: rest => some (16, rest)
  | '0' :: 'o' :: rest => some (8, rest)
  | '0' :: 'b' :: rest => some (2, rest)
  | _ => none

def unsigned? (cs : List Char) : Option Nat :=
  let body := unplus cs
  let marked := (based? body).bind fun (base, digits) => Decimal.ofDigits? base digits
  match marked with
  | some n => some n
  | none => if hasSign body || zeroPadded cs then none else Decimal.ofDigits? 10 body

def negative? (cs : List Char) : Option Int :=
  match cs with
  | '-' :: body =>
    match (based? body).bind fun (base, digits) => Decimal.ofDigits? base digits with
    | some n => some (-(n : Int))
    | none => if zeroPadded cs then none else Decimal.ofSigned? 10 cs
  | _ => none

def real? (s : String) : Option Float :=
  let cs := s.toList
  let body := unplus cs
  if cs.length ≠ body.length && hasSign body then none
  else
    let word := String.ofList body
    if [".inf", ".Inf", ".INF"].contains word then some (1.0 / 0.0)
    else if ["-.inf", "-.Inf", "-.INF"].contains s then some (-1.0 / 0.0)
    else if [".nan", ".NaN", ".NAN"].contains s then some (0.0 / 0.0)
    else (Decimal.ofText? body).filter Float.isFinite

def greatLimit : Nat := 0x100000000000000000000000000000000

def deepLimit : Nat := 0x80000000000000000000000000000000

def whole? (cs : List Char) : Option Int :=
  match (unsigned? cs).filter (· < greatLimit) with
  | some n => some n
  | none => (negative? cs).filter (-(deepLimit : Int) ≤ ·)

def Plain.ofText (s : String) : Plain :=
  if s.isEmpty || nulls.contains s then .null
  else
    match bool? s with
    | some b => .bool b
    | none =>
      match whole? s.toList with
      | some n => .whole n
      | none =>
        if zeroPadded s.toList then .text
        else
          match real? s with
          | some x => .real x
          | none => .text

end PromptKit.Yaml
