import PromptKit.Decimal.Binary64
import PromptKit.Json.Cursor
import PromptKit.Json.Value

/-!
Numbers in a JSON text. The digits are gathered in a 64-bit significand with a decimal exponent; a
whole number that fits 64 bits stays whole, everything else is the significand scaled by a power of
ten in double arithmetic.
-/
namespace PromptKit.Json

def digit? (ch : Char) : Option Nat :=
  if '0' ≤ ch && ch ≤ '9' then some (ch.toNat - 48) else none

def startsWithDigit : List Char → Bool
  | ch :: _ => (digit? ch).isSome
  | [] => false

/-- The digits read so far: `significand · 10 ^ exponent`. -/
structure Gathered where
  significand : Nat
  exponent : Int
  /-- Whether a digit before the point no longer fitted. -/
  long : Bool

/-- Digits before the point. One that does not fit, and all after it, only raise the exponent. -/
def Gathered.before (g : Gathered) (d : Nat) : Gathered :=
  if g.long then { g with exponent := g.exponent + 1 }
  else if g.significand * 10 + d < wordLimit then { g with significand := g.significand * 10 + d }
  else { g with exponent := g.exponent + 1, long := true }

def Gathered.after (g : Gathered) : List Nat → Gathered
  | [] => g
  | d :: rest =>
    if g.significand * 10 + d < wordLimit then
      Gathered.after { g with significand := g.significand * 10 + d, exponent := g.exponent - 1 } rest
    else g

def takeDigits (c : Cursor) : List Char → List Nat × Cursor
  | [] => ([], c)
  | ch :: rest =>
    match digit? ch with
    | some d =>
      let (more, after) := takeDigits c.next rest
      (d :: more, after)
    | none => ([], c)

private def powerOfTen (n : Nat) : Float := Float.ofScientific 1 false n

/-- Scales a double by a power of ten, dividing by `1e308` while the power is too small for a
double; a positive power too great for one is out of range. Three divisions make any word zero. -/
def scale (f : Float) (exponent : Int) : Nat → Option Float
  | 0 => some f
  | steps + 1 =>
    if exponent.natAbs ≤ 308 then
      if 0 ≤ exponent then
        let scaled := f * powerOfTen exponent.natAbs
        if scaled.isInf then none else some scaled
      else some (f / powerOfTen exponent.natAbs)
    else if f == 0 then some f
    else if 0 ≤ exponent then none
    else scale (f / powerOfTen 308) (exponent + 308) steps

def Gathered.real? (g : Gathered) (negative : Bool) : Option Float :=
  (scale (Float.ofNat g.significand) g.exponent 4).map fun f => if negative then -f else f

/-- A whole number that fits; a negative zero and a whole number below the words are doubles. -/
def Gathered.number (g : Gathered) (negative : Bool) : Number :=
  if !negative then .whole g.significand
  else if 0 < g.significand && g.significand ≤ signedLimit then .whole (-g.significand)
  else .real (-(Float.ofNat g.significand))

private def finish (g : Gathered) (negative : Bool) (c : Cursor) : Except Fault (Number × Cursor) :=
  match g.real? negative with
  | some f => .ok (.real f, c)
  | none => .error (c.here .numberOutOfRange)

private def exponentLimit : Nat := 0x80000000

/-- The exponent's value, or the cursor after the digit with which it grew too great. -/
def readExponent (e : Nat) (c : Cursor) : List Char → (Nat × Cursor) ⊕ Cursor
  | [] => .inl (e, c)
  | ch :: rest =>
    match digit? ch with
    | some d =>
      if e * 10 + d < exponentLimit then readExponent (e * 10 + d) c.next rest else .inr c.next
    | none => .inl (e, c)

def exponentPart (g : Gathered) (negative : Bool) (c : Cursor) : Except Fault (Number × Cursor) :=
  let (minus, c) :=
    match c.rest with
    | '+' :: _ => (false, c.next)
    | '-' :: _ => (true, c.next)
    | _ => (false, c)
  match c.rest with
  | [] => .error (c.here .valueCutShort)
  | ch :: _ =>
    if (digit? ch).isNone then .error (c.beyond .invalidNumber)
    else
      match readExponent 0 c c.rest with
      | .inl (e, c) =>
        finish { g with exponent := if minus then g.exponent - e else g.exponent + e } negative c
      | .inr c =>
        if g.significand ≠ 0 && !minus then .error (c.here .numberOutOfRange)
        else .ok (.real (if negative then -0.0 else 0.0), (takeDigits c c.rest).2)

private def opensExponent : List Char → Bool
  | 'e' :: _ => true
  | 'E' :: _ => true
  | _ => false

def fractionPart (g : Gathered) (negative : Bool) (c : Cursor) : Except Fault (Number × Cursor) :=
  let (digits, after) := takeDigits c c.rest
  if digits.isEmpty then
    .error (if c.rest.isEmpty then c.here .valueCutShort else c.beyond .invalidNumber)
  else
    let g := g.after digits
    if opensExponent after.rest then exponentPart g negative after.next
    else finish g negative after

def readMagnitude (negative : Bool) (c : Cursor) : Except Fault (Number × Cursor) :=
  match c.rest with
  | [] => .error (c.here .valueCutShort)
  | '0' :: rest =>
    if startsWithDigit rest then .error (c.next.beyond .invalidNumber) else wholePart c
  | ch :: _ => if (digit? ch).isSome then wholePart c else .error (c.beyond .invalidNumber)
where
  wholePart (c : Cursor) : Except Fault (Number × Cursor) :=
    let (digits, after) := takeDigits c c.rest
    let g := digits.foldl Gathered.before ⟨0, 0, false⟩
    match after.rest with
    | '.' :: _ => fractionPart g negative after.next
    | _ =>
      if opensExponent after.rest then exponentPart g negative after.next
      else if g.long then finish g negative after
      else .ok (g.number negative, after)

def readNumber (c : Cursor) : Except Fault (Number × Cursor) :=
  match c.rest with
  | '-' :: _ => readMagnitude true c.next
  | _ => readMagnitude false c

def skipNumber (c : Cursor) : Except Fault Cursor :=
  let c := match c.rest with
    | '-' :: _ => c.next
    | _ => c
  match c.rest with
  | '0' :: rest => if startsWithDigit rest then .error (c.next.beyond .invalidNumber) else tail c.next
  | _ =>
    if startsWithDigit c.rest then tail (takeDigits c c.rest).2 else .error (c.beyond .invalidNumber)
where
  power (c : Cursor) : Except Fault Cursor :=
    let c := match c.rest with
      | '+' :: _ => c.next
      | '-' :: _ => c.next
      | _ => c
    if startsWithDigit c.rest then .ok (takeDigits c c.rest).2 else .error (c.beyond .invalidNumber)
  tail (c : Cursor) : Except Fault Cursor :=
    match c.rest with
    | '.' :: _ =>
      let (digits, after) := takeDigits c.next c.next.rest
      if digits.isEmpty then .error (c.next.beyond .invalidNumber)
      else if opensExponent after.rest then power after.next
      else .ok after
    | _ => if opensExponent c.rest then power c.next else .ok c

end PromptKit.Json
