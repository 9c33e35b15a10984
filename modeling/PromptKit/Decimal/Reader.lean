import PromptKit.Decimal.Binary64

/-!
Reading a decimal fraction as the nearest double.
-/
namespace PromptKit.Decimal

def isDigit (c : Char) : Bool := '0' ≤ c && c ≤ '9'

def digitsFrom (n : Nat) (digits : List Char) : Nat :=
  digits.foldl (fun n d => 10 * n + (d.toNat - 48)) n

def digit? (base : Nat) (c : Char) : Option Nat :=
  let d :=
    if '0' ≤ c && c ≤ '9' then c.toNat - 48
    else if 'a' ≤ c && c ≤ 'z' then c.toNat - 87
    else if 'A' ≤ c && c ≤ 'Z' then c.toNat - 55
    else base
  if d < base then some d else none

def ofDigits? (base : Nat) (digits : List Char) : Option Nat :=
  if digits.isEmpty then none
  else digits.foldlM (fun n c => (digit? base c).map (base * n + ·)) 0

def ofSigned? (base : Nat) : List Char → Option Int
  | '-' :: digits => (ofDigits? base digits).map fun n => -(n : Int)
  | '+' :: digits => (ofDigits? base digits).map Int.ofNat
  | digits => (ofDigits? base digits).map Int.ofNat

/-- The double nearest to `digits · 10 ^ exponent`; far beyond the range no power is computed. -/
def nearest (negative : Bool) (digits : Nat) (exponent : Int) : Float :=
  let size := (Nat.toDigits 10 digits).length
  let magnitude :=
    if digits = 0 || exponent + size < -400 then 0.0
    else if 400 < exponent + size then 1.0 / 0.0
    else Float.ofScientific digits (exponent < 0) exponent.natAbs
  if negative then -magnitude else magnitude

def exponent? : List Char → Option Int
  | [] => some 0
  | c :: rest => if c = 'e' || c = 'E' then ofSigned? 10 rest else none

def ofUnsigned? (negative : Bool) (cs : List Char) : Option Float :=
  let whole := cs.takeWhile isDigit
  let rest := cs.dropWhile isDigit
  let (fraction, rest) :=
    match rest with
    | '.' :: rest => (rest.takeWhile isDigit, rest.dropWhile isDigit)
    | _ => ([], rest)
  if whole.isEmpty && fraction.isEmpty then none
  else (exponent? rest).map fun e =>
    nearest negative (digitsFrom (digitsFrom 0 whole) fraction) (e - fraction.length)

def ofText? : List Char → Option Float
  | '-' :: rest => ofUnsigned? true rest
  | '+' :: rest => ofUnsigned? false rest
  | rest => ofUnsigned? false rest

end PromptKit.Decimal
