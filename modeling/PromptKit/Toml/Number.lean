import PromptKit.Decimal.Reader
import PromptKit.Toml.Value

/-!
Reading the numbers, dates and times of TOML. Single underscores may part the digits of a number.
-/
namespace PromptKit.Toml

open Decimal (isDigit)

private def moreDigits (p : Char → Bool) : List Char → Option (List Char × List Char)
  | '_' :: d :: rest =>
    if p d then (moreDigits p rest).map fun (digits, rest) => (d :: digits, rest) else none
  | ['_'] => none
  | d :: rest =>
    if p d then (moreDigits p rest).map fun (digits, rest) => (d :: digits, rest)
    else some ([], d :: rest)
  | [] => some ([], [])

def takeDigits (p : Char → Bool) : List Char → Option (List Char × List Char)
  | d :: rest =>
    if p d then (moreDigits p rest).map fun (digits, rest) => (d :: digits, rest) else none
  | [] => none

private def takeWhole : List Char → Option (List Char × List Char)
  | '0' :: rest => some (['0'], rest)
  | cs => takeDigits isDigit cs

private def takeFraction : List Char → Option (List Char × List Char)
  | '.' :: rest => (takeDigits isDigit rest).map fun (digits, rest) => ('.' :: digits, rest)
  | cs => some ([], cs)

private def takeExponent : List Char → Option (List Char × List Char)
  | c :: rest =>
    if c = 'e' || c = 'E' then
      match rest with
      | '-' :: rest => (takeDigits isDigit rest).map fun (digits, rest) => ('e' :: '-' :: digits, rest)
      | '+' :: rest => (takeDigits isDigit rest).map fun (digits, rest) => ('e' :: digits, rest)
      | _ => (takeDigits isDigit rest).map fun (digits, rest) => ('e' :: digits, rest)
    else some ([], c :: rest)
  | [] => some ([], [])

private def wholeValue? (n : Int) : Option Value :=
  if -(signedLimit : Int) ≤ n && n < signedLimit then some (.whole n) else none

private def readBased (base : Nat) (cs : List Char) : Option (Value × List Char) := do
  let (digits, rest) ← takeDigits (fun d => (Decimal.digit? base d).isSome) cs
  return (← wholeValue? (← Decimal.ofDigits? base digits), rest)

/-- Reads a decimal number, from after its sign. A double too great is refused, one too small not. -/
private def readUnsigned (negative : Bool) (cs : List Char) : Option (Value × List Char) :=
  match cs with
  | 'i' :: 'n' :: 'f' :: rest => some (.real (if negative then -1.0 / 0.0 else 1.0 / 0.0), rest)
  | 'n' :: 'a' :: 'n' :: rest => some (.real (0.0 / 0.0), rest)
  | _ => do
    let (whole, rest) ← takeWhole cs
    let (fraction, rest) ← takeFraction rest
    let (exponent, rest) ← takeExponent rest
    if fraction.isEmpty && exponent.isEmpty then
      let n := Decimal.digitsFrom 0 whole
      return (← wholeValue? (if negative then -(n : Int) else n), rest)
    else
      let x ← Decimal.ofUnsigned? negative (whole ++ fraction ++ exponent)
      if x.isInf && 0 < x then none else return (.real x, rest)

def readNumber : List Char → Option (Value × List Char)
  | '0' :: 'x' :: rest => readBased 16 rest
  | '0' :: 'o' :: rest => readBased 8 rest
  | '0' :: 'b' :: rest => readBased 2 rest
  | '+' :: rest => readUnsigned false rest
  | '-' :: rest => readUnsigned true rest
  | cs => readUnsigned false cs

private def takeField (width low high : Nat) (cs : List Char) : Option (Nat × List Char) :=
  let digits := cs.take width
  let n := Decimal.digitsFrom 0 digits
  if digits.length = width && digits.all isDigit && low ≤ n && n ≤ high then some (n, cs.drop width)
  else none

private def takeMark (mark : Char) : List Char → Option (List Char)
  | c :: rest => if c = mark then some rest else none
  | [] => none

def daysOfMonth (year month : Nat) : Nat :=
  if month = 2 then
    if year % 4 = 0 && (year % 100 ≠ 0 || year % 400 = 0) then 29 else 28
  else if [4, 6, 9, 11].contains month then 30
  else 31

def readDate (cs : List Char) : Option (List Char) := do
  let (year, cs) ← takeField 4 0 9999 cs
  let (month, cs) ← takeField 2 1 12 (← takeMark '-' cs)
  let (_, cs) ← takeField 2 1 (daysOfMonth year month) (← takeMark '-' cs)
  return cs

def readTime (cs : List Char) : Option (List Char) := do
  let (_, cs) ← takeField 2 0 23 cs
  let (_, cs) ← takeField 2 0 59 (← takeMark ':' cs)
  let (_, cs) ← takeField 2 0 60 (← takeMark ':' cs)
  match cs with
  | '.' :: d :: rest => if isDigit d then return rest.dropWhile isDigit else return cs
  | _ => return cs

def readOffset : List Char → Option (List Char)
  | 'Z' :: rest => some rest
  | 'z' :: rest => some rest
  | c :: rest =>
    if c = '+' || c = '-' then do
      let (_, cs) ← takeField 2 0 23 rest
      let (_, cs) ← takeField 2 0 59 (← takeMark ':' cs)
      return cs
    else some (c :: rest)
  | [] => some []

private def beginsDate (cs : List Char) : Bool :=
  (cs.take 4).all isDigit && (cs.drop 4).head? = some '-'

private def beginsTime (cs : List Char) : Bool :=
  (cs.take 2).all isDigit && (cs.drop 2).head? = some ':'

def readMoment (cs : List Char) : Option (List Char) := do
  let rest ← readDate cs
  match rest with
  | c :: time =>
    if (c = 'T' || c = 't' || c = ' ') && beginsTime time then readOffset (← readTime time)
    else return rest
  | [] => return rest

def readNumeric (cs : List Char) : Option (Value × List Char) :=
  if beginsDate cs then (readMoment cs).map (.moment, ·)
  else if beginsTime cs then (readTime cs).map (.moment, ·)
  else readNumber cs

end PromptKit.Toml
