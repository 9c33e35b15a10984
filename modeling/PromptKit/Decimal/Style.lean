import PromptKit.Decimal.Shortest

/-!
How a double is written: which magnitudes stand in positional form, and how an exponent looks.
Each format owns one `Style`.
-/
namespace PromptKit.Decimal

structure Style where
  /-- The least exponent of the leading digit that is written in positional form. -/
  least : Int
  greatest : Int
  /-- Whether a positive exponent carries its sign. -/
  signed : Bool
  notANumber : String
  infinity : String
  minusInfinity : String

private def zeros (n : Nat) : String :=
  String.ofList (List.replicate n '0')

/-- Digits with a point after the first `point` of them; a whole number ends in `.0`. -/
def positional (digits : String) (point : Int) : String :=
  let count : Int := digits.length
  if count ≤ point then digits ++ zeros (point - count).toNat ++ ".0"
  else if 0 < point then
    (digits.take point.toNat).toString ++ "." ++ (digits.drop point.toNat).toString
  else "0." ++ zeros (-point).toNat ++ digits

def Style.scientific (s : Style) (digits : String) (exponent : Int) : String :=
  let mantissa :=
    if digits.length ≤ 1 then digits
    else (digits.take 1).toString ++ "." ++ (digits.drop 1).toString
  let sign := if s.signed && 0 ≤ exponent then "+" else ""
  mantissa ++ "e" ++ sign ++ toString exponent

def Style.write (s : Style) (x : Float) : String :=
  match Dyadic.ofFloat? x with
  | none => if x.isNaN then s.notANumber else if x < 0 then s.minusInfinity else s.infinity
  | some d =>
    let sign := if d.negative then "-" else ""
    let short := shortest d
    let digits := toString short.digits
    let exponent := short.exponent + digits.length - 1
    sign ++
      if short.digits = 0 then "0.0"
      else if s.least ≤ exponent && exponent ≤ s.greatest then positional digits (exponent + 1)
      else s.scientific digits exponent

end PromptKit.Decimal
