import PromptKit.Decimal.Binary64

/-!
The fewest decimal digits that still read back as the same double. On each decimal grid, from the
coarsest down, only the two neighbours of the value can lie in the interval of numbers that round
to it; the first grid on which one does gives the digits.
-/
namespace PromptKit.Decimal

structure Scaled where
  digits : Nat
  exponent : Int
  deriving DecidableEq, Repr

private def neighbours (num den : Nat) : Nat × Nat × Ordering :=
  let below := num / den
  let twice := 2 * (num % den)
  (below, below + 1, compare twice den)

/-- A grid point of spacing `10 ^ e` whose double is the given one, if that grid has one. -/
def onGrid? (d : Dyadic) (e : Int) : Option Nat :=
  -- everything is measured in quarters of the last binary place, so that both ends are whole
  let (tenNum, tenDen) := power 10 e
  let (twoNum, twoDen) := power 2 (d.exponent - 2)
  let value := 4 * d.mantissa
  let low := value - (if d.atBinade then 1 else 2)
  let high := value + 2
  let unit := twoNum * tenDen
  let step := tenNum * twoDen
  let inside (k : Nat) : Bool :=
    let at' := k * step
    if d.mantissa % 2 = 0 then low * unit ≤ at' && at' ≤ high * unit
    else low * unit < at' && at' < high * unit
  let (below, above, nearer) := neighbours (value * unit) step
  match inside below, inside above with
  | false, false => none
  | true, false => some below
  | false, true => some above
  | true, true =>
    match nearer with
    | .lt => some below
    | .gt => some above
    | .eq => some (if below % 2 = 0 then below else above)

def coarsest (d : Dyadic) : Nat → Int → Scaled
  | 0, e => ⟨(onGrid? d e).getD 0, e⟩
  | tries + 1, e =>
    match onGrid? d e with
    | some k => ⟨k, e⟩
    | none => coarsest d tries (e - 1)

/-- The shortest decimal that reads back, the nearest one among those. -/
def shortest (d : Dyadic) : Scaled :=
  if d.mantissa = 0 then ⟨0, 0⟩
  else
    let top := ((Nat.log2 d.mantissa : Int) + 1 + d.exponent) * 30103 / 100000 + 1
    coarsest d 20 top

end PromptKit.Decimal
