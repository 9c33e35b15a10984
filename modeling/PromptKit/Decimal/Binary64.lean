/-!
Words of 64 bits: sums and products of whole numbers that have to fit one, and the double that a word
holds, as a sign, a whole mantissa and a power of two. Nothing is rounded here; infinities and
not-a-number have no such form.
-/
namespace PromptKit

def wordLimit : Nat := 0x10000000000000000

def signedLimit : Nat := 0x8000000000000000

def wordSum? (a b : Nat) : Option Nat := if a + b < wordLimit then some (a + b) else none

def wordProduct? (a b : Nat) : Option Nat := if a * b < wordLimit then some (a * b) else none

namespace Decimal

/-- The magnitude `mantissa · 2 ^ exponent` and its sign. -/
structure Dyadic where
  negative : Bool
  mantissa : Nat
  exponent : Int
  deriving DecidableEq, Repr

def hiddenBit : Nat := 0x10000000000000

def Dyadic.ofFloat? (x : Float) : Option Dyadic :=
  let bits : Nat := x.toBits.toNat
  let negative : Bool := signedLimit ≤ bits
  let biased : Nat := bits / hiddenBit % 2048
  let fraction : Nat := bits % hiddenBit
  if biased = 2047 then none
  else if biased = 0 then some ⟨negative, fraction, -1074⟩
  else some ⟨negative, hiddenBit + fraction, (biased : Int) - 1075⟩

/-- Whether the double below lies only half as far away as the one above. -/
def Dyadic.atBinade (d : Dyadic) : Bool :=
  d.mantissa = hiddenBit && d.exponent != -1074

def power (base : Nat) : Int → Nat × Nat
  | .ofNat n => (base.pow n, 1)
  | .negSucc n => (1, base.pow (n + 1))

end Decimal

end PromptKit
