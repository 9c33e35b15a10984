/-!
Classes of characters: one given by the ascending positions at which membership flips, and the white
space of Unicode, with trimming it from both ends of a text.
-/
namespace PromptKit.Text

/-- Whether an odd number of the ascending positions is at most `n`. -/
def flipped (positions : List Nat) (n : Nat) : Bool :=
  go false positions
where
  go (inside : Bool) : List Nat → Bool
    | [] => inside
    | p :: rest => if p ≤ n then go (!inside) rest else inside

def isBlank (c : Char) : Bool :=
  let n := c.toNat
  (9 ≤ n && n ≤ 13) || n = 0x20 || n = 0x85 || n = 0xa0 || n = 0x1680 ||
    (0x2000 ≤ n && n ≤ 0x200a) || n = 0x2028 || n = 0x2029 || n = 0x202f || n = 0x205f ||
    n = 0x3000

def trimChars (cs : List Char) : List Char :=
  ((cs.dropWhile isBlank).reverse.dropWhile isBlank).reverse

def trim (s : String) : String := String.ofList (trimChars s.toList)

end PromptKit.Text
