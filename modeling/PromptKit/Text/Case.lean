import PromptKit.Text.Case.Table

/-!
Upper and lower case by the full mappings of Unicode. Each character is mapped by itself, with one
exception: a capital sigma at the end of a word becomes the final small sigma.
-/
namespace PromptKit.Text

namespace Case

def Run.move? (r : Run) (n : Nat) : Option Nat :=
  if r.first ≤ n && n ≤ r.last && (n - r.first) % r.step = 0 then some ((n : Int) + r.shift).toNat
  else none

def image (runs : List Run) (expansions : List (Nat × List Nat)) (c : Char) : List Char :=
  match runs.findSome? (·.move? c.toNat) with
  | some n => [Char.ofNat n]
  | none =>
    match expansions.lookup c.toNat with
    | some ns => ns.map Char.ofNat
    | none => [c]

def upper (c : Char) : List Char := image upperRuns upperExpansions c

def lower (c : Char) : List Char := image lowerRuns lowerExpansions c

def isCased (c : Char) : Bool := flipped casedFlips c.toNat

def isIgnorable (c : Char) : Bool := flipped ignorableFlips c.toNat

def meetsCased (cs : List Char) : Bool :=
  match cs.dropWhile isIgnorable with
  | c :: _ => isCased c
  | [] => false

def capitalSigma : Char := 'Σ'

/-- The lower case of a text whose already lowered part was `before`, nearest character first. -/
def lowerAll (before : List Char) : List Char → List Char
  | [] => []
  | c :: rest =>
    let image :=
      if c = capitalSigma then
        if meetsCased before && !meetsCased rest then ['ς'] else ['σ']
      else lower c
    image ++ lowerAll (c :: before) rest

end Case

def toUpper (s : String) : String := String.ofList (s.toList.flatMap Case.upper)

def toLower (s : String) : String := String.ofList (Case.lowerAll [] s.toList)

def capitalize (s : String) : String :=
  match s.toList with
  | [] => ""
  | c :: rest => String.ofList (Case.upper c ++ rest)

end PromptKit.Text
