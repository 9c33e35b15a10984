import PromptKit.Yaml.Plain

/-!
How a string is written in YAML: bare, between single or double quotes, or as a literal block. A
string that would read back as something else is quoted; one with a line feed is a block where that
is possible.
-/
namespace PromptKit.Yaml

inductive Form where
  | bare
  | single
  | double
  | literal
  deriving DecidableEq, Repr

structure Traits where
  multiline : Bool
  bareAllowed : Bool
  singleAllowed : Bool
  literalAllowed : Bool

def isIndicator (c : Char) : Bool :=
  [',', '[', ']', '\x7b', '\x7d', '#', '&', '*', '!', '|', '>', '\x27', '\x22', '%', '@',
    '\x60'].contains c

def marks (before : Option Char) (c : Char) (after : Option Char) : Bool :=
  let spaceAfter := after.all isSpaceLike
  match before with
  | none => isIndicator c || ((c = '?' || c = ':' || c = '-') && spaceAfter)
  | some b => (c = ':' && spaceAfter) || (c = '#' && isSpaceLike b)

def holdsMarkup (before : Option Char) : List Char → Bool
  | [] => false
  | c :: rest => marks before c rest.head? || holdsMarkup (some c) rest

def holdsPair (first second : Char → Bool) : List Char → Bool
  | a :: b :: rest => (first a && second b) || holdsPair first second (b :: rest)
  | _ => false

private def isSpaceChar (c : Char) : Bool := c = ' '

def Traits.ofText (cs : List Char) : Traits :=
  let edge (p : Char → Bool) : Bool := cs.head?.any p || cs.getLast?.any p
  let special := !cs.all isPrintable || holdsPair isSpaceChar isBreak cs
  let breakSpace := holdsPair isBreak isSpaceChar cs
  let multiline := cs.any isBreak
  let document := ['-', '-', '-'].isPrefixOf cs || ['.', '.', '.'].isPrefixOf cs
  { multiline
    bareAllowed := !(multiline || special || breakSpace || document || edge isSpaceChar ||
      edge isBreak || holdsMarkup none cs)
    singleAllowed := !(special || breakSpace)
    literalAllowed := !(special || cs.getLast?.any isSpaceChar || cs.isEmpty) }

def readsAsOther (s : String) : Bool :=
  match Plain.ofText s with
  | .text => zeroPadded s.toList
  | _ => true

def Form.ofText (s : String) : Form :=
  let traits := Traits.ofText s.toList
  let quoted := if traits.singleAllowed then Form.single else .double
  if s.toList.contains '\n' then if traits.literalAllowed then .literal else .double
  else if readsAsOther s then quoted
  else if traits.bareAllowed then .bare
  else quoted

private def spaces (n : Nat) : List Char := List.replicate n ' '

def blockBody (margin : Nat) (fresh : Bool) : List Char → List Char
  | [] => []
  | c :: rest =>
    if isBreak c then c :: blockBody margin true rest
    else if fresh then spaces margin ++ c :: blockBody margin false rest
    else c :: blockBody margin false rest

/-- What a block says about itself: its indentation, where the text would hide it, and what happens
to the breaks at its end. -/
def blockHeader (cs : List Char) : List Char :=
  let hint := if cs.head?.any (fun c => c = ' ' || isBreak c) then ['2'] else []
  let chomp :=
    match cs.reverse with
    | [] => ['-']
    | last :: before =>
      if !isBreak last then ['-']
      else if before.head?.all isBreak then ['+']
      else []
  '|' :: hint ++ chomp

/-- Text between single quotes: a quote is doubled, a line after a break begins at the margin. A
string in this form has no space after a break. -/
def singleBody (margin : Nat) (fresh : Bool) : List Char → List Char
  | [] => if fresh then spaces margin else []
  | c :: rest =>
    if isBreak c then c :: singleBody margin true rest
    else
      (if fresh then spaces margin else []) ++ (if c = '\x27' then ['\x27', '\x27'] else [c]) ++
        singleBody margin false rest

private def padded (width n : Nat) : List Char :=
  let digits := (Nat.toDigits 16 n).map Char.toUpper
  List.replicate (width - digits.length) '0' ++ digits

private def shortEscapes : List (Nat × Char) :=
  [(0, '0'), (7, 'a'), (8, 'b'), (9, 't'), (10, 'n'), (11, 'v'), (12, 'f'), (13, 'r'), (27, 'e'),
    (0x22, '\x22'), (0x5c, '\\'), (0x85, 'N'), (0xa0, '_'), (0x2028, 'L'), (0x2029, 'P')]

def escape (c : Char) : List Char :=
  if isPrintable c && !isBreak c && c ≠ '\x22' && c ≠ '\\' then [c]
  else
    match shortEscapes.lookup c.toNat with
    | some letter => ['\\', letter]
    | none =>
      if c.toNat ≤ 0xff then '\\' :: 'x' :: padded 2 c.toNat
      else if c.toNat ≤ 0xffff then '\\' :: 'u' :: padded 4 c.toNat
      else '\\' :: 'U' :: padded 8 c.toNat

def Form.write (form : Form) (margin : Nat) (s : String) : List Char :=
  let cs := s.toList
  match form with
  | .bare => cs
  | .single => '\x27' :: singleBody margin false cs ++ ['\x27']
  | .double => '\x22' :: cs.flatMap escape ++ ['\x22']
  | .literal => blockHeader cs ++ '\n' :: blockBody margin true cs

end PromptKit.Yaml
