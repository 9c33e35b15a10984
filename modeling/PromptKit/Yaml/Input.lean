import PromptKit.Yaml.Plain

/-!
A place in a YAML text: what is left to read, and how many characters, lines and columns are behind.
-/
namespace PromptKit.Yaml

structure Input where
  rest : List Char
  index : Nat := 0
  line : Nat := 0
  column : Nat := 0

namespace Input

def ahead (i : Input) (n : Nat) : Option Char := i.rest[n]?

def at' (i : Input) (n : Nat) (c : Char) : Bool := i.ahead n = some c

def is (i : Input) (n : Nat) (p : Char → Bool) : Bool := (i.ahead n).any p

def gapAt (i : Input) (n : Nat) : Bool := (i.ahead n).all fun c => isBlank c || isBreak c

def lineEnds (i : Input) : Bool := (i.ahead 0).all isBreak

def skip (i : Input) : Input :=
  { i with rest := i.rest.drop 1, index := i.index + 1, column := i.column + 1 }

def skipN (i : Input) : Nat → Input
  | 0 => i
  | n + 1 => i.skip.skipN n

def takeBreak (i : Input) : List Char × Input :=
  let after (n : Nat) : Input :=
    { rest := i.rest.drop n, index := i.index + n, line := i.line + 1, column := 0 }
  match i.rest with
  | '\r' :: '\n' :: _ => (['\n'], after 2)
  | c :: _ =>
    if c = '\n' || c = '\r' || c = '\x85' then (['\n'], after 1)
    else if isBreak c then ([c], after 1)
    else ([], i)
  | [] => ([], i)

def skipBlanks (i : Input) : Input := i.skipN (i.rest.takeWhile isBlank).length

def skipLine (i : Input) : Input := i.skipN (i.rest.takeWhile fun c => !isBreak c).length

def endLine? (i : Input) : Option Input :=
  let i := i.skipBlanks
  let i := if i.at' 0 '#' then i.skipLine else i
  if i.lineEnds then some i.takeBreak.2 else none

def documentMark (i : Input) (mark : Char) : Bool :=
  i.column = 0 && i.at' 0 mark && i.at' 1 mark && i.at' 2 mark && i.gapAt 3

def anyDocumentMark (i : Input) : Bool := i.documentMark '-' || i.documentMark '.'

end Input

end PromptKit.Yaml
