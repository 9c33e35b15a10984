import PromptKit.Yaml.Token.Property

/-!
Cutting a YAML text into tokens. A key on one line is only known for a key when its colon is read:
the place where it began is remembered, and the tokens in front of it are put in there.
-/
namespace PromptKit.Yaml

structure PossibleKey where
  /-- Whether the indentation leaves nothing else to be there. -/
  required : Bool
  /-- How many tokens are in front of it. -/
  position : Nat
  index : Nat
  line : Nat
  column : Nat

structure Scan where
  input : Input
  tokens : List Token
  /-- The column of the block around; -1 outside of any. -/
  indent : Int
  outer : List Int
  /-- The possible key of each open bracket, innermost first, and last that of the block. -/
  keys : List (Option PossibleKey)
  keyAllowed : Bool

namespace Scan

def start (text : String) : Scan :=
  let input : Input := { rest := text.toList }
  ⟨if input.at' 0 '\ufeff' then input.skip else input, [], -1, [], [none], true⟩

def inFlow (s : Scan) : Bool := 1 < s.keys.length

def emit (s : Scan) (t : Token) : Scan := { s with tokens := s.tokens ++ [t] }

def allow (s : Scan) (allowed : Bool) : Scan := { s with keyAllowed := allowed }

def possibleKey (s : Scan) : Option PossibleKey := s.keys.head?.join

def setKey (s : Scan) (k : Option PossibleKey) : Scan := { s with keys := k :: s.keys.drop 1 }

def keyLimit : Nat := 1024

def dropStale (s : Scan) : Option Scan := do
  let keys ← s.keys.mapM fun k =>
    match k with
    | none => some none
    | some k =>
      if k.line < s.input.line || k.index + keyLimit < s.input.index then
        if k.required then none else some none
      else some (some k)
  return { s with keys }

def dropKey (s : Scan) : Option Scan :=
  if s.possibleKey.any (·.required) then none else some (s.setKey none)

def markKey (s : Scan) : Option Scan :=
  if s.keyAllowed then do
    let s ← s.dropKey
    return s.setKey (some
      { required := !s.inFlow && s.indent = s.input.column
        position := s.tokens.length
        index := s.input.index
        line := s.input.line
        column := s.input.column })
  else some s

def unroll (column : Int) : List Int → Scan → Scan
  | outer, s =>
    if s.inFlow || s.indent ≤ column then s
    else
      match outer with
      | [] => { s.emit .blockEnd with indent := -1, outer := [] }
      | i :: rest => unroll column rest { s.emit .blockEnd with indent := i, outer := rest }

def roll (s : Scan) (column position : Nat) (t : Token) : Scan :=
  if s.inFlow || (column : Int) ≤ s.indent then s
  else
    { s with
      indent := column
      outer := s.indent :: s.outer
      tokens := s.tokens.take position ++ t :: s.tokens.drop position }

/-- Past blanks, comments and line breaks. A tab is no blank where a block could begin. -/
def skipGap : Nat → Scan → Scan
  | 0, s => s
  | fuel + 1, s =>
    let i := s.input
    if i.at' 0 ' ' || (i.at' 0 '\t' && (s.inFlow || !s.keyAllowed)) then
      skipGap fuel { s with input := i.skip }
    else if i.at' 0 '#' then skipGap fuel { s with input := i.skipLine }
    else if i.is 0 isBreak then
      skipGap fuel { s with input := i.takeBreak.2, keyAllowed := s.keyAllowed || !s.inFlow }
    else s

def take (s : Scan) (n : Nat) (t : Token) : Scan := { s.emit t with input := s.input.skipN n }

def took (s : Scan) : Token × Input → Scan
  | (t, i) => { s.emit t with input := i }

def openBlock (s : Scan) (t : Token) : Option Scan :=
  if s.inFlow then some s
  else if s.keyAllowed then some (s.roll s.input.column s.tokens.length t)
  else none

def fetchDocumentMark (s : Scan) (t : Token) : Option Scan := do
  let s ← (unroll (-1) s.outer s).dropKey
  return (s.allow false).take 3 t

def fetchBracket (s : Scan) (t : Token) : Option Scan := do
  let s ← s.markKey
  return ({ s with keys := none :: s.keys }.allow true).take 1 t

def fetchBracketEnd (s : Scan) (t : Token) : Option Scan := do
  let s ← s.dropKey
  let keys := if s.inFlow then s.keys.drop 1 else s.keys
  return ({ s with keys }.allow false).take 1 t

def fetchBlockEntry (s : Scan) : Option Scan := do
  let s ← (← s.openBlock .blockSequenceStart).dropKey
  return (s.allow true).take 1 .blockEntry

def fetchKey (s : Scan) : Option Scan := do
  let s ← (← s.openBlock .blockMappingStart).dropKey
  return (s.allow !s.inFlow).take 1 .key

def fetchValue (s : Scan) : Option Scan :=
  match s.possibleKey with
  | some k =>
    let s := { s with tokens := s.tokens.take k.position ++ Token.key :: s.tokens.drop k.position }
    let s := (s.roll k.column k.position .blockMappingStart).setKey none
    some ((s.allow false).take 1 .value)
  | none => do
    let s ← s.openBlock .blockMappingStart
    return (s.allow !s.inFlow).take 1 .value

def fetchPart (s : Scan) (read : Option (Token × Input)) : Option Scan := do
  let s ← s.markKey
  return (s.allow false).took (← read)

def fetchBlock (s : Scan) (fold : Bool) : Option Scan := do
  let s ← s.dropKey
  let (text, i) ← readBlock fold s.indent s.input.skip
  return (s.allow true).took (.scalar text (if fold then .folded else .literal), i)

def fetchQuoted (s : Scan) (single : Bool) : Option Scan :=
  let i := s.input.skip
  let read := readQuoted single (i.rest.length + 2) i []
  s.fetchPart (read.map fun (text, i) => (.scalar text .quoted, i))

def fetchPlain (s : Scan) : Option Scan := do
  let s ← s.markKey
  let (text, gap, i) ← readPlain s.inFlow (s.indent + 1) (s.input.rest.length + 1) s.input [] {}
  return (s.allow gap.broken).took (.scalar text .plain, i)

private def beginsPlain (s : Scan) (c : Char) : Bool :=
  !(isBlank c || isBreak c || "-?:,[]\x7b\x7d#&*!|>\x27\x22%@\x60".toList.contains c) ||
    (c = '-' && !s.input.is 1 isBlank) ||
    (!s.inFlow && (c = '?' || c = ':') && !s.input.gapAt 1)

def fetch (s : Scan) (c : Char) : Option Scan :=
  let i := s.input
  if i.column = 0 && c = '%' then do
    let s ← (unroll (-1) s.outer s).dropKey
    return (s.allow false).took (← readDirective i.skip)
  else if i.documentMark '-' then s.fetchDocumentMark .documentStart
  else if i.documentMark '.' then s.fetchDocumentMark .documentEnd
  else if c = '[' then s.fetchBracket .flowSequenceStart
  else if c = '\x7b' then s.fetchBracket .flowMappingStart
  else if c = ']' then s.fetchBracketEnd .flowSequenceEnd
  else if c = '\x7d' then s.fetchBracketEnd .flowMappingEnd
  else if c = ',' then do return ((← s.dropKey).allow true).take 1 .flowEntry
  else if c = '-' && i.gapAt 1 then s.fetchBlockEntry
  else if c = '?' && (s.inFlow || i.gapAt 1) then s.fetchKey
  else if c = ':' && (s.inFlow || i.gapAt 1) then s.fetchValue
  else if c = '*' then s.fetchPart ((readAnchor i.skip).map fun (name, i) => (.alias name, i))
  else if c = '&' then s.fetchPart ((readAnchor i.skip).map fun (name, i) => (.anchor name, i))
  else if c = '!' then s.fetchPart (readTag s.inFlow i)
  else if c = '|' && !s.inFlow then s.fetchBlock false
  else if c = '>' && !s.inFlow then s.fetchBlock true
  else if c = '\x27' then s.fetchQuoted true
  else if c = '\x22' then s.fetchQuoted false
  else if s.beginsPlain c then s.fetchPlain
  else none

def finish (s : Scan) : Option (List Token) := do
  let s ← (unroll (-1) s.outer s).dropKey
  return s.tokens

def run : Nat → Scan → Option (List Token)
  | 0, _ => none
  | fuel + 1, s => do
    let s := skipGap (s.input.rest.length + 1) s
    let s ← s.dropStale
    let s := unroll s.input.column s.outer s
    match s.input.ahead 0 with
    | none => s.finish
    | some c => run fuel (← s.fetch c)

end Scan

def isAllowed (c : Char) : Bool :=
  let n := c.toNat
  n = 9 || n = 10 || n = 13 || (0x20 ≤ n && n ≤ 0x7e) || n = 0x85 ||
    (0xa0 ≤ n && n ≠ 0xfffe && n ≠ 0xffff)

def Token.scan? (text : String) : Option (List Token) :=
  if text.toList.all isAllowed then Scan.run (text.length + 2) (Scan.start text) else none

end PromptKit.Yaml
