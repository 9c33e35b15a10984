import PromptKit.Decimal.Reader
import PromptKit.Yaml.Input
import PromptKit.Yaml.Token.Basic

/-!
Reading scalars: plain, quoted and in blocks. A single line break inside a plain or quoted scalar is
a space; more of them stay, one fewer. The fuel is the number of characters left: every step reads at
least one.
-/
namespace PromptKit.Yaml

structure Gap where
  broken : Bool := false
  blanks : List Char := []
  first : List Char := []
  later : List Char := []

def Gap.text (g : Gap) : List Char :=
  if g.broken then
    if g.first.head? = some '\n' then (if g.later.isEmpty then [' '] else g.later)
    else g.first ++ g.later
  else g.blanks

def readGap (limit : Int) : Nat → Input → Gap → Option (Gap × Input)
  | 0, i, g => some (g, i)
  | fuel + 1, i, g =>
    match i.ahead 0 with
    | none => some (g, i)
    | some c =>
      if isBlank c then
        if g.broken && (i.column : Int) < limit && c = '\t' then none
        else readGap limit fuel i.skip (if g.broken then g else { g with blanks := g.blanks ++ [c] })
      else if isBreak c then
        let (b, i) := i.takeBreak
        if g.broken then readGap limit fuel i { g with later := g.later ++ b }
        else readGap limit fuel i { g with broken := true, blanks := [], first := b }
      else some (g, i)

private def flowMark (c : Char) : Bool :=
  c = ',' || c = '[' || c = ']' || c = '\x7b' || c = '\x7d'

/-- Reads characters of a plain scalar up to a blank, a break or a mark that ends it. Inside brackets
a colon right before another mark is refused. -/
def plainRun (inFlow : Bool) : Nat → Input → List Char → Option (List Char × Input)
  | 0, i, held => some (held, i)
  | fuel + 1, i, held =>
    match i.ahead 0 with
    | none => some (held, i)
    | some c =>
      if isBlank c || isBreak c then some (held, i)
      else if inFlow && c = ':' && i.is 1 (fun d => flowMark d || d = '?') then none
      else if (c = ':' && i.gapAt 1) || (inFlow && flowMark c) then some (held, i)
      else plainRun inFlow fuel i.skip (c :: held)

/-- Reads a plain scalar whose later lines stand at `indent` or to the right of it. The last gap says
whether a break was read after the text. -/
def readPlain (inFlow : Bool) (indent : Int) : Nat → Input → List Char → Gap →
    Option (String × Gap × Input)
  | 0, i, held, g => some (String.ofList held.reverse, g, i)
  | fuel + 1, i, held, g =>
    let done : Option (String × Gap × Input) := some (String.ofList held.reverse, g, i)
    if i.anyDocumentMark || i.at' 0 '#' then done
    else do
      let (run, i) ← plainRun inFlow (i.rest.length + 1) i []
      let (held, g) := if run.isEmpty then (held, g) else (run ++ g.text.reverse ++ held, {})
      if i.is 0 fun c => isBlank c || isBreak c then
        let (g, i) ← readGap indent (i.rest.length + 1) i {}
        if !inFlow && (i.column : Int) < indent then return (String.ofList held.reverse, g, i)
        else readPlain inFlow indent fuel i held g
      else return (String.ofList held.reverse, g, i)

def escaped? (c : Char) : Option Char :=
  [('0', '\x00'), ('a', '\x07'), ('b', '\x08'), ('t', '\t'), ('\t', '\t'), ('n', '\n'), ('v', '\x0b'),
    ('f', '\x0c'), ('r', '\r'), ('e', '\x1b'), (' ', ' '), ('\x22', '\x22'), ('/', '/'), ('\\', '\\'),
    ('N', '\x85'), ('_', '\xa0'), ('L', '\u2028'), ('P', '\u2029')].lookup c

def readEscape (i : Input) : Option (Char × Input) := do
  let c ← i.ahead 0
  let width := if c = 'x' then 2 else if c = 'u' then 4 else if c = 'U' then 8 else 0
  if width = 0 then return (← escaped? c, i.skip)
  else
    let digits := (i.rest.drop 1).take width
    if digits.length < width then none
    else
      let n ← Decimal.ofDigits? 16 digits
      if (0xD800 ≤ n && n ≤ 0xDFFF) || 0x10FFFF < n then none
      else return (Char.ofNat n, i.skipN (width + 1))

/-- Reads characters of a quoted scalar up to a blank, a break or its quote. The flag says that the
run ended in an escaped break. -/
def quotedRun (single : Bool) : Nat → Input → List Char → Option (List Char × Bool × Input)
  | 0, _, _ => none
  | fuel + 1, i, held =>
    match i.ahead 0 with
    | none => some (held, false, i)
    | some c =>
      if isBlank c || isBreak c then some (held, false, i)
      else if single then
        if c = '\x27' then
          if i.at' 1 '\x27' then quotedRun single fuel (i.skipN 2) (c :: held)
          else some (held, false, i)
        else quotedRun single fuel i.skip (c :: held)
      else if c = '\x22' then some (held, false, i)
      else if c = '\\' then
        if i.is 1 isBreak then some (held, true, i.skip.takeBreak.2)
        else
          match readEscape i.skip with
          | some (e, i) => quotedRun single fuel i (e :: held)
          | none => none
      else quotedRun single fuel i.skip (c :: held)

def readQuoted (single : Bool) : Nat → Input → List Char → Option (String × Input)
  | 0, _, _ => none
  | fuel + 1, i, held =>
    if i.anyDocumentMark || i.rest.isEmpty then none
    else do
      let (held, escapedBreak, i) ← quotedRun single (i.rest.length + 1) i held
      if i.at' 0 (if single then '\x27' else '\x22') then
        return (String.ofList held.reverse, i.skip)
      else
        let (g, i) ← readGap 0 (i.rest.length + 1) i { broken := escapedBreak }
        readQuoted single fuel i (g.text.reverse ++ held)

inductive Chomp where
  | strip
  | clip
  | keep
  deriving DecidableEq, Repr

def readHeader (i : Input) : Option (Chomp × Nat × Input) := do
  let chomp? (i : Input) : Option (Chomp × Input) :=
    if i.at' 0 '+' then some (.keep, i.skip)
    else if i.at' 0 '-' then some (.strip, i.skip)
    else none
  let width? (i : Input) : Option (Nat × Input) :=
    match i.ahead 0 with
    | some c =>
      if c = '0' then none
      else if '1' ≤ c && c ≤ '9' then some (c.toNat - 48, i.skip)
      else some (0, i)
    | none => some (0, i)
  match chomp? i with
  | some (chomp, i) =>
    let (width, i) ← width? i
    return (chomp, width, ← i.endLine?)
  | none =>
    let (width, i) ← width? i
    let (chomp, i) := if width = 0 then (.clip, i) else (chomp? i).getD (.clip, i)
    return (chomp, width, ← i.endLine?)

def skipIndent (indent : Nat) : Nat → Input → Input
  | 0, i => i
  | fuel + 1, i =>
    if (indent = 0 || i.column < indent) && i.at' 0 ' ' then skipIndent indent fuel i.skip else i

def blockBreaks (indent : Nat) : Nat → Input → Nat → List Char → Option (Nat × List Char × Input)
  | 0, i, widest, held => some (widest, held, i)
  | fuel + 1, i, widest, held =>
    let i := skipIndent indent (i.rest.length + 1) i
    let widest := max widest i.column
    if (indent = 0 || i.column < indent) && i.at' 0 '\t' then none
    else if i.is 0 isBreak then
      let (b, i) := i.takeBreak
      blockBreaks indent fuel i widest (held ++ b)
    else some (widest, held, i)

/-- The lines of a block scalar that stand at the indentation. `first` is the break before this line
and `later` the empty lines after that; `inset` says that the line before began with a blank. -/
def blockLines (fold : Bool) (indent : Nat) : Nat → Input → List Char → List Char → List Char → Bool →
    Option (List Char × List Char × List Char × Input)
  | 0, i, held, first, later, _ => some (held, first, later, i)
  | fuel + 1, i, held, first, later, inset =>
    if i.column ≠ indent || i.rest.isEmpty then some (held, first, later, i)
    else do
      let insetHere := i.is 0 isBlank
      let joint :=
        if fold && first.head? = some '\n' && !inset && !insetHere then
          if later.isEmpty then [' '] else later
        else first ++ later
      let line := i.rest.takeWhile fun c => !isBreak c
      let (first, i) := i.skipLine.takeBreak
      let (_, later, i) ← blockBreaks indent (i.rest.length + 1) i 0 []
      blockLines fold indent fuel i (line.reverse ++ joint.reverse ++ held) first later insetHere

def readBlock (fold : Bool) (outer : Int) (i : Input) : Option (String × Input) := do
  let (chomp, width, i) ← readHeader i
  let fixed := if width = 0 then 0 else if 0 ≤ outer then outer.toNat + width else width
  let (widest, later, i) ← blockBreaks fixed (i.rest.length + 1) i 0 []
  let indent := if fixed = 0 then max (max widest (outer + 1).toNat) 1 else fixed
  let (held, first, later, i) ← blockLines fold indent (i.rest.length + 1) i [] [] later false
  let tail :=
    match chomp with
    | .strip => []
    | .clip => first
    | .keep => first ++ later
  return (String.ofList (held.reverse ++ tail), i)

end PromptKit.Yaml
