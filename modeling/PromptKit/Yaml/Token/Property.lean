import PromptKit.Yaml.Input
import PromptKit.Yaml.Token.Basic
import PromptKit.Yaml.Token.Text
import PromptKit.Text.Utf8

/-!
Reading anchors, tags and the directives in front of a document.
-/
namespace PromptKit.Yaml

def isNameLetter (c : Char) : Bool :=
  ('0' ≤ c && c ≤ '9') || ('a' ≤ c && c ≤ 'z') || ('A' ≤ c && c ≤ 'Z') || c = '-' || c = '_'

def takeName (i : Input) : List Char × Input :=
  let name := i.rest.takeWhile isNameLetter
  (name, i.skipN name.length)

def readAnchor (i : Input) : Option (String × Input) :=
  let (name, i) := takeName i
  let closed := i.gapAt 0 || i.is 0 fun c => ['?', ':', ',', ']', '\x7d', '%', '@', '\x60'].contains c
  if name.isEmpty || !closed then none else some (String.ofList name, i)

private def readUriEscape (i : Input) : Option (Char × Input) := do
  let byte? (i : Input) : Option Nat :=
    if i.at' 0 '%' then
      let digits := (i.rest.drop 1).take 2
      if digits.length = 2 then Decimal.ofDigits? 16 digits else none
    else none
  let lead ← byte? i
  let width := if lead < 0x80 then 1 else if lead / 32 = 6 then 2 else if lead / 16 = 14 then 3
    else if lead / 8 = 30 then 4 else 0
  let bytes ← (List.range width).mapM fun k => byte? (i.skipN (3 * k))
  let c ← match Text.decode (bytes.map UInt8.ofNat) with
    | [some c] => some c
    | _ => none
  return (c, i.skipN (3 * width))

/-- Reads characters of a tag. Brackets and commas belong to it only between angle brackets. -/
def readUri (wide : Bool) : Nat → Input → List Char → Option (List Char × Input)
  | 0, i, held => some (held.reverse, i)
  | fuel + 1, i, held =>
    match i.ahead 0 with
    | none => some (held.reverse, i)
    | some c =>
      if c = '%' then
        match readUriEscape i with
        | some (d, i) => readUri wide fuel i (d :: held)
        | none => none
      else if isNameLetter c || ";/?:@&=+$.!~*()\x27".toList.contains c ||
          (wide && [',', '[', ']'].contains c) then
        readUri wide fuel i.skip (c :: held)
      else some (held.reverse, i)

def readHandle (inDirective : Bool) (i : Input) : Option (List Char × Input) :=
  if !i.at' 0 '!' then none
  else
    let (name, i) := takeName i.skip
    if i.at' 0 '!' then some ('!' :: name ++ ['!'], i.skip)
    else if inDirective && !name.isEmpty then none
    else some ('!' :: name, i)

private def readFullTag (i : Input) : Option (Token × Input) := do
  let (uri, i) ← readUri true (i.rest.length + 1) i []
  if uri.isEmpty || !i.at' 0 '>' then none
  else return (.tag "" (String.ofList uri), i.skip)

private def readShortTag (i : Input) : Option (Token × Input) := do
  let (handle, i) ← readHandle false i
  let (uri, i) ← readUri false (i.rest.length + 1) i []
  if 1 < handle.length && handle.getLast? = some '!' then
    if uri.isEmpty then none else return (.tag (String.ofList handle) (String.ofList uri), i)
  else
    let suffix := handle.drop 1 ++ uri
    return (if suffix.isEmpty then .tag "" "!" else .tag "!" (String.ofList suffix), i)

def readTag (inFlow : Bool) (i : Input) : Option (Token × Input) := do
  let (token, i) ← if i.at' 1 '<' then readFullTag (i.skipN 2) else readShortTag i
  if (inFlow && i.at' 0 ',') || i.gapAt 0 then return (token, i) else none

private def readNumber (i : Input) : Option (Nat × Input) :=
  let digits := i.rest.takeWhile fun c => '0' ≤ c && c ≤ '9'
  if digits.isEmpty || 9 < digits.length then none
  else some (digits.foldl (fun n c => 10 * n + (c.toNat - 48)) 0, i.skipN digits.length)

private def readVersion (i : Input) : Option (Token × Input) := do
  let (major, i) ← readNumber i
  if !i.at' 0 '.' then none
  else
    let (minor, i) ← readNumber i.skip
    return (.version major minor, i)

private def readShorthand (i : Input) : Option (Token × Input) := do
  let (handle, i) ← readHandle true i
  if !i.is 0 isBlank then none
  else
    let (uri, i) ← readUri true (i.rest.length + 1) i.skipBlanks []
    if uri.isEmpty || !i.gapAt 0 then none
    else return (.tagShorthand (String.ofList handle) (String.ofList uri), i)

def readDirective (i : Input) : Option (Token × Input) := do
  let (name, i) := takeName i
  if name.isEmpty || !i.gapAt 0 then none
  else
    let (token, i) ←
      if String.ofList name = "YAML" then readVersion i.skipBlanks
      else if String.ofList name = "TAG" then readShorthand i.skipBlanks
      else none
    return (token, ← i.endLine?)

end PromptKit.Yaml
