import PromptKit.Toml.Number
import PromptKit.Toml.Text

/-!
Reading a TOML document line by line. The fuel of a reader is the number of characters left: every
step reads at least one.
-/
namespace PromptKit.Toml

def skipBlanks (cs : List Char) : List Char := cs.dropWhile isBlank

def skipComment : List Char → List Char
  | '#' :: rest => rest.dropWhile isTextLetter
  | cs => cs

def endLine? (cs : List Char) : Option (List Char) :=
  let cs := skipComment (skipBlanks cs)
  if cs.isEmpty then some [] else breakNext? cs

def skipGap : Nat → List Char → Option (List Char)
  | 0, cs => some cs
  | fuel + 1, cs =>
    let cs := skipBlanks cs
    match cs with
    | '#' :: _ => (breakNext? (skipComment cs)).bind (skipGap fuel)
    | '\n' :: rest => skipGap fuel rest
    | '\r' :: _ => (breakNext? cs).bind (skipGap fuel)
    | _ => some cs

def isKeyLetter (c : Char) : Bool :=
  ('0' ≤ c && c ≤ '9') || ('a' ≤ c && c ≤ 'z') || ('A' ≤ c && c ≤ 'Z') || c = '-' || c = '_'

def readKeyPart (cs : List Char) : Option (String × List Char) :=
  match cs with
  | '\x22' :: rest => done (readBasic (rest.length + 1) rest)
  | '\x27' :: rest => done (readLiteral rest)
  | _ =>
    let part := cs.takeWhile isKeyLetter
    if part.isEmpty then none else some (String.ofList part, cs.drop part.length)
where
  done (r : Option (List Char × List Char)) : Option (String × List Char) :=
    r.map fun (part, rest) => (String.ofList part, rest)

/-- More parts than this make no key, and values may not be nested this deep. -/
def depthLimit : Nat := 80

/-- Reads a key of so many parts at most, with the blanks around its parts: all but the last, the
last, and what is after it. -/
def readKey : Nat → List Char → Option (List String × String × List Char)
  | 0, _ => none
  | parts + 1, cs => do
    let (part, cs) ← readKeyPart (skipBlanks cs)
    match skipBlanks cs with
    | '.' :: rest => do
      let (path, key, rest) ← readKey parts rest
      return (part :: path, key, rest)
    | cs => return ([], part, cs)

def keyParts : Nat := depthLimit - 1

mutual
def readValue : Nat → Nat → List Char → Option (Value × List Char)
  | 0, _, _ => none
  | fuel + 1, depth, cs =>
    match cs with
    | '[' :: rest => do
      if depth ≤ 1 then none
      let (items, rest) ← readItems fuel (depth - 1) rest
      return (.list items, rest)
    | '\x7b' :: rest => do
      if depth ≤ 1 then none
      let (entries, rest) ← readEntries fuel (depth - 1) true rest
      return (← inlineTable entries, rest)
    | 't' :: 'r' :: 'u' :: 'e' :: rest => some (.flag true, rest)
    | 'f' :: 'a' :: 'l' :: 's' :: 'e' :: rest => some (.flag false, rest)
    | c :: _ =>
      if c = '\x22' || c = '\x27' then (readText cs).map fun (s, rest) => (.text s, rest)
      else readNumeric cs
    | [] => none

def readItems : Nat → Nat → List Char → Option (List Value × List Char)
  | 0, _, _ => none
  | fuel + 1, depth, cs => do
    let cs ← skipGap (cs.length + 1) cs
    match cs with
    | ']' :: rest => return ([], rest)
    | _ =>
      let (v, cs) ← readValue fuel depth cs
      let cs ← skipGap (cs.length + 1) cs
      match cs with
      | ']' :: rest => return ([v], rest)
      | ',' :: rest => do
        let (items, rest) ← readItems fuel depth rest
        return (v :: items, rest)
      | _ => none

def readEntries : Nat → Nat → Bool → List Char →
    Option (List (List String × String × Value) × List Char)
  | 0, _, _, _ => none
  | fuel + 1, depth, first, cs => do
    match skipBlanks cs, first with
    | '\x7d' :: rest, true => return ([], rest)
    | cs, _ =>
      let (path, key, v, cs) ← readEntry fuel depth cs
      match skipBlanks cs with
      | '\x7d' :: rest => return ([(path, key, v)], rest)
      | ',' :: rest => do
        let (entries, rest) ← readEntries fuel depth false rest
        return ((path, key, v) :: entries, rest)
      | _ => none

def readEntry : Nat → Nat → List Char → Option (List String × String × Value × List Char)
  | 0, _, _ => none
  | fuel + 1, depth, cs => do
    let (path, key, cs) ← readKey keyParts cs
    match cs with
    | '=' :: rest => do
      let (v, rest) ← readValue fuel depth (skipBlanks rest)
      return (path, key, v, rest)
    | _ => none
end

private def readHeader (closing : List Char) (cs : List Char) :
    Option (List String × String × List Char) := do
  let (path, key, cs) ← readKey keyParts cs
  if closing.isPrefixOf cs then return (path, key, ← endLine? (cs.drop closing.length)) else none

def readStatements : Nat → List Char → Option (List Statement)
  | 0, _ => none
  | fuel + 1, cs =>
    match skipBlanks cs with
    | [] => some []
    | '[' :: '[' :: rest => do
      let (path, key, rest) ← readHeader [']', ']'] rest
      return .rowHeader path key :: (← readStatements fuel rest)
    | '[' :: rest => do
      let (path, key, rest) ← readHeader [']'] rest
      return .header path key :: (← readStatements fuel rest)
    | c :: rest =>
      if c = '#' || c = '\n' || c = '\r' then (endLine? (c :: rest)).bind (readStatements fuel)
      else do
        let (path, key, v, rest) ← readEntry (2 * rest.length + 4) depthLimit (c :: rest)
        return .entry path key v :: (← readStatements fuel (← endLine? rest))

def Value.ofText? (text : String) : Option Value :=
  let cs := text.toList
  let cs := if cs.head? = some '\ufeff' then cs.drop 1 else cs
  (readStatements (cs.length + 1) cs).bind ofStatements?

end PromptKit.Toml
