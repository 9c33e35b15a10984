import PromptKit.Decimal.Reader

/-!
Reading the texts of TOML: basic ones with escapes and literal ones without, each on one line or on
many. Each reader starts after the opening quotes and ends after the closing ones.
-/
namespace PromptKit.Toml

def isTextLetter (c : Char) : Bool := c = '\t' || (' ' ≤ c && c ≠ '\x7f')

def isBlank (c : Char) : Bool := c = ' ' || c = '\t'

def breakNext? : List Char → Option (List Char)
  | '\n' :: rest => some rest
  | '\r' :: '\n' :: rest => some rest
  | _ => none

private def readCode (width : Nat) (cs : List Char) : Option (Char × List Char) := do
  let digits := cs.take width
  if digits.length < width then none
  else
    let n ← Decimal.ofDigits? 16 digits
    if h : n.isValidChar then return (Char.ofNatAux n h, cs.drop width) else none

def readEscape : List Char → Option (Char × List Char)
  | 'b' :: rest => some ('\x08', rest)
  | 't' :: rest => some ('\t', rest)
  | 'n' :: rest => some ('\n', rest)
  | 'f' :: rest => some ('\x0c', rest)
  | 'r' :: rest => some ('\r', rest)
  | '\x22' :: rest => some ('\x22', rest)
  | '\\' :: rest => some ('\\', rest)
  | 'u' :: rest => readCode 4 rest
  | 'U' :: rest => readCode 8 rest
  | _ => none

def readLiteral : List Char → Option (List Char × List Char)
  | [] => none
  | '\x27' :: rest => some ([], rest)
  | c :: rest =>
    if isTextLetter c then (readLiteral rest).map fun (text, rest) => (c :: text, rest) else none

def readBasic : Nat → List Char → Option (List Char × List Char)
  | _ + 1, '\x22' :: rest => some ([], rest)
  | fuel + 1, '\\' :: rest => do
    let (c, rest) ← readEscape rest
    let (text, rest) ← readBasic fuel rest
    return (c :: text, rest)
  | fuel + 1, c :: rest =>
    if isTextLetter c then (readBasic fuel rest).map fun (text, rest) => (c :: text, rest) else none
  | _, _ => none

private def takeQuotes (quote : Char) (cs : List Char) : Nat × List Char :=
  ((cs.takeWhile (· = quote)).length, cs.dropWhile (· = quote))

def skipFold : Nat → List Char → List Char
  | 0, cs => cs
  | fuel + 1, cs =>
    match breakNext? cs with
    | some rest => skipFold fuel rest
    | none =>
      match cs with
      | c :: rest => if isBlank c then skipFold fuel rest else cs
      | [] => []

private def joinLine? (cs : List Char) : Option (List Char) :=
  (breakNext? (cs.dropWhile isBlank)).map fun rest => skipFold rest.length rest

/-- Reads a text on many lines. Three quotes end it, and up to two right before them are its own; a
backslash escapes only in basic texts. -/
def readLines (basic : Bool) : Nat → List Char → Option (List Char × List Char)
  | 0, _ => none
  | fuel + 1, cs =>
    let quote := if basic then '\x22' else '\x27'
    match cs with
    | [] => none
    | c :: rest =>
      if c = quote then
        let (count, after) := takeQuotes quote cs
        if count < 3 then
          (readLines basic fuel after).map fun (text, rest) =>
            (List.replicate count quote ++ text, rest)
        else some (List.replicate (min count 5 - 3) quote, cs.drop (min count 5))
      else if basic && c = '\\' then
        match joinLine? rest with
        | some rest => readLines basic fuel rest
        | none => do
          let (e, rest) ← readEscape rest
          let (text, rest) ← readLines basic fuel rest
          return (e :: text, rest)
      else
        match breakNext? cs with
        | some rest => (readLines basic fuel rest).map fun (text, rest) => ('\n' :: text, rest)
        | none =>
          if isTextLetter c then (readLines basic fuel rest).map fun (text, rest) => (c :: text, rest)
          else none

def readFromFirstLine (basic : Bool) (cs : List Char) : Option (List Char × List Char) :=
  readLines basic (cs.length + 1) ((breakNext? cs).getD cs)

def readText : List Char → Option (String × List Char)
  | '\x22' :: '\x22' :: '\x22' :: rest => done (readFromFirstLine true rest)
  | '\x27' :: '\x27' :: '\x27' :: rest => done (readFromFirstLine false rest)
  | '\x22' :: rest => done (readBasic (rest.length + 1) rest)
  | '\x27' :: rest => done (readLiteral rest)
  | _ => none
where
  done (r : Option (List Char × List Char)) : Option (String × List Char) :=
    r.map fun (text, rest) => (String.ofList text, rest)

end PromptKit.Toml
