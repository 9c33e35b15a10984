import PromptKit.Json.Reader
import PromptKit.Shape

/-!
Reading a JSON text straight into a shape. The text is read once from left to right, so of a flaw in
its grammar and a misfit the one that comes first counts. A misfit that concerns a whole record is
placed where the record was read to. The fuel is the number of characters left.
-/
namespace PromptKit.Json

/-- Why a record stopped: a fault with its place, or a misfit of the record read up to a cursor. -/
inductive Stop where
  | fault (f : Fault)
  | misfit (m : Misfit) (c : Cursor)

private def orStop (r : Except Fault α) : Except Stop α := r.mapError .fault

private def place (m : Misfit) (c : Cursor) : Fault := c.here (.misfit m.message)

private def afterObject (c : Cursor) : Cursor :=
  let c := c.skipSpace
  match c.rest with
  | '\x7d' :: _ => c.next
  | _ => c

private def afterList (c : Cursor) : Cursor :=
  let c := c.skipSpace
  match c.rest with
  | ']' :: _ => c.next
  | ',' :: _ => c.next.skipSpace
  | _ => c

private def closeList (c : Cursor) : Except Fault Cursor :=
  let c := c.skipSpace
  match c.rest with
  | [] => .error (c.here .listCutShort)
  | ']' :: _ => .ok c.next
  | ',' :: _ =>
    let c := c.next.skipSpace
    match c.rest with
    | ']' :: _ => .error (c.beyond .trailingComma)
    | _ => .error (c.beyond .trailingCharacters)
  | _ => .error (c.beyond .trailingCharacters)

mutual
def skipValue : Nat → Cursor → Except Fault Cursor
  | 0, c => .error (c.here .valueCutShort)
  | fuel + 1, c =>
    let c := c.skipSpace
    match c.rest with
    | [] => .error (c.here .valueCutShort)
    | 'n' :: _ => c.next.word ['u', 'l', 'l']
    | 't' :: _ => c.next.word ['r', 'u', 'e']
    | 'f' :: _ => c.next.word ['a', 'l', 's', 'e']
    | '\x22' :: _ => skipString c.next
    | '[' :: _ => skipItems fuel true c.next
    | '\x7b' :: _ => skipFields fuel true c.next
    | ch :: _ =>
      if ch = '-' || (digit? ch).isSome then skipNumber c else .error (c.beyond .expectedValue)

def skipItems : Nat → Bool → Cursor → Except Fault Cursor
  | 0, _, c => .error (c.here .listCutShort)
  | fuel + 1, first, c => do
    let c := c.skipSpace
    match c.rest with
    | [] => throw (c.here .listCutShort)
    | ']' :: _ => return c.next
    | ch :: _ =>
      if first then skipItems fuel false (← skipValue fuel c)
      else if ch = ',' then skipItems fuel false (← skipValue fuel c.next)
      else throw (c.beyond .expectedCommaOrBracket)

def skipFields : Nat → Bool → Cursor → Except Fault Cursor
  | 0, _, c => .error (c.here .objectCutShort)
  | fuel + 1, first, c => do
    let c := c.skipSpace
    match c.rest with
    | [] => throw (c.here .objectCutShort)
    | '\x7d' :: _ => return c.next
    | ch :: _ =>
      let c ← if first then pure c
        else if ch = ',' then pure c.next.skipSpace
        else throw (c.beyond .expectedCommaOrBrace)
      match c.rest with
      | [] => throw (c.here .objectCutShort)
      | '\x22' :: _ =>
        let c ← passColon (← skipString c.next)
        skipFields fuel false (← skipValue fuel c)
      | _ => throw (c.beyond .keyNotString)
end

/-- What stands at a cursor where something else was asked for, and the cursor after it; a list or an
object is not entered. -/
def found (c : Cursor) : Except Fault (Found × Cursor) := do
  match c.rest with
  | 'n' :: _ => return (.null, ← c.next.word ['u', 'l', 'l'])
  | 't' :: _ => return (.flag true, ← c.next.word ['r', 'u', 'e'])
  | 'f' :: _ => return (.flag false, ← c.next.word ['a', 'l', 's', 'e'])
  | '\x22' :: _ =>
    let (s, c) ← readString c.next
    return (.text s, c)
  | '[' :: _ => return (.list, c)
  | '\x7b' :: _ => return (.record, c)
  | ch :: _ =>
    if ch = '-' || (digit? ch).isSome then
      let (n, c) ← readNumber c
      return (.number n, c)
    else throw (c.beyond .expectedValue)
  | [] => throw (c.here .valueCutShort)

private def mismatch (s : Shape) (c : Cursor) : Fault :=
  match found c with
  | .ok (f, c) => place (.wrongType f s) c
  | .error fault => fault

def readScalar (s : Shape) (c : Cursor) : Except Fault (Datum × Cursor) := do
  match s, c.rest with
  | .text, '\x22' :: _ =>
    let (t, c) ← readString c.next
    return (.text t, c)
  | .flag, 't' :: _ => return (.flag true, ← c.next.word ['r', 'u', 'e'])
  | .flag, 'f' :: _ => return (.flag false, ← c.next.word ['a', 'l', 's', 'e'])
  | .real, ch :: _ => number ch
  | .word, ch :: _ => number ch
  | _, _ => throw (mismatch s c)
where
  number (ch : Char) : Except Fault (Datum × Cursor) := do
    if ch = '-' || (digit? ch).isSome then
      let (n, c) ← readNumber c
      match s.ofNumber n with
      | .ok d => return (d, c)
      | .error m => throw (place m c)
    else throw (mismatch s c)

private def settle (after : Cursor → Cursor) (r : Except Stop α) : Except Fault α :=
  r.mapError fun stop =>
    match stop with
    | .fault f => f
    | .misfit m c => place m (after c)

mutual
def readShape : Nat → Nat → Shape → Cursor → Except Fault (Datum × Cursor)
  | 0, _, _, c => .error (c.here .valueCutShort)
  | fuel + 1, depth, s, c => do
    let c := c.skipSpace
    if c.rest.isEmpty then throw (c.here .valueCutShort)
    match s, c.rest with
    | .list item, '[' :: _ =>
      if depth ≤ 1 then throw (c.beyond .tooDeep)
      let (items, c) ← readList fuel (depth - 1) item true c.next
      return (.list items, c)
    | .record name lenient fields, '[' :: _ =>
      if depth ≤ 1 then throw (c.beyond .tooDeep)
      let (data, c) ← settle afterList
        (readPlaced fuel (depth - 1) name lenient fields.length 0 fields c.next)
      return (.record data, ← closeList c)
    | .record _ lenient fields, '\x7b' :: _ =>
      if depth ≤ 1 then throw (c.beyond .tooDeep)
      let (data, c) ← settle afterObject (readNamed fuel (depth - 1) lenient fields [] true c.next)
      return (.record data, c)
    | .list _, _ => throw (mismatch s c)
    | .record .., _ => throw (mismatch s c)
    | s, _ => readScalar s c

def readList : Nat → Nat → Shape → Bool → Cursor → Except Fault (List Datum × Cursor)
  | 0, _, _, _, c => .error (c.here .listCutShort)
  | fuel + 1, depth, item, first, c => do
    let (more, c) ← nextItem first c
    if more then
      let (d, c) ← readShape fuel depth item c
      let (rest, c) ← readList fuel depth item false c
      return (d :: rest, c)
    else return ([], c.next)

def readPlaced : Nat → Nat → String → Bool → Nat → Nat → List (String × Shape) → Cursor →
    Except Stop (List (Option Datum) × Cursor)
  | 0, _, _, _, _, _, _, c => .error (.fault (c.here .listCutShort))
  | _ + 1, _, _, _, _, _, [], c => .ok ([], c)
  | fuel + 1, depth, name, lenient, count, read, (_, shape) :: fields, c => do
    let (more, c) ← orStop (nextItem (read = 0) c)
    if more then
      let (d, c) ← orStop (readShape fuel depth shape c)
      let (rest, c) ← readPlaced fuel depth name lenient count (read + 1) fields c
      return (some d :: rest, c)
    else if lenient then return (none :: fields.map fun _ => none, c)
    else throw (.misfit (.tooShort read name count) c)

def readNamed : Nat → Nat → Bool → List (String × Shape) → List (String × Datum) → Bool → Cursor →
    Except Stop (List (Option Datum) × Cursor)
  | 0, _, _, _, _, _, c => .error (.fault (c.here .objectCutShort))
  | fuel + 1, depth, lenient, fields, seen, first, c => do
    let (more, c) ← orStop (nextKey first c)
    if more then
      let (key, c) ← orStop (readString c)
      match List.lookup key fields with
      | none =>
        let c ← orStop (passColon c)
        let c ← orStop (skipValue (2 * c.rest.length + 2) c)
        readNamed fuel depth lenient fields seen false c
      | some shape =>
        if (List.lookup key seen).isSome then throw (.misfit (.duplicate key) c)
        let c ← orStop (passColon c)
        let (d, c) ← orStop (readShape fuel depth shape c)
        readNamed fuel depth lenient fields ((key, d) :: seen) false c
    else
      match Shape.complete lenient seen fields with
      | .ok data => return (data, c.next)
      | .error m => throw (.misfit m c)
end

def parseShape (s : Shape) (text : String) : Except Fault Datum := do
  let c := Cursor.start text
  let (d, c) ← readShape (2 * c.rest.length + 8) depthLimit s c
  atEnd c
  return d

end PromptKit.Json
