import PromptKit.Json.Numeral
import PromptKit.Json.Text

/-!
Reading a JSON text into a value. Lists and objects may nest to a depth of 127. The fuel is the
number of characters left: every step reads at least one.
-/
namespace PromptKit.Json

/-- How deep lists and objects may nest, plus one. -/
def depthLimit : Nat := 128

def nextItem (first : Bool) (c : Cursor) : Except Fault (Bool × Cursor) :=
  let c := c.skipSpace
  match c.rest with
  | [] => .error (c.here .listCutShort)
  | ']' :: _ => .ok (false, c)
  | ch :: _ =>
    if first then .ok (true, c)
    else if ch = ',' then
      let c := c.next.skipSpace
      match c.rest with
      | [] => .error (c.here .valueCutShort)
      | ']' :: _ => .error (c.beyond .trailingComma)
      | _ => .ok (true, c)
    else .error (c.beyond .expectedCommaOrBracket)

def nextKey (first : Bool) (c : Cursor) : Except Fault (Bool × Cursor) :=
  let c := c.skipSpace
  match c.rest with
  | [] => .error (c.here .objectCutShort)
  | '\x7d' :: _ => .ok (false, c)
  | ch :: _ =>
    if first then
      if ch = '\x22' then .ok (true, c.next) else .error (c.beyond .keyNotString)
    else if ch = ',' then
      let c := c.next.skipSpace
      match c.rest with
      | [] => .error (c.here .valueCutShort)
      | '\x22' :: _ => .ok (true, c.next)
      | '\x7d' :: _ => .error (c.beyond .trailingComma)
      | _ => .error (c.beyond .keyNotString)
    else .error (c.beyond .expectedCommaOrBrace)

def passColon (c : Cursor) : Except Fault Cursor :=
  let c := c.skipSpace
  match c.rest with
  | [] => .error (c.here .objectCutShort)
  | ':' :: _ => .ok c.next
  | _ => .error (c.beyond .expectedColon)

mutual
def readValue : Nat → Nat → Cursor → Except Fault (Value × Cursor)
  | 0, _, c => .error (c.here .valueCutShort)
  | fuel + 1, depth, c => do
    let c := c.skipSpace
    match c.rest with
    | [] => throw (c.here .valueCutShort)
    | 'n' :: _ => return (.null, ← c.next.word ['u', 'l', 'l'])
    | 't' :: _ => return (.bool true, ← c.next.word ['r', 'u', 'e'])
    | 'f' :: _ => return (.bool false, ← c.next.word ['a', 'l', 's', 'e'])
    | '\x22' :: _ =>
      let (s, c) ← readString c.next
      return (.string s, c)
    | '[' :: _ =>
      if depth ≤ 1 then throw (c.beyond .tooDeep)
      let (items, c) ← readItems fuel (depth - 1) true c.next
      return (.array items, c)
    | '\x7b' :: _ =>
      if depth ≤ 1 then throw (c.beyond .tooDeep)
      let (fields, c) ← readFields fuel (depth - 1) true c.next
      return (Value.ofFields fields, c)
    | ch :: _ =>
      if ch = '-' || (digit? ch).isSome then
        let (n, c) ← readNumber c
        return (.number n, c)
      else throw (c.beyond .expectedValue)

def readItems : Nat → Nat → Bool → Cursor → Except Fault (List Value × Cursor)
  | 0, _, _, c => .error (c.here .listCutShort)
  | fuel + 1, depth, first, c => do
    let (more, c) ← nextItem first c
    if more then
      let (v, c) ← readValue fuel depth c
      let (rest, c) ← readItems fuel depth false c
      return (v :: rest, c)
    else return ([], c.next)

def readFields : Nat → Nat → Bool → Cursor → Except Fault (List (String × Value) × Cursor)
  | 0, _, _, c => .error (c.here .objectCutShort)
  | fuel + 1, depth, first, c => do
    let (more, c) ← nextKey first c
    if more then
      let (key, c) ← readString c
      let c ← passColon c
      let (v, c) ← readValue fuel depth c
      let (rest, c) ← readFields fuel depth false c
      return ((key, v) :: rest, c)
    else return ([], c.next)
end

def atEnd (c : Cursor) : Except Fault Unit :=
  let c := c.skipSpace
  if c.rest.isEmpty then .ok () else .error (c.beyond .trailingCharacters)

def parse (text : String) : Except Fault Value := do
  let c := Cursor.start text
  let (v, c) ← readValue (2 * c.rest.length + 2) depthLimit c
  atEnd c
  return v

end PromptKit.Json
