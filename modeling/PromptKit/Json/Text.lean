import PromptKit.Decimal.Reader
import PromptKit.Json.Cursor
import PromptKit.Text.Utf8

/-!
Strings in a JSON text, read from after the opening quote. The fuel is the number of characters
left: every step reads at least one.
-/
namespace PromptKit.Json

/-- Four hexadecimal digits; fewer than four bytes left means that the string was cut short. -/
def readHex (c : Cursor) : Except Fault (Nat × Cursor) :=
  let four := c.rest.take 4
  match if four.length = 4 then Decimal.ofDigits? 16 four else none with
  | some n => .ok (n, c.next.next.next.next)
  | none =>
    let short := Text.utf8Length four < 4
    .error ((c.forward 4 c.rest).here (if short then .stringCutShort else .invalidEscape))

def escaped? (ch : Char) : Option Char :=
  if ch = '\x22' || ch = '\\' || ch = '/' then some ch
  else if ch = 'b' then some '\x08'
  else if ch = 'f' then some '\x0c'
  else if ch = 'n' then some '\n'
  else if ch = 'r' then some '\r'
  else if ch = 't' then some '\t'
  else none

private def expectMark (mark : Char) (c : Cursor) : Except Fault Cursor :=
  match c.rest with
  | [] => .error (c.here .stringCutShort)
  | ch :: _ => if ch = mark then .ok c.next else .error (c.beyond .hexEscapeCutShort)

/-- After `\u`. A leading surrogate needs a trailing one in an escape of its own right after it. -/
def readCodePoint (c : Cursor) : Except Fault (Char × Cursor) := do
  let (n, c) ← readHex c
  if 0xDC00 ≤ n && n ≤ 0xDFFF then throw (c.here .loneSurrogate)
  else if n < 0xD800 || 0xDBFF < n then return (Char.ofNat n, c)
  else
    let c ← expectMark '\\' c
    let c ← expectMark 'u' c
    let (m, c) ← readHex c
    if m < 0xDC00 || 0xDFFF < m then throw (c.here .loneSurrogate)
    else return (Char.ofNat ((n - 0xD800) * 1024 + (m - 0xDC00) + 0x10000), c)

def readEscape (c : Cursor) : Except Fault (Char × Cursor) :=
  match c.rest with
  | [] => .error (c.here .stringCutShort)
  | 'u' :: _ => readCodePoint c.next
  | ch :: _ =>
    match escaped? ch with
    | some plain => .ok (plain, c.next)
    | none => .error (c.beyond .invalidEscape)

def readChars : Nat → Cursor → List Char → Except Fault (List Char × Cursor)
  | 0, c, _ => .error (c.here .stringCutShort)
  | fuel + 1, c, held =>
    match c.rest with
    | [] => .error (c.here .stringCutShort)
    | ch :: _ =>
      if ch = '\x22' then .ok (held.reverse, c.next)
      else if ch = '\\' then
        match readEscape c.next with
        | .ok (plain, c) => readChars fuel c (plain :: held)
        | .error f => .error f
      else if ch.toNat < 32 then .error (c.beyond .controlCharacter)
      else readChars fuel c.next (ch :: held)

def readString (c : Cursor) : Except Fault (String × Cursor) :=
  (readChars (c.rest.length + 1) c []).map fun (cs, c) => (String.ofList cs, c)

def skipChars : Nat → Cursor → Except Fault Cursor
  | 0, c => .error (c.here .stringCutShort)
  | fuel + 1, c =>
    match c.rest with
    | [] => .error (c.here .stringCutShort)
    | ch :: _ =>
      if ch = '\x22' then .ok c.next
      else if ch = '\\' then
        match c.next.rest with
        | [] => .error (c.next.here .stringCutShort)
        | 'u' :: _ =>
          match readHex c.next.next with
          | .ok (_, c) => skipChars fuel c
          | .error f => .error f
        | letter :: _ =>
          if (escaped? letter).isSome then skipChars fuel c.next.next
          else .error (c.next.beyond .invalidEscape)
      else if ch.toNat < 32 then .error (c.here .controlCharacter)
      else skipChars fuel c.next

def skipString (c : Cursor) : Except Fault Cursor := skipChars (c.rest.length + 1) c

end PromptKit.Json
