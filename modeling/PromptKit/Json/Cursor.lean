import PromptKit.Json.Fault

/-!
A place in a JSON text: what is left to read, and the line and column reached. Columns count bytes,
and a fault may point into the middle of a character.
-/
namespace PromptKit.Json

structure Cursor where
  rest : List Char
  line : Nat
  column : Nat

def Cursor.start (text : String) : Cursor := ⟨text.toList, 1, 0⟩

def Cursor.next (c : Cursor) : Cursor :=
  match c.rest with
  | [] => c
  | '\n' :: rest => ⟨rest, c.line + 1, 0⟩
  | ch :: rest => ⟨rest, c.line, c.column + ch.utf8Size⟩

/-- Past `n` bytes, for a fault only: a character cut in two is counted in part. -/
def Cursor.forward (c : Cursor) : Nat → List Char → Cursor
  | 0, _ => c
  | _ + 1, [] => c
  | n + 1, '\n' :: rest => Cursor.forward ⟨rest, c.line + 1, 0⟩ n rest
  | n + 1, ch :: rest =>
    if ch.utf8Size ≤ n + 1 then
      Cursor.forward ⟨rest, c.line, c.column + ch.utf8Size⟩ (n + 1 - ch.utf8Size) rest
    else ⟨rest, c.line, c.column + (n + 1)⟩

def Cursor.here (c : Cursor) (reason : Reason) : Fault := ⟨reason, c.line, c.column⟩

def Cursor.beyond (c : Cursor) (reason : Reason) : Fault := (c.forward 1 c.rest).here reason

def isSpace (ch : Char) : Bool := ch = ' ' || ch = '\n' || ch = '\t' || ch = '\r'

def Cursor.skipOver (c : Cursor) : List Char → Cursor
  | [] => c
  | ch :: rest => if isSpace ch then c.next.skipOver rest else c

def Cursor.skipSpace (c : Cursor) : Cursor := c.skipOver c.rest

def Cursor.word (c : Cursor) : List Char → Except Fault Cursor
  | [] => .ok c
  | expected :: more =>
    match c.rest with
    | [] => .error (c.here .valueCutShort)
    | ch :: _ => if ch = expected then c.next.word more else .error (c.beyond .expectedWord)

end PromptKit.Json
