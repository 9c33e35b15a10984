import PromptKit.Text.Visible.Table

/-!
Text between double quotes for a reader's eyes: a character that could not be seen or would end the
quotes is written as an escape.
-/
namespace PromptKit.Text

def isVisible (c : Char) : Bool :=
  if c.toNat < 127 then 32 ≤ c.toNat
  else !flipped Visible.hiddenFlips c.toNat && !flipped Visible.attachedFlips c.toNat

private def hexadecimal (n : Nat) : List Char := Nat.toDigits 16 n

def showChar (c : Char) : List Char :=
  if c = '\x00' then ['\\', '0']
  else if c = '\t' then ['\\', 't']
  else if c = '\r' then ['\\', 'r']
  else if c = '\n' then ['\\', 'n']
  else if c = '\x22' then ['\\', '\x22']
  else if c = '\\' then ['\\', '\\']
  else if isVisible c then [c]
  else ['\\', 'u', '\x7b'] ++ hexadecimal c.toNat ++ ['\x7d']

def shown (s : String) : String :=
  "\"" ++ String.ofList (s.toList.flatMap showChar) ++ "\""

end PromptKit.Text
