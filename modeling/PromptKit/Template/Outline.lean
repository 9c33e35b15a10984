import PromptKit.Error
import PromptKit.Template.Directive

/-!
The outline of a template: text, then holes, each with the text after it. A hole opens at two braces
and closes at two braces outside of a quoted run. One scan finds the outline, or the construct that
is never closed and the byte at which it begins.
-/
namespace PromptKit.Template

structure Hole where
  body : List Char
  after : List Char
  deriving DecidableEq, Repr

structure Outline where
  lead : List Char
  holes : List Hole
  deriving DecidableEq, Repr

structure Unclosed where
  construct : OpenConstruct
  offset : Nat
  deriving DecidableEq, Repr

def Outline.push (c : Char) (o : Outline) : Outline := { o with lead := c :: o.lead }

/-- What is found from inside a hole: the rest of its body, and the outline after it. -/
abbrev Inside := List Char × Outline

def Inside.push (c : Char) (i : Inside) : Inside := (c :: i.1, i.2)

mutual
def scanText (at' : Nat) : List Char → Except Unclosed Outline
  | [] => .ok ⟨[], []⟩
  | '\x7b' :: '\x7b' :: rest =>
    (scanBody at' (at' + 2) rest).map fun (body, o) => ⟨[], ⟨body, o.lead⟩ :: o.holes⟩
  | c :: rest => (scanText (at' + c.utf8Size) rest).map (·.push c)

def scanBody (opened at' : Nat) : List Char → Except Unclosed Inside
  | [] => .error ⟨.directive, opened⟩
  | '\x7d' :: '\x7d' :: rest => (scanText (at' + 2) rest).map fun o => ([], o)
  | c :: rest =>
    (if isQuote c then scanQuoted opened c at' (at' + c.utf8Size) rest
      else scanBody opened (at' + c.utf8Size) rest).map (·.push c)

/-- Scans the run that the quote at byte `quoted` opened. -/
def scanQuoted (opened : Nat) (quote : Char) (quoted at' : Nat) :
    List Char → Except Unclosed Inside
  | [] => .error ⟨.quotedString, quoted⟩
  | c :: rest =>
    (if c = quote then scanBody opened (at' + c.utf8Size) rest
      else scanQuoted opened quote quoted (at' + c.utf8Size) rest).map (·.push c)
end

def outline (source : List Char) : Except Unclosed Outline := scanText 0 source

end PromptKit.Template
