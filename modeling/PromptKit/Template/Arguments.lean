import PromptKit.Template.Directive

/-!
The words of a directive body. Unquoted words end at a space; a quoted run is a word of its own, with
its quotes taken off, also where it touches another word; empty words are dropped.
-/
namespace PromptKit.Template

def consWord (held : List Char) (words : List (List Char)) : List (List Char) :=
  if held.isEmpty then words else held.reverse :: words

def wordsFrom : Option Char → List Char → List Char → List (List Char)
  | _, held, [] => consWord held []
  | none, held, c :: rest =>
    if isQuote c then consWord held (wordsFrom (some c) [] rest)
    else if c = ' ' then consWord held (wordsFrom none [] rest)
    else wordsFrom none (c :: held) rest
  | some quote, held, c :: rest =>
    if c = quote then consWord held (wordsFrom none [] rest)
    else wordsFrom (some quote) (c :: held) rest

def words (body : List Char) : List (List Char) := wordsFrom none [] body

/-- The first word is the name; a body without words has an empty name. -/
def parseBody (body : List Char) : String × List String :=
  match words body with
  | [] => ("", [])
  | name :: args => (String.ofList name, args.map String.ofList)

end PromptKit.Template
