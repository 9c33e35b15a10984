import PromptKit.Template.Directive
import PromptKit.Text.Search

/-!
Writing a directive back as template text, where some text compiles to just that directive.
-/
namespace PromptKit.Template

def opening : List Char := ['\x7b', '\x7b']

def closing : List Char := ['\x7d', '\x7d']

/-- Whether a word stands by itself: a space, a quote or a closing brace would end it, and a name
that begins with a dollar sign would be read as a look-up. -/
def standsBare (isName : Bool) (word : List Char) : Bool :=
  word.all (fun c => c ≠ ' ' && c ≠ '\x7d' && !isQuote c) && !(isName && word.head? = some '$')

/-- A word as the body of a directive holds it: bare, or between the first kind of quote that it
does not contain. -/
def writeWord (isName : Bool) (word : List Char) : Option (List Char) :=
  if word.isEmpty then none
  else if standsBare isName word then some word
  else
    (['\x27', '\x22', '\x60'].find? fun quote => !word.contains quote).map fun quote =>
      quote :: word ++ [quote]

def writeArgs : List String → Option (List Char)
  | [] => some []
  | arg :: rest => do
    let word ← writeWord false arg.toList
    let more ← writeArgs rest
    return ' ' :: word ++ more

def cutShort (key : List Char) : Bool :=
  key.any isQuote || Text.occursIn closing key || key.getLast? = some '\x7d'

def Directive.chars? : Directive → Option (List Char)
  | .text content =>
    let cs := content.toList
    if cs.isEmpty || Text.occursIn opening cs then none else some cs
  | .lookup key =>
    if cutShort key.toList then none else some (opening ++ '$' :: key.toList ++ closing)
  | .call name args =>
    if name.isEmpty then if args.isEmpty then some (opening ++ ' ' :: closing) else none
    else do
      let word ← writeWord true name.toList
      let more ← writeArgs args
      return opening ++ word ++ more ++ closing

/-- Template text that compiles to exactly this directive; none if there is no such text. -/
def Directive.source? (d : Directive) : Option String := d.chars?.map String.ofList

end PromptKit.Template
