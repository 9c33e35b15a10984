import PromptKit.Json.Value

/-!
The directives of a template: literal text, a look-up in memory, or a call of a function; each also as
a JSON value.
-/
namespace PromptKit.Template

open Json (Value)

def isQuote (c : Char) : Bool := c = '\x27' || c = '\x22' || c = '\x60'

inductive Directive where
  | text (content : String)
  | lookup (key : String)
  | call (name : String) (args : List String)
  deriving DecidableEq, Repr

def Directive.isDynamic : Directive → Bool
  | .text _ => false
  | _ => true

def Directive.toJson : Directive → Value
  | .text content => .object [("text", .string content)]
  | .lookup key => .object [("variable", .string key)]
  | .call name args =>
    .object [("function_call",
      .object [("name", .string name), ("args", .array (args.map .string))])]

end PromptKit.Template
