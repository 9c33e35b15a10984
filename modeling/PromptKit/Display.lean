import PromptKit.Json.Printer
import PromptKit.Tokenizer
import PromptKit.Yaml.Printer

/-!
The text that stands for a value in a prompt. Nothing is empty text, a string stands for itself, a
truth value or a number is written out; a list or an object is compact JSON, or YAML where that takes
fewer tokens.
-/
namespace PromptKit

open Json (Value)

def displayBlock (t : Tokenizer) (v : Value) : String :=
  if t.count (Yaml.write v) < t.count v.compact then Yaml.write v else v.compact

def display (t : Tokenizer) : Value → String
  | .null => ""
  | .string s => s
  | .array items => displayBlock t (.array items)
  | .object fields => displayBlock t (.object fields)
  | v => v.compact

end PromptKit
