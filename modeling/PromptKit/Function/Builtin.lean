import PromptKit.Function.Basic
import PromptKit.Json.Printer
import PromptKit.Text.Blank
import PromptKit.Text.Case

/-!
The builtin functions. Arguments are plain text; only `memory.get` and the list functions reach
memory, and no builtin changes it.
-/
namespace PromptKit

open Json (Value)

inductive Builtin where
  | dateNow
  | dateYear
  | dateFormat
  | uppercase
  | lowercase
  | capitalize
  | trim
  | length
  | replace
  | contains
  | startsWith
  | endsWith
  | join
  | listLength
  | default
  | coalesce
  | memoryGet
  deriving DecidableEq, Repr

namespace Builtin

def all : List Builtin :=
  [dateNow, dateYear, dateFormat, uppercase, lowercase, capitalize, trim, length, replace, contains,
    startsWith, endsWith, join, listLength, default, coalesce, memoryGet]

def name : Builtin → String
  | dateNow => "date.now"
  | dateYear => "date.year"
  | dateFormat => "date.format"
  | uppercase => "str.uppercase"
  | lowercase => "str.lowercase"
  | capitalize => "str.capitalize"
  | trim => "str.trim"
  | length => "str.length"
  | replace => "str.replace"
  | contains => "str.contains"
  | startsWith => "str.startsWith"
  | endsWith => "str.endsWith"
  | join => "arr.join"
  | listLength => "arr.length"
  | default => "default"
  | coalesce => "coalesce"
  | memoryGet => "memory.get"

def names : List String := all.map name

def ofName? (s : String) : Option Builtin := all.find? fun b => b.name = s

def argument (b : Builtin) (args : List String) (index : Nat) : Except PromptError String :=
  match args[index]? with
  | some arg => .ok arg
  | none => .error (.functionFailed b.name
      ("expected at least " ++ toString (index + 1) ++ " argument(s), got " ++ toString args.length))

/-- The list stored under a key; what is absent or null counts as empty. -/
def storedList (b : Builtin) (memory : Memory) (key : String) : Except PromptError (List Value) :=
  match memory.get? key with
  | some (.array items) => .ok items
  | none => .ok []
  | some .null => .ok []
  | some _ => .error (.functionFailed b.name ("memory key '" ++ key ++ "' does not hold an array"))

def itemText : Value → String
  | .string s => s
  | .null => ""
  | v => v.compact

def run (b : Builtin) (clock : Clock) (args : List String) (memory : Memory) :
    Except PromptError Value :=
  match b with
  | dateNow => return .string clock.dateText
  | dateYear => return .string clock.yearText
  | dateFormat => return .string (fillIn clock.placeholders (← b.argument args 0))
  | uppercase => return .string (Text.toUpper (← b.argument args 0))
  | lowercase => return .string (Text.toLower (← b.argument args 0))
  | capitalize => return .string (Text.capitalize (← b.argument args 0))
  | trim => return .string (Text.trim (← b.argument args 0))
  | length => return .nat (← b.argument args 0).length
  | replace => do
    let text ← b.argument args 0
    let old ← b.argument args 1
    let new ← b.argument args 2
    return .string (Text.replace text old new)
  | contains => do
    let text ← b.argument args 0
    return .bool (Text.contains text (← b.argument args 1))
  | startsWith => do
    let text ← b.argument args 0
    return .bool (Text.startsWith text (← b.argument args 1))
  | endsWith => do
    let text ← b.argument args 0
    return .bool (Text.endsWith text (← b.argument args 1))
  | join => do
    let items ← b.storedList memory (← b.argument args 0)
    return .string ((args[1]?.getD ", ").intercalate (items.map itemText))
  | listLength => do
    let items ← b.storedList memory (← b.argument args 0)
    return .nat items.length
  | default => do
    let value ← b.argument args 0
    if value.isEmpty then return (args[1]?.map Value.string).getD .null
    else return .string value
  | coalesce => return ((args.find? fun a => !a.isEmpty).map Value.string).getD .null
  | memoryGet => return (memory.get? (← b.argument args 0)).getD .null

def execute (name : String) (clock : Clock) (args : List String) (memory : Memory) :
    Except PromptError Value :=
  match ofName? name with
  | some b => b.run clock args memory
  | none => .error (.unknownFunction name)

def function (b : Builtin) : PromptFunction :=
  .pure fun scope args memory => b.run scope.clock args memory

end Builtin

end PromptKit
