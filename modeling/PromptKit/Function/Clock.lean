import PromptKit.Text.Search

/-!
A moment of the calendar, and patterns that name its parts.
-/
namespace PromptKit

structure Clock where
  year : Nat
  month : Nat
  day : Nat
  hour : Nat
  minute : Nat
  second : Nat
  deriving Repr

namespace Clock

def padded (width n : Nat) : String :=
  let digits := toString n
  String.ofList (List.replicate (width - digits.length) '0') ++ digits

def yearText (c : Clock) : String := padded 4 c.year

def dateText (c : Clock) : String :=
  c.yearText ++ "-" ++ padded 2 c.month ++ "-" ++ padded 2 c.day

def placeholders (c : Clock) : List (String × String) :=
  [("YYYY", c.yearText), ("MM", padded 2 c.month), ("DD", padded 2 c.day),
    ("HH", padded 2 c.hour), ("mm", padded 2 c.minute), ("ss", padded 2 c.second)]

end Clock

def fillIn (replacements : List (String × String)) (pattern : String) : String :=
  replacements.foldl (fun text r => Text.replace text r.1 r.2) pattern

end PromptKit
