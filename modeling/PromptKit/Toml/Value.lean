import PromptKit.Dict

/-!
TOML values, and how the lines of a document build up its tables. A table remembers how it came to
be, since that decides what may still be added to it.
-/
namespace PromptKit.Toml

inductive Origin where
  /-- Written between braces: nothing may be added. -/
  | inline
  | header
  /-- On the way to another table that a header opened. -/
  | implied
  | dotted
  deriving DecidableEq, Repr

inductive Value where
  | text (s : String)
  | whole (n : Int)
  | real (x : Float)
  | flag (b : Bool)
  | moment
  | list (items : List Value)
  | table (origin : Origin) (entries : List (String × Value))
  /-- Tables that headers in double brackets opened under one key, in order. -/
  | rows (tables : List (List (String × Value)))

abbrev Entries := List (String × Value)

def setEntry (key : String) (v : Value) : Entries → Entries
  | [] => [(key, v)]
  | (k, old) :: rest => if k = key then (k, v) :: rest else (k, old) :: setEntry key v rest

/-- Changes the table at the end of a path, and makes the tables on the way that are not there. Along
a dotted key no table may be entered that a header opened; rows are entered at the last. -/
def changeAt (alongDots : Bool) (change : Origin → Entries → Option Entries) :
    List String → Origin → Entries → Option Entries
  | [], origin, entries => change origin entries
  | key :: path, _, entries =>
    match List.lookup key entries with
    | none => do
      let origin := if alongDots then .dotted else .implied
      return setEntry key (.table origin (← changeAt alongDots change path origin [])) entries
    | some (.table origin inner) =>
      if origin = .inline || (alongDots && origin = .header) then none
      else do
        let inner ← changeAt alongDots change path origin inner
        return setEntry key (.table origin inner) entries
    | some (.rows tables) =>
      match tables.getLast? with
      | none => none
      | some last => do
        let last ← changeAt alongDots change path .header last
        return setEntry key (.rows (tables.dropLast ++ [last])) entries
    | some _ => none

def addEntry (key : String) (v : Value) (entries : Entries) : Option Entries :=
  if (List.lookup key entries).isSome then none else some (entries ++ [(key, v)])

def addDotted (path : List String) (key : String) (v : Value) (entries : Entries) : Option Entries :=
  if path.isEmpty then addEntry key v entries
  else changeAt true (fun origin inner => if origin = .dotted then addEntry key v inner else none)
    path .header entries

/-- Opens a table under a key. A table that another header implied is opened with what it holds. -/
def openTable (key : String) (entries : Entries) : Option Entries :=
  match List.lookup key entries with
  | none => some (entries ++ [(key, .table .header [])])
  | some (.table .implied inner) => some (setEntry key (.table .header inner) entries)
  | some _ => none

def openRow (key : String) (entries : Entries) : Option Entries :=
  match List.lookup key entries with
  | none => some (entries ++ [(key, .rows [[]])])
  | some (.rows tables) => some (setEntry key (.rows (tables ++ [[]])) entries)
  | some _ => none

def inlineTable (entries : List (List String × String × Value)) : Option Value :=
  (entries.foldlM (fun held (path, key, v) => addDotted path key v held) []).map (.table .inline)

inductive Statement where
  | entry (path : List String) (key : String) (v : Value)
  | header (path : List String) (key : String)
  | rowHeader (path : List String) (key : String)

structure Build where
  root : Entries := []
  focus : List String := []

def Build.add (b : Build) : Statement → Option Build
  | .entry path key v => do
    return ⟨← at' b.focus (addDotted path key v), b.focus⟩
  | .header path key => do
    return ⟨← at' path (openTable key), path ++ [key]⟩
  | .rowHeader path key => do
    return ⟨← at' path (openRow key), path ++ [key]⟩
where
  at' (path : List String) (change : Entries → Option Entries) : Option Entries :=
    changeAt false (fun _ => change) path .header b.root

def ofStatements? (lines : List Statement) : Option Value :=
  (lines.foldlM Build.add {}).map fun b => .table .header b.root

end PromptKit.Toml
