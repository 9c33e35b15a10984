import PromptKit.Yaml.Token.Scan

/-!
The tree that the tokens of a YAML document describe. The fuel is the number of tokens left: every
second step reads at least one.
-/
namespace PromptKit.Yaml

inductive Node where
  | scalar (text : String) (written : Written) (tag : Option String)
  | list (items : List Node)
  | mapping (entries : List (Node × Node))
  | anchored (number : Nat) (node : Node)
  | alias (number : Nat)

namespace Node

def empty : Node := .scalar "" .plain none

def bare : Node → Node
  | .anchored _ n => n.bare
  | n => n

mutual
def anchors : Node → List (Nat × Node)
  | .scalar .. => []
  | .list items => anchorsOfItems items
  | .mapping entries => anchorsOfEntries entries
  | .anchored number n => (number, n) :: n.anchors
  | .alias _ => []

def anchorsOfItems : List Node → List (Nat × Node)
  | [] => []
  | n :: rest => n.anchors ++ anchorsOfItems rest

def anchorsOfEntries : List (Node × Node) → List (Nat × Node)
  | [] => []
  | (k, v) :: rest => k.anchors ++ v.anchors ++ anchorsOfEntries rest
end

end Node

structure Unread where
  tokens : List Token
  names : List (String × Nat) := []

namespace Unread

def head? (u : Unread) : Option Token := u.tokens.head?

def next (u : Unread) : Unread := { u with tokens := u.tokens.drop 1 }

/-- Gives a name to what follows. Its number is how many names there are, so that of a name given
anew can be that of a later one too. -/
def give (u : Unread) (name : String) : Nat × Unread :=
  let number := u.names.length
  (number, { u with names := (name, number) :: u.names.filter (·.1 ≠ name) })

end Unread

structure Properties where
  anchor : Option Nat := none
  tag : Option String := none

def Properties.isEmpty (p : Properties) : Bool := p.anchor.isNone && p.tag.isNone

def Properties.apply (p : Properties) (n : Node) : Node :=
  match p.anchor with
  | some number => .anchored number n
  | none => n

def expandTag (handles : List (String × String)) (handle suffix : String) : Option String :=
  if handle.isEmpty then some suffix else (handles.lookup handle).map (· ++ suffix)

def readProperties (handles : List (String × String)) (u : Unread) : Option (Properties × Unread) :=
  match u.tokens with
  | .anchor name :: .tag handle suffix :: _ => do
    let (number, u) := u.give name
    return (⟨number, ← expandTag handles handle suffix⟩, u.next.next)
  | .tag handle suffix :: .anchor name :: _ => do
    let (number, u) := u.give name
    return (⟨number, ← expandTag handles handle suffix⟩, u.next.next)
  | .anchor name :: _ =>
    let (number, u) := u.give name
    some ({ anchor := number }, u.next)
  | .tag handle suffix :: _ => do
    return ({ tag := ← expandTag handles handle suffix }, u.next)
  | _ => some ({}, u)

/-- Where a node may be left out: before the tokens that end its place. -/
inductive Slot where
  | item
  /-- After a dash that is not indented against the key of its list. -/
  | bareItem
  | entry
  | flowItem
  | flowEntry
  deriving DecidableEq

namespace Slot

def isEnd : Slot → Token → Bool
  | item, t => t = .blockEntry || t = .blockEnd
  | bareItem, t => t = .blockEntry || t = .key || t = .value || t = .blockEnd
  | entry, t => t = .key || t = .value || t = .blockEnd
  | flowItem, t => t = .value || t = .flowEntry || t = .flowSequenceEnd
  | flowEntry, t => t = .value || t = .flowEntry || t = .flowMappingEnd

def inBlock : Slot → Bool
  | item | bareItem | entry => true
  | flowItem | flowEntry => false

def bareDashes : Slot → Bool
  | entry => true
  | _ => false

end Slot

mutual
def readNode (handles : List (String × String)) : Nat → Bool → Bool → Unread → Option (Node × Unread)
  | 0, _, _, _ => none
  | fuel + 1, block, dashes, u =>
    match u.head? with
    | some (.alias name) => do return (.alias (← u.names.lookup name), u.next)
    | _ => do
      let (p, u) ← readProperties handles u
      let (n, u) ← readContent handles fuel block dashes p u
      return (p.apply n, u)

def readContent (handles : List (String × String)) : Nat → Bool → Bool → Properties → Unread →
    Option (Node × Unread)
  | 0, _, _, _, _ => none
  | fuel + 1, block, dashes, p, u =>
    let items (r : Option (List Node × Unread)) : Option (Node × Unread) :=
      r.map fun (items, u) => (.list items, u)
    let entries (r : Option (List (Node × Node) × Unread)) : Option (Node × Unread) :=
      r.map fun (entries, u) => (.mapping entries, u)
    match u.head?, block, dashes with
    | some .blockEntry, _, true => items (readItems handles fuel .bareItem u)
    | some (.scalar text written), _, _ => some (.scalar text written p.tag, u.next)
    | some .flowSequenceStart, _, _ => items (readFlowItems handles fuel true u.next)
    | some .flowMappingStart, _, _ => entries (readFlowEntries handles fuel true u.next)
    | some .blockSequenceStart, true, _ => items (readItems handles fuel .item u.next)
    | some .blockMappingStart, true, _ => entries (readEntries handles fuel u.next)
    | _, _, _ => if p.isEmpty then none else some (.scalar "" .plain p.tag, u)

def readSlot (handles : List (String × String)) : Nat → Slot → Unread → Option (Node × Unread)
  | 0, _, _ => none
  | fuel + 1, slot, u =>
    if u.head?.any slot.isEnd then some (.empty, u)
    else readNode handles fuel slot.inBlock slot.bareDashes u

def readSlotValue (handles : List (String × String)) : Nat → Slot → Unread → Option (Node × Unread)
  | 0, _, _ => none
  | fuel + 1, slot, u =>
    if u.head? = some .value then readSlot handles fuel slot u.next else some (.empty, u)

/-- Reads the items of a block; without indentation of its own it ends where there is no dash. -/
def readItems (handles : List (String × String)) : Nat → Slot → Unread → Option (List Node × Unread)
  | 0, _, _ => none
  | fuel + 1, slot, u =>
    match u.head? with
    | some .blockEntry => do
      let (n, u) ← readSlot handles fuel slot u.next
      let (rest, u) ← readItems handles fuel slot u
      return (n :: rest, u)
    | t =>
      if slot = .bareItem then some ([], u)
      else if t = some .blockEnd then some ([], u.next)
      else none

def readEntries (handles : List (String × String)) : Nat → Unread →
    Option (List (Node × Node) × Unread)
  | 0, _ => none
  | fuel + 1, u =>
    match u.head? with
    | some .key => do
      let (k, u) ← readSlot handles fuel .entry u.next
      let (v, u) ← readSlotValue handles fuel .entry u
      let (rest, u) ← readEntries handles fuel u
      return ((k, v) :: rest, u)
    | some .blockEnd => some ([], u.next)
    | _ => none

/-- Reads the items between brackets. An item may be a mapping of one entry without braces; where its
key is left out, the token that follows is passed over with it. -/
def readFlowItems (handles : List (String × String)) : Nat → Bool → Unread →
    Option (List Node × Unread)
  | 0, _, _ => none
  | fuel + 1, first, u => do
    if u.head? = some .flowSequenceEnd then return ([], u.next)
    let u ← if first then some u else if u.head? = some .flowEntry then some u.next else none
    match u.head? with
    | some .flowSequenceEnd => return ([], u.next)
    | some .key =>
      let u := u.next
      let (k, u) ← if u.head?.any Slot.flowItem.isEnd then some (.empty, u.next)
        else readNode handles fuel false false u
      let (v, u) ← readSlotValue handles fuel .flowItem u
      let (rest, u) ← readFlowItems handles fuel false u
      return (.mapping [(k, v)] :: rest, u)
    | _ =>
      let (n, u) ← readNode handles fuel false false u
      let (rest, u) ← readFlowItems handles fuel false u
      return (n :: rest, u)

def readFlowEntries (handles : List (String × String)) : Nat → Bool → Unread →
    Option (List (Node × Node) × Unread)
  | 0, _, _ => none
  | fuel + 1, first, u => do
    if u.head? = some .flowMappingEnd then return ([], u.next)
    let u ← if first then some u else if u.head? = some .flowEntry then some u.next else none
    match u.head? with
    | some .flowMappingEnd => return ([], u.next)
    | some .key =>
      let (k, u) ← readSlot handles fuel .flowEntry u.next
      let (v, u) ← readSlotValue handles fuel .flowEntry u
      let (rest, u) ← readFlowEntries handles fuel false u
      return ((k, v) :: rest, u)
    | _ =>
      let (k, u) ← readNode handles fuel false false u
      let (rest, u) ← readFlowEntries handles fuel false u
      return ((k, .empty) :: rest, u)
end

def defaultHandles : List (String × String) := [("!", "!"), ("!!", "tag:yaml.org,2002:")]

def readDirectives : Bool → List (String × String) → List Token →
    Option (List (String × String) × List Token)
  | versioned, handles, .version major minor :: rest =>
    if versioned || major ≠ 1 || (minor ≠ 1 && minor ≠ 2) then none
    else readDirectives true handles rest
  | versioned, handles, .tagShorthand handle lead :: rest =>
    if handles.any (·.1 = handle) then none
    else readDirectives versioned ((handle, lead) :: handles) rest
  | _, handles, rest => some (handles ++ defaultHandles, rest)

def readDocument (tokens : List Token) : Option (Node × Unread) := do
  let (handles, rest) ← readDirectives false [] tokens
  let fuel := 4 * tokens.length + 4
  match rest with
  | .documentStart :: rest =>
    if rest.isEmpty || rest.head?.any endsDocument then return (.empty, { tokens := rest })
    else readNode handles fuel true false { tokens := rest }
  | _ =>
    if rest.length = tokens.length then readNode handles fuel true false { tokens := rest } else none
where
  endsDocument : Token → Bool
    | .version .. | .tagShorthand .. | .documentStart | .documentEnd => true
    | _ => false

structure Document where
  root : Option Node
  anchors : List (Nat × Node)

/-- The node that a node stands for: of the anchored nodes with the number of an alias, the last. -/
def Document.resolve (d : Document) (n : Node) : Node :=
  match n.bare with
  | .alias number => ((d.anchors.reverse.lookup number).map Node.bare).getD .empty
  | n => n

def Document.ofTokens? (tokens : List Token) : Option Document :=
  if tokens.isEmpty then some ⟨none, []⟩
  else do
    let (root, u) ← readDocument tokens
    if u.tokens.all (· = .documentEnd) then return ⟨some root, root.anchors⟩ else none

def Document.ofText? (text : String) : Option Document := (Token.scan? text).bind Document.ofTokens?

end PromptKit.Yaml
