import PromptKit.Memory

/-!
Edits of a memory, one after another. An edit that fails leaves the memory as it was.
-/
namespace PromptKit

open Json (Value)

inductive Memory.Edit where
  | set (key : String) (value : Value)
  | delete (key : String)
  | replace (value : Value)
  | replaceText (text : String)

namespace Memory

def edited (m : Memory) : Edit → Except PromptError Memory
  | .set key value => .ok (m.set key value)
  | .delete key => .ok (m.delete key)
  | .replace value => ofJson value
  | .replaceText text => ofText text

def edit (m : Memory) (e : Edit) : Memory × Option PromptError :=
  match m.edited e with
  | .ok m => (m, none)
  | .error error => (m, some error)

def editAll (m : Memory) (edits : List Edit) : Memory :=
  edits.foldl (fun m e => (m.edit e).1) m

end Memory

end PromptKit
