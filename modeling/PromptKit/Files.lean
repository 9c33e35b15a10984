import PromptKit.Text.Utf8

/-!
Files, as far as they are read: bytes under a path, or a reason why there are none.
-/
namespace PromptKit

inductive FileFault where
  | missing
  | denied
  | notDirectory
  | directory
  | notText
  deriving DecidableEq, Repr

def FileFault.message : FileFault → String
  | .missing => "No such file or directory (os error 2)"
  | .denied => "Permission denied (os error 13)"
  | .notDirectory => "Not a directory (os error 20)"
  | .directory => "Is a directory (os error 21)"
  | .notText => "stream did not contain valid UTF-8"

structure Files where
  bytes : String → Except FileFault (List UInt8)

def Files.text (files : Files) (path : String) : Except FileFault String := do
  match Text.ofUtf8? (← files.bytes path) with
  | some text => return text
  | none => throw .notText

/-- The ending of the name that a path leads to: what follows its last point. A name that begins with
its only point has none. -/
def extension? (path : String) : Option String :=
  let backwards := (path.toList.reverse.dropWhile (· = '/')).takeWhile (· ≠ '/')
  let ending := backwards.takeWhile (· ≠ '.')
  let stem := (backwards.drop ending.length).drop 1
  if stem.isEmpty || backwards = ['.', '.'] then none else some (String.ofList ending.reverse)

end PromptKit
