import PromptKit.Command.Run
import Std.Time.Format

/-!
The program: reads the files that a command asks for, runs it, and prints what it came to.
-/
namespace PromptKit

def readPath (path : String) : IO (Except FileFault (List UInt8)) := do
  try
    return .ok (← IO.FS.readBinFile path).toList
  catch e =>
    match e with
    | .noFileOrDirectory .. => return .error .missing
    | .permissionDenied .. => return .error .denied
    | .inappropriateType .. => return .error .directory
    | _ => return .error .missing

def currentClock : IO Clock := do
  let now ← Std.Time.PlainDateTime.now
  return ⟨now.year.toInt.toNat, now.month.toNat, now.day.toNat, now.hour.toNat, now.minute.toNat,
    now.second.toInt.toNat⟩

end PromptKit

open PromptKit in
def main (args : List String) : IO UInt32 := do
  let environment ← IO.getEnv "PROMPTWEAVE_MAX_TOKENS"
  let paths := match Command.ofArgs environment args with
    | .ok c => c.paths
    | .error _ => []
  let contents ← paths.mapM fun path => return (path, ← readPath path)
  let files : Files := ⟨fun path => (contents.lookup path).getD (.error .missing)⟩
  let outcome := Command.runArgs files (← currentClock) environment args
  (← IO.getStdout).putStr outcome.stdout
  (← IO.getStderr).putStr outcome.stderr
  return UInt32.ofNat outcome.exit
