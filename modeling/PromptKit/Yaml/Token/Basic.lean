import PromptKit.Yaml.Plain

/-!
The tokens of YAML. Indentation is made explicit: a block that opens or closes has a token of its own.
-/
namespace PromptKit.Yaml

inductive Written where
  | plain
  | quoted
  | literal
  | folded
  deriving DecidableEq, Repr

inductive Token where
  | version (major minor : Nat)
  | tagShorthand (handle lead : String)
  | documentStart
  | documentEnd
  | blockSequenceStart
  | blockMappingStart
  | blockEnd
  | flowSequenceStart
  | flowSequenceEnd
  | flowMappingStart
  | flowMappingEnd
  | blockEntry
  | flowEntry
  | key
  | value
  | alias (name : String)
  | anchor (name : String)
  | tag (handle suffix : String)
  | scalar (text : String) (written : Written)
  deriving DecidableEq, Repr

end PromptKit.Yaml
