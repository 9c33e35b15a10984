import PromptKit.Config.Reading
import PromptKit.Files
import PromptKit.Json.Shaped
import PromptKit.Toml.Shaped
import PromptKit.Yaml.Shaped

/-!
Loading a configuration from a file. The ending of its name says in which format it is written; a
configuration that was loaded is valid.
-/
namespace PromptKit

inductive Format where
  | json
  | toml
  | yaml
  deriving DecidableEq, Repr

def Format.name : Format → String
  | .json => "JSON"
  | .toml => "TOML"
  | .yaml => "YAML"

/-- The format of a file; an ending that is not known stands for JSON. -/
def Format.ofPath (path : String) : Format :=
  match extension? path with
  | some "toml" => .toml
  | some "yaml" => .yaml
  | some "yml" => .yaml
  | _ => .json

def Format.read (f : Format) (s : Shape) (text : String) : Except (Option Json.Fault) Datum :=
  match f with
  | .json => (Json.parseShape s text).mapError some
  | .toml => (Toml.parseShape? s text).elim (.error none) .ok
  | .yaml => (Yaml.parseShape? s text).elim (.error none) .ok

def Format.error (f : Format) (path : String) (fault : Option Json.Fault) : PromptError :=
  .config
    ("Failed to parse " ++ f.name ++ " config" ++ (fault.map (": " ++ ·.text)).getD "")
    (some ("Deserializing " ++ f.name ++ " configuration from \x27" ++ path ++ "\x27"))

namespace PromptConfig

def ofText (f : Format) (path text : String) : Except PromptError PromptConfig :=
  match f.read (Readable.shape PromptConfig) text with
  | .ok d => .ok (Readable.ofDatum d)
  | .error fault => .error (f.error path fault)

def load (files : Files) (path : String) : Except PromptError PromptConfig :=
  match files.text path with
  | .error fault => .error (.io ("Failed to read prompt config: " ++ fault.message) (some path))
  | .ok text => do
    let config ← ofText (.ofPath path) path text
    config.validate
    return config

end PromptConfig

end PromptKit
