/-!
What can go wrong between a template and a prompt. Each constructor is a cause; its words, its code
and its context are functions of the cause.
-/
namespace PromptKit

inductive OpenConstruct where
  | directive
  | quotedString
  deriving DecidableEq, Repr

def OpenConstruct.text : OpenConstruct → String
  | .directive => "directive"
  | .quotedString => "quoted string"

inductive PromptError where
  /-- A construct that begins at this byte is never closed. -/
  | malformedTemplate (construct : OpenConstruct) (offset : Nat)
  | unknownFunction (name : String)
  | functionFailed (name message : String)
  | duplicateFunction (name : String)
  | cancelled
  | sectionTooLong (index length budget : Nat)
  | config (message : String) (context : Option String)
  | json (message : String)
  | io (message : String) (path : Option String)
  deriving DecidableEq, Repr

namespace PromptError

def message : PromptError → String
  | malformedTemplate construct offset =>
    "Malformed template: unterminated " ++ construct.text ++ " starting at byte " ++ toString offset
  | unknownFunction name => "Unknown function: " ++ name
  | functionFailed name text => "Function error: " ++ name ++ ": " ++ text
  | duplicateFunction name => "Function already registered: " ++ name
  | cancelled => "Render was cancelled"
  | sectionTooLong index length budget =>
    "Required section " ++ toString index ++ " needs " ++ toString length ++
      " tokens but only " ++ toString budget ++ " remain"
  | config text _ => "Configuration error: " ++ text
  | json text => "JSON error: " ++ text
  | io text _ => "IO error: " ++ text

def code : PromptError → String
  | malformedTemplate .. => "PROMPT_MALFORMED_TEMPLATE"
  | unknownFunction .. => "PROMPT_UNKNOWN_FUNCTION"
  | functionFailed .. => "PROMPT_FUNCTION"
  | duplicateFunction .. => "PROMPT_DUPLICATE_FUNCTION"
  | cancelled => "PROMPT_CANCELLED"
  | sectionTooLong .. => "PROMPT_SECTION_TOO_LONG"
  | config .. => "PROMPT_CONFIG"
  | json .. => "PROMPT_JSON"
  | io .. => "PROMPT_IO"

def context? : PromptError → Option String
  | config _ context => context
  | io _ path => path
  | _ => none

def isCompileError : PromptError → Bool
  | malformedTemplate .. => true
  | _ => false

end PromptError

section Results

variable {ε α β : Type} {result : Except ε α} {f : α → β}

theorem eq_error_of_map {e : ε} (failed : result.map f = .error e) : result = .error e := by
  cases result with
  | error own => rw [Except.error.inj failed]
  | ok a => cases failed

theorem exists_ok_of_map {b : β} (done : result.map f = .ok b) : ∃ a, result = .ok a ∧ f a = b := by
  cases result with
  | error e => cases done
  | ok a => exact ⟨a, rfl, Except.ok.inj done⟩

end Results

end PromptKit
