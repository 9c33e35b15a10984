/-!
What can be wrong with a JSON text, and where. A line is counted from one, a column is the number of
bytes before it on its line.
-/
namespace PromptKit.Json

inductive Reason where
  | listCutShort
  | objectCutShort
  | stringCutShort
  | valueCutShort
  | expectedColon
  | expectedCommaOrBracket
  | expectedCommaOrBrace
  | expectedWord
  | expectedValue
  | invalidEscape
  | invalidNumber
  | numberOutOfRange
  | controlCharacter
  | keyNotString
  | loneSurrogate
  | trailingComma
  | trailingCharacters
  | hexEscapeCutShort
  | tooDeep
  /-- The text is JSON, but not of the shape that was asked for. -/
  | misfit (message : String)
  deriving DecidableEq

def Reason.text : Reason → String
  | .listCutShort => "EOF while parsing a list"
  | .objectCutShort => "EOF while parsing an object"
  | .stringCutShort => "EOF while parsing a string"
  | .valueCutShort => "EOF while parsing a value"
  | .expectedColon => "expected \x60:\x60"
  | .expectedCommaOrBracket => "expected \x60,\x60 or \x60]\x60"
  | .expectedCommaOrBrace => "expected \x60,\x60 or \x60\x7d\x60"
  | .expectedWord => "expected ident"
  | .expectedValue => "expected value"
  | .invalidEscape => "invalid escape"
  | .invalidNumber => "invalid number"
  | .numberOutOfRange => "number out of range"
  | .controlCharacter => "control character (\\u0000-\\u001F) found while parsing a string"
  | .keyNotString => "key must be a string"
  | .loneSurrogate => "lone leading surrogate in hex escape"
  | .trailingComma => "trailing comma"
  | .trailingCharacters => "trailing characters"
  | .hexEscapeCutShort => "unexpected end of hex escape"
  | .tooDeep => "recursion limit exceeded"
  | .misfit message => message

structure Fault where
  reason : Reason
  line : Nat
  column : Nat
  deriving DecidableEq

def Fault.text (f : Fault) : String :=
  f.reason.text ++ " at line " ++ toString f.line ++ " column " ++ toString f.column

end PromptKit.Json
