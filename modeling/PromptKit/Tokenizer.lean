import PromptKit.Text.Utf8

/-!
Tokenizers: any pair of functions between text and lists of 32-bit tokens. Nothing is asked of the
pair here; the one-token-a-character tokenizer is lossless.
-/
namespace PromptKit

structure Tokenizer where
  encode : String → List UInt32
  decode : List UInt32 → String

namespace Tokenizer

/-- The length of a text in tokens; the empty text has length zero under every tokenizer. -/
def count (t : Tokenizer) (text : String) : Nat :=
  if text.isEmpty then 0 else (t.encode text).length

def take (t : Tokenizer) (n : Nat) (text : String) : String :=
  t.decode ((t.encode text).take n)

def scalar? (token : UInt32) : Option Char :=
  if valid : token.isValidChar then some ⟨token, valid⟩ else none

/-- One token a character; tokens that name no character are skipped. -/
def chars : Tokenizer where
  encode text := text.toList.map (·.val)
  decode tokens := String.ofList (tokens.filterMap scalar?)

def bytes : Tokenizer where
  encode text := (Text.utf8Bytes text.toList).map fun b => UInt32.ofNat b.toNat
  decode tokens := Text.ofUtf8Lossy (tokens.map fun t => UInt8.ofNat t.toNat)

end Tokenizer

end PromptKit
