import PromptKit.Proofs.Prompt.Scalars

/-!
The tokenizer with one token for each character. A text is cut at its characters and put together at its
tokens; and of any list of tokens, decoding keeps those that name a character.
-/
namespace PromptKit.Tokenizer

/-- The tokens that name no character: the surrogates, and all above the last code point. -/
def NamesNone (token : UInt32) : Prop := (0xD800 ≤ token ∧ token ≤ 0xDFFF) ∨ 0x10FFFF < token

instance (token : UInt32) : Decidable (NamesNone token) :=
  inferInstanceAs (Decidable ((0xD800 ≤ token ∧ token ≤ 0xDFFF) ∨ 0x10FFFF < token))

variable {token : UInt32}

theorem isValidChar_iff : token.isValidChar ↔ ¬ NamesNone token := by
  have bounds : NamesNone token ↔
      (0xD800 ≤ token.toNat ∧ token.toNat ≤ 0xDFFF) ∨ 0x10FFFF < token.toNat := by
    rw [NamesNone, UInt32.le_iff_toNat_le, UInt32.le_iff_toNat_le, UInt32.lt_iff_toNat_lt]
    rfl
  rw [bounds, UInt32.isValidChar, Nat.isValidChar]
  omega

theorem scalar?_of_namesNone (nameless : NamesNone token) : scalar? token = none :=
  dif_neg fun valid => isValidChar_iff.mp valid nameless

theorem exists_scalar?_of_names (names : ¬ NamesNone token) :
    ∃ c, scalar? token = some c ∧ c.val = token :=
  ⟨⟨token, isValidChar_iff.mpr names⟩, dif_pos (isValidChar_iff.mpr names), rfl⟩

theorem encode_ofList_chars (cs : List Char) : chars.encode (String.ofList cs) = cs.map (·.val) := by
  simp only [chars, String.toList_ofList]

theorem encode_append_chars (first second : String) :
    chars.encode (first ++ second) = chars.encode first ++ chars.encode second := by
  simp only [chars, String.toList_append, List.map_append]

theorem encode_take_chars (count : Nat) (text : String) :
    chars.encode (chars.take count text) = (chars.encode text).take count := by
  rw [take_chars, encode_ofList_chars, List.map_take]
  rfl

theorem encode_decode_chars (tokens : List UInt32) :
    chars.encode (chars.decode tokens) = tokens.filter fun token => ¬ NamesNone token := by
  rw [show chars.decode tokens = String.ofList (tokens.filterMap scalar?) from rfl, encode_ofList_chars]
  induction tokens with
  | nil => rfl
  | cons token rest ih =>
    by_cases nameless : NamesNone token
    · rw [List.filterMap_cons_none (scalar?_of_namesNone nameless), ih]
      exact (List.filter_cons_of_neg (by simpa using nameless)).symm
    · obtain ⟨c, named, same⟩ := exists_scalar?_of_names nameless
      rw [List.filterMap_cons_some named, List.map_cons, same, ih]
      exact (List.filter_cons_of_pos (by simpa using nameless)).symm

/-- Nothing of a text is lost, a text is cut just at its characters, and tokens are lost just where they name
no character. -/
theorem chars_lossless_on_scalars :
    (∀ (text : String) (count : Nat),
      chars.decode ((chars.encode text).take count) = String.ofList (text.toList.take count) ∧
      chars.encode (chars.decode ((chars.encode text).take count)) = (chars.encode text).take count) ∧
    (∀ text : String, chars.decode (chars.encode text) = text) ∧
    (∀ first second : String, chars.encode (first ++ second) = chars.encode first ++ chars.encode second) ∧
    (∀ tokens : List UInt32,
      chars.encode (chars.decode tokens) = tokens.filter fun token => ¬ NamesNone token) ∧
    ∀ tokens : List UInt32,
      chars.encode (chars.decode tokens) = tokens ↔ ∀ token ∈ tokens, ¬ NamesNone token := by
  refine ⟨fun text count => ⟨take_chars count text, encode_take_chars count text⟩, fun text => ?_,
    encode_append_chars, encode_decode_chars, fun tokens => ?_⟩
  · simp only [chars, filterMap_scalar?, String.ofList_toList]
  · rw [encode_decode_chars, List.filter_eq_self]
    simp only [decide_eq_true_eq]

/-- The bounds of the surrogates and of the last code point. -/
example : chars.encode (chars.decode [0xD7FF, 0xD800, 0xDFFF, 0xE000, 0x10FFFF, 0x110000]) =
    [0xD7FF, 0xE000, 0x10FFFF] := by decide

end PromptKit.Tokenizer
