import PromptKit.Template.Arguments

/-!
How the words of a body are gathered: bare characters collect until a space, a quote or the end, and
a quoted run is one word up to its closing quote.
-/
namespace PromptKit.Template

@[simp] theorem consWord_nil (words : List (List Char)) : consWord [] words = words := rfl

theorem consWord_reverse {word : List Char} (filled : word ≠ []) (words : List (List Char)) :
    consWord word.reverse words = word :: words := by
  have filled : word.reverse.isEmpty = false := by simpa using filled
  rw [consWord, filled, List.reverse_reverse]
  rfl

theorem words_space (rest : List Char) : words (' ' :: rest) = words rest := rfl

theorem wordsFrom_bare {word : List Char} (held rest : List Char)
    (bare : ∀ c ∈ word, isQuote c = false ∧ c ≠ ' ') :
    wordsFrom none held (word ++ rest) = wordsFrom none (word.reverse ++ held) rest := by
  induction word generalizing held with
  | nil => rfl
  | cons c word ih =>
    obtain ⟨⟨unquoted, unspaced⟩, bare⟩ := List.forall_mem_cons.mp bare
    rw [List.cons_append, wordsFrom, if_neg (by simp [unquoted]), if_neg unspaced, ih _ bare]
    simp

theorem wordsFrom_run {quote : Char} {inside : List Char} (held rest : List Char)
    (absent : quote ∉ inside) :
    wordsFrom (some quote) held (inside ++ quote :: rest) =
      consWord (inside.reverse ++ held) (words rest) := by
  induction inside generalizing held with
  | nil => simp [wordsFrom, words]
  | cons c inside ih =>
    obtain ⟨other, absent⟩ := List.ne_and_not_mem_of_not_mem_cons absent
    rw [List.cons_append, wordsFrom, if_neg (Ne.symm other), ih _ absent]
    simp

theorem words_bare {word rest : List Char} (filled : word ≠ [])
    (bare : ∀ c ∈ word, isQuote c = false ∧ c ≠ ' ') (ends : rest = [] ∨ [' '] <+: rest) :
    words (word ++ rest) = word :: words rest := by
  rw [words, wordsFrom_bare [] rest bare, List.append_nil]
  rcases ends with rfl | ⟨tail, rfl⟩
  · exact consWord_reverse filled []
  · exact consWord_reverse filled (words tail)

theorem words_run {quote : Char} {inside : List Char} (filled : inside ≠ [])
    (opens : isQuote quote = true) (absent : quote ∉ inside) (rest : List Char) :
    words (quote :: (inside ++ quote :: rest)) = inside :: words rest := by
  have entered : words (quote :: (inside ++ quote :: rest)) =
      wordsFrom (some quote) [] (inside ++ quote :: rest) := by
    rw [words, wordsFrom, if_pos opens, consWord_nil]
  rw [entered, wordsFrom_run [] rest absent, List.append_nil, consWord_reverse filled]

theorem join_ofList (gathered : List (List Char)) :
    String.join (gathered.map String.ofList) = String.ofList gathered.flatten := by
  apply String.toList_inj.mp
  rw [String.toList_join, String.toList_ofList]
  simp [List.flatMap_map]

theorem parseBody_of_words {body : List Char} {name : String} {args : List String}
    (split : words body = name.toList :: args.map String.toList) : parseBody body = (name, args) := by
  have same : String.ofList ∘ String.toList = id := funext fun _ => String.ofList_toList
  rw [parseBody, split]
  simp [same]

end PromptKit.Template
