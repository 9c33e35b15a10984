import Mathlib.Data.List.TakeWhile
import PromptKit.Proofs.Template.Reprinting

/-!
The body of a hole as stretches, read from left to right: characters outside of quotes, and quoted runs, of
which the end of the body may close the last. Every body is such a row in one way, and its words are the
words of its stretches.
-/
namespace PromptKit.Template

inductive Stretch where
  | bare (cs : List Char)
  | quoted (inside : List Char)
  deriving DecidableEq

namespace Stretch

def fields : Stretch → List (List Char)
  | bare cs => cs.splitOn ' '
  | quoted inside => [inside]

def words (s : Stretch) : List (List Char) := s.fields.filter fun field => !field.isEmpty

def letters : Stretch → List Char
  | bare cs => cs.filter (· ≠ ' ')
  | quoted inside => inside

end Stretch

def tokens (ss : List Stretch) : List String := (ss.flatMap Stretch.words).map String.ofList

/-- The stretches of a body. One of bare characters ends at a quote or at the end. -/
inductive Splits : List Char → List Stretch → Prop
  | nil : Splits [] []
  | bare {cs rest : List Char} {ss : List Stretch} (filled : cs ≠ [])
      (unquoted : ∀ c ∈ cs, isQuote c = false) (stops : ∀ c ∈ rest.head?, isQuote c = true)
      (later : Splits rest ss) : Splits (cs ++ rest) (.bare cs :: ss)
  | closed {quote : Char} {inside rest : List Char} {ss : List Stretch} (opens : isQuote quote = true)
      (absent : quote ∉ inside) (later : Splits rest ss) :
      Splits (quote :: (inside ++ quote :: rest)) (.quoted inside :: ss)
  | unclosed {quote : Char} {inside : List Char} (opens : isQuote quote = true) (absent : quote ∉ inside) :
      Splits (quote :: inside) [.quoted inside]

variable {body cs held inside rest : List Char} {ss : List Stretch} {c quote : Char}

section Words

theorem consWord_eq (held : List Char) (more : List (List Char)) :
    consWord held more = ([held.reverse].filter fun word => !word.isEmpty) ++ more := by
  cases held <;> simp [consWord]

theorem wordsFrom_of_stops (held : List Char) (stops : ∀ c ∈ rest.head?, isQuote c = true) :
    wordsFrom none held rest = consWord held (words rest) := by
  cases rest with
  | nil => rfl
  | cons c rest =>
    have opens : isQuote c = true := stops c rfl
    rw [words, wordsFrom, wordsFrom, if_pos opens, if_pos opens, consWord_nil]

/-- Outside of quotes, words are gathered as a list is split at each space. -/
theorem wordsFrom_stretch (held : List Char) (unquoted : ∀ c ∈ cs, isQuote c = false)
    (stops : ∀ c ∈ rest.head?, isQuote c = true) :
    wordsFrom none held (cs ++ rest) =
      ((cs.splitOnPPrepend (· == ' ') held).filter fun field => !field.isEmpty) ++ words rest := by
  induction cs generalizing held with
  | nil => rw [List.nil_append, wordsFrom_of_stops held stops, consWord_eq, List.splitOnPPrepend_nil]
  | cons c cs ih =>
    obtain ⟨bare, later⟩ := List.forall_mem_cons.mp unquoted
    rw [List.cons_append, wordsFrom, if_neg (by simp [bare])]
    by_cases space : c = ' '
    · rw [if_pos space, ih [] later, consWord_eq, List.splitOnPPrepend, if_pos (by simp [space]),
        ← List.append_assoc, ← List.filter_append, List.singleton_append]
    · rw [if_neg space, ih (c :: held) later, List.splitOnPPrepend, if_neg (by simp [space])]

theorem wordsFrom_unclosed (held : List Char) (absent : quote ∉ inside) :
    wordsFrom (some quote) held inside = consWord (inside.reverse ++ held) [] := by
  induction inside generalizing held with
  | nil => rfl
  | cons c inside ih =>
    obtain ⟨other, absent⟩ := List.ne_and_not_mem_of_not_mem_cons absent
    rw [wordsFrom, if_neg (Ne.symm other), ih _ absent]
    simp

theorem Splits.words_eq (splits : Splits body ss) : words body = ss.flatMap Stretch.words := by
  induction splits with
  | nil => rfl
  | bare _ unquoted stops _ ih =>
    rw [words, wordsFrom_stretch [] unquoted stops, ih]
    rfl
  | closed opens absent _ ih =>
    rw [words, wordsFrom, if_pos opens, consWord_nil, wordsFrom_run [] _ absent, ih, consWord_eq]
    simp [Stretch.words, Stretch.fields]
  | unclosed opens absent =>
    rw [words, wordsFrom, if_pos opens, consWord_nil, wordsFrom_unclosed [] absent, consWord_eq]
    simp [Stretch.words, Stretch.fields]

theorem flatten_splitOn_space (cs : List Char) : (cs.splitOn ' ').flatten = cs.filter (· ≠ ' ') := by
  rw [List.splitOn_eq_splitOnP]
  induction cs with
  | nil => rfl
  | cons c cs ih =>
    rw [List.splitOnP_cons_eq_if_modifyHead]
    by_cases space : c = ' '
    · simp [space, ih]
    · rw [if_neg (by simp [space]), List.filter_cons_of_pos (by simp [space]), ← ih]
      cases split : cs.splitOnP (· == ' ') with
      | nil => exact absurd split (List.splitOnP_ne_nil _ cs)
      | cons first more => rfl

theorem Stretch.flatten_words (s : Stretch) : s.words.flatten = s.letters := by
  rw [words, List.flatten_filter_not_isEmpty]
  cases s with
  | bare cs => exact flatten_splitOn_space cs
  | quoted inside => exact List.flatten_singleton

theorem flatten_words_eq_letters (ss : List Stretch) :
    (ss.flatMap Stretch.words).flatten = ss.flatMap Stretch.letters := by
  induction ss with
  | nil => rfl
  | cons s ss ih => rw [List.flatMap_cons, List.flatMap_cons, List.flatten_append, s.flatten_words, ih]

end Words

section Unique

theorem exists_splits (body : List Char) : ∃ ss, Splits body ss := by
  match body with
  | [] => exact ⟨[], .nil⟩
  | c :: rest =>
    by_cases opens : isQuote c = true
    · by_cases more : c ∈ rest
      · obtain ⟨inside, after, spelt, absent⟩ := List.eq_append_cons_of_mem more
        have shorter : after.length < (c :: rest).length := by simp [spelt]; omega
        obtain ⟨ss, later⟩ := exists_splits after
        rw [spelt]
        exact ⟨_, .closed opens absent later⟩
      · exact ⟨_, .unclosed opens more⟩
    · have shorter : (rest.dropWhile (!isQuote ·)).length < (c :: rest).length :=
        Nat.lt_succ_of_le (List.length_dropWhile_le _ rest)
      obtain ⟨ss, later⟩ := exists_splits (rest.dropWhile (!isQuote ·))
      have spelt : c :: rest = (c :: rest.takeWhile (!isQuote ·)) ++ rest.dropWhile (!isQuote ·) := by
        rw [List.cons_append, List.takeWhile_append_dropWhile]
      rw [spelt]
      refine ⟨_, .bare (List.cons_ne_nil c _) ?_ ?_ later⟩
      · refine List.forall_mem_cons.mpr ⟨by simpa using opens, fun d mem => ?_⟩
        simpa using List.mem_takeWhile_imp mem
      · intro d first
        have stops := List.head?_dropWhile_not (!isQuote ·) rest
        rw [Option.mem_def.mp first] at stops
        simpa using stops
termination_by body.length
decreasing_by
  · exact shorter
  · exact shorter

theorem takeWhile_stretch (unquoted : ∀ c ∈ cs, isQuote c = false)
    (stops : ∀ c ∈ rest.head?, isQuote c = true) : (cs ++ rest).takeWhile (!isQuote ·) = cs := by
  rw [List.takeWhile_append_of_pos fun c mem => by simp [unquoted c mem]]
  cases rest with
  | nil => simp
  | cons c rest => simp [stops c rfl]

theorem Splits.of_bare (splits : Splits (cs ++ rest) ss) (filled : cs ≠ [])
    (unquoted : ∀ c ∈ cs, isQuote c = false) (stops : ∀ c ∈ rest.head?, isQuote c = true) :
    ∃ later, ss = .bare cs :: later ∧ Splits rest later := by
  obtain ⟨c, tail, rfl⟩ := List.exists_cons_of_ne_nil filled
  have first : isQuote c = false := unquoted c List.mem_cons_self
  generalize same : c :: tail ++ rest = body at splits
  cases splits with
  | nil => cases same
  | bare _ unquoted' stops' later =>
    have lead := takeWhile_stretch unquoted stops
    rw [same, takeWhile_stretch unquoted' stops'] at lead
    subst lead
    obtain rfl := List.append_cancel_left same
    exact ⟨_, rfl, later⟩
  | closed opens =>
    obtain ⟨rfl, _⟩ := List.cons.inj same
    rw [first] at opens
    contradiction
  | unclosed opens =>
    obtain ⟨rfl, _⟩ := List.cons.inj same
    rw [first] at opens
    contradiction

theorem Splits.of_quote (splits : Splits (quote :: rest) ss) (opens : isQuote quote = true) :
    (∃ inside, Text.splitFirst quote rest = (inside, none) ∧ ss = [.quoted inside]) ∨
    ∃ inside after later, Text.splitFirst quote rest = (inside, some after) ∧
      ss = .quoted inside :: later ∧ Splits after later := by
  generalize same : quote :: rest = body at splits
  cases splits with
  | nil => cases same
  | bare filled unquoted =>
    obtain ⟨c, tail, rfl⟩ := List.exists_cons_of_ne_nil filled
    obtain ⟨rfl, _⟩ := List.cons.inj same
    have first := unquoted quote List.mem_cons_self
    rw [opens] at first
    contradiction
  | closed _ absent later =>
    obtain ⟨rfl, rfl⟩ := List.cons.inj same
    exact .inr ⟨_, _, _, Text.splitFirst_eq_some_iff.mpr ⟨absent, rfl⟩, rfl, later⟩
  | unclosed _ absent =>
    obtain ⟨rfl, rfl⟩ := List.cons.inj same
    exact .inl ⟨_, Text.splitFirst_eq_none_iff.mpr ⟨absent, rfl⟩, rfl⟩

theorem Splits.of_nil (splits : Splits [] ss) : ss = [] := by
  generalize same : [] = body at splits
  cases splits with
  | nil => rfl
  | bare filled => exact absurd (List.append_eq_nil_iff.mp same.symm).1 filled
  | closed => cases same
  | unclosed => cases same

theorem Splits.unique {other : List Stretch} (splits : Splits body ss) (splits' : Splits body other) :
    other = ss := by
  induction splits generalizing other with
  | nil => exact splits'.of_nil
  | bare filled unquoted stops _ ih =>
    obtain ⟨later, rfl, parted⟩ := splits'.of_bare filled unquoted stops
    rw [ih parted]
  | @closed quote inside rest _ opens absent _ ih =>
    have first : Text.splitFirst quote (inside ++ quote :: rest) = (inside, some rest) :=
      Text.splitFirst_eq_some_iff.mpr ⟨absent, rfl⟩
    rcases splits'.of_quote opens with ⟨_, found, _⟩ | ⟨_, _, later, found, rfl, parted⟩
    · rw [first] at found
      cases found
    · rw [first] at found
      cases found
      rw [ih parted]
  | unclosed opens absent =>
    have first := Text.splitFirst_eq_none_iff.mpr ⟨absent, rfl⟩
    rcases splits'.of_quote opens with ⟨_, found, rfl⟩ | ⟨_, _, _, found, _⟩
    · rw [first] at found
      cases found
      rfl
    · rw [first] at found
      cases found

end Unique

theorem parseBody_eq (body : List Char) : parseBody body =
    (((words body).map String.ofList).headD "", ((words body).map String.ofList).tail) := by
  unfold parseBody
  cases words body <;> rfl

theorem headD_append_join_tail (texts : List String) :
    texts.headD "" ++ String.join texts.tail = String.join texts := by
  cases texts with
  | nil => rfl
  | cons text texts => exact String.join_cons.symm

/-- The name and the arguments of a body are the words of its stretches, in order, and nothing but the spaces
outside of quotes and the quotes around runs is left out of them. No word is empty, and none has every kind
of quote in it. -/
theorem parseBody_tokens (body : List Char) :
    ∃ ss, Splits body ss ∧ (∀ other, Splits body other → other = ss) ∧
      parseBody body = ((tokens ss).headD "", (tokens ss).tail) ∧
      (parseBody body).1 ++ String.join (parseBody body).2 = String.ofList (ss.flatMap Stretch.letters) ∧
      ∀ token ∈ tokens ss, token ≠ "" ∧ ∃ quote, isQuote quote = true ∧ quote ∉ token.toList := by
  obtain ⟨ss, splits⟩ := exists_splits body
  have read : parseBody body = ((tokens ss).headD "", (tokens ss).tail) := by
    rw [parseBody_eq, splits.words_eq]
    rfl
  refine ⟨ss, splits, fun other => splits.unique, read, ?_, fun token mem => ?_⟩
  · rw [read, headD_append_join_tail, tokens, join_ofList, flatten_words_eq_letters]
  · obtain ⟨word, inside, rfl⟩ := List.mem_map.mp mem
    rw [← splits.words_eq] at inside
    obtain ⟨filled, quote, opens, absent⟩ := quotable_of_mem_words inside
    rw [String.toList_ofList]
    exact ⟨by simpa using filled, quote, opens, absent⟩

/-- Bare words with a run between them, an empty run, and a run that is left open. -/
theorem open_run_is_last_word :
    let body := "f pre\x27a b\x27\x27\x27 \x22open x".toList
    let ss : List Stretch :=
      [.bare "f pre".toList, .quoted "a b".toList, .quoted [], .bare [' '], .quoted "open x".toList]
    Splits body ss ∧ parseBody body = ("f", ["pre", "a b", "open x"]) ∧
      ∀ token ∈ ["f", "pre", "a b", "open x"], ∃ quote, isQuote quote = true ∧ quote ∉ token.toList := by
  intro body ss
  have last : Splits "\x22open x".toList [.quoted "open x".toList] := .unclosed rfl (by decide)
  have spaced : Splits " \x22open x".toList (.bare [' '] :: _) :=
    .bare (List.cons_ne_nil ' ' []) (by simp [isQuote]) (fun _ first => by cases first; rfl) last
  have quoted : Splits "\x27a b\x27\x27\x27 \x22open x".toList (.quoted "a b".toList :: .quoted [] :: _) :=
    @Splits.closed '\x27' "a b".toList _ _ rfl (by decide) (.closed rfl List.not_mem_nil spaced)
  have splits : Splits body ss :=
    @Splits.bare "f pre".toList _ _ (by decide) (by simp [isQuote]) (fun _ first => by cases first; rfl) quoted
  obtain ⟨_, _, unique, read, _, quotable⟩ := parseBody_tokens body
  obtain rfl := unique ss splits
  exact ⟨splits, read, fun token mem => (quotable token mem).2⟩

end PromptKit.Template
