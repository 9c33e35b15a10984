import Mathlib.Data.List.Chain
import PromptKit.Proofs.Template.Reading
import PromptKit.Proofs.Template.Words

/-!
Directives that are written back as template text compile to themselves, one by one and in a row,
where no two of them run together.
-/
namespace PromptKit.Template

def Braceless (body : List Char) : Prop := ∃ ps, spell ps = body ∧ .brace ∉ ps

theorem markerFree_of_spell {ps : List Piece} (unmarked : ¬ closing <:+: spell ps) : MarkerFree ps := by
  intro marker
  obtain ⟨before, after, spelt⟩ := marker
  refine unmarked ⟨spell before, spell after, ?_⟩
  rw [← spelt]
  simp [Piece.brace, Piece.chars, closing]

theorem not_brace_suffix_of_spell {ps : List Piece} (last : ¬ ['\x7d'] <:+ spell ps) :
    ¬ [.brace] <:+ ps := by
  intro ends
  obtain ⟨before, spelt⟩ := ends
  refine last ⟨spell before, ?_⟩
  rw [← spelt]
  simp [Piece.brace, Piece.chars]

theorem spell_plain {cs : List Char} (unquoted : ∀ c ∈ cs, isQuote c = false) :
    spell (cs.pmap Piece.plain unquoted) = cs := by
  induction cs with
  | nil => rfl
  | cons c cs ih =>
    have rest := ih fun d mem => unquoted d (List.mem_cons_of_mem c mem)
    rw [List.pmap_cons, spell_cons, rest]
    rfl

theorem isBody_of_unquoted {cs : List Char} (unquoted : ∀ c ∈ cs, isQuote c = false)
    (unmarked : ¬ closing <:+: cs) (last : ¬ ['\x7d'] <:+ cs) : IsBody cs := by
  refine ⟨cs.pmap Piece.plain unquoted, spell_plain unquoted, markerFree_of_spell ?_,
    not_brace_suffix_of_spell ?_⟩
  · rwa [spell_plain unquoted]
  · rwa [spell_plain unquoted]

namespace Braceless

variable {cs ds : List Char}

theorem nil : Braceless [] := ⟨[], rfl, by simp⟩

theorem append (first : Braceless cs) (second : Braceless ds) : Braceless (cs ++ ds) := by
  obtain ⟨ps, rfl, absent⟩ := first
  obtain ⟨qs, rfl, absent'⟩ := second
  exact ⟨ps ++ qs, spell_append ps qs, by simp [absent, absent']⟩

theorem of_bare (unquoted : ∀ c ∈ cs, isQuote c = false) (noBrace : '\x7d' ∉ cs) : Braceless cs := by
  refine ⟨cs.pmap Piece.plain unquoted, spell_plain unquoted, ?_⟩
  intro mem
  obtain ⟨c, inside, same⟩ := List.mem_pmap.mp mem
  cases same
  exact noBrace inside

theorem space : Braceless [' '] := .of_bare (by simp [isQuote]) (by simp)

theorem of_run {quote : Char} (opens : isQuote quote = true) (absent : quote ∉ cs) :
    Braceless (quote :: (cs ++ [quote])) := by
  refine ⟨[.run quote cs opens absent], by simp [Piece.chars], ?_⟩
  intro mem
  cases List.mem_singleton.mp mem

theorem isBody (braceless : Braceless cs) : IsBody cs := by
  obtain ⟨ps, rfl, absent⟩ := braceless
  refine ⟨ps, rfl, fun marker => absent ?_, fun ends => absent ?_⟩
  · exact marker.subset List.mem_cons_self
  · exact ends.subset List.mem_cons_self

end Braceless

/-- A word as it is written: it holds no closing brace outside of quotes, and it is read back whole
where a space or the end comes next. -/
structure Written (isName : Bool) (word text : List Char) : Prop where
  braceless : Braceless text
  filled : text ≠ []
  notLookup : isName = true → ¬ ['$'] <+: text
  read : ∀ rest, rest = [] ∨ [' '] <+: rest → words (text ++ rest) = word :: words rest

theorem standsBare_iff {isName : Bool} {word : List Char} :
    standsBare isName word = true ↔
      (∀ c ∈ word, c ≠ ' ' ∧ c ≠ '\x7d' ∧ isQuote c = false) ∧ (isName = true → ¬ ['$'] <+: word) := by
  cases isName <;> cases word <;> simp [standsBare, and_assoc, eq_comm (a := '$')]

theorem written_of_writeWord {isName : Bool} {word text : List Char}
    (wrote : writeWord isName word = some text) : Written isName word text := by
  unfold writeWord at wrote
  split at wrote
  · contradiction
  rename_i filled
  have filled : word ≠ [] := by simpa using filled
  split at wrote
  · rename_i stands
    obtain ⟨bare, notLookup⟩ := standsBare_iff.mp stands
    cases Option.some.inj wrote
    refine ⟨?_, filled, notLookup, fun rest ends => ?_⟩
    · exact .of_bare (fun c mem => (bare c mem).2.2) (fun mem => (bare _ mem).2.1 rfl)
    · exact words_bare filled (fun c mem => ⟨(bare c mem).2.2, (bare c mem).1⟩) ends
  · obtain ⟨quote, found, rfl⟩ := Option.map_eq_some_iff.mp wrote
    have absent : quote ∉ word := by simpa using List.find?_some found
    have opens : isQuote quote = true := by
      have mem := List.mem_of_find?_eq_some found
      simp only [List.mem_cons, List.not_mem_nil, or_false] at mem
      rcases mem with rfl | rfl | rfl <;> decide
    refine ⟨.of_run opens absent, by simp, fun _ looks => ?_, fun rest _ => ?_⟩
    · obtain ⟨same, _⟩ := List.cons_prefix_cons.mp looks
      subst same
      exact absurd opens (by decide)
    · simpa using words_run filled opens absent rest

theorem written_of_writeArgs {args : List String} {text : List Char}
    (wrote : writeArgs args = some text) :
    Braceless text ∧ (text = [] ∨ [' '] <+: text) ∧ words text = args.map String.toList := by
  induction args generalizing text with
  | nil =>
    cases Option.some.inj wrote
    exact ⟨.nil, .inl rfl, rfl⟩
  | cons arg args ih =>
    obtain ⟨word, wroteWord, wrote⟩ := Option.bind_eq_some_iff.mp wrote
    obtain ⟨more, wroteMore, wrote⟩ := Option.bind_eq_some_iff.mp wrote
    cases Option.some.inj wrote
    have first := written_of_writeWord wroteWord
    obtain ⟨braceless, ends, split⟩ := ih wroteMore
    refine ⟨(Braceless.space.append first.braceless).append braceless, .inr ⟨word ++ more, rfl⟩, ?_⟩
    rw [List.cons_append, words_space, first.read more ends, split]
    rfl

theorem bodyDirective_of_words {body : List Char} {name : String} {args : List String}
    (filled : body ≠ []) (notLookup : ¬ ['$'] <+: body)
    (split : words body = name.toList :: args.map String.toList) :
    bodyDirective body = [.call name args] := by
  rw [bodyDirective_call filled notLookup, parseBody_of_words split]

namespace Directive

def isText : Directive → Bool
  | .text _ => true
  | _ => false

def Apart : Directive → Directive → Prop
  | .text _, .text _ => False
  | .text content, _ => ¬ ['\x7b'] <:+ content.toList
  | _, _ => True

theorem eq_text_of_isText {d : Directive} (isText : d.isText = true) : ∃ content, d = .text content := by
  cases d with
  | text content => exact ⟨content, rfl⟩
  | lookup key => contradiction
  | call name args => contradiction

theorem apart_of_text {content : String} {e : Directive} {ds : List Directive}
    (apart : (Directive.text content :: ds).IsChain Apart) (next : ds.head? = some e) :
    e.isText = false ∧ ¬ ['\x7b'] <:+ content.toList := by
  cases ds with
  | nil => contradiction
  | cons e' ds =>
    cases Option.some.inj next
    have apart := (List.isChain_cons_cons.mp apart).1
    cases e with
    | text content' => exact absurd apart id
    | lookup key => exact ⟨rfl, apart⟩
    | call name args => exact ⟨rfl, apart⟩

theorem chars?_text {content : String} {cs : List Char}
    (wrote : (Directive.text content).chars? = some cs) :
    cs = content.toList ∧ cs ≠ [] ∧ ¬ opening <:+: cs := by
  simp only [chars?] at wrote
  split at wrote
  · contradiction
  rename_i whole
  cases Option.some.inj wrote
  simp only [Bool.or_eq_true, not_or, Text.occursIn_iff] at whole
  exact ⟨rfl, by simpa using whole.1, whole.2⟩

theorem not_cutShort_iff {key : List Char} :
    cutShort key = false ↔
      (∀ c ∈ key, isQuote c = false) ∧ ¬ closing <:+: key ∧ ¬ ['\x7d'] <:+ key := by
  have occurs : Text.occursIn closing key = false ↔ ¬ closing <:+: key := by
    rw [← Text.occursIn_iff, Bool.not_eq_true]
  simp only [cutShort, Bool.or_eq_false_iff, List.any_eq_false, occurs, Bool.not_eq_true,
    decide_eq_false_iff_not, List.singleton_suffix_iff_getLast?_eq_some, and_assoc]

theorem isBody_lookup {key : List Char} (whole : cutShort key = false) : IsBody ('$' :: key) := by
  obtain ⟨unquoted, unmarked, last⟩ := not_cutShort_iff.mp whole
  exact isBody_dollar_iff.mpr (isBody_of_unquoted unquoted unmarked last)

theorem chars?_call {name : String} {args : List String} {cs : List Char}
    (wrote : (Directive.call name args).chars? = some cs) :
    ∃ body, cs = opening ++ body ++ closing ∧ IsBody body ∧ bodyDirective body = [.call name args] := by
  simp only [chars?] at wrote
  split at wrote
  · rename_i unnamed
    split at wrote
    · rename_i noArgs
      cases Option.some.inj wrote
      have empty : name = "" ∧ args = [] := by simpa using And.intro unnamed noArgs
      rw [empty.1, empty.2]
      exact ⟨[' '], rfl, Braceless.space.isBody, rfl⟩
    · contradiction
  · obtain ⟨word, wroteWord, wrote⟩ := Option.bind_eq_some_iff.mp wrote
    obtain ⟨more, wroteMore, wrote⟩ := Option.bind_eq_some_iff.mp wrote
    cases Option.some.inj wrote
    have first := written_of_writeWord wroteWord
    obtain ⟨braceless, ends, split⟩ := written_of_writeArgs wroteMore
    have notLookup : ¬ ['$'] <+: word ++ more := by
      obtain ⟨c, tail, spelt⟩ := List.exists_cons_of_ne_nil first.filled
      have other := first.notLookup rfl
      simp only [spelt, List.cons_append, List.cons_prefix_cons] at other ⊢
      exact fun looks => other ⟨looks.1, List.nil_prefix⟩
    refine ⟨word ++ more, by simp, (first.braceless.append braceless).isBody, ?_⟩
    refine bodyDirective_of_words (by simp [first.filled]) notLookup ?_
    rw [first.read more ends, split]

theorem chars?_hole {d : Directive} {cs : List Char} (dynamic : d.isText = false)
    (wrote : d.chars? = some cs) :
    ∃ body, cs = opening ++ body ++ closing ∧ IsBody body ∧ bodyDirective body = [d] := by
  cases d with
  | text content => contradiction
  | lookup key =>
    simp only [chars?] at wrote
    split at wrote
    · contradiction
    rename_i whole
    cases Option.some.inj wrote
    exact ⟨'$' :: key.toList, rfl, isBody_lookup (by simpa using whole), by simp [bodyDirective]⟩
  | call name args => exact chars?_call wrote

end Directive

theorem Outline.holes_eq_nil {o : Outline} (empty : o.chars = []) : o.holes = [] := by
  obtain ⟨lead, holes⟩ := o
  cases holes with
  | nil => rfl
  | cons h holes => simp [chars, opening] at empty

theorem Outline.WellFormed.withLead {o : Outline} {lead : List Char} (formed : o.WellFormed)
    (unopened : ¬ opening <:+: lead) (apart : o.holes ≠ [] → ¬ ['\x7b'] <:+ lead) :
    (Outline.mk lead o.holes).WellFormed := by
  obtain ⟨_, later⟩ := Outline.wellFormed_iff.mp formed
  exact Outline.wellFormed_iff.mpr ⟨⟨unopened, apart⟩, later⟩

/-- The outline of directives written one after another. Only a text in front can give it a lead. -/
theorem exists_outline_of_chars? {ds : List Directive} {texts : List (List Char)}
    (wrote : ds.map Directive.chars? = texts.map some) (apart : ds.IsChain Directive.Apart) :
    ∃ o : Outline, o.WellFormed ∧ o.chars = texts.flatten ∧ o.directives = ds ∧
      ((∀ d, ds.head? = some d → d.isText = false) → o.lead = []) := by
  induction ds generalizing texts with
  | nil =>
    cases texts with
    | nil => exact ⟨⟨[], []⟩, Outline.wellFormed_nil, rfl, rfl, fun _ => rfl⟩
    | cons text texts => contradiction
  | cons d ds ih =>
    cases texts with
    | nil => contradiction
    | cons text texts =>
      obtain ⟨wrote, later⟩ := List.cons.inj wrote
      obtain ⟨o, formed, spelt, same, lead⟩ := ih later apart.tail
      cases dynamic : d.isText with
      | false =>
        obtain ⟨body, rfl, isBody, means⟩ := Directive.chars?_hole dynamic wrote
        refine ⟨o.hole body, Outline.wellFormed_hole.mpr ⟨isBody, formed⟩, ?_, ?_, fun _ => rfl⟩
        · rw [Outline.chars_hole, spelt, List.flatten_cons]
        · rw [Outline.directives_hole, means, same]
          rfl
      | true =>
        obtain ⟨content, rfl⟩ := Directive.eq_text_of_isText dynamic
        obtain ⟨rfl, filled, unopened⟩ := Directive.chars?_text wrote
        have noLead := lead fun e next => (Directive.apart_of_text apart next).1
        have ends : o.holes ≠ [] → ¬ ['\x7b'] <:+ content.toList := by
          intro more
          cases ds with
          | nil =>
            have nothing : texts = [] := List.map_eq_nil_iff.mp later.symm
            rw [nothing, List.flatten_nil] at spelt
            exact absurd (Outline.holes_eq_nil spelt) more
          | cons e ds => exact (Directive.apart_of_text apart rfl).2
        refine ⟨⟨content.toList, o.holes⟩, formed.withLead unopened ends, ?_, ?_, ?_⟩
        · have rest : o.chars = (o.holes.flatMap fun h => opening ++ h.body ++ closing ++ h.after) := by
            rw [Outline.chars, noLead, List.nil_append]
          rw [Outline.chars, ← rest, spelt, List.flatten_cons]
        · have rest : o.directives =
              o.holes.flatMap fun h => bodyDirective h.body ++ textDirective h.after := by
            rw [Outline.directives, noLead]
            rfl
          rw [Outline.directives, ← rest, same]
          simp [textDirective, filled]
        · intro noText
          have isText := noText _ rfl
          contradiction

theorem chars?_of_source? {ds : List Directive} {sources : List String}
    (wrote : ds.map Directive.source? = sources.map some) :
    ds.map Directive.chars? = (sources.map String.toList).map some := by
  have read := congrArg (List.map (Option.map String.toList)) wrote
  simpa [Function.comp_def, Directive.source?, Option.map_map] using read

theorem compile_join_sources {ds : List Directive} {sources : List String}
    (wrote : ds.map Directive.source? = sources.map some) (apart : ds.IsChain Directive.Apart) :
    compile (String.join sources) = .ok ds := by
  obtain ⟨o, formed, spelt, same, _⟩ := exists_outline_of_chars? (chars?_of_source? wrote) apart
  refine compile_eq_ok_iff.mpr ⟨o, formed, ?_, same⟩
  rw [spelt, String.toList_join, List.flatMap_def]

/-- Directives written one after another compile to just these directives, where no two of them run
together; and so does each by itself. -/
theorem compile_written :
    (∀ (ds : List Directive) (sources : List String), ds.map Directive.source? = sources.map some →
      ds.IsChain Directive.Apart → compile (String.join sources) = .ok ds) ∧
    ∀ (d : Directive) (source : String), d.source? = some source → compile source = .ok [d] := by
  refine ⟨fun ds sources wrote apart => compile_join_sources wrote apart, fun d source wrote => ?_⟩
  have compiled : compile (String.join [source]) = .ok [d] :=
    compile_join_sources (by simp [wrote]) (by simp)
  simpa [String.join] using compiled

theorem braces_written :
    [Directive.text "a\x7bb", .call "f" ["\x7d\x7d", "it\x27s"], .lookup "x", .text "\x7d"].map
        Directive.source? =
      ["a\x7bb", "\x7b\x7bf \x27\x7d\x7d\x27 \x22it\x27s\x22\x7d\x7d", "\x7b\x7b$x\x7d\x7d", "\x7d"].map some ∧
    compile "a\x7bb\x7b\x7bf \x27\x7d\x7d\x27 \x22it\x27s\x22\x7d\x7d\x7b\x7b$x\x7d\x7d\x7d" =
      .ok [.text "a\x7bb", .call "f" ["\x7d\x7d", "it\x27s"], .lookup "x", .text "\x7d"] := by
  have written : [Directive.text "a\x7bb", .call "f" ["\x7d\x7d", "it\x27s"], .lookup "x", .text "\x7d"].map
      Directive.source? =
    ["a\x7bb", "\x7b\x7bf \x27\x7d\x7d\x27 \x22it\x27s\x22\x7d\x7d", "\x7b\x7b$x\x7d\x7d", "\x7d"].map some := by
    rfl
  have apart : [Directive.text "a\x7bb", .call "f" ["\x7d\x7d", "it\x27s"], .lookup "x",
      .text "\x7d"].IsChain Directive.Apart := by
    simp only [List.isChain_cons_cons, Directive.Apart]
    exact ⟨by decide, trivial, trivial, List.isChain_singleton _⟩
  exact ⟨written, compile_written.1 _ _ written apart⟩

end PromptKit.Template
