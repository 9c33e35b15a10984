import PromptKit.Proofs.Template.Printing

/-!
What compiling leads to can be written again. Every word that is read fits between quotes of some kind,
no text in front of a hole ends with a brace, and so the directives of a template, written one after
another, compile to themselves, with texts that came to stand side by side made one.
-/
namespace PromptKit.Template

section Words

variable {word held body rest : List Char} {state : Option Char} {gathered : List (List Char)}

def Quotable (word : List Char) : Prop := word ≠ [] ∧ ∃ quote, isQuote quote = true ∧ quote ∉ word

def Gathers : Option Char → List Char → Prop
  | none, held => ∀ c ∈ held, isQuote c = false
  | some quote, held => isQuote quote = true ∧ quote ∉ held

theorem Gathers.exists_absent (gathers : Gathers state held) : ∃ quote, isQuote quote = true ∧ quote ∉ held := by
  cases state with
  | none =>
    refine ⟨'\x27', by decide, ?_⟩
    intro mem
    exact absurd (gathers _ mem) (by decide)
  | some quote => exact ⟨quote, gathers⟩

theorem Gathers.quotable_of_mem (gathers : Gathers state held) (mem : word ∈ consWord held gathered)
    (others : word ∈ gathered → Quotable word) : Quotable word := by
  unfold consWord at mem
  split at mem
  · exact others mem
  · rename_i filled
    rcases List.mem_cons.mp mem with rfl | mem
    · obtain ⟨quote, opens, absent⟩ := gathers.exists_absent
      refine ⟨?_, quote, opens, ?_⟩
      · simpa using filled
      · simpa using absent
    · exact others mem

theorem quotable_of_mem_wordsFrom (gathers : Gathers state held) (mem : word ∈ wordsFrom state held rest) :
    Quotable word := by
  have nothing : Gathers none [] := by simp [Gathers]
  induction rest generalizing state held with
  | nil =>
    have mem : word ∈ consWord held [] := by cases state <;> exact mem
    exact gathers.quotable_of_mem mem (fun none => by cases none)
  | cons c rest ih =>
    cases state with
    | none =>
      rw [wordsFrom] at mem
      split at mem
      · rename_i opens
        exact gathers.quotable_of_mem mem (ih ⟨opens, List.not_mem_nil⟩)
      · rename_i unquoted
        split at mem
        · exact gathers.quotable_of_mem mem (ih nothing)
        · have more : Gathers none (c :: held) := by
            refine List.forall_mem_cons.mpr ⟨?_, gathers⟩
            simpa using unquoted
          exact ih more mem
    | some quote =>
      rw [wordsFrom] at mem
      split at mem
      · exact gathers.quotable_of_mem mem (ih nothing)
      · rename_i other
        have more : Gathers (some quote) (c :: held) := by
          refine ⟨gathers.1, ?_⟩
          rw [List.mem_cons, not_or]
          exact ⟨fun same => other same.symm, gathers.2⟩
        exact ih more mem

theorem quotable_of_mem_words (mem : word ∈ words body) : Quotable word := by
  have nothing : Gathers none [] := by simp [Gathers]
  exact quotable_of_mem_wordsFrom nothing mem

end Words

section Writing

variable {word : List Char} {args : List String} {body cs : List Char} {d : Directive} {ds : List Directive}

theorem exists_writeWord (isName : Bool) (quotable : Quotable word) :
    ∃ text, writeWord isName word = some text := by
  obtain ⟨filled, quote, opens, absent⟩ := quotable
  unfold writeWord
  rw [if_neg (by simpa using filled)]
  split
  · exact ⟨word, rfl⟩
  · have listed : quote ∈ ['\x27', '\x22', '\x60'] := by
      simpa [isQuote, or_assoc] using opens
    have found : (['\x27', '\x22', '\x60'].find? fun quote => !word.contains quote).isSome = true := by
      rw [List.find?_isSome]
      exact ⟨quote, listed, by simpa using absent⟩
    obtain ⟨first, found⟩ := Option.isSome_iff_exists.mp found
    exact ⟨first :: word ++ [first], by rw [found]; rfl⟩

theorem exists_writeArgs (quotable : ∀ arg ∈ args, Quotable arg.toList) : ∃ text, writeArgs args = some text := by
  induction args with
  | nil => exact ⟨[], rfl⟩
  | cons arg args ih =>
    obtain ⟨first, later⟩ := List.forall_mem_cons.mp quotable
    obtain ⟨word, wroteWord⟩ := exists_writeWord false first
    obtain ⟨more, wroteMore⟩ := ih later
    refine ⟨' ' :: word ++ more, ?_⟩
    rw [writeArgs, wroteWord, wroteMore]
    rfl

theorem pmap_spell {ps : List Piece} (unquoted : ∀ c ∈ spell ps, isQuote c = false) :
    (spell ps).pmap Piece.plain unquoted = ps := by
  induction ps with
  | nil => rfl
  | cons p ps ih =>
    cases p with
    | plain c _ =>
      have rest := ih fun d mem => unquoted d (List.mem_cons_of_mem c mem)
      exact congrArg (Piece.plain c _ :: ·) rest
    | run quote inside opens absent =>
      have first := unquoted quote (by simp [Piece.chars])
      rw [opens] at first
      contradiction

theorem IsBody.of_unquoted (isBody : IsBody cs) (unquoted : ∀ c ∈ cs, isQuote c = false) :
    ¬ closing <:+: cs ∧ ¬ ['\x7d'] <:+ cs := by
  obtain ⟨ps, rfl, free, last⟩ := isBody
  have same := pmap_spell unquoted
  generalize spell ps = cs at unquoted same
  subst same
  constructor
  · rintro ⟨before, after, rfl⟩
    refine free ?_
    simp only [List.pmap_append]
    exact ⟨_, _, rfl⟩
  · rintro ⟨before, rfl⟩
    refine last ?_
    simp only [List.pmap_append]
    exact ⟨_, rfl⟩

theorem exists_chars?_lookup {key : String} (isBody : IsBody ('$' :: key.toList))
    (unquoted : ∀ c ∈ key.toList, isQuote c = false) : ∃ cs, (Directive.lookup key).chars? = some cs := by
  obtain ⟨unmarked, last⟩ := (isBody_dollar_iff.mp isBody).of_unquoted unquoted
  have whole : cutShort key.toList = false := Directive.not_cutShort_iff.mpr ⟨unquoted, unmarked, last⟩
  exact ⟨_, if_neg (by rw [whole]; exact Bool.false_ne_true)⟩

theorem exists_chars?_call (body : List Char) :
    ∃ cs, (Directive.call (parseBody body).1 (parseBody body).2).chars? = some cs := by
  unfold parseBody
  cases split : words body with
  | nil => exact ⟨_, rfl⟩
  | cons name args =>
    have quotable : ∀ word ∈ name :: args, Quotable word := fun word mem =>
      quotable_of_mem_words (split ▸ mem)
    obtain ⟨first, later⟩ := List.forall_mem_cons.mp quotable
    obtain ⟨word, wroteWord⟩ := exists_writeWord true first
    obtain ⟨more, wroteMore⟩ : ∃ more, writeArgs (args.map String.ofList) = some more := by
      apply exists_writeArgs
      intro arg mem
      obtain ⟨inside, there, rfl⟩ := List.mem_map.mp mem
      rw [String.toList_ofList]
      exact later inside there
    have named : (String.ofList name).isEmpty = false := by
      rw [← Bool.not_eq_true, String.isEmpty_iff]
      intro empty
      exact first.1 (by simpa using congrArg String.toList empty)
    refine ⟨opening ++ word ++ more ++ closing, ?_⟩
    simp [Directive.chars?, named, wroteWord, wroteMore]

end Writing

namespace Directive

def Closed : Directive → Prop
  | .text content => ¬ ['\x7b'] <:+ content.toList
  | _ => True

theorem chars?_of_text {content : String} (filled : content.toList ≠ [])
    (unopened : ¬ opening <:+: content.toList) : (Directive.text content).chars? = some content.toList := by
  have unmarked : Text.occursIn opening content.toList = false := by
    rwa [← Bool.not_eq_true, Text.occursIn_iff]
  simp only [chars?, unmarked, List.isEmpty_iff, filled, Bool.or_false, if_false]

def fusedWith : Directive → List Directive → List Directive
  | .text first, .text second :: rest => .text (first ++ second) :: rest
  | d, rest => d :: rest

end Directive

/-- Each run of texts made one text. -/
def fuse (ds : List Directive) : List Directive := ds.foldr Directive.fusedWith []

namespace Outline

variable {o : Outline} {d : Directive}

theorem wellFormed_text {text : List Char} : (Outline.mk text []).WellFormed ↔ ¬ opening <:+: text := by
  rw [wellFormed_iff]
  simp [LeadFits]

theorem mem_directives : d ∈ o.directives ↔
    (∃ t ∈ o.texts, d ∈ textDirective t) ∨ ∃ h ∈ o.holes, d ∈ bodyDirective h.body := by
  simp only [directives, texts, List.mem_append, List.mem_flatMap, List.mem_cons, List.mem_map]
  constructor
  · rintro (first | ⟨h, there, inside | after⟩)
    · exact .inl ⟨_, .inl rfl, first⟩
    · exact .inr ⟨h, there, inside⟩
    · exact .inl ⟨_, .inr ⟨h, there, rfl⟩, after⟩
  · rintro (⟨t, rfl | ⟨h, there, rfl⟩, inside⟩ | ⟨h, there, inside⟩)
    · exact .inl inside
    · exact .inr ⟨h, there, .inr inside⟩
    · exact .inr ⟨h, there, .inl inside⟩

theorem eq_text_of_mem {t : List Char} (mem : d ∈ textDirective t) : t ≠ [] ∧ d = .text (String.ofList t) := by
  cases t with
  | nil => cases mem
  | cons c t => exact ⟨List.cons_ne_nil c t, List.mem_singleton.mp mem⟩

theorem isText_of_mem_body {body : List Char} (mem : d ∈ bodyDirective body) : d.isText = false := by
  unfold bodyDirective at mem
  split at mem
  · cases mem
  · rw [List.mem_singleton.mp mem]
    rfl
  · rw [List.mem_singleton.mp mem]
    rfl

/-- All that a template compiles to can be written, unless a key has a quote in it. -/
theorem WellFormed.exists_chars? (formed : o.WellFormed) (mem : d ∈ o.directives)
    (unquoted : ∀ key, d = .lookup key → ∀ c ∈ key.toList, isQuote c = false) : ∃ cs, d.chars? = some cs := by
  rcases mem_directives.mp mem with ⟨t, there, inside⟩ | ⟨h, there, inside⟩
  · obtain ⟨filled, rfl⟩ := eq_text_of_mem inside
    have same : (String.ofList t).toList = t := String.toList_ofList
    exact ⟨_, Directive.chars?_of_text (by rwa [same]) (by rw [same]; exact formed.unopened t there)⟩
  · have isBody := formed.bodies h there
    unfold bodyDirective at inside
    split at inside
    · cases inside
    · rename_i key spelt
      obtain rfl := List.mem_singleton.mp inside
      rw [spelt] at isBody
      exact exists_chars?_lookup (by rwa [String.toList_ofList]) (unquoted _ rfl)
    · rw [List.mem_singleton.mp inside]
      exact exists_chars?_call _

theorem WellFormed.closed (formed : o.WellFormed) : ∀ d ∈ o.directives.dropLast, d.Closed := by
  obtain ⟨lead, holes⟩ := o
  induction holes generalizing lead with
  | nil =>
    intro d mem
    cases lead <;> cases mem
  | cons h holes ih =>
    obtain ⟨unopened, apart, bodies⟩ := formed
    have later : (Outline.mk h.after holes).WellFormed := by
      refine ⟨fun t mem => unopened t (List.mem_cons_of_mem _ mem), fun t mem => apart t ?_, ?_⟩
      · exact List.mem_cons_of_mem _ mem
      · exact fun h' mem => bodies h' (List.mem_cons_of_mem _ mem)
    have front : ∀ d ∈ textDirective lead ++ bodyDirective h.body, d.Closed := by
      intro d mem
      rcases List.mem_append.mp mem with text | body
      · obtain ⟨_, rfl⟩ := eq_text_of_mem text
        have ends : ¬ ['\x7b'] <:+ lead := apart lead List.mem_cons_self
        change ¬ ['\x7b'] <:+ (String.ofList lead).toList
        rwa [String.toList_ofList]
      · have dynamic := isText_of_mem_body body
        cases d with
        | text content => contradiction
        | lookup key => trivial
        | call name args => trivial
    intro d mem
    rw [directives_cons, List.dropLast_append] at mem
    split at mem
    · exact front d (List.dropLast_subset _ mem)
    · rcases List.mem_append.mp mem with early | late
      · exact front d early
      · exact ih h.after later d late

end Outline

section Fusing

variable {d e : Directive} {ds more : List Directive} {text : List Char} {texts fused : List (List Char)}

theorem Directive.Closed.apart (closed : d.Closed) (different : ¬ (d.isText = true ∧ e.isText = true)) :
    d.Apart e := by
  cases d with
  | text content =>
    cases e with
    | text _ => exact absurd ⟨rfl, rfl⟩ different
    | lookup _ => exact closed
    | call _ _ => exact closed
  | lookup _ => trivial
  | call _ _ => trivial

theorem Directive.fusedWith_nil (d : Directive) : d.fusedWith [] = [d] := by
  cases d <;> rfl

theorem Directive.fusedWith_cons (different : ¬ (d.isText = true ∧ e.isText = true)) :
    d.fusedWith (e :: more) = d :: e :: more := by
  cases d <;> cases e <;> first | rfl | exact absurd ⟨rfl, rfl⟩ different

/-- A text that is not empty ends as it did where another text comes to stand in front of it. -/
theorem Directive.apart_append {first second : String} (filled : second.toList ≠ [])
    (apart : (Directive.text second).Apart e) : (Directive.text (first ++ second)).Apart e := by
  have ends (open' : ¬ ['\x7b'] <:+ second.toList) : ¬ ['\x7b'] <:+ (first ++ second).toList := by
    rw [List.singleton_suffix_iff_getLast?_eq_some] at open' ⊢
    rw [String.toList_append, List.getLast?_append_of_ne_nil _ filled]
    exact open'
  cases e with
  | text _ => exact apart
  | lookup _ => exact ends apart
  | call _ _ => exact ends apart

theorem not_opening_infix_append {first second : List Char} (unopened : ¬ opening <:+: first)
    (later : ¬ opening <:+: second) (ends : ¬ ['\x7b'] <:+ first) : ¬ opening <:+: first ++ second := by
  have formed := (Outline.wellFormed_text.mpr unopened).append (Outline.wellFormed_text.mpr later)
    fun both => ends (by simpa [Outline.chars] using both.1)
  exact Outline.wellFormed_text.mp formed

theorem exists_fusedWith (wrote : d.chars? = some text) (closed : more ≠ [] → d.Closed)
    (others : more.map Directive.chars? = texts.map some) (apart : more.IsChain Directive.Apart) :
    ∃ fused : List (List Char), (d.fusedWith more).map Directive.chars? = fused.map some ∧
      fused.flatten = text ++ texts.flatten ∧ (d.fusedWith more).IsChain Directive.Apart := by
  cases more with
  | nil =>
    have nothing : texts = [] := List.map_eq_nil_iff.mp others.symm
    rw [Directive.fusedWith_nil, nothing]
    exact ⟨[text], congrArg (· :: []) wrote, rfl, List.isChain_singleton d⟩
  | cons e more =>
    have ends : d.Closed := closed (List.cons_ne_nil e more)
    by_cases both : d.isText = true ∧ e.isText = true
    · obtain ⟨first, rfl⟩ := Directive.eq_text_of_isText both.1
      obtain ⟨second, rfl⟩ := Directive.eq_text_of_isText both.2
      cases texts with
      | nil => contradiction
      | cons next texts =>
        obtain ⟨wrote', later⟩ := List.cons.inj others
        obtain ⟨rfl, _, unopened⟩ := Directive.chars?_text wrote
        obtain ⟨rfl, filled, unopened'⟩ := Directive.chars?_text wrote'
        have together : (Directive.text (first ++ second)).chars? = some (first ++ second).toList := by
          apply Directive.chars?_of_text
          · simp [filled]
          · rw [String.toList_append]
            exact not_opening_infix_append unopened unopened' ends
        refine ⟨(first ++ second).toList :: texts, ?_, ?_, ?_⟩
        · exact List.cons_eq_cons.mpr ⟨together, later⟩
        · simp [String.toList_append]
        · exact apart.imp_head fun after => Directive.apart_append filled after
    · rw [Directive.fusedWith_cons both]
      refine ⟨text :: texts, ?_, List.flatten_cons, ?_⟩
      · exact List.cons_eq_cons.mpr ⟨wrote, others⟩
      · exact List.isChain_cons_cons.mpr ⟨ends.apart both, apart⟩

theorem exists_fuse (wrote : ds.map Directive.chars? = texts.map some) (closed : ∀ d ∈ ds.dropLast, d.Closed) :
    ∃ fused : List (List Char), (fuse ds).map Directive.chars? = fused.map some ∧
      fused.flatten = texts.flatten ∧ (fuse ds).IsChain Directive.Apart := by
  induction ds generalizing texts with
  | nil => exact ⟨texts, wrote, rfl, List.isChain_nil⟩
  | cons d ds ih =>
    cases texts with
    | nil => contradiction
    | cons text texts =>
      obtain ⟨wrote, later⟩ := List.cons.inj wrote
      have others : ∀ d' ∈ ds.dropLast, d'.Closed := fun d' mem => closed d' <| by
        cases ds with
        | nil => cases mem
        | cons _ _ => exact List.mem_cons_of_mem _ mem
      obtain ⟨fused, wrote', same, apart⟩ := ih later others
      rw [List.flatten_cons, ← same]
      refine exists_fusedWith wrote (fun more => closed d ?_) wrote' apart
      cases ds with
      | nil => exact absurd rfl more
      | cons _ _ => exact List.mem_cons_self

end Fusing

/-- What a template compiles to can be written, if no key has a quote in it, and written one after
another the directives compile to themselves, with each run of texts made one. -/
theorem compile_rewritten {source : String} {ds : List Directive} (compiled : compile source = .ok ds)
    (unquoted : ∀ key, .lookup key ∈ ds → ∀ c ∈ key.toList, isQuote c = false) :
    ∃ sources, ds.map Directive.source? = sources.map some ∧ compile (String.join sources) = .ok (fuse ds) := by
  obtain ⟨o, formed, _, rfl⟩ := compile_eq_ok_iff.mp compiled
  let write (d : Directive) : List Char := d.chars?.getD []
  have wrote : o.directives.map Directive.chars? = (o.directives.map write).map some := by
    rw [List.map_map]
    refine List.map_congr_left fun d mem => ?_
    obtain ⟨cs, wrote⟩ := formed.exists_chars? mem fun key same => unquoted key (same ▸ mem)
    simp [write, wrote]
  obtain ⟨fused, wrote', same, apart⟩ := exists_fuse wrote formed.closed
  obtain ⟨whole, formed', spelt, means, _⟩ := exists_outline_of_chars? wrote' apart
  refine ⟨(o.directives.map write).map String.ofList, ?_, compile_eq_ok_iff.mpr ⟨whole, formed', ?_, means⟩⟩
  · have written := congrArg (List.map (Option.map String.ofList)) wrote
    simpa [Function.comp_def, Directive.source?] using written
  · have back : (fun d => (String.ofList (write d)).toList) = write := funext fun d => String.toList_ofList
    rw [spelt, same, String.toList_join, List.map_map, List.flatMap_map, List.flatMap_def]
    exact congrArg (fun f => (o.directives.map f).flatten) back.symm

/-- A hole with nothing in it leaves two texts, and a word may have had no quotes of its own. -/
theorem emptyHole_rewritten :
    let ds : List Directive := [.text "a", .text "b\x7d", .call "f" ["x\x7d\x7d", "it"], .lookup "k"]
    compile "a\x7b\x7b\x7d\x7db\x7d\x7b\x7bf \x22x\x7d\x7d\x22it\x7d\x7d\x7b\x7b$k\x7d\x7d" = .ok ds ∧
    (∀ key, .lookup key ∈ ds → ∀ c ∈ key.toList, isQuote c = false) ∧
    ∃ sources, ds.map Directive.source? = sources.map some ∧ compile (String.join sources) =
      .ok [.text "ab\x7d", .call "f" ["x\x7d\x7d", "it"], .lookup "k"] := by
  intro ds
  have compiled :
      compile "a\x7b\x7b\x7d\x7db\x7d\x7b\x7bf \x22x\x7d\x7d\x22it\x7d\x7d\x7b\x7b$k\x7d\x7d" = .ok ds := rfl
  have unquoted : ∀ key, .lookup key ∈ ds → ∀ c ∈ key.toList, isQuote c = false := by
    intro key mem c inside
    obtain rfl : key = "k" := by simpa [ds] using mem
    obtain rfl : c = 'k' := by simpa using inside
    rfl
  have fused : fuse ds = [.text "ab\x7d", .call "f" ["x\x7d\x7d", "it"], .lookup "k"] := by decide
  have rewritten := compile_rewritten compiled unquoted
  rw [fused] at rewritten
  exact ⟨compiled, unquoted, rewritten⟩

end PromptKit.Template
