import PromptKit.Proofs.Template.Reprinting

/-!
Which directives have a text. A text or a call is written wherever some template compiles to just it. A
look-up is not: the templates that compile to it are those of a hole that holds its key, and such a key may
have whole quoted runs in it, but no key with a quote is ever written.
-/
namespace PromptKit.Template

variable {d : Directive} {source key : String}

theorem compile_of_source? (wrote : d.source? = some source) : compile source = .ok [d] := by
  have joined : compile (String.join [source]) = .ok [d] :=
    compile_join_sources (by simp [wrote]) (List.isChain_singleton d)
  simpa using joined

theorem source?_ne_none_of_compile (compiled : compile source = .ok [d])
    (unquoted : ∀ key, d = .lookup key → ∀ c ∈ key.toList, isQuote c = false) : d.source? ≠ none := by
  obtain ⟨o, formed, _, same⟩ := compile_eq_ok_iff.mp compiled
  have mem : d ∈ o.directives := same ▸ List.mem_cons_self
  obtain ⟨cs, wrote⟩ := formed.exists_chars? mem unquoted
  simp [Directive.source?, wrote]

/-- Quotes in the key of a look-up apart, a directive has no text only if no template compiles to it. -/
theorem source?_eq_none_iff (unquoted : ∀ key, d = .lookup key → ∀ c ∈ key.toList, isQuote c = false) :
    d.source? = none ↔ ∀ source, compile source ≠ .ok [d] := by
  constructor
  · intro none source compiled
    exact source?_ne_none_of_compile compiled unquoted none
  · intro never
    cases wrote : d.source? with
    | none => rfl
    | some source => exact absurd (compile_of_source? wrote) (never source)

/-- A text or a call that is not written is one that no template compiles to. -/
theorem text_or_call_unwritten_iff :
    (∀ content, (Directive.text content).source? = none ↔
      ∀ source, compile source ≠ .ok [.text content]) ∧
    ∀ name args, (Directive.call name args).source? = none ↔
      ∀ source, compile source ≠ .ok [.call name args] := by
  constructor
  · intro content
    apply source?_eq_none_iff
    intro key same
    cases same
  · intro name args
    apply source?_eq_none_iff
    intro key same
    cases same

theorem eq_dollar_of_mem_body {body : List Char} (mem : Directive.lookup key ∈ bodyDirective body) :
    body = '$' :: key.toList := by
  unfold bodyDirective at mem
  split at mem
  · cases mem
  · rename_i inside
    cases List.mem_singleton.mp mem
    rw [String.toList_ofList]
  · cases List.mem_singleton.mp mem

/-- The keys that a template can look up are the bodies that a hole can hold. -/
theorem exists_compile_lookup_iff : (∃ source, compile source = .ok [.lookup key]) ↔ IsBody key.toList := by
  constructor
  · rintro ⟨source, compiled⟩
    obtain ⟨o, formed, _, same⟩ := compile_eq_ok_iff.mp compiled
    have mem : Directive.lookup key ∈ o.directives := same ▸ List.mem_cons_self
    rcases Outline.mem_directives.mp mem with ⟨t, _, inside⟩ | ⟨h, there, inside⟩
    · cases (Outline.eq_text_of_mem inside).2
    · have isBody := formed.bodies h there
      rw [eq_dollar_of_mem_body inside] at isBody
      exact isBody_dollar_iff.mp isBody
  · intro isBody
    let o := Outline.hole ('$' :: key.toList) ⟨[], []⟩
    have formed : o.WellFormed :=
      Outline.wellFormed_hole.mpr ⟨isBody_dollar_iff.mpr isBody, Outline.wellFormed_nil⟩
    refine ⟨String.ofList o.chars, compile_eq_ok_iff.mpr ⟨o, formed, String.toList_ofList.symm, ?_⟩⟩
    rw [Outline.directives_hole, bodyDirective, String.ofList_toList]
    rfl

theorem source?_lookup_eq_none_iff : (Directive.lookup key).source? = none ↔ cutShort key.toList = true := by
  simp [Directive.source?, Directive.chars?]

/-- A look-up is not written if its key has a quote in it or if no template compiles to it; templates
compile to it wherever a hole can hold the key, quoted runs and all. -/
theorem lookup_unwritten_iff (key : String) :
    ((Directive.lookup key).source? = none ↔
      (∃ c ∈ key.toList, isQuote c = true) ∨ ∀ source, compile source ≠ .ok [.lookup key]) ∧
    ((∃ source, compile source = .ok [.lookup key]) ↔ IsBody key.toList) := by
  refine ⟨?_, exists_compile_lookup_iff⟩
  by_cases quoted : ∃ c ∈ key.toList, isQuote c = true
  · have whole : cutShort key.toList = true := by
      have some : key.toList.any isQuote = true := List.any_eq_true.mpr quoted
      simp [cutShort, some]
    exact iff_of_true (source?_lookup_eq_none_iff.mpr whole) (.inl quoted)
  · have unquoted : ∀ c ∈ key.toList, isQuote c = false := by simpa using quoted
    rw [source?_eq_none_iff, or_iff_right quoted]
    rintro key' ⟨⟩
    exact unquoted

/-- A key that is one quoted run is looked up by a template, and yet it is not written. -/
theorem quoted_key_unwritten : (Directive.lookup "\x27a\x27").source? = none ∧
    compile "\x7b\x7b$\x27a\x27\x7d\x7d" = .ok [.lookup "\x27a\x27"] := ⟨rfl, rfl⟩

end PromptKit.Template
