import PromptKit.Proofs.Template.Reading

/-!
The diagnosis of a template that does not compile is true, and says how to repair it: what stands at
its byte is open to the end, all before it is in order, and closing it makes the template compile.
-/
namespace PromptKit.Template

open Text (utf8Length)

/-- A hole begins after `before` and is never closed, and nothing else is wrong. -/
structure OpensDirective (before after : String) : Prop where
  marker : ∃ rest, after = "\x7b\x7b" ++ rest
  sound : ∃ ds, compile before = .ok ds
  repaired : ∃ ds, compile (before ++ after ++ "\x7d\x7d") = .ok ds

/-- A quoted run begins after `before`, inside of a hole, and is never closed, and nothing else is
wrong. -/
structure OpensQuote (before after : String) (quote : Char) : Prop where
  isQuote : isQuote quote = true
  unclosed : ∃ rest, after = String.singleton quote ++ rest ∧ quote ∉ rest.toList
  inHole : ∃ opened, opened + 2 ≤ before.utf8ByteSize ∧
    compile before = .error (.malformedTemplate .directive opened)
  repaired : ∃ ds, compile (before ++ after ++ String.singleton quote ++ "\x7d\x7d") = .ok ds

def Diagnoses (before after : String) : OpenConstruct → Prop
  | .directive => OpensDirective before after
  | .quotedString => ∃ quote, OpensQuote before after quote

theorem Outline.WellFormed.compiles {o : Outline} {source : String} (formed : o.WellFormed)
    (spelt : o.chars = source.toList) : ∃ ds, compile source = .ok ds :=
  ⟨o.directives, compile_eq_ok_iff.mpr ⟨o, formed, spelt, rfl⟩⟩

theorem MarkerFree.exists_hole {ps : List Piece} (free : MarkerFree ps) :
    ∃ next : Outline, next.WellFormed ∧ next.chars = opening ++ (spell ps ++ closing) := by
  by_cases last : [.brace] <:+ ps
  · obtain ⟨qs, rfl⟩ := last
    have inner : MarkerFree qs := fun marker => free (marker.trans (List.prefix_append qs _).isInfix)
    have noBrace : ¬ [.brace] <:+ qs := by
      intro ends
      obtain ⟨rs, rfl⟩ := ends
      exact free ⟨rs, [], by simp⟩
    have text : (Outline.push '\x7d' ⟨[], []⟩).WellFormed :=
      Outline.wellFormed_push.mpr ⟨by decide, Outline.wellFormed_nil⟩
    refine ⟨(Outline.push '\x7d' ⟨[], []⟩).hole (spell qs), ?_, ?_⟩
    · exact Outline.wellFormed_hole.mpr ⟨⟨qs, rfl, inner, noBrace⟩, text⟩
    · simp [Piece.brace, Piece.chars, closing]
  · refine ⟨Outline.hole (spell ps) ⟨[], []⟩, ?_, by simp⟩
    exact Outline.wellFormed_hole.mpr ⟨⟨ps, rfl, free, last⟩, Outline.wellFormed_nil⟩

theorem MarkerFree.isBody_run {ps : List Piece} {quote : Char} {inside : List Char}
    (free : MarkerFree ps) (opens : isQuote quote = true) (absent : quote ∉ inside) :
    IsBody (spell ps ++ (quote :: inside ++ [quote])) := by
  have other : Piece.brace ≠ .run quote inside opens absent := by
    intro same
    cases same
  refine ⟨ps ++ [.run quote inside opens absent], by simp [Piece.chars], ?_, ?_⟩
  · intro marker
    rcases List.infix_concat_iff.mp marker with ends | before
    · have last : [Piece.brace] <:+ ps ++ [.run quote inside opens absent] :=
        (List.suffix_cons _ _).trans ends
      exact other (List.singleton_suffix_append_singleton_iff.mp last)
    · exact free before
  · intro ends
    exact other (List.singleton_suffix_append_singleton_iff.mp ends)

private theorem eq_append {source : String} {before after : List Char}
    (spelt : source.toList = before ++ after) :
    source = String.ofList before ++ String.ofList after := by
  apply String.toList_inj.mp
  simp [spelt]

theorem opensDirective {o : Outline} {ps : List Piece} (formed : o.WellFormed)
    (apart : ¬ ['\x7b'] <:+ o.chars) (free : MarkerFree ps) :
    OpensDirective (String.ofList o.chars) (String.ofList (opening ++ spell ps)) := by
  refine ⟨⟨String.ofList (spell ps), ?_⟩, formed.compiles (by simp), ?_⟩
  · exact String.toList_inj.mp (by simp [opening])
  · obtain ⟨next, formed', spelt⟩ := free.exists_hole
    refine (formed.append formed' fun both => apart both.1).compiles ?_
    simp [spelt, closing]

theorem opensQuote {o : Outline} {ps : List Piece} {quote : Char} {inside : List Char}
    (formed : o.WellFormed) (apart : ¬ ['\x7b'] <:+ o.chars) (free : MarkerFree ps)
    (opens : isQuote quote = true) (absent : quote ∉ inside) :
    OpensQuote (String.ofList (o.chars ++ (opening ++ spell ps)))
      (String.ofList (quote :: inside)) quote := by
  refine ⟨opens, ⟨String.ofList inside, ?_, by simpa using absent⟩, ?_, ?_⟩
  · exact String.toList_inj.mp (by simp)
  · refine ⟨utf8Length o.chars, ?_, ?_⟩
    · simp [Text.utf8ByteSize_ofList]
    · exact compile_of_fault (by rw [String.toList_ofList]; exact outline_openHole formed apart free)
  · have hole := Outline.wellFormed_hole.mpr ⟨free.isBody_run opens absent, Outline.wellFormed_nil⟩
    refine (formed.append hole fun both => apart both.1).compiles ?_
    simp [closing]

/-- Whatever the error of a template says is so: at that byte, which is within the template and
begins a character, stands what is never closed. -/
theorem compile_error_diagnoses {source : String} {e : PromptError}
    (failed : compile source = .error e) :
    ∃ construct before after, e = .malformedTemplate construct before.utf8ByteSize ∧
      source = before ++ after ∧ after ≠ "" ∧ Diagnoses before after construct := by
  cases reading source.toList with
  | whole o formed spelt =>
    obtain ⟨ds, compiled⟩ := formed.compiles spelt.symm
    rw [compiled] at failed
    contradiction
  | openHole o ps formed apart free spelt =>
    rw [compile_of_fault (spelt ▸ outline_openHole formed apart free)] at failed
    refine ⟨.directive, _, _, ?_, eq_append spelt, ?_, opensDirective formed apart free⟩
    · rw [Text.utf8ByteSize_ofList]
      exact (Except.error.inj failed).symm
    · simp [opening]
  | openQuote o ps quote inside formed apart free opens absent spelt =>
    rw [compile_of_fault (spelt ▸ outline_openQuote formed apart free opens absent)] at failed
    rw [← List.append_assoc opening, ← List.append_assoc] at spelt
    refine ⟨.quotedString, _, _, ?_, eq_append spelt, ?_, quote,
      opensQuote formed apart free opens absent⟩
    · rw [Text.utf8ByteSize_ofList, ← List.append_assoc]
      exact (Except.error.inj failed).symm
    · simp

theorem open_quote_diagnosed :
    compile "é\x7b\x7bf 'b\x7d\x7d" = .error (.malformedTemplate .quotedString 6) ∧
      ∃ construct before after,
        PromptError.malformedTemplate .quotedString 6 = .malformedTemplate construct before.utf8ByteSize ∧
          "é\x7b\x7bf 'b\x7d\x7d" = before ++ after ∧ after ≠ "" ∧ Diagnoses before after construct :=
  ⟨rfl, compile_error_diagnoses rfl⟩

end PromptKit.Template
