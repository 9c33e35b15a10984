import PromptKit.Proofs.Template.Scan

/-!
Every text can be read in one of three ways: as a whole outline, or with a hole open at its end, or
with a quoted run open at its end. So a template compiles if and only if it has an outline.
-/
namespace PromptKit.Template

open Text (utf8Length)

inductive BodyReading (source : List Char) : Prop
  | closed (ps : List Piece) (after : List Char) (free : MarkerFree ps) (last : ¬ [.brace] <:+ ps)
      (spelt : source = spell ps ++ (closing ++ after))
  | openHole (ps : List Piece) (free : MarkerFree ps) (spelt : source = spell ps)
  | openQuote (ps : List Piece) (quote : Char) (inside : List Char) (free : MarkerFree ps)
      (opens : isQuote quote = true) (absent : quote ∉ inside) (spelt : source = spell ps ++ quote :: inside)

theorem MarkerFree.cons {p : Piece} {ps : List Piece} (rest : List Char) (free : MarkerFree ps)
    (unmarked : ¬ closing <+: p.chars ++ (spell ps ++ rest)) : MarkerFree (p :: ps) := by
  refine markerFree_cons.mpr ⟨?_, free⟩
  intro both
  obtain ⟨same, tail, spelt⟩ := both
  subst same spelt
  exact unmarked (by simp [Piece.brace, Piece.chars, closing])

theorem BodyReading.cons {p : Piece} {source : List Char} (read : BodyReading source)
    (unmarked : ¬ closing <+: p.chars ++ source) : BodyReading (p.chars ++ source) := by
  cases read with
  | closed ps after free last spelt =>
    subst spelt
    refine .closed (p :: ps) after (free.cons _ unmarked) ?_ (by simp)
    intro ends
    rcases List.suffix_cons_iff.mp ends with single | inside
    · obtain ⟨same, empty⟩ := List.cons.inj single
      subst same empty
      exact unmarked (by simp [Piece.brace, Piece.chars, closing])
    · exact last inside
  | openHole ps free spelt =>
    subst spelt
    exact .openHole (p :: ps) (free.cons [] (by simpa using unmarked)) rfl
  | openQuote ps quote inside free opens absent spelt =>
    subst spelt
    exact .openQuote (p :: ps) quote inside (free.cons _ unmarked) opens absent (by simp)

theorem bodyReading (source : List Char) : BodyReading source := by
  match source with
  | [] => exact .openHole [] markerFree_nil rfl
  | c :: rest =>
    by_cases marker : closing <+: c :: rest
    · obtain ⟨after, spelt⟩ := marker
      exact .closed [] after markerFree_nil (by simp) spelt.symm
    by_cases opens : isQuote c = true
    · by_cases more : c ∈ rest
      · obtain ⟨inside, after, spelt, absent⟩ := List.eq_append_cons_of_mem more
        have chars : c :: rest = (Piece.run c inside opens absent).chars ++ after := by
          simp [Piece.chars, spelt]
        have shorter : after.length < (c :: rest).length := by simp [spelt]; omega
        rw [chars] at marker ⊢
        exact (bodyReading after).cons marker
      · exact .openQuote [] c rest markerFree_nil opens more rfl
    · exact (bodyReading rest).cons (p := .plain c (by simpa using opens)) marker
termination_by source.length
decreasing_by
  · exact shorter
  · exact Nat.lt_succ_self _

inductive Reading (source : List Char) : Prop
  | whole (o : Outline) (formed : o.WellFormed) (spelt : source = o.chars)
  | openHole (o : Outline) (ps : List Piece) (formed : o.WellFormed) (apart : ¬ ['\x7b'] <:+ o.chars)
      (free : MarkerFree ps) (spelt : source = o.chars ++ (opening ++ spell ps))
  | openQuote (o : Outline) (ps : List Piece) (quote : Char) (inside : List Char)
      (formed : o.WellFormed) (apart : ¬ ['\x7b'] <:+ o.chars) (free : MarkerFree ps)
      (opens : isQuote quote = true) (absent : quote ∉ inside)
      (spelt : source = o.chars ++ (opening ++ (spell ps ++ quote :: inside)))

namespace Outline

theorem apart_push {c : Char} {o : Outline} {rest : List Char} (apart : ¬ ['\x7b'] <:+ o.chars)
    (unmarked : ¬ opening <+: c :: (o.chars ++ (opening ++ rest))) : ¬ ['\x7b'] <:+ (o.push c).chars := by
  rw [chars_push]
  intro ends
  rcases List.suffix_cons_iff.mp ends with single | inside
  · obtain ⟨same, empty⟩ := List.cons.inj single
    subst same
    rw [← empty] at unmarked
    exact unmarked (by simp [opening])
  · exact apart inside

theorem apart_hole {body : List Char} {o : Outline} (apart : ¬ ['\x7b'] <:+ o.chars) :
    ¬ ['\x7b'] <:+ (o.hole body).chars := by
  rw [List.singleton_suffix_iff_getLast?_eq_some] at apart ⊢
  rw [chars_hole, List.getLast?_append]
  cases last : o.chars.getLast? with
  | none => simp [closing]
  | some c => simpa [last] using apart

end Outline

namespace Reading

variable {source : List Char}

theorem cons {c : Char} (read : Reading source) (unmarked : ¬ opening <+: c :: source) :
    Reading (c :: source) := by
  have front {cs rest : List Char} (spelt : source = cs ++ rest) : ¬ opening <+: c :: cs :=
    fun marker => unmarked (spelt ▸ marker.trans (List.prefix_append (c :: cs) rest))
  cases read with
  | whole o formed spelt =>
    subst spelt
    exact .whole (o.push c) (Outline.wellFormed_push.mpr ⟨unmarked, formed⟩) rfl
  | openHole o ps formed apart free spelt =>
    have formed := Outline.wellFormed_push.mpr ⟨front spelt, formed⟩
    subst spelt
    exact .openHole (o.push c) ps formed (Outline.apart_push apart unmarked) free rfl
  | openQuote o ps quote inside formed apart free opens absent spelt =>
    have formed := Outline.wellFormed_push.mpr ⟨front spelt, formed⟩
    subst spelt
    exact .openQuote (o.push c) ps quote inside formed (Outline.apart_push apart unmarked) free opens
      absent rfl

theorem hole {body : List Char} (read : Reading source) (isBody : IsBody body) :
    Reading (opening ++ (body ++ (closing ++ source))) := by
  cases read with
  | whole o formed spelt =>
    exact .whole (o.hole body) (Outline.wellFormed_hole.mpr ⟨isBody, formed⟩) (by simp [spelt])
  | openHole o ps formed apart free spelt =>
    exact .openHole (o.hole body) ps (Outline.wellFormed_hole.mpr ⟨isBody, formed⟩)
      (Outline.apart_hole apart) free (by simp [spelt])
  | openQuote o ps quote inside formed apart free opens absent spelt =>
    exact .openQuote (o.hole body) ps quote inside (Outline.wellFormed_hole.mpr ⟨isBody, formed⟩)
      (Outline.apart_hole apart) free opens absent (by simp [spelt])

end Reading

theorem reading (source : List Char) : Reading source := by
  match source with
  | [] => exact .whole ⟨[], []⟩ Outline.wellFormed_nil rfl
  | c :: rest =>
    by_cases marker : opening <+: c :: rest
    · obtain ⟨inside, spelt⟩ := marker
      rw [← spelt]
      cases bodyReading inside with
      | closed ps after free last same =>
        have shorter : after.length < (c :: rest).length := by
          simp [← spelt, same, opening, closing]
          omega
        rw [same]
        exact (reading after).hole ⟨ps, rfl, free, last⟩
      | openHole ps free same =>
        exact .openHole ⟨[], []⟩ ps Outline.wellFormed_nil (by simp) free (by rw [same]; rfl)
      | openQuote ps quote run free opens absent same =>
        exact .openQuote ⟨[], []⟩ ps quote run Outline.wellFormed_nil (by simp) free opens absent
          (by rw [same]; rfl)
    · exact (reading rest).cons marker
termination_by source.length
decreasing_by
  · exact shorter
  · exact Nat.lt_succ_self _

theorem outline_eq_ok_iff {source : List Char} {o : Outline} :
    outline source = .ok o ↔ o.WellFormed ∧ o.chars = source := by
  constructor
  · intro found
    cases reading source with
    | whole o' formed spelt =>
      have same : o' = o := by
        rw [spelt, outline_chars formed] at found
        exact Except.ok.inj found
      exact same ▸ ⟨formed, spelt.symm⟩
    | openHole o' ps formed apart free spelt =>
      rw [spelt, outline_openHole formed apart free] at found
      contradiction
    | openQuote o' ps quote inside formed apart free opens absent spelt =>
      rw [spelt, outline_openQuote formed apart free opens absent] at found
      contradiction
  · intro read
    obtain ⟨formed, spelt⟩ := read
    rw [← spelt, outline_chars formed]

theorem Outline.WellFormed.unique {o o' : Outline} (formed : o.WellFormed) (formed' : o'.WellFormed)
    (same : o.chars = o'.chars) : o = o' := by
  have found := outline_chars formed
  rw [same, outline_chars formed'] at found
  exact (Except.ok.inj found).symm

theorem compile_of_outline {source : String} {o : Outline} (found : outline source.toList = .ok o) :
    compile source = .ok o.directives := by
  rw [compile, found]

theorem compile_of_fault {source : String} {fault : Unclosed}
    (found : outline source.toList = .error fault) :
    compile source = .error (.malformedTemplate fault.construct fault.offset) := by
  rw [compile, found]

theorem compile_eq_ok_iff {source : String} {ds : List Directive} :
    compile source = .ok ds ↔
      ∃ o : Outline, o.WellFormed ∧ o.chars = source.toList ∧ o.directives = ds := by
  constructor
  · intro compiled
    cases found : outline source.toList with
    | error fault =>
      rw [compile_of_fault found] at compiled
      contradiction
    | ok o =>
      obtain ⟨formed, spelt⟩ := outline_eq_ok_iff.mp found
      rw [compile_of_outline found] at compiled
      exact ⟨o, formed, spelt, Except.ok.inj compiled⟩
  · intro read
    obtain ⟨o, formed, spelt, same⟩ := read
    rw [compile_of_outline (outline_eq_ok_iff.mpr ⟨formed, spelt⟩), same]

/-- A template compiles if and only if it is text and holes as the grammar has them, and then to what
these mean, in order; and there is only one way to read it so. -/
theorem compile_iff_decomposes :
    (∀ (source : String) (ds : List Directive), compile source = .ok ds ↔
      ∃ o : Outline, o.WellFormed ∧ o.chars = source.toList ∧ o.Means ds) ∧
    ∀ o o' : Outline, o.WellFormed → o'.WellFormed → o.chars = o'.chars → o = o' := by
  refine ⟨fun source ds => ?_, fun o o' formed formed' same => formed.unique formed' same⟩
  rw [compile_eq_ok_iff]
  simp only [Outline.means_iff]

theorem quoted_markers_decompose :
    ∃ o : Outline, o.WellFormed ∧ o.chars = "a\x7b\x7bf '\x7d\x7d'\x7d\x7d\x7d".toList ∧
      o.Means [.text "a", .call "f" ["\x7d\x7d"], .text "\x7d"] ∧
      ∀ o' : Outline, o'.WellFormed → o'.chars = o.chars → o' = o := by
  have compiled : compile "a\x7b\x7bf '\x7d\x7d'\x7d\x7d\x7d" =
      .ok [.text "a", .call "f" ["\x7d\x7d"], .text "\x7d"] := rfl
  obtain ⟨o, formed, spelt, means⟩ := (compile_iff_decomposes.1 _ _).mp compiled
  exact ⟨o, formed, spelt, means, fun o' formed' same => compile_iff_decomposes.2 o' o formed' formed same⟩

end PromptKit.Template
