import PromptKit.Template.Compiled
import PromptKit.Template.Source

/-!
The grammar of templates, stated without the scan. A template is text, then holes, each with the text
after it. The body of a hole is a row of pieces: characters outside of quotes, and whole quoted runs.
-/
namespace PromptKit.Template

theorem bodyDirective_call {body : List Char} (filled : body ≠ []) (undollared : ¬ ['$'] <+: body) :
    bodyDirective body = [.call (parseBody body).1 (parseBody body).2] := by
  apply bodyDirective.eq_3
  · exact filled
  · intro key same
    subst same
    exact undollared ⟨key, rfl⟩

/-- A part of a body. A quoted run ends at the next quote of the kind that opened it, so it holds none. -/
inductive Piece where
  | plain (c : Char) (unquoted : isQuote c = false)
  | run (quote : Char) (inside : List Char) (opens : isQuote quote = true) (absent : quote ∉ inside)

namespace Piece

def chars : Piece → List Char
  | plain c _ => [c]
  | run quote inside _ _ => quote :: (inside ++ [quote])

def brace : Piece := .plain '\x7d' (by decide)

theorem exists_chars_eq_cons (p : Piece) : ∃ c rest, p.chars = c :: rest := by
  cases p with
  | plain c _ => exact ⟨c, [], rfl⟩
  | run quote inside _ _ => exact ⟨quote, inside ++ [quote], rfl⟩

end Piece

def spell (pieces : List Piece) : List Char := pieces.flatMap Piece.chars

@[simp] theorem spell_nil : spell [] = [] := rfl

@[simp] theorem spell_cons (p : Piece) (ps : List Piece) : spell (p :: ps) = p.chars ++ spell ps := rfl

@[simp] theorem spell_append (ps qs : List Piece) : spell (ps ++ qs) = spell ps ++ spell qs :=
  List.flatMap_append

def MarkerFree (pieces : List Piece) : Prop := ¬ [Piece.brace, Piece.brace] <:+: pieces

/-- What a hole can hold: its pieces have no closing marker among them, and the brace of the marker
that follows them is not taken for one of theirs. -/
def IsBody (body : List Char) : Prop :=
  ∃ pieces, spell pieces = body ∧ MarkerFree pieces ∧ ¬ [Piece.brace] <:+ pieces

theorem markerFree_nil : MarkerFree [] := by simp [MarkerFree]

theorem markerFree_cons {p : Piece} {ps : List Piece} :
    MarkerFree (p :: ps) ↔ ¬ (p = .brace ∧ [.brace] <+: ps) ∧ MarkerFree ps := by
  simp only [MarkerFree, List.infix_cons_iff, List.cons_prefix_cons, not_or, eq_comm (a := Piece.brace)]

/-- The dollar sign in front of a key does not change what a hole can hold. -/
theorem isBody_dollar_iff {key : List Char} : IsBody ('$' :: key) ↔ IsBody key := by
  have notBrace {unquoted : isQuote '$' = false} : Piece.plain '$' unquoted ≠ .brace := fun same =>
    absurd (Piece.plain.inj same) (by decide)
  constructor
  · rintro ⟨ps, spelt, free, last⟩
    cases ps with
    | nil => cases spelt
    | cons p ps =>
      cases p with
      | plain c unquoted =>
        obtain ⟨_, same⟩ := List.cons.inj spelt
        exact ⟨ps, same, (markerFree_cons.mp free).2, fun ends => last (ends.trans (List.suffix_cons _ ps))⟩
      | run quote inside opens absent =>
        obtain ⟨rfl, _⟩ := List.cons.inj spelt
        exact absurd opens (by decide)
  · rintro ⟨ps, rfl, free, last⟩
    refine ⟨.plain '$' (by decide) :: ps, rfl, markerFree_cons.mpr ⟨fun both => notBrace both.1, free⟩, ?_⟩
    intro ends
    rcases List.suffix_cons_iff.mp ends with single | inside
    · exact notBrace (List.cons.inj single).1.symm
    · exact last inside

theorem brace_prefix_of_spell {ps : List Piece} (starts : ['\x7d'] <+: spell ps) : [.brace] <+: ps := by
  cases ps with
  | nil => simp at starts
  | cons p ps =>
    cases p with
    | plain c unquoted =>
      have same : '\x7d' = c := by simpa [Piece.chars] using starts
      subst same
      exact ⟨ps, rfl⟩
    | run quote inside opens absent =>
      have same : '\x7d' = quote := by simpa [Piece.chars] using starts
      subst same
      exact absurd opens (by decide)

theorem not_closing_prefix {c : Char} {unquoted : isQuote c = false} {ps : List Piece}
    {rest : List Char} (free : MarkerFree (.plain c unquoted :: ps))
    (apart : ¬ ([.brace] <:+ .plain c unquoted :: ps ∧ ['\x7d'] <+: rest)) :
    ¬ closing <+: c :: (spell ps ++ rest) := by
  intro marker
  obtain ⟨same, next⟩ := List.cons_prefix_cons.mp marker
  subst same
  cases ps with
  | nil => exact apart ⟨List.suffix_refl _, next⟩
  | cons p ps =>
    obtain ⟨d, tail, spelt⟩ := p.exists_chars_eq_cons
    have first : ['\x7d'] <+: spell (p :: ps) := by
      simp only [spell_cons, spelt, List.cons_append, List.cons_prefix_cons, List.nil_prefix,
        and_true] at next ⊢
      exact next
    exact (markerFree_cons.mp free).1 ⟨rfl, brace_prefix_of_spell first⟩

theorem not_seam_of_suffix {cs ds : List Char} (rest : List Char) (ends : ds <:+ cs)
    (apart : ¬ (['\x7b'] <:+ cs ∧ ['\x7b'] <+: rest)) : ¬ (['\x7b'] <:+ ds ∧ ['\x7b'] <+: rest) :=
  fun both => apart ⟨both.1.trans ends, both.2⟩

theorem not_opening_append {c : Char} {cs rest : List Char} (unmarked : ¬ opening <+: c :: cs)
    (apart : ¬ (['\x7b'] <:+ c :: cs ∧ ['\x7b'] <+: rest)) : ¬ opening <+: c :: (cs ++ rest) := by
  intro marker
  obtain ⟨same, next⟩ := List.cons_prefix_cons.mp marker
  subst same
  cases cs with
  | nil => exact apart ⟨List.suffix_refl _, next⟩
  | cons d tail =>
    obtain ⟨same, _⟩ := List.cons_prefix_cons.mp next
    subst same
    exact unmarked (by simp [opening])

namespace Outline

def hole (body : List Char) (o : Outline) : Outline := ⟨[], ⟨body, o.lead⟩ :: o.holes⟩

def texts (o : Outline) : List (List Char) := o.lead :: o.holes.map Hole.after

def chars (o : Outline) : List Char :=
  o.lead ++ o.holes.flatMap fun h => opening ++ h.body ++ closing ++ h.after

/-- No text has an opening marker in it, no text before a hole ends with a brace that would become
part of the marker, and every hole holds a body. -/
structure WellFormed (o : Outline) : Prop where
  unopened : ∀ t ∈ o.texts, ¬ opening <:+: t
  apart : ∀ t ∈ o.texts.dropLast, ¬ ['\x7b'] <:+ t
  bodies : ∀ h ∈ o.holes, IsBody h.body

@[elab_as_elim]
theorem induction {motive : Outline → Prop} (nil : motive ⟨[], []⟩)
    (push : ∀ c o, motive o → motive (o.push c))
    (hole : ∀ body o, motive o → motive (o.hole body)) (o : Outline) : motive o := by
  obtain ⟨lead, holes⟩ := o
  induction holes generalizing lead with
  | nil =>
    induction lead with
    | nil => exact nil
    | cons c lead ih => exact push c ⟨lead, []⟩ ih
  | cons h holes ih =>
    induction lead with
    | nil => exact hole h.body ⟨h.after, holes⟩ (ih h.after)
    | cons c lead inner => exact push c ⟨lead, h :: holes⟩ inner

@[simp] theorem chars_nil : chars ⟨[], []⟩ = [] := rfl

@[simp] theorem chars_push (c : Char) (o : Outline) : (o.push c).chars = c :: o.chars := rfl

@[simp] theorem chars_hole (body : List Char) (o : Outline) :
    (o.hole body).chars = opening ++ body ++ closing ++ o.chars := by
  simp [chars, hole]

theorem suffix_chars_hole (body : List Char) (o : Outline) : o.chars <:+ (o.hole body).chars :=
  ⟨opening ++ body ++ closing, by simp⟩

theorem brace_prefix_chars {o : Outline} :
    ['\x7b'] <+: o.chars ↔ ['\x7b'] <+: o.lead ∨ o.lead = [] ∧ o.holes ≠ [] := by
  obtain ⟨lead, holes⟩ := o
  cases lead with
  | nil =>
    cases holes with
    | nil => simp [chars]
    | cons h holes => simp [chars, opening]
  | cons c lead => simp [chars]

theorem wellFormed_nil : WellFormed ⟨[], []⟩ := by
  constructor <;> simp [texts, opening]

def LeadFits (o : Outline) : Prop :=
  ¬ opening <:+: o.lead ∧ (o.holes ≠ [] → ¬ ['\x7b'] <:+ o.lead)

theorem leadFits_push {c : Char} {o : Outline} :
    (o.push c).LeadFits ↔ ¬ opening <+: c :: o.chars ∧ o.LeadFits := by
  simp only [LeadFits, push, opening, List.infix_cons_iff, List.suffix_cons_iff,
    List.cons_prefix_cons, brace_prefix_chars, List.cons.injEq]
  constructor
  · intro fits
    obtain ⟨unopened, apart⟩ := fits
    refine ⟨?_, fun inside => unopened (.inr inside), fun more ends => apart more (.inr ends)⟩
    intro marker
    obtain ⟨same, next⟩ := marker
    rcases next with inside | ⟨empty, more⟩
    · exact unopened (.inl ⟨same, inside⟩)
    · exact apart more (.inl ⟨same, empty.symm⟩)
  · intro fits
    obtain ⟨unmarked, unopened, apart⟩ := fits
    constructor
    · intro marker
      rcases marker with ⟨same, inside⟩ | inside
      · exact unmarked ⟨same, .inl inside⟩
      · exact unopened inside
    · intro more last
      rcases last with ⟨same, empty⟩ | ends
      · exact unmarked ⟨same, .inr ⟨empty.symm, more⟩⟩
      · exact apart more ends

theorem wellFormed_iff {o : Outline} :
    o.WellFormed ↔ o.LeadFits ∧ (∀ t ∈ o.holes.map Hole.after, ¬ opening <:+: t) ∧
      (∀ t ∈ (o.holes.map Hole.after).dropLast, ¬ ['\x7b'] <:+ t) ∧ ∀ h ∈ o.holes, IsBody h.body := by
  obtain ⟨lead, holes⟩ := o
  constructor
  · intro formed
    obtain ⟨unopened, apart, bodies⟩ := formed
    obtain ⟨first, later⟩ := List.forall_mem_cons.mp unopened
    cases holes with
    | nil => exact ⟨⟨first, fun more => absurd rfl more⟩, later, by simp, bodies⟩
    | cons h holes =>
      obtain ⟨ends, others⟩ := List.forall_mem_cons.mp apart
      exact ⟨⟨first, fun _ => ends⟩, later, others, bodies⟩
  · intro fits
    obtain ⟨⟨first, ends⟩, later, others, bodies⟩ := fits
    refine ⟨List.forall_mem_cons.mpr ⟨first, later⟩, ?_, bodies⟩
    cases holes with
    | nil => simp [texts]
    | cons h holes => exact List.forall_mem_cons.mpr ⟨ends (by simp), others⟩

theorem wellFormed_push {c : Char} {o : Outline} :
    (o.push c).WellFormed ↔ ¬ opening <+: c :: o.chars ∧ o.WellFormed := by
  rw [wellFormed_iff, wellFormed_iff, leadFits_push, and_assoc]
  rfl

theorem wellFormed_hole {body : List Char} {o : Outline} :
    (o.hole body).WellFormed ↔ IsBody body ∧ o.WellFormed := by
  have empty : (o.hole body).LeadFits := by simp [LeadFits, hole, opening]
  rw [wellFormed_iff]
  constructor
  · intro formed
    obtain ⟨_, unopened, apart, bodies⟩ := formed
    obtain ⟨isBody, bodies⟩ := List.forall_mem_cons.mp bodies
    exact ⟨isBody, unopened, apart, bodies⟩
  · intro formed
    obtain ⟨isBody, unopened, apart, bodies⟩ := formed
    exact ⟨empty, unopened, apart, List.forall_mem_cons.mpr ⟨isBody, bodies⟩⟩

def append (o next : Outline) : Outline :=
  match o.holes with
  | [] => ⟨o.lead ++ next.lead, next.holes⟩
  | h :: holes => ⟨o.lead, go h holes next⟩
where
  go (h : Hole) : List Hole → Outline → List Hole
    | [], next => { h with after := h.after ++ next.lead } :: next.holes
    | h' :: holes, next => h :: go h' holes next

@[simp] theorem directives_hole (body : List Char) (o : Outline) :
    (o.hole body).directives = bodyDirective body ++ o.directives := by
  simp [directives, hole, textDirective]

theorem directives_cons (lead : List Char) (h : Hole) (holes : List Hole) :
    (Outline.mk lead (h :: holes)).directives =
      textDirective lead ++ bodyDirective h.body ++ (Outline.mk h.after holes).directives := by
  simp [directives]

@[simp] theorem nil_append (next : Outline) : append ⟨[], []⟩ next = next := rfl

@[simp] theorem push_append (c : Char) (o next : Outline) :
    (o.push c).append next = (o.append next).push c := by
  obtain ⟨lead, holes⟩ := o
  cases holes <;> rfl

@[simp] theorem hole_append (body : List Char) (o next : Outline) :
    (o.hole body).append next = (o.append next).hole body := by
  obtain ⟨lead, holes⟩ := o
  cases holes <;> rfl

@[simp] theorem append_nil (o : Outline) : o.append ⟨[], []⟩ = o := by
  induction o using induction with
  | nil => rfl
  | push c o ih => rw [push_append, ih]
  | hole body o ih => rw [hole_append, ih]

@[simp] theorem chars_append (o next : Outline) : (o.append next).chars = o.chars ++ next.chars := by
  induction o using induction with
  | nil => rfl
  | push c o ih => simp [ih]
  | hole body o ih => simp [ih]

theorem WellFormed.append {o next : Outline} (formed : o.WellFormed) (formed' : next.WellFormed)
    (apart : ¬ (['\x7b'] <:+ o.chars ∧ ['\x7b'] <+: next.chars)) : (o.append next).WellFormed := by
  induction o using induction with
  | nil => exact formed'
  | push c o ih =>
    obtain ⟨unmarked, formed⟩ := wellFormed_push.mp formed
    -- what is left of the outline ends as the outline does, unless nothing is left
    have later := not_seam_of_suffix next.chars (List.suffix_cons c o.chars) apart
    rw [push_append, wellFormed_push, chars_append]
    exact ⟨not_opening_append unmarked apart, ih formed later⟩
  | hole body o ih =>
    obtain ⟨isBody, formed⟩ := wellFormed_hole.mp formed
    have later := not_seam_of_suffix next.chars (suffix_chars_hole body o) apart
    rw [hole_append, wellFormed_hole]
    exact ⟨isBody, ih formed later⟩

end Outline

inductive TextMeans : List Char → List Directive → Prop
  | empty : TextMeans [] []
  | text (content : List Char) (filled : content ≠ []) :
      TextMeans content [.text (String.ofList content)]

inductive BodyMeans : List Char → List Directive → Prop
  | empty : BodyMeans [] []
  | lookup (key : List Char) : BodyMeans ('$' :: key) [.lookup (String.ofList key)]
  | call (body : List Char) (filled : body ≠ []) (undollared : ¬ ['$'] <+: body) :
      BodyMeans body [.call (parseBody body).1 (parseBody body).2]

inductive HolesMean : List Hole → List Directive → Prop
  | nil : HolesMean [] []
  | cons (h : Hole) (holes : List Hole) (inside after later : List Directive)
      (body : BodyMeans h.body inside) (text : TextMeans h.after after) (rest : HolesMean holes later) :
      HolesMean (h :: holes) (inside ++ after ++ later)

def Outline.Means (o : Outline) (ds : List Directive) : Prop :=
  ∃ first later, TextMeans o.lead first ∧ HolesMean o.holes later ∧ ds = first ++ later

theorem textDirective_of_filled {content : List Char} (filled : content ≠ []) :
    textDirective content = [.text (String.ofList content)] := by
  simp [textDirective, filled]

theorem textMeans_iff {content : List Char} {ds : List Directive} :
    TextMeans content ds ↔ ds = textDirective content := by
  constructor
  · intro means
    cases means with
    | empty => rfl
    | text _ filled => exact (textDirective_of_filled filled).symm
  · intro same
    subst same
    cases content with
    | nil => exact .empty
    | cons c content => exact .text (c :: content) (by simp)

theorem bodyMeans_iff {body : List Char} {ds : List Directive} :
    BodyMeans body ds ↔ ds = bodyDirective body := by
  constructor
  · intro means
    cases means with
    | empty => rfl
    | lookup key => rfl
    | call _ filled undollared => rw [bodyDirective_call filled undollared]
  · intro same
    subst same
    cases body with
    | nil => exact .empty
    | cons c body =>
      by_cases dollar : c = '$'
      · subst dollar
        exact .lookup body
      · have undollared : ¬ ['$'] <+: c :: body := by simp [Ne.symm dollar]
        rw [bodyDirective_call (by simp) undollared]
        exact .call (c :: body) (by simp) undollared

theorem holesMean_iff {holes : List Hole} {ds : List Directive} :
    HolesMean holes ds ↔
      ds = holes.flatMap fun h => bodyDirective h.body ++ textDirective h.after := by
  constructor
  · intro means
    induction means with
    | nil => rfl
    | cons h holes inside after later body text rest ih =>
      rw [List.flatMap_cons, bodyMeans_iff.mp body, textMeans_iff.mp text, ih]
  · intro same
    subst same
    induction holes with
    | nil => exact .nil
    | cons h holes ih => exact .cons h holes _ _ _ (bodyMeans_iff.mpr rfl) (textMeans_iff.mpr rfl) ih

theorem Outline.means_iff {o : Outline} {ds : List Directive} : o.Means ds ↔ o.directives = ds := by
  constructor
  · intro means
    obtain ⟨first, later, text, holes, rfl⟩ := means
    rw [directives, textMeans_iff.mp text, holesMean_iff.mp holes]
  · intro same
    subst same
    exact ⟨_, _, textMeans_iff.mpr rfl, holesMean_iff.mpr rfl, rfl⟩

end PromptKit.Template
