import PromptKit.Proofs.Template.Reading

/-!
One template after another. Unless a marker comes to stand across the seam, the second is read as it is by
itself: its error moves by the bytes of the first, and its directives follow those of the first, where the
text on both sides of the seam becomes one.
-/
namespace PromptKit.Template

open Text (utf8Length)

namespace Outline

variable {o next : Outline} {source : List Char}

def trail (o : Outline) : List Char := o.texts.getLast (List.cons_ne_nil _ _)

theorem directives_eq_lead_append (o : Outline) :
    o.directives = textDirective o.lead ++ (Outline.mk [] o.holes).directives := rfl

theorem append_cons (lead : List Char) (h : Hole) (holes : List Hole) (next : Outline) :
    (Outline.mk lead (h :: holes)).append next =
      ⟨lead, ⟨h.body, ((Outline.mk h.after holes).append next).lead⟩ ::
        ((Outline.mk h.after holes).append next).holes⟩ := by
  cases holes <;> rfl

/-- Up to the last text of an outline, its directives are those of any outline that begins with it. -/
theorem exists_front (o : Outline) : ∃ front, o.directives = front ++ textDirective o.trail ∧
    ∀ next, (o.append next).directives =
      front ++ textDirective (o.trail ++ next.lead) ++ (Outline.mk [] next.holes).directives := by
  obtain ⟨lead, holes⟩ := o
  induction holes generalizing lead with
  | nil =>
    refine ⟨[], ?_, fun next => ?_⟩
    · simp [directives, trail, texts]
    · rw [directives_eq_lead_append]
      rfl
  | cons h holes ih =>
    obtain ⟨front, own, joined⟩ := ih h.after
    have trail_eq : (Outline.mk lead (h :: holes)).trail = (Outline.mk h.after holes).trail := rfl
    refine ⟨textDirective lead ++ bodyDirective h.body ++ front, ?_, fun next => ?_⟩
    · rw [directives_cons, own, trail_eq]
      simp only [List.append_assoc]
    · rw [append_cons, directives_cons, joined next, trail_eq]
      simp only [List.append_assoc]

theorem directives_append_of_empty (empty : o.trail = [] ∨ next.lead = []) :
    (o.append next).directives = o.directives ++ next.directives := by
  obtain ⟨front, own, joined⟩ := o.exists_front
  rw [joined, own, next.directives_eq_lead_append]
  rcases empty with none | none
  · rw [none]
    simp [textDirective]
  · rw [none]
    simp [textDirective]

theorem directives_append_of_filled (ends : o.trail ≠ []) (begins : next.lead ≠ []) :
    ∃ front rest, o.directives = front ++ [.text (String.ofList o.trail)] ∧
      next.directives = .text (String.ofList next.lead) :: rest ∧
      (o.append next).directives =
        front ++ .text (String.ofList o.trail ++ String.ofList next.lead) :: rest := by
  obtain ⟨front, own, joined⟩ := o.exists_front
  refine ⟨front, (Outline.mk [] next.holes).directives, ?_, ?_, ?_⟩
  · rw [own, textDirective_of_filled ends]
  · rw [next.directives_eq_lead_append, textDirective_of_filled begins]
    rfl
  · rw [joined, textDirective_of_filled (List.append_ne_nil_of_left_ne_nil ends _), String.ofList_append]
    simp

theorem WellFormed.lead_eq_nil_iff (formed : o.WellFormed) :
    o.lead = [] ↔ o.chars = [] ∨ opening <+: o.chars := by
  obtain ⟨lead, holes⟩ := o
  cases lead with
  | nil =>
    refine iff_of_true rfl ?_
    cases holes with
    | nil => exact .inl rfl
    | cons h holes => exact .inr (by simp [chars, List.append_assoc])
  | cons c lead =>
    refine iff_of_false (List.cons_ne_nil c lead) ?_
    rintro (empty | marker)
    · cases empty
    · exact (wellFormed_push (o := ⟨lead, holes⟩).mp formed).1 marker

/-- A text that is open at its end stays so behind a whole outline. -/
theorem WellFormed.append_open {rest : List Char} (formed : o.WellFormed) (formed' : next.WellFormed)
    (ends : ¬ ['\x7b'] <:+ next.chars)
    (apart : ¬ (['\x7b'] <:+ o.chars ∧ ['\x7b'] <+: next.chars ++ (opening ++ rest))) :
    (o.append next).WellFormed ∧ ¬ ['\x7b'] <:+ (o.append next).chars := by
  constructor
  · exact formed.append formed' fun both => apart ⟨both.1, both.2.trans (List.prefix_append _ _)⟩
  · rw [List.singleton_suffix_iff_getLast?_eq_some] at ends ⊢
    rw [chars_append, List.getLast?_append]
    cases last : next.chars.getLast? with
    | some c => simpa [last] using ends
    | none =>
      -- the hole that is left open stands right at the seam
      rw [List.getLast?_eq_none_iff] at last
      rw [last] at apart
      intro own
      refine apart ⟨List.singleton_suffix_iff_getLast?_eq_some.mpr own, ?_⟩
      simp [opening]

theorem WellFormed.outline_append_of_ok (formed : o.WellFormed)
    (apart : ¬ (['\x7b'] <:+ o.chars ∧ ['\x7b'] <+: source)) (found : outline source = .ok next) :
    outline (o.chars ++ source) = .ok (o.append next) := by
  obtain ⟨formed', rfl⟩ := outline_eq_ok_iff.mp found
  exact outline_eq_ok_iff.mpr ⟨formed.append formed' apart, chars_append o next⟩

theorem WellFormed.outline_append_of_error {construct : OpenConstruct} {offset : Nat}
    (formed : o.WellFormed) (apart : ¬ (['\x7b'] <:+ o.chars ∧ ['\x7b'] <+: source))
    (failed : outline source = .error ⟨construct, offset⟩) :
    outline (o.chars ++ source) = .error ⟨construct, utf8Length o.chars + offset⟩ := by
  cases reading source with
  | whole next formed' spelt =>
    rw [spelt, outline_chars formed'] at failed
    contradiction
  | openHole next ps formed' ends free spelt =>
    rw [spelt] at apart
    obtain ⟨joined, last⟩ := formed.append_open formed' ends apart
    rw [spelt, outline_openHole formed' ends free] at failed
    cases failed
    rw [spelt, ← List.append_assoc, ← chars_append, outline_openHole joined last free, chars_append,
      Text.utf8Length_append]
  | openQuote next ps quote inside formed' ends free opens absent spelt =>
    rw [spelt] at apart
    obtain ⟨joined, last⟩ := formed.append_open formed' ends apart
    rw [spelt, outline_openQuote formed' ends free opens absent] at failed
    cases failed
    rw [spelt, ← List.append_assoc, ← chars_append, outline_openQuote joined last free opens absent]
    simp

end Outline

/-- The last character of a template is scanned as text, and not as the end of a hole. -/
def EndsInText (source : String) : Prop := ∃ o, outline source.toList = .ok o ∧ o.trail ≠ []

structure MeetInText (first second : String) : Prop where
  ends : EndsInText first
  filled : second ≠ ""
  unopened : ¬ opening <+: second.toList

theorem meetInText_iff {o next : Outline} {first second : String} (formed : o.WellFormed)
    (spelt : o.chars = first.toList) (formed' : next.WellFormed) (spelt' : next.chars = second.toList) :
    MeetInText first second ↔ o.trail ≠ [] ∧ next.lead ≠ [] := by
  have begins : next.lead ≠ [] ↔ second ≠ "" ∧ ¬ opening <+: second.toList := by
    rw [ne_eq, formed'.lead_eq_nil_iff, spelt', not_or, String.toList_eq_nil_iff]
  rw [begins]
  have scanned : outline first.toList = .ok o := outline_eq_ok_iff.mpr ⟨formed, spelt⟩
  constructor
  · rintro ⟨⟨o', found, ends⟩, filled, unopened⟩
    obtain rfl := Except.ok.inj (scanned.symm.trans found)
    exact ⟨ends, filled, unopened⟩
  · rintro ⟨ends, filled, unopened⟩
    exact ⟨⟨o, scanned, ends⟩, filled, unopened⟩

/-- A template that compiles, with another one after it, no marker standing across the seam. -/
theorem compile_append {first second : String} {ds : List Directive} (compiled : compile first = .ok ds)
    (apart : ¬ (['\x7b'] <:+ first.toList ∧ ['\x7b'] <+: second.toList)) :
    (∀ e, compile second = .error e → ∃ construct offset, e = .malformedTemplate construct offset ∧
      compile (first ++ second) = .error (.malformedTemplate construct (first.utf8ByteSize + offset))) ∧
    ∀ more, compile second = .ok more →
      (MeetInText first second → ∃ front left right rest,
        ds = front ++ [.text left] ∧ more = .text right :: rest ∧
          compile (first ++ second) = .ok (front ++ .text (left ++ right) :: rest)) ∧
      (¬ MeetInText first second → compile (first ++ second) = .ok (ds ++ more)) := by
  obtain ⟨o, formed, spelt, rfl⟩ := compile_eq_ok_iff.mp compiled
  have whole : (first ++ second).toList = o.chars ++ second.toList := by rw [String.toList_append, spelt]
  rw [← spelt] at apart
  constructor
  · intro e failed
    cases found : outline second.toList with
    | ok next =>
      rw [compile_of_outline found] at failed
      contradiction
    | error fault =>
      obtain ⟨construct, offset⟩ := fault
      rw [compile_of_fault found] at failed
      refine ⟨construct, offset, (Except.error.inj failed).symm, ?_⟩
      have size : first.utf8ByteSize = utf8Length o.chars := by
        rw [spelt, ← Text.utf8ByteSize_ofList, String.ofList_toList]
      rw [compile_of_fault (whole ▸ formed.outline_append_of_error apart found), size]
  · intro more compiled'
    obtain ⟨next, formed', spelt', rfl⟩ := compile_eq_ok_iff.mp compiled'
    have joined := formed.outline_append_of_ok apart (outline_eq_ok_iff.mpr ⟨formed', spelt'⟩)
    rw [meetInText_iff formed spelt formed' spelt', compile_of_outline (whole ▸ joined)]
    constructor
    · rintro ⟨ends, begins⟩
      obtain ⟨front, rest, own, others, same⟩ := Outline.directives_append_of_filled ends begins
      exact ⟨front, _, _, rest, own, others, by rw [same]⟩
    · intro parted
      rw [Outline.directives_append_of_empty]
      rwa [← not_or, Decidable.not_not] at parted

/-- Behind a text, a template that begins with a text, and one that is not closed. -/
theorem texts_meet_behind_hole :
    compile "\x7b\x7b$k\x7d\x7dé" = .ok [.lookup "k", .text "é"] ∧
    compile ("\x7b\x7b$k\x7d\x7dé" ++ "b\x7b\x7b\x7d\x7dc") =
      .ok [.lookup "k", .text "éb", .text "c"] ∧
    compile ("\x7b\x7b$k\x7d\x7dé" ++ "b\x7b\x7bf \x27x") =
      .error (.malformedTemplate .quotedString 13) := by
  have compiled : compile "\x7b\x7b$k\x7d\x7dé" = .ok [.lookup "k", .text "é"] := rfl
  have compiled' : compile "b\x7b\x7b\x7d\x7dc" = .ok [.text "b", .text "c"] := rfl
  have failed : compile "b\x7b\x7bf \x27x" = .error (.malformedTemplate .quotedString 5) := rfl
  have ends : EndsInText "\x7b\x7b$k\x7d\x7dé" := by
    have found : outline "\x7b\x7b$k\x7d\x7dé".toList = .ok ⟨[], [⟨['$', 'k'], ['é']⟩]⟩ := rfl
    exact ⟨_, found, by decide⟩
  refine ⟨compiled, ?_, ?_⟩
  · obtain ⟨fused, _⟩ := (compile_append compiled (by decide)).2 _ compiled'
    obtain ⟨front, left, right, rest, own, others, same⟩ := fused ⟨ends, by decide, by decide⟩
    change [Directive.lookup "k"] ++ [.text "é"] = _ at own
    obtain ⟨rfl, last⟩ := List.append_inj' own rfl
    cases last
    cases others
    exact same
  · obtain ⟨construct, offset, cause, same⟩ := (compile_append compiled (by decide)).1 _ failed
    cases cause
    exact same

end PromptKit.Template
