import PromptKit.Proofs.Template.Gatherer
import PromptKit.Proofs.Template.Scanner

/-!
The body of a call is read twice: by the scan of the template, which looks for the closing marker, and for
its words. After each character both are inside of a run of the same quote, or neither is inside of one. So
the reading of words, which has no error for a run that is left open, never ends inside of one.
-/
namespace PromptKit.Template

open Scanner (Reaches Turn)

def Scanner.InRun (s : Scanner) (quote : Char) : Prop := ∃ opened begun, s.place = .run opened quote begun

/-- The scan is inside of a hole, and inside of a run just when the reading of words is inside of one of
the same quote. -/
def InStep : Place → Option Char → Prop
  | .text, _ => False
  | .hole _, open? => open? = none
  | .run _ quote _, open? => open? = some quote

variable {source left rest body : List Char} {s s' : Scanner} {g : Gatherer} {open? : Option Char}

namespace InStep

variable {place : Place} {opened begun : Nat} {quote : Char}

theorem not_text (inStep : InStep place open?) : place ≠ .text := by
  rintro rfl
  exact inStep

theorem outside (inStep : InStep place open?) (inHole : place = .hole opened) : open? = none := by
  subst inHole
  exact inStep

theorem inside (inStep : InStep place open?) (inRun : place = .run opened quote begun) :
    open? = some quote := by
  subst inRun
  exact inStep

theorem inRun_iff (inStep : InStep s.place open?) (quote : Char) :
    s.InRun quote ↔ open? = some quote := by
  unfold Scanner.InRun
  cases place : s.place with
  | text => exact absurd place inStep.not_text
  | hole opened => simp [inStep.outside place]
  | run opened own begun => simp [inStep.inside place]

theorem turn (inStep : InStep s.place g.quote?) (turned : Turn s left s' rest) :
    s'.place = .text ∨
      ∃ c, left = c :: rest ∧ s'.held = c :: s.held ∧ InStep s'.place (g.read c).quote? := by
  cases turned with
  | opens _ inText => exact absurd inText inStep.not_text
  | keeps _ _ inText => exact absurd inText inStep.not_text
  | closes => exact .inl rfl
  | quotes opened c _ inHole opens =>
    refine .inr ⟨c, rfl, rfl, ?_⟩
    rw [g.quote?_read, inStep.outside inHole]
    exact if_pos opens
  | fills opened c _ inHole unquoted =>
    refine .inr ⟨c, rfl, rfl, ?_⟩
    rw [g.quote?_read, inStep.outside inHole]
    exact if_neg (by simp [unquoted])
  | unquotes opened quote begun _ inRun =>
    refine .inr ⟨quote, rfl, rfl, ?_⟩
    rw [g.quote?_read, inStep.inside inRun]
    exact if_pos rfl
  | passes opened quote begun c _ inRun other =>
    refine .inr ⟨c, rfl, rfl, ?_⟩
    rw [g.quote?_read, inStep.inside inRun]
    exact if_neg other

end InStep

structure Gathering (source : List Char) (s : Scanner) (rest : List Char) : Prop where
  inStep : InStep s.place (Gatherer.after s.held.reverse).quote?
  each : ∀ before c later, s.held.reverse = before ++ c :: later → ∃ s',
    Reaches source s' (later ++ rest) ∧ s'.held.reverse = before ++ [c] ∧
      InStep s'.place (Gatherer.after (before ++ [c])).quote?

theorem Gathering.turn (gathering : Gathering source s left) (turned : Turn s left s' rest)
    (reached : Reaches source s' rest) : s'.place = .text ∨ Gathering source s' rest := by
  rcases gathering.inStep.turn turned with inText | ⟨c, rfl, held, inStep⟩
  · exact .inl inText
  · have gathered : s'.held.reverse = s.held.reverse ++ [c] := by rw [held, List.reverse_cons]
    rw [← Gatherer.after_concat, ← gathered] at inStep
    refine .inr ⟨inStep, fun before d later spelt => ?_⟩
    rw [gathered] at spelt
    -- the last character is the one just taken, and all before it were gathered earlier
    rcases List.eq_nil_or_concat later with rfl | ⟨tail, last, rfl⟩
    · obtain ⟨rfl, same⟩ := List.append_inj' spelt rfl
      cases same
      exact ⟨s', reached, gathered, gathered ▸ inStep⟩
    · rw [List.concat_eq_append, ← List.cons_append, ← List.append_assoc] at spelt
      obtain ⟨earlier, same⟩ := List.append_inj' spelt rfl
      cases same
      rw [List.concat_eq_append, List.append_assoc]
      exact gathering.each before d tail earlier

theorem gathering_of_reaches (reached : Reaches source s rest) :
    s.place = .text ∨ Gathering source s rest := by
  induction reached using Reaches.induction with
  | begin => exact .inl rfl
  | turn s left s' rest _ turned reached ih =>
    rcases ih with inText | gathering
    · cases turned with
      | opens =>
        -- a hole begins with nothing gathered in it
        exact .inr ⟨rfl, fun before c later spelt => by simp [Scanner.pass] at spelt⟩
      | keeps => exact .inl rfl
      | closes _ _ inHole => cases inText.symm.trans inHole
      | quotes _ _ _ inHole => cases inText.symm.trans inHole
      | fills _ _ _ inHole => cases inText.symm.trans inHole
      | unquotes _ _ _ _ inRun => cases inText.symm.trans inRun
      | passes _ _ _ _ _ inRun => cases inText.symm.trans inRun
    · exact gathering.turn turned reached

/-- The scan is at the marker that closes a hole, and holds the body of a call. -/
structure HandsOver (source body rest : List Char) : Prop where
  held : ∃ s opened, Reaches source s (closing ++ rest) ∧ s.place = .hole opened ∧ s.held.reverse = body
  filled : body ≠ []
  undollared : ¬ ['$'] <+: body

namespace HandsOver

theorem gathering (handed : HandsOver source body rest) : ∃ s opened, s.place = .hole opened ∧
    s.held.reverse = body ∧ Gathering source s (closing ++ rest) := by
  obtain ⟨s, opened, reached, inHole, held⟩ := handed.held
  rcases gathering_of_reaches reached with inText | gathering
  · cases inText.symm.trans inHole
  · exact ⟨s, opened, inHole, held, gathering⟩

theorem outside (handed : HandsOver source body rest) : (Gatherer.after body).quote? = none := by
  obtain ⟨s, opened, inHole, held, gathering⟩ := handed.gathering
  rw [← held]
  exact gathering.inStep.outside inHole

theorem each (handed : HandsOver source body rest) {before later : List Char} {c : Char}
    (spelt : body = before ++ c :: later) : ∃ s, Reaches source s (later ++ (closing ++ rest)) ∧
      s.held.reverse = before ++ [c] ∧ InStep s.place (Gatherer.after (before ++ [c])).quote? := by
  obtain ⟨s, opened, _, held, gathering⟩ := handed.gathering
  exact gathering.each before c later (held.trans spelt)

end HandsOver

section Calls

variable {name : String} {args : List String}

theorem call_mem_bodyDirective_iff : .call name args ∈ bodyDirective body ↔
    body ≠ [] ∧ ¬ ['$'] <+: body ∧ parseBody body = (name, args) := by
  have means : BodyMeans body (bodyDirective body) := bodyMeans_iff.mpr rfl
  generalize bodyDirective body = ds at means ⊢
  cases means with
  | empty => simp
  | lookup key => simp
  | call _ filled undollared => simp [filled, undollared, Prod.ext_iff, eq_comm]

theorem call_not_mem_textDirective (content : List Char) : .call name args ∉ textDirective content := by
  unfold textDirective
  split <;> simp

/-- The scan has found no call but those of the bodies that it handed over. -/
theorem exists_handsOver_of_found (reached : Reaches source s rest) (found : .call name args ∈ s.found) :
    ∃ body later, HandsOver source body later ∧ parseBody body = (name, args) := by
  induction reached using Reaches.induction with
  | begin => cases found
  | turn s left s' rest reached turned _ ih =>
    cases turned with
    | opens =>
      rcases List.mem_append.mp found with early | late
      · exact ih early
      · exact absurd late (call_not_mem_textDirective _)
    | closes opened _ inHole =>
      rcases List.mem_append.mp found with early | late
      · exact ih early
      · obtain ⟨filled, undollared, read⟩ := call_mem_bodyDirective_iff.mp late
        exact ⟨_, rest, ⟨⟨s, opened, reached, inHole, rfl⟩, filled, undollared⟩, read⟩
    | keeps | quotes | fills | unquotes | passes => exact ih found

theorem HandsOver.call_mem (handed : HandsOver source body rest) (read : parseBody body = (name, args))
    {ds : List Directive} (given : (outline source).map Outline.directives = .ok ds) :
    .call name args ∈ ds := by
  obtain ⟨s, opened, reached, inHole, held⟩ := handed.held
  rw [← reached.outcome_eq, Scanner.outcome_turn (.closes opened rest inHole)] at given
  have inside : .call name args ∈ bodyDirective s.held.reverse := by
    rw [held]
    exact call_mem_bodyDirective_iff.mpr ⟨handed.filled, handed.undollared, read⟩
  exact (Scanner.found_prefix_of_outcome given).subset (List.mem_append_right _ inside)

end Calls

/-- The two readings of the body of a call, in a template that compiles. After each of its characters the
scan of the template is in one state, and the reading of words is inside of a run just when the scan is inside
of a run of the same quote. At its end no run is open, and the last word, if one is left, is bare. -/
theorem quotes_read_in_step {source : String} {ds : List Directive} (compiled : compile source = .ok ds) :
    (∀ name args, .call name args ∈ ds ↔
      ∃ body rest, HandsOver source.toList body rest ∧ parseBody body = (name, args)) ∧
    ∀ body rest, HandsOver source.toList body rest →
      (∀ before c later, body = before ++ c :: later → ∃ s,
        Reaches source.toList s (later ++ (closing ++ rest)) ∧
        (∀ other, Reaches source.toList other (later ++ (closing ++ rest)) → other = s) ∧
        s.held.reverse = before ++ [c] ∧ s.outcome (later ++ (closing ++ rest)) = .ok ds ∧
        (Gatherer.after (before ++ [c])).outcome later = words body ∧
        ∀ quote, s.InRun quote ↔ (Gatherer.after (before ++ [c])).quote? = some quote) ∧
      (Gatherer.after body).quote? = none ∧
      ∃ front bare, body = front ++ bare ∧ (∀ c ∈ bare, isQuote c = false) ∧
        Gatherer.after front = ⟨none, [], (Gatherer.after body).found⟩ ∧
        words body = (Gatherer.after body).found ++ consWord bare.reverse [] := by
  obtain ⟨o, formed, spelt, rfl⟩ := compile_eq_ok_iff.mp compiled
  have given : (outline source.toList).map Outline.directives = .ok o.directives := by
    rw [← spelt, outline_chars formed]
    rfl
  refine ⟨fun name args => ⟨fun mem => ?_, ?_⟩, fun body rest handed => ?_⟩
  · obtain ⟨last, reached⟩ := (Reaches.begin source.toList).exists_end
    rw [Scanner.eq_of_outcome_nil (reached.outcome_eq.trans given)] at mem
    rcases List.mem_append.mp mem with early | late
    · exact exists_handsOver_of_found reached early
    · exact absurd late (call_not_mem_textDirective _)
  · rintro ⟨body, rest, handed, read⟩
    exact handed.call_mem read given
  · refine ⟨fun before c later spelt => ?_, handed.outside, ?_⟩
    · obtain ⟨s, reached, held, inStep⟩ := handed.each spelt
      have onward := Gatherer.outcome_after (before ++ [c]) later
      rw [List.append_assoc, List.singleton_append, ← spelt] at onward
      exact ⟨s, reached, fun _ => reached.unique, held, reached.outcome_eq.trans given, onward,
        inStep.inRun_iff⟩
    · obtain ⟨front, bare, spelt, fresh, held, unquoted⟩ := Gatherer.exists_bare_end handed.outside
      refine ⟨front, bare, spelt, unquoted, fresh, ?_⟩
      have whole := Gatherer.outcome_after body []
      rw [List.append_nil, Gatherer.outcome, handed.outside, held] at whole
      exact whole.symm

/-- Another quote inside of a run, a marker inside of a run, and a run that touches the marker. -/
theorem nested_quotes_read_in_step :
    let source := "\x7b\x7bsay \x22it\x27s\x22 \x27\x7d\x7d\x27\x7d\x7d\x7d"
    let body := "say \x22it\x27s\x22 \x27\x7d\x7d\x27".toList
    compile source = .ok [.call "say" ["it\x27s", "\x7d\x7d"], .text "\x7d"] ∧
    HandsOver source.toList body ['\x7d'] ∧ (Gatherer.after body).quote? = none ∧
    ∃ s, Reaches source.toList s "s\x22 \x27\x7d\x7d\x27\x7d\x7d\x7d".toList ∧ s.InRun '\x22' := by
  intro source body
  have compiled : compile "\x7b\x7bsay \x22it\x27s\x22 \x27\x7d\x7d\x27\x7d\x7d\x7d" =
      .ok [.call "say" ["it\x27s", "\x7d\x7d"], .text "\x7d"] := rfl
  have handed : HandsOver source.toList body ['\x7d'] :=
    ⟨⟨⟨.hole 0, body.reverse, [], 17⟩, 0, ⟨16, by decide +kernel⟩, rfl, rfl⟩, by decide, by decide⟩
  obtain ⟨each, outside, _⟩ := (quotes_read_in_step compiled).2 body _ handed
  obtain ⟨s, reached, _, _, _, _, inRun⟩ :=
    each "say \x22it".toList '\x27' "s\x22 \x27\x7d\x7d\x27".toList rfl
  exact ⟨compiled, handed, outside, s, reached, (inRun '\x22').mpr rfl⟩

end PromptKit.Template
