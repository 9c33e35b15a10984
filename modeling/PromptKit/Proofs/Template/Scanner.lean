import Mathlib.Logic.Function.Iterate
import PromptKit.Proofs.Template.Reading

/-!
The scan of a template as one loop. Its state says what it is inside of, and holds what it has gathered
there; a turn takes one character, or both of a marker. From every state that it reaches, the scan of what
is left gives the directives of the template.
-/
namespace PromptKit.Template

inductive Place where
  | text
  | hole (opened : Nat)
  | run (opened : Nat) (quote : Char) (begun : Nat)
  deriving DecidableEq, Repr

structure Scanner where
  place : Place
  held : List Char
  found : List Directive
  at' : Nat
  deriving DecidableEq, Repr

namespace Scanner

def start : Scanner := ⟨.text, [], [], 0⟩

def hold (s : Scanner) (c : Char) (next : Place) : Scanner :=
  ⟨next, c :: s.held, s.found, s.at' + c.utf8Size⟩

def pass (s : Scanner) (ds : List Directive) (next : Place) : Scanner :=
  ⟨next, [], s.found ++ ds, s.at' + 2⟩

def turn (s : Scanner) (c : Char) (rest : List Char) : Scanner × List Char :=
  match s.place with
  | .text =>
    if opening <+: c :: rest then (s.pass (textDirective s.held.reverse) (.hole s.at'), rest.tail)
    else (s.hold c .text, rest)
  | .hole opened =>
    if closing <+: c :: rest then (s.pass (bodyDirective s.held.reverse) .text, rest.tail)
    else (s.hold c (if isQuote c then .run opened c s.at' else .hole opened), rest)
  | .run opened quote begun =>
    (s.hold c (if c = quote then .hole opened else .run opened quote begun), rest)

/-- What a turn can do: the state before it and what is left to read, then both after it. -/
inductive Turn (s : Scanner) : List Char → Scanner → List Char → Prop
  | opens (rest : List Char) (inText : s.place = .text) :
      Turn s (opening ++ rest) (s.pass (textDirective s.held.reverse) (.hole s.at')) rest
  | keeps (c : Char) (rest : List Char) (inText : s.place = .text) (unmarked : ¬ opening <+: c :: rest) :
      Turn s (c :: rest) (s.hold c .text) rest
  | closes (opened : Nat) (rest : List Char) (inHole : s.place = .hole opened) :
      Turn s (closing ++ rest) (s.pass (bodyDirective s.held.reverse) .text) rest
  | quotes (opened : Nat) (c : Char) (rest : List Char) (inHole : s.place = .hole opened)
      (opens : isQuote c = true) : Turn s (c :: rest) (s.hold c (.run opened c s.at')) rest
  | fills (opened : Nat) (c : Char) (rest : List Char) (inHole : s.place = .hole opened)
      (unquoted : isQuote c = false) (unmarked : ¬ closing <+: c :: rest) :
      Turn s (c :: rest) (s.hold c (.hole opened)) rest
  | unquotes (opened : Nat) (quote : Char) (begun : Nat) (rest : List Char)
      (inRun : s.place = .run opened quote begun) :
      Turn s (quote :: rest) (s.hold quote (.hole opened)) rest
  | passes (opened : Nat) (quote : Char) (begun : Nat) (c : Char) (rest : List Char)
      (inRun : s.place = .run opened quote begun) (other : c ≠ quote) :
      Turn s (c :: rest) (s.hold c (.run opened quote begun)) rest

theorem turn_takes (s : Scanner) (c : Char) (rest : List Char) :
    Turn s (c :: rest) (s.turn c rest).1 (s.turn c rest).2 := by
  unfold turn
  cases place : s.place with
  | text =>
    by_cases marker : opening <+: c :: rest
    · simp only [if_pos marker]
      obtain ⟨tail, spelt⟩ := marker
      cases spelt
      exact .opens tail place
    · simp only [if_neg marker]
      exact .keeps c rest place marker
  | hole opened =>
    by_cases marker : closing <+: c :: rest
    · simp only [if_pos marker]
      obtain ⟨tail, spelt⟩ := marker
      cases spelt
      exact .closes opened tail place
    · simp only [if_neg marker]
      cases quoted : isQuote c with
      | true => exact .quotes opened c rest place quoted
      | false => exact .fills opened c rest place quoted marker
  | run opened quote begun =>
    by_cases same : c = quote
    · simp only [if_pos same]
      subst same
      exact .unquotes opened c begun rest place
    · simp only [if_neg same]
      exact .passes opened quote begun c rest place same

def step : Scanner × List Char → Scanner × List Char
  | (s, []) => (s, [])
  | (s, c :: rest) => s.turn c rest

def Reaches (source : List Char) (s : Scanner) (rest : List Char) : Prop :=
  ∃ turns, step^[turns] (start, source) = (s, rest)

variable {source : List Char} {s s' : Scanner} {left rest : List Char} {c : Char}

namespace Reaches

theorem begin (source : List Char) : Reaches source start source := ⟨0, rfl⟩

theorem turn (reached : Reaches source s (c :: rest)) :
    Reaches source (s.turn c rest).1 (s.turn c rest).2 := by
  obtain ⟨turns, same⟩ := reached
  refine ⟨turns + 1, ?_⟩
  rw [Function.iterate_succ_apply', same]
  rfl

@[elab_as_elim]
theorem induction {motive : ∀ s rest, Reaches source s rest → Prop}
    (begin : motive start source (.begin source))
    (turn : ∀ s left s' rest (reached : Reaches source s left) (_ : Turn s left s' rest)
      (reached' : Reaches source s' rest), motive s left reached → motive s' rest reached')
    (reached : Reaches source s rest) : motive s rest reached := by
  obtain ⟨turns, same⟩ := reached
  induction turns generalizing s rest with
  | zero =>
    cases same
    exact begin
  | succ turns ih =>
    have last := same
    rw [Function.iterate_succ_apply'] at last
    cases before : step^[turns] (start, source) with
    | mk s₀ left =>
      rw [before] at last
      cases left with
      | nil =>
        cases last
        exact ih before
      | cons c tail =>
        have turned := s₀.turn_takes c tail
        rw [show s₀.turn c tail = (s, rest) from last] at turned
        exact turn s₀ _ s rest ⟨turns, before⟩ turned ⟨turns + 1, same⟩ (ih before)

end Reaches

section Progress

theorem Turn.length_lt (turned : Turn s left s' rest) : rest.length < left.length := by
  cases turned with
  | opens | closes => exact Nat.lt_succ_of_lt (Nat.lt_succ_self _)
  | keeps | quotes | fills | unquotes | passes => exact Nat.lt_succ_self _

theorem length_iterate_step_le (turns : Nat) (p : Scanner × List Char) :
    (step^[turns] p).2.length ≤ p.2.length := by
  induction turns generalizing p with
  | zero => exact Nat.le_refl _
  | succ turns ih =>
    refine Nat.le_trans (ih (step p)) ?_
    obtain ⟨s, rest⟩ := p
    cases rest with
    | nil => exact Nat.le_refl _
    | cons c rest => exact Nat.le_of_lt (s.turn_takes c rest).length_lt

theorem iterate_step_of_length (turns : Nat) (p : Scanner × List Char)
    (same : (step^[turns] p).2.length = p.2.length) : step^[turns] p = p := by
  obtain ⟨s, rest⟩ := p
  cases rest with
  | nil => exact Function.iterate_fixed rfl turns
  | cons c rest =>
    cases turns with
    | zero => rfl
    | succ turns =>
      have shorter : (step^[turns] (s.turn c rest)).2.length < (c :: rest).length :=
        Nat.lt_of_le_of_lt (length_iterate_step_le turns _) (s.turn_takes c rest).length_lt
      exact absurd same (Nat.ne_of_lt shorter)

theorem Reaches.unique (reached : Reaches source s rest) (reached' : Reaches source s' rest) : s' = s := by
  obtain ⟨turns, same⟩ := reached
  obtain ⟨turns', same'⟩ := reached'
  have later {few more : Nat} {first last : Scanner} (le : few ≤ more)
      (early : step^[few] (start, source) = (first, rest))
      (late : step^[more] (start, source) = (last, rest)) : last = first := by
    obtain ⟨between, rfl⟩ := Nat.exists_eq_add_of_le' le
    rw [Function.iterate_add_apply, early] at late
    have still := iterate_step_of_length between (first, rest) (by rw [late])
    rw [late] at still
    exact congrArg Prod.fst still
  rcases Nat.le_total turns turns' with le | le
  · exact later le same same'
  · exact (later le same' same).symm

theorem Reaches.exists_end {s : Scanner} {rest : List Char} (reached : Reaches source s rest) :
    ∃ last, Reaches source last [] := by
  match rest, reached with
  | [], reached => exact ⟨s, reached⟩
  | c :: tail, reached =>
    have shorter := (s.turn_takes c tail).length_lt
    exact reached.turn.exists_end
termination_by rest.length
decreasing_by exact shorter

end Progress

section Outcome

def complete (s : Scanner) (i : Inside) : List Directive :=
  s.found ++ bodyDirective (s.held.reverse ++ i.1) ++ i.2.directives

def outcome (s : Scanner) (rest : List Char) : Except Unclosed (List Directive) :=
  match s.place with
  | .text =>
    (scanText s.at' rest).map fun o => s.found ++ ((Outline.mk s.held.reverse []).append o).directives
  | .hole opened => (scanBody opened s.at' rest).map s.complete
  | .run opened quote begun => (scanQuoted opened quote begun s.at' rest).map s.complete

theorem map_complete_push (s : Scanner) (c : Char) (next : Place) (scanned : Except Unclosed Inside) :
    (scanned.map (·.push c)).map s.complete = scanned.map (s.hold c next).complete := by
  cases scanned with
  | error fault => rfl
  | ok i => simp [Except.map, complete, Inside.push, hold]

theorem outcome_turn (turned : Turn s left s' rest) : s.outcome left = s'.outcome rest := by
  obtain ⟨place, held, found, at'⟩ := s
  cases turned with
  | opens _ inText =>
    cases inText
    simp only [outcome, pass]
    rw [scanText_opening]
    cases scanBody at' (at' + 2) rest with
    | error fault => rfl
    | ok i => simp [Except.map, complete, Outline.hole, Outline.append, Outline.directives_cons]
  | keeps c _ inText unmarked =>
    cases inText
    simp only [outcome, hold]
    rw [scanText_cons _ unmarked]
    cases scanText (at' + c.utf8Size) rest with
    | error fault => rfl
    | ok o => simp [Except.map, Outline.push, Outline.append]
  | closes opened _ inHole =>
    cases inHole
    simp only [outcome, pass]
    rw [scanBody_closing]
    cases scanText (at' + 2) rest with
    | error fault => rfl
    | ok o => simp [Except.map, complete]
  | quotes opened c _ inHole opens =>
    cases inHole
    exact (congrArg (Except.map _) (scanBody_quote opened at' opens rest)).trans (map_complete_push _ c _ _)
  | fills opened c _ inHole unquoted unmarked =>
    cases inHole
    simp only [outcome]
    rw [scanBody_cons _ _ unmarked, unquoted]
    exact map_complete_push _ c _ _
  | unquotes opened quote begun _ inRun =>
    cases inRun
    simp only [outcome]
    rw [scanQuoted, if_pos rfl]
    exact map_complete_push _ quote _ _
  | passes opened quote begun c _ inRun other =>
    cases inRun
    simp only [outcome]
    rw [scanQuoted, if_neg other]
    exact map_complete_push _ c _ _

/-- Every state that the loop reaches leads to what the scan of the whole template comes to. -/
theorem Reaches.outcome_eq (reached : Reaches source s rest) :
    s.outcome rest = (outline source).map Outline.directives := by
  induction reached using Reaches.induction with
  | begin =>
    simp only [outcome, start]
    rfl
  | turn s left s' rest _ turned _ ih => rw [← outcome_turn turned, ih]

/-- What has been found is found for good. -/
theorem found_prefix_of_outcome {ds : List Directive} (given : s.outcome rest = .ok ds) :
    s.found <+: ds := by
  have kept (i : Inside) : s.found <+: s.complete i :=
    (List.prefix_append s.found _).trans (List.prefix_append _ i.2.directives)
  unfold outcome at given
  cases place : s.place with
  | text =>
    rw [place] at given
    obtain ⟨o, _, rfl⟩ := exists_ok_of_map given
    exact List.prefix_append s.found _
  | hole opened =>
    rw [place] at given
    obtain ⟨i, _, rfl⟩ := exists_ok_of_map given
    exact kept i
  | run opened quote begun =>
    rw [place] at given
    obtain ⟨i, _, rfl⟩ := exists_ok_of_map given
    exact kept i

theorem eq_of_outcome_nil {ds : List Directive} (given : s.outcome [] = .ok ds) :
    ds = s.found ++ textDirective s.held.reverse := by
  unfold outcome at given
  cases place : s.place with
  | text =>
    rw [place] at given
    have same := Except.ok.inj given
    simpa [Outline.append, Outline.directives] using same.symm
  | hole opened =>
    rw [place] at given
    cases given
  | run opened quote begun =>
    rw [place] at given
    cases given

end Outcome

end Scanner

end PromptKit.Template
