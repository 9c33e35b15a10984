import PromptKit.Proofs.Template.Grammar
import PromptKit.Text.Utf8

/-!
The scan on text that the grammar spells. In front of any rest that does not complete a marker, the
spelt part is read as it was meant, and the scan goes on with the rest at its own byte.
-/
namespace PromptKit.Template

open Text (utf8Length)

@[simp] theorem utf8Length_opening : utf8Length opening = 2 := rfl

@[simp] theorem utf8Length_closing : utf8Length closing = 2 := rfl

namespace Inside

def prepend (cs : List Char) (i : Inside) : Inside := (cs ++ i.1, i.2)

@[simp] theorem push_prepend (c : Char) (cs : List Char) (i : Inside) :
    (i.prepend cs).push c = i.prepend (c :: cs) := rfl

@[simp] theorem prepend_prepend (cs ds : List Char) (i : Inside) :
    (i.prepend ds).prepend cs = i.prepend (cs ++ ds) := by
  simp [prepend]

@[simp] theorem prepend_nil (i : Inside) : i.prepend [] = i := rfl

end Inside

private theorem map_eq {ε α β : Type} (f : α → β) (r : Except ε α) : r.map f = f <$> r := rfl

theorem scanText_cons {c : Char} {rest : List Char} (at' : Nat)
    (unmarked : ¬ opening <+: c :: rest) :
    scanText at' (c :: rest) = (scanText (at' + c.utf8Size) rest).map (·.push c) := by
  apply scanText.eq_3
  intro tail first others
  subst first others
  exact unmarked ⟨tail, rfl⟩

theorem scanText_opening (at' : Nat) (rest : List Char) :
    scanText at' (opening ++ rest) =
      (scanBody at' (at' + 2) rest).map fun i => i.2.hole i.1 := rfl

theorem scanBody_cons {c : Char} {rest : List Char} (opened at' : Nat)
    (unmarked : ¬ closing <+: c :: rest) :
    scanBody opened at' (c :: rest) =
      (if isQuote c then scanQuoted opened c at' (at' + c.utf8Size) rest
        else scanBody opened (at' + c.utf8Size) rest).map (·.push c) := by
  apply scanBody.eq_3
  intro tail first others
  subst first others
  exact unmarked ⟨tail, rfl⟩

theorem scanBody_closing (opened at' : Nat) (rest : List Char) :
    scanBody opened at' (closing ++ rest) = (scanText (at' + 2) rest).map fun o => ([], o) := rfl

theorem scanBody_quote {c : Char} (opened at' : Nat) (quote : isQuote c = true) (rest : List Char) :
    scanBody opened at' (c :: rest) =
      (scanQuoted opened c at' (at' + c.utf8Size) rest).map (·.push c) := by
  rw [scanBody_cons, if_pos quote]
  intro marker
  obtain ⟨same, _⟩ := List.cons_prefix_cons.mp marker
  subst same
  exact absurd quote (by decide)

theorem scanQuoted_closed {quote : Char} {inside : List Char} (opened quoted at' : Nat)
    (absent : quote ∉ inside) (rest : List Char) :
    scanQuoted opened quote quoted at' (inside ++ quote :: rest) =
      (scanBody opened (at' + utf8Length (inside ++ [quote])) rest).map
        (·.prepend (inside ++ [quote])) := by
  induction inside generalizing at' with
  | nil => simp [scanQuoted, utf8Length, Inside.prepend, Inside.push]
  | cons c inside ih =>
    obtain ⟨other, absent⟩ := List.ne_and_not_mem_of_not_mem_cons absent
    rw [List.cons_append, scanQuoted, if_neg (Ne.symm other), ih _ absent]
    simp [map_eq, utf8Length, Nat.add_assoc]

theorem scanQuoted_open {quote : Char} {inside : List Char} (opened quoted at' : Nat)
    (absent : quote ∉ inside) :
    scanQuoted opened quote quoted at' inside = .error ⟨.quotedString, quoted⟩ := by
  induction inside generalizing at' with
  | nil => rfl
  | cons c inside ih =>
    obtain ⟨other, absent⟩ := List.ne_and_not_mem_of_not_mem_cons absent
    rw [scanQuoted, if_neg (Ne.symm other), ih _ absent]
    rfl

theorem scanBody_spell {ps : List Piece} (opened at' : Nat) (rest : List Char) (free : MarkerFree ps)
    (apart : ¬ ([.brace] <:+ ps ∧ ['\x7d'] <+: rest)) :
    scanBody opened at' (spell ps ++ rest) =
      (scanBody opened (at' + utf8Length (spell ps)) rest).map (·.prepend (spell ps)) := by
  induction ps generalizing at' with
  | nil => simp [map_eq, utf8Length]
  | cons p ps ih =>
    have later : ¬ ([.brace] <:+ ps ∧ ['\x7d'] <+: rest) :=
      fun both => apart ⟨List.suffix_cons_iff.mpr (.inr both.1), both.2⟩
    have ih := fun at' => ih at' (markerFree_cons.mp free).2 later
    cases p with
    | plain c unquoted =>
      have unmarked := not_closing_prefix free apart
      rw [spell_cons, Piece.chars, List.singleton_append, List.cons_append,
        scanBody_cons _ _ unmarked, if_neg (by simp [unquoted]), ih]
      simp [map_eq, utf8Length, Nat.add_assoc]
    | run quote inside opens absent =>
      rw [spell_cons, Piece.chars, List.append_assoc, List.cons_append, List.append_assoc,
        scanBody_quote _ _ opens, List.singleton_append, scanQuoted_closed _ _ _ absent, ih]
      simp [map_eq, utf8Length, Nat.add_assoc]

theorem scanBody_isBody {body : List Char} (opened at' : Nat) (isBody : IsBody body)
    (rest : List Char) :
    scanBody opened at' (body ++ closing ++ rest) =
      (scanText (at' + utf8Length (body ++ closing)) rest).map fun o => (body, o) := by
  obtain ⟨ps, rfl, free, last⟩ := isBody
  rw [List.append_assoc, scanBody_spell _ _ _ free (fun both => last both.1), scanBody_closing]
  simp [map_eq, Inside.prepend, Nat.add_assoc]

/-- A whole outline, and any rest whose first brace cannot join the outline's last character. -/
theorem scanText_chars {o : Outline} (at' : Nat) (rest : List Char) (formed : o.WellFormed)
    (apart : ¬ (['\x7b'] <:+ o.chars ∧ ['\x7b'] <+: rest)) :
    scanText at' (o.chars ++ rest) =
      (scanText (at' + utf8Length o.chars) rest).map fun next => o.append next := by
  induction o using Outline.induction generalizing at' with
  | nil => simp [map_eq, utf8Length]
  | push c o ih =>
    obtain ⟨unmarked, formed⟩ := Outline.wellFormed_push.mp formed
    have later := not_seam_of_suffix rest (List.suffix_cons c o.chars) apart
    have unmarked := not_opening_append unmarked apart
    rw [Outline.chars_push, List.cons_append, scanText_cons _ unmarked, ih _ formed later]
    simp [map_eq, utf8Length, Nat.add_assoc]
  | hole body o ih =>
    obtain ⟨isBody, formed⟩ := Outline.wellFormed_hole.mp formed
    have later := not_seam_of_suffix rest (Outline.suffix_chars_hole body o) apart
    have spelt : (o.hole body).chars ++ rest = opening ++ (body ++ closing ++ (o.chars ++ rest)) := by
      simp
    rw [spelt, scanText_opening, scanBody_isBody _ _ isBody, ih _ formed later]
    simp [map_eq, Nat.add_assoc]

section Outline

variable {o : Outline} {ps : List Piece}

theorem outline_chars (formed : o.WellFormed) : outline o.chars = .ok o := by
  have read := scanText_chars 0 [] formed (by simp)
  rw [List.append_nil] at read
  rw [outline, read, scanText]
  simp [Except.map]

theorem outline_openHole (formed : o.WellFormed) (apart : ¬ ['\x7b'] <:+ o.chars)
    (free : MarkerFree ps) :
    outline (o.chars ++ (opening ++ spell ps)) = .error ⟨.directive, utf8Length o.chars⟩ := by
  have read := scanBody_spell (utf8Length o.chars) (utf8Length o.chars + 2) [] free (by simp)
  rw [List.append_nil] at read
  rw [outline, scanText_chars 0 _ formed fun both => apart both.1, Nat.zero_add, scanText_opening, read,
    scanBody]
  rfl

theorem outline_openQuote {quote : Char} {inside : List Char} (formed : o.WellFormed)
    (apart : ¬ ['\x7b'] <:+ o.chars) (free : MarkerFree ps) (opens : isQuote quote = true)
    (absent : quote ∉ inside) :
    outline (o.chars ++ (opening ++ (spell ps ++ quote :: inside))) =
      .error ⟨.quotedString, utf8Length (o.chars ++ opening ++ spell ps)⟩ := by
  have noBrace : ¬ ([.brace] <:+ ps ∧ ['\x7d'] <+: quote :: inside) := by
    intro both
    obtain ⟨same, _⟩ := List.cons_prefix_cons.mp both.2
    subst same
    exact absurd opens (by decide)
  rw [outline, scanText_chars 0 _ formed fun both => apart both.1, Nat.zero_add, scanText_opening,
    scanBody_spell _ _ _ free noBrace, scanBody_quote _ _ opens, scanQuoted_open _ _ _ absent]
  simp [Except.map, Nat.add_assoc]

end Outline

end PromptKit.Template
