import Mathlib.Data.List.Induction
import PromptKit.Template.Arguments

/-!
The words of a body as one loop over its characters. Its state says which quote opened the run that it is in,
if it is in one; and from every state that it comes to, the words of what is left are read on.
-/
namespace PromptKit.Template

structure Gatherer where
  quote? : Option Char
  held : List Char
  found : List (List Char)
  deriving DecidableEq, Repr

namespace Gatherer

def start : Gatherer := ⟨none, [], []⟩

def hold (g : Gatherer) (c : Char) : Gatherer := { g with held := c :: g.held }

def flush (g : Gatherer) (next : Option Char) : Gatherer := ⟨next, [], g.found ++ consWord g.held []⟩

def read (g : Gatherer) (c : Char) : Gatherer :=
  match g.quote? with
  | none => if isQuote c then g.flush (some c) else if c = ' ' then g.flush none else g.hold c
  | some quote => if c = quote then g.flush none else g.hold c

inductive Read (g : Gatherer) (c : Char) : Gatherer → Prop
  | opens (outside : g.quote? = none) (quoted : isQuote c = true) : Read g c (g.flush (some c))
  | parts (outside : g.quote? = none) (unquoted : isQuote c = false) (space : c = ' ') :
      Read g c (g.flush none)
  | keeps (outside : g.quote? = none) (unquoted : isQuote c = false) (filled : c ≠ ' ') :
      Read g c (g.hold c)
  | closes (inside : g.quote? = some c) : Read g c (g.flush none)
  | passes (quote : Char) (inside : g.quote? = some quote) (other : c ≠ quote) : Read g c (g.hold c)

variable {g : Gatherer} {cs : List Char} {c : Char}

theorem read_reads (g : Gatherer) (c : Char) : Read g c (g.read c) := by
  unfold read
  cases place : g.quote? with
  | none =>
    cases quoted : isQuote c with
    | true => exact .opens place quoted
    | false =>
      by_cases space : c = ' '
      · simp only [if_pos space]
        exact .parts place quoted space
      · simp only [if_neg space]
        exact .keeps place quoted space
  | some quote =>
    by_cases same : c = quote
    · simp only [if_pos same]
      exact .closes (same ▸ place)
    · simp only [if_neg same]
      exact .passes quote place same

theorem quote?_read (g : Gatherer) (c : Char) : (g.read c).quote? = match g.quote? with
    | none => if isQuote c then some c else none
    | some quote => if c = quote then none else some quote := by
  generalize reads : g.read c = next
  have read := g.read_reads c
  rw [reads] at read
  cases read with
  | opens outside quoted =>
    simp only [outside, quoted]
    rfl
  | parts outside unquoted space =>
    simp only [outside, unquoted]
    rfl
  | keeps outside unquoted filled =>
    simp only [outside, unquoted]
    exact outside
  | closes inside =>
    simp only [inside, if_true]
    rfl
  | passes quote inside other =>
    simp only [inside, if_neg other]
    exact inside

def after (cs : List Char) : Gatherer := cs.foldl read start

theorem after_concat (cs : List Char) (c : Char) : after (cs ++ [c]) = (after cs).read c := by
  rw [after, List.foldl_append]
  rfl

def outcome (g : Gatherer) (rest : List Char) : List (List Char) :=
  g.found ++ wordsFrom g.quote? g.held rest

theorem outcome_read (g : Gatherer) (c : Char) (rest : List Char) :
    (g.read c).outcome rest = g.outcome (c :: rest) := by
  unfold outcome
  have joined (next : Option Char) : consWord g.held [] ++ wordsFrom next [] rest =
      consWord g.held (wordsFrom next [] rest) := by
    unfold consWord
    split <;> rfl
  generalize reads : g.read c = next
  have read := g.read_reads c
  rw [reads] at read
  cases read with
  | opens outside quoted =>
    rw [outside, wordsFrom, if_pos quoted, ← joined, ← List.append_assoc]
    rfl
  | parts outside unquoted space =>
    rw [outside, wordsFrom, if_neg (by simp [unquoted]), if_pos space, ← joined, ← List.append_assoc]
    rfl
  | keeps outside unquoted filled =>
    rw [outside, wordsFrom, if_neg (by simp [unquoted]), if_neg filled, hold, outside]
  | closes inside =>
    rw [inside, wordsFrom, if_pos rfl, ← joined, ← List.append_assoc]
    rfl
  | passes quote inside other => rw [inside, wordsFrom, if_neg other, hold, inside]

theorem outcome_after (cs rest : List Char) : (after cs).outcome rest = words (cs ++ rest) := by
  induction cs using List.reverseRecOn generalizing rest with
  | nil => rfl
  | append_singleton cs c ih =>
    rw [after_concat, outcome_read, ih, List.append_assoc]
    rfl

theorem exists_bare_end (outside : (after cs).quote? = none) :
    ∃ front bare, cs = front ++ bare ∧ after front = ⟨none, [], (after cs).found⟩ ∧
      (after cs).held = bare.reverse ∧ ∀ c ∈ bare, isQuote c = false := by
  induction cs using List.reverseRecOn with
  | nil => exact ⟨[], [], rfl, rfl, rfl, by simp⟩
  | append_singleton cs c ih =>
    have last := (after cs).read_reads c
    rw [← after_concat] at last
    generalize same : after (cs ++ [c]) = g at last outside
    -- a space or a closing quote leaves nothing held, and after it only bare characters are
    cases last with
    | opens => cases outside
    | parts | closes => exact ⟨cs ++ [c], [], (List.append_nil _).symm, same, rfl, by simp⟩
    | keeps place unquoted =>
      obtain ⟨front, bare, spelt, found, held, bares⟩ := ih place
      refine ⟨front, bare ++ [c], by rw [spelt, List.append_assoc], found, ?_, ?_⟩
      · simp [hold, held]
      · intro d mem
        rcases List.mem_append.mp mem with early | late
        · exact bares d early
        · rwa [List.mem_singleton.mp late]
    | passes quote inside => exact absurd (inside.symm.trans outside) (by simp)

end Gatherer

end PromptKit.Template
