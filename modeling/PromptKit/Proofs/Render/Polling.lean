import PromptKit.Proofs.Render.Order
import PromptKit.Proofs.Render.Turns

/-!
What one poll does and what polling to the end does.
-/
namespace PromptKit.Render

open Template

section Errors

variable {parts : List (Option Part)} {e : PromptError} {i : Nat}

theorem anyError_eq_none_iff : anyError parts = none ↔ ∀ e, some (.error e) ∉ parts := by
  induction parts with
  | nil => simp [anyError]
  | cons part rest ih =>
    cases part with
    | none => simp [anyError, ih]
    | some part =>
      cases part with
      | error e =>
        refine iff_of_false (by simp [anyError]) fun quiet => ?_
        exact quiet e List.mem_cons_self
      | ok text => simp [anyError, ih]

theorem anyError_of_getElem? (there : parts[i]? = some (some (.error e))) : anyError parts ≠ none := by
  intro quiet
  exact anyError_eq_none_iff.mp quiet e (List.mem_of_getElem? there)

theorem anyError_set_ok (quiet : anyError parts = none) (text : String) :
    anyError (parts.set i (some (.ok text))) = none := by
  refine anyError_eq_none_iff.mpr fun e mem => ?_
  cases List.mem_or_eq_of_mem_set mem with
  | inl mem => exact anyError_eq_none_iff.mp quiet e mem
  | inr same => cases same

theorem anyError_set_error (quiet : anyError parts = none) (inside : i < parts.length) :
    anyError (parts.set i (some (.error e))) = some e := by
  induction parts generalizing i with
  | nil => contradiction
  | cons part rest ih =>
    cases i with
    | zero => rfl
    | succ i =>
      have within : i < rest.length := Nat.lt_of_succ_lt_succ inside
      cases part with
      | none => exact ih quiet within
      | some part =>
        cases part with
        | error e => cases quiet
        | ok text => exact ih quiet within

theorem frontError_of_quiet (quiet : anyError parts = none) : frontError parts = none := by
  induction parts with
  | nil => rfl
  | cons part rest ih =>
    cases part with
    | none => rfl
    | some part =>
      cases part with
      | error e => cases quiet
      | ok text => exact ih quiet

theorem frontError_of_done (done : ∀ part ∈ parts, part.isSome = true) :
    frontError parts = anyError parts := by
  induction parts with
  | nil => rfl
  | cons part rest ih =>
    have later := ih fun part mem => done part (List.mem_cons_of_mem _ mem)
    cases part with
    | none => exact absurd (done none List.mem_cons_self) (by decide)
    | some part =>
      cases part with
      | error e => rfl
      | ok text => exact later

theorem surfaced_of_quiet (quiet : anyError parts = none) : surfaced parts = none := by
  unfold surfaced
  split
  · exact quiet
  · exact frontError_of_quiet quiet

theorem surfaced_of_small (small : parts.length ≤ eagerLimit) : surfaced parts = anyError parts :=
  if_pos small

theorem surfaced_of_done (done : ∀ part ∈ parts, part.isSome = true) :
    surfaced parts = anyError parts := by
  unfold surfaced
  rw [frontError_of_done done, ite_self]

end Errors

namespace Progress

variable {ctx : Context} {s : Progress} {p : Poll} {i : Nat} {part : Part}

theorem isDone_iff : s.isDone i = true ↔ ∃ part, s.parts[i]? = some (some part) := by
  unfold isDone
  cases s.parts[i]? with
  | none => simp
  | some part => cases part <;> simp

theorem finish_of_evaluate {next : World}
    (evaluated : evaluate ctx p.directive (s.seen p.position) s.world = (part, next)) :
    s.finish ctx p = ⟨s.parts.set p.position (some part), next, s.seen,
      if runsBody ctx s.world p.directive then p.position :: s.ran else s.ran⟩ := by
  unfold finish
  rw [evaluated]
  cases p.directive with
  | text content => rfl
  | lookup key => rfl
  | call name args => simp [isCall, runsBody, finish.callee]

theorem parts_finish : (s.finish ctx p).parts =
    s.parts.set p.position (some (evaluate ctx p.directive (s.seen p.position) s.world).1) := rfl

theorem length_parts_finish : (s.finish ctx p).parts.length = s.parts.length := by
  rw [parts_finish, List.length_set]

theorem poll_of_done (done : s.isDone p.position = true) : s.poll ctx p = s := if_pos done

theorem poll_of_ends (pending : s.isDone p.position = false) (ends : p.ends ctx s.world = true) :
    s.poll ctx p = s.finish ctx p := by
  rw [poll, pending, if_neg Bool.false_ne_true, if_pos ends]

theorem poll_of_waits (pending : s.isDone p.position = false) (waits : p.ends ctx s.world = false) :
    s.poll ctx p = s.wait ctx p := by
  rw [poll, pending, waits, if_neg Bool.false_ne_true, if_neg Bool.false_ne_true]

/-- A poll leaves all as it is, lets a directive wait that is not done, or finishes it. -/
theorem poll_cases (s : Progress) (ctx : Context) (p : Poll) :
    s.poll ctx p = s ∨
      s.isDone p.position = false ∧ p.ends ctx s.world = false ∧ s.poll ctx p = s.wait ctx p ∨
      s.isDone p.position = false ∧ p.ends ctx s.world = true ∧ s.poll ctx p = s.finish ctx p := by
  cases done : s.isDone p.position with
  | true => exact .inl (poll_of_done done)
  | false =>
    cases ends : p.ends ctx s.world with
    | false => exact .inr (.inl ⟨rfl, rfl, poll_of_waits done ends⟩)
    | true => exact .inr (.inr ⟨rfl, rfl, poll_of_ends done ends⟩)

theorem parts_poll (s : Progress) (ctx : Context) (p : Poll) :
    (s.poll ctx p).parts = s.parts ∨
      s.isDone p.position = false ∧ p.ends ctx s.world = true ∧ s.poll ctx p = s.finish ctx p := by
  rcases s.poll_cases ctx p with same | ⟨_, _, waited⟩ | finished
  · exact .inl (congrArg Progress.parts same)
  · exact .inl (by rw [waited]; rfl)
  · exact .inr finished

theorem length_parts_poll : (s.poll ctx p).parts.length = s.parts.length := by
  cases s.parts_poll ctx p with
  | inl same => rw [same]
  | inr finished => rw [finished.2.2, length_parts_finish]

theorem isDone_finish_ne (other : i ≠ p.position) : (s.finish ctx p).isDone i = s.isDone i := by
  unfold isDone
  rw [parts_finish, List.getElem?_set_ne other.symm]

theorem poll_keeps (there : s.parts[i]? = some (some part)) :
    (s.poll ctx p).parts[i]? = some (some part) := by
  cases s.parts_poll ctx p with
  | inl same => rwa [same]
  | inr finished =>
    obtain ⟨pending, _, finished⟩ := finished
    have other : p.position ≠ i := by
      intro same
      have done := isDone_iff.mpr ⟨part, there⟩
      rw [← same, pending] at done
      contradiction
    rwa [finished, parts_finish, List.getElem?_set_ne other]

theorem isDone_poll_of_isLast (last : p.IsLast ctx.registry) (inside : p.position < s.parts.length) :
    (s.poll ctx p).isDone p.position = true := by
  cases done : s.isDone p.position with
  | true => rwa [poll_of_done done]
  | false =>
    rw [poll_of_ends done (Poll.ends_iff.mpr (.inl last)), isDone_iff, parts_finish]
    exact ⟨_, List.getElem?_set_self inside⟩

end Progress

section Runs

variable {ctx : Context} {s : Progress} {p : Poll} {polls : List Poll} {i : Nat} {part : Part}

theorem runPolls_cons {rest : List Poll} : runPolls ctx (p :: rest) s =
    if (surfaced (s.poll ctx p).parts).isSome then s.poll ctx p
    else runPolls ctx rest (s.poll ctx p) := rfl

theorem runPolls_keeps (ctx : Context) (polls : List Poll) (there : s.parts[i]? = some (some part)) :
    (runPolls ctx polls s).parts[i]? = some (some part) := by
  induction polls generalizing s with
  | nil => exact there
  | cons p rest ih =>
    have next : (s.poll ctx p).parts[i]? = some (some part) := Progress.poll_keeps there
    rw [runPolls_cons]
    split
    · exact next
    · exact ih next

theorem length_parts_runPolls : (runPolls ctx polls s).parts.length = s.parts.length := by
  induction polls generalizing s with
  | nil => rfl
  | cons p rest ih =>
    rw [runPolls_cons]
    split
    · exact Progress.length_parts_poll
    · rw [ih, Progress.length_parts_poll]

theorem isDone_runPolls (quiet : surfaced (runPolls ctx polls s).parts = none) (mem : p ∈ polls)
    (last : p.IsLast ctx.registry) (inside : p.position < s.parts.length) :
    (runPolls ctx polls s).isDone p.position = true := by
  induction polls generalizing s with
  | nil => cases mem
  | cons q rest ih =>
    rw [runPolls_cons] at quiet ⊢
    split
    -- a poll at which an error surfaces is the last one, and nothing surfaces after the last one
    · rename_i surfaces
      rw [if_pos surfaces] at quiet
      rw [quiet] at surfaces
      contradiction
    · rename_i goesOn
      rw [if_neg goesOn] at quiet
      cases mem with
      | head =>
        have done := Progress.isDone_poll_of_isLast last inside
        obtain ⟨part, there⟩ := Progress.isDone_iff.mp done
        exact Progress.isDone_iff.mpr ⟨part, runPolls_keeps ctx rest there⟩
      | tail _ mem => exact ih quiet mem (by rwa [Progress.length_parts_poll])

end Runs

end PromptKit.Render
