import PromptKit.Proofs.Prompt.Scalars
import PromptKit.Proofs.Prompt.Visits

/-!
The account of a layout. A section is offered what the accepted ones leave, an output is accepted
whole or not at all, and where every character is one token the running length is the length of what
was accepted, joined together, which never exceeds what the layout was given.
-/
namespace PromptKit

open Render (Context World)

variable {α : Type}

/-- What rendering all sections comes to, against the visits that it made and what it kept. -/
structure Mode.Accounts (m : Mode α) (ctx : Context) (sections : List PromptSection) (w : World)
    (maxTokens : Nat) (visits : List (Visit α)) (kept : List α) (final : World) : Prop where
  visited : m.Visited ctx w visits final
  items : visits.map (·.item) = sections
  offered : ∀ before v after, visits = before ++ v :: after →
    let a := before.foldl m.settle .empty
    v.budget = v.item.budget.tokenBudget (maxTokens - (a.length + m.overhead a.kept))
  kept : kept = (visits.filterMap m.accepted?).map (·.output)
  leftOut : ∀ v ∈ visits, ∀ own, v.result = .ok own → m.accepted? v = none →
    m.blank own.output = false → v.item.required = false ∧ v.budget < own.length

structure Mode.Counts (m : Mode α) (ctx : Context) (size : α → Nat) (total : List α → Nat) : Prop where
  none : total [] = 0
  append : ∀ kept output, total (kept ++ [output]) = total kept + (m.overhead kept + size output)
  measured : ∀ s w maxTokens r final, m.render s ctx w maxTokens = (.ok r, final) → r.Exact size maxTokens
  /-- An output that takes no room is left out where it would still be counted. -/
  free : ∀ output, size output = 0 → m.blank output = false → m.joint = 0

structure Account.Exact (total : List α → Nat) (maxTokens : Nat) (a : Account α) : Prop where
  length : a.length = total a.kept
  fits : a.length ≤ maxTokens

theorem Budget.tokenBudget_le (b : Budget) (maxTokens : Nat) : b.tokenBudget maxTokens ≤ maxTokens := by
  unfold tokenBudget
  cases b.fixedTokens? with
  | none => exact Nat.le_refl maxTokens
  | some fixed => exact Nat.min_le_right fixed maxTokens

theorem Walk.exists_account {β : Type} {walk : Walk α} {f : Account α → β} {output : β} {final : World}
    (rendered : (walk.result.map f, walk.world) = ((.ok output, final) : Except PromptError β × World)) :
    ∃ a, walk.result = .ok a ∧ f a = output ∧ walk.world = final := by
  obtain ⟨result, world⟩ := Prod.mk.inj rendered
  obtain ⟨a, done, output⟩ := exists_ok_of_map result
  exact ⟨a, done, output, world⟩

namespace Mode

variable {m : Mode α} {ctx : Context} {size : α → Nat} {total : List α → Nat} {maxTokens index : Nat}
variable {a b : Account α} {s : PromptSection} {sections rest : List PromptSection} {w final : World}
variable {v : Visit α} {visits : List (Visit α)}

theorem overhead_le_joint (m : Mode α) (kept : List α) : m.overhead kept ≤ m.joint := by
  unfold overhead
  split
  · exact Nat.zero_le m.joint
  · exact Nat.le_refl m.joint

theorem settle_exact (counts : m.Counts ctx size total) (held : a.Exact total maxTokens)
    (s : PromptSection) (w : World) :
    (m.settle a (m.visit ctx maxTokens a s w)).Exact total maxTokens := by
  cases accepted : m.accepted? (m.visit ctx maxTokens a s w) with
  | none => rwa [settle_of_left accepted]
  | some r =>
    obtain ⟨given, short, present⟩ := accepted?_eq_some_iff.mp accepted
    have measured := counts.measured _ _ _ r _ (Prod.ext given rfl)
    have within : r.length ≤ maxTokens - (a.length + m.overhead a.kept) := by
      rw [measured.tooLong, decide_eq_false_iff_not, Nat.not_lt] at short
      exact Nat.le_trans short (Budget.tokenBudget_le _ _)
    rw [settle_of_accepted accepted]
    refine ⟨by simp only [counts.append, held.length, measured.length], ?_⟩
    -- past the limit nothing but an empty output fits, and then the joint is free
    have joint : r.length = 0 → m.overhead a.kept = 0 := fun none => by
      have free := counts.free r.output (by rw [← measured.length, none]) present
      have least := m.overhead_le_joint a.kept
      omega
    have fits := held.fits
    simp only
    omega

theorem walk_cons_of_ok (done : (m.walk ctx maxTokens index a (s :: rest) w).result = .ok b) :
    let v := m.visit ctx maxTokens a s w
    let later := m.walk ctx maxTokens (index + 1) (m.settle a v) rest v.after
    v.failure? index = none ∧ later.result = .ok b ∧
      (m.walk ctx maxTokens index a (s :: rest) w).visits = v :: later.visits := by
  cases failed : (m.visit ctx maxTokens a s w).failure? index with
  | some e =>
    rw [walk_of_failure failed] at done
    cases done
  | none =>
    rw [walk_of_onward failed] at done ⊢
    exact ⟨failed, done, rfl⟩

theorem walk_exact (counts : m.Counts ctx size total) (held : a.Exact total maxTokens)
    (done : (m.walk ctx maxTokens index a sections w).result = .ok b) : b.Exact total maxTokens := by
  induction sections generalizing index a w with
  | nil =>
    obtain rfl := Except.ok.inj done
    exact held
  | cons s rest ih =>
    exact ih (settle_exact counts held s w) (walk_cons_of_ok done).2.1

theorem walk_result (done : (m.walk ctx maxTokens index a sections w).result = .ok b) :
    b = (m.walk ctx maxTokens index a sections w).visits.foldl m.settle a := by
  induction sections generalizing index a w with
  | nil => exact (Except.ok.inj done).symm
  | cons s rest ih =>
    obtain ⟨_, onward, visits⟩ := walk_cons_of_ok done
    rw [visits, List.foldl_cons]
    exact ih onward

theorem walk_offered (m : Mode α) (ctx : Context) (maxTokens index : Nat) (a : Account α)
    (sections : List PromptSection) (w : World) (before : List (Visit α)) (v : Visit α)
    (after : List (Visit α)) (split : (m.walk ctx maxTokens index a sections w).visits = before ++ v :: after) :
    let spent := before.foldl m.settle a
    v.budget = v.item.budget.tokenBudget (maxTokens - (spent.length + m.overhead spent.kept)) := by
  induction sections generalizing index a w before with
  | nil => simp [walk] at split
  | cons s rest ih =>
    cases failed : (m.visit ctx maxTokens a s w).failure? index with
    | some e =>
      rw [walk_of_failure failed] at split
      cases before with
      | nil =>
        obtain ⟨rfl, _⟩ := List.cons.inj split
        rfl
      | cons first before => simp at split
    | none =>
      rw [walk_of_onward failed] at split
      cases before with
      | nil =>
        obtain ⟨rfl, _⟩ := List.cons.inj split
        rfl
      | cons first before =>
        obtain ⟨rfl, later⟩ := List.cons.inj split
        exact ih _ _ _ before later

theorem walk_passed (done : (m.walk ctx maxTokens index a sections w).result = .ok b)
    (mem : v ∈ (m.walk ctx maxTokens index a sections w).visits) : ∃ i, v.failure? i = none := by
  induction sections generalizing index a w with
  | nil => cases mem
  | cons s rest ih =>
    obtain ⟨passed, onward, visits⟩ := walk_cons_of_ok done
    rw [visits] at mem
    cases mem with
    | head => exact ⟨index, passed⟩
    | tail _ mem => exact ih onward mem

theorem Visited.render_of_mem (visited : m.Visited ctx w visits final) (mem : v ∈ visits) :
    m.render v.item ctx v.before v.budget = (v.result, v.after) := by
  induction visited with
  | nil => cases mem
  | cons rendered later ih =>
    cases mem with
    | head => exact rendered
    | tail _ mem => exact ih mem

theorem Accounts.blank_of_mem {kept : List α} {output : α}
    (accounts : m.Accounts ctx sections w maxTokens visits kept final) (mem : output ∈ kept) :
    m.blank output = false := by
  rw [accounts.kept] at mem
  obtain ⟨r, accepted, rfl⟩ := List.mem_map.mp mem
  obtain ⟨v, _, accepted⟩ := List.mem_filterMap.mp accepted
  exact (accepted?_eq_some_iff.mp accepted).2.2

theorem kept_foldl_settle (m : Mode α) (visits : List (Visit α)) (a : Account α) :
    (visits.foldl m.settle a).kept = a.kept ++ (visits.filterMap m.accepted?).map (·.output) := by
  induction visits generalizing a with
  | nil => simp
  | cons v rest ih =>
    rw [List.foldl_cons, ih]
    cases accepted : m.accepted? v with
    | none => rw [settle_of_left accepted, List.filterMap_cons_none accepted]
    | some r =>
      rw [settle_of_accepted accepted, List.filterMap_cons_some accepted, List.map_cons]
      exact List.append_assoc _ _ _

theorem walk_accounts (counts : m.Counts ctx size total)
    (done : (m.walk ctx maxTokens 0 .empty sections w).result = .ok b) :
    let walk := m.walk ctx maxTokens 0 .empty sections w
    m.Accounts ctx sections w maxTokens walk.visits b.kept walk.world ∧ b.Exact total maxTokens := by
  intro walk
  have visited : m.Visited ctx w walk.visits walk.world := walk_visited _ _ _ _ _ _ _
  have empty : (Account.empty : Account α).Exact total maxTokens := ⟨counts.none.symm, Nat.zero_le maxTokens⟩
  refine ⟨⟨visited, (walk_items _ _ _ _ _ _ _).2 b done, walk_offered _ _ _ _ _ _ _, ?_, ?_⟩,
    walk_exact counts empty done⟩
  · rw [walk_result done, kept_foldl_settle]
    rfl
  · intro v mem own given left present
    obtain ⟨i, passed⟩ := walk_passed done mem
    obtain ⟨r, same, optional⟩ := Visit.failure?_eq_none_iff.mp passed
    obtain rfl := Except.ok.inj (given.symm.trans same)
    have measured := counts.measured _ _ _ own _ (given ▸ visited.render_of_mem mem)
    have long : own.tooLong = true := Bool.of_not_eq_false fun short => by
      rw [accepted?_eq_some_iff.mpr ⟨given, short, present⟩] at left
      cases left
    refine ⟨optional long, ?_⟩
    rwa [measured.tooLong, decide_eq_true_iff] at long

theorem messages_counts (scalars : ctx.tokenizer = .chars) :
    messages.Counts ctx scalarCount fun kept => scalarCount kept.flatten where
  none := rfl
  append kept output := by
    have free : messages.overhead kept = 0 := Nat.le_zero.mp (messages.overhead_le_joint kept)
    rw [List.flatten_append, scalarCount_append, List.flatten_singleton, free, Nat.zero_add]
  measured _ _ _ _ _ rendered := PromptSection.renderMessages_chars scalars rendered
  free _ _ _ := rfl

theorem text_counts (scalars : ctx.tokenizer = .chars) (separator : String) :
    (text (ctx.tokenizer.count separator)).Counts ctx String.length
      fun kept => (separator.intercalate kept).length where
  none := by rw [String.intercalate_nil, String.length_empty]
  append kept output := by
    rw [scalars, Tokenizer.count_chars]
    cases kept with
    | nil => simp [overhead]
    | cons first rest =>
      rw [String.intercalate_append_of_ne_nil (List.cons_ne_nil _ _) (List.cons_ne_nil _ _),
        String.length_append, String.length_append, String.intercalate_singleton, Nat.add_assoc]
      rfl
  measured _ _ _ _ _ rendered := PromptSection.renderText_chars scalars rendered
  free output none present := by
    rw [String.length_eq_zero_iff.mp none] at present
    cases present

end Mode

/-- With one token a character, what a layout renders to is as long as it says and fits, and it is
what was accepted, whole and in order. -/
theorem layout_accounts_exactly (l : Layout) (ctx : Context) (w : World) (maxTokens : Nat)
    (scalars : ctx.tokenizer = .chars) :
    (∀ r final, l.renderMessages ctx w maxTokens = (.ok r, final) →
      r.length = scalarCount r.output ∧ r.length ≤ maxTokens ∧ r.tooLong = false ∧
      ∃ visits outputs, r.output = outputs.flatten ∧
        Mode.messages.Accounts ctx l.sections w maxTokens visits outputs final) ∧
    ∀ r final, l.renderText ctx w maxTokens = (.ok r, final) →
      r.length = r.output.length ∧ r.length ≤ maxTokens ∧ r.tooLong = false ∧
      ∃ visits blocks, r.output = l.separator.intercalate blocks ∧ "" ∉ blocks ∧
        (Mode.text (ctx.tokenizer.count l.separator)).Accounts ctx l.sections w maxTokens visits blocks
          final := by
  constructor
  · intro r final rendered
    rw [l.renderMessages_eq_walk] at rendered
    obtain ⟨a, done, rfl, rfl⟩ := Walk.exists_account rendered
    obtain ⟨accounts, held⟩ := Mode.walk_accounts (Mode.messages_counts scalars) done
    exact ⟨held.length, held.fits, rfl, _, a.kept, rfl, accounts⟩
  · intro r final rendered
    rw [l.renderText_eq_walk] at rendered
    obtain ⟨a, done, rfl, rfl⟩ := Walk.exists_account rendered
    obtain ⟨accounts, held⟩ := Mode.walk_accounts (Mode.text_counts scalars l.separator) done
    refine ⟨held.length, held.fits, rfl, _, a.kept, rfl, fun mem => ?_, accounts⟩
    have present := accounts.blank_of_mem mem
    cases present

def charContext : Context where
  registry := ⟨.empty⟩
  tokenizer := .chars
  clock := ⟨2026, 1, 1, 0, 0, 0⟩

def plainSection (text role : String) (budget : Budget) : PromptSection :=
  .template ⟨⟨text, [.text text]⟩, role, budget⟩

def greeting : Layout where
  sections := [plainSection "the rules" "system" { tokens := 5.0, textPrefix := "> " },
    plainSection "a remark" "assistant" { required := false }, plainSection "hello" "user" {}]

theorem greeting_accounts :
    charContext.tokenizer = .chars ∧
    (greeting.renderMessages charContext default 12).1 =
      .ok ⟨[⟨"system", "the r"⟩, ⟨"user", "hello"⟩], 10, false⟩ ∧
    (greeting.renderText charContext default 12).1 = .ok ⟨"> the\n\nhello", 12, false⟩ ∧
    ∃ visits blocks, "> the\n\nhello" = "\n\n".intercalate blocks ∧ "" ∉ blocks ∧
      (Mode.text 2).Accounts charContext greeting.sections default 12 visits blocks
        (greeting.renderText charContext default 12).2 := by
  have rendered : (greeting.renderText charContext default 12).1 =
    .ok ⟨"> the\n\nhello", 12, false⟩ := by decide +kernel
  have accounts := (layout_accounts_exactly greeting charContext default 12 rfl).2 _ _
    (Prod.ext rendered rfl)
  exact ⟨rfl, by decide +kernel, rendered, accounts.2.2.2⟩

end PromptKit
