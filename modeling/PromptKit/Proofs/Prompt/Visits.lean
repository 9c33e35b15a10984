import Mathlib.Data.List.Infix
import PromptKit.Prompt.Layout
import PromptKit.Proofs.Render.Steps

/-!
A layout as a walk along its sections. Messages and text differ in how a section is rendered, in what
is counted between two outputs and in which outputs are left out; the walk is the same. It leaves a
record of its visits, and what a layout renders to is read off the walk.
-/
namespace PromptKit

open Render (Context World)

variable {α : Type}

structure Mode (α : Type) where
  render : PromptSection → Context → World → Nat → Except PromptError (Rendered α) × World
  /-- What is counted before every output but the first. -/
  joint : Nat
  /-- An output that is left out although it fits. -/
  blank : α → Bool
  /-- A section with a template renders its directives once, and fails only as they do. -/
  direct : ∀ t ctx w maxTokens, ∃ f, render (.template t) ctx w maxTokens =
    ((Render.run ctx t.template.directives w).result.map f, (Render.run ctx t.template.directives w).world)

structure Visit (α : Type) where
  item : PromptSection
  budget : Nat
  before : World
  result : Except PromptError (Rendered α)
  after : World

def Visit.failure? (index : Nat) (v : Visit α) : Option PromptError :=
  match v.result with
  | .error e => some e
  | .ok r =>
    if r.tooLong && v.item.required then some (.sectionTooLong index r.length v.budget) else none

inductive Mode.Visited (m : Mode α) (ctx : Context) : World → List (Visit α) → World → Prop
  | nil (w : World) : Visited m ctx w [] w
  | cons {v : Visit α} {visits : List (Visit α)} {final : World}
      (rendered : m.render v.item ctx v.before v.budget = (v.result, v.after))
      (later : Visited m ctx v.after visits final) : Visited m ctx v.before (v :: visits) final

structure Account (α : Type) where
  length : Nat
  kept : List α

def Account.empty : Account α := ⟨0, []⟩

structure Walk (α : Type) where
  visits : List (Visit α)
  result : Except PromptError (Account α)
  world : World

namespace Mode

def messages : Mode (List Message) where
  render := PromptSection.renderMessages
  joint := 0
  blank _ := false
  direct _ _ _ _ := ⟨_, rfl⟩

def text (joint : Nat) : Mode String where
  render := PromptSection.renderText
  joint
  blank := String.isEmpty
  direct t ctx w maxTokens := by
    simp only [PromptSection.renderText, PromptSection.renderMessages, TemplateSection.renderMessages]
    cases (Render.run ctx t.template.directives w).result with
    | error e => exact ⟨fun _ => ⟨"", 0, false⟩, rfl⟩
    | ok parts => exact ⟨fun _ => _, rfl⟩

def overhead (m : Mode α) (kept : List α) : Nat := if kept.isEmpty then 0 else m.joint

def visit (m : Mode α) (ctx : Context) (maxTokens : Nat) (a : Account α) (s : PromptSection) (w : World) :
    Visit α :=
  let budget := s.budget.tokenBudget (maxTokens - (a.length + m.overhead a.kept))
  let rendered := m.render s ctx w budget
  ⟨s, budget, w, rendered.1, rendered.2⟩

def accepted? (m : Mode α) (v : Visit α) : Option (Rendered α) :=
  match v.result with
  | .error _ => none
  | .ok r => if r.tooLong || m.blank r.output then none else some r

def settle (m : Mode α) (a : Account α) (v : Visit α) : Account α :=
  match m.accepted? v with
  | none => a
  | some r => ⟨a.length + (m.overhead a.kept + r.length), a.kept ++ [r.output]⟩

def walk (m : Mode α) (ctx : Context) (maxTokens : Nat) :
    (index : Nat) → Account α → List PromptSection → World → Walk α
  | _, a, [], w => ⟨[], .ok a, w⟩
  | index, a, s :: rest, w =>
    let v := m.visit ctx maxTokens a s w
    match v.failure? index with
    | some e => ⟨[v], .error e, v.after⟩
    | none =>
      let later := walk m ctx maxTokens (index + 1) (m.settle a v) rest v.after
      { later with visits := v :: later.visits }

end Mode

section Steps

variable {m : Mode α} {ctx : Context} {maxTokens index : Nat} {a : Account α} {s : PromptSection}
variable {rest : List PromptSection} {w : World} {v : Visit α} {r : Rendered α} {e : PromptError}

theorem Visit.failure?_of_error (failed : v.result = .error e) : v.failure? index = some e := by
  simp only [Visit.failure?, failed]

theorem Visit.failure?_eq_none_iff : v.failure? index = none ↔
    ∃ r, v.result = .ok r ∧ (r.tooLong = true → v.item.required = false) := by
  cases given : v.result with
  | error e => simp [Visit.failure?, given]
  | ok r => simp [Visit.failure?, given]

theorem Mode.accepted?_eq_some_iff :
    m.accepted? v = some r ↔ v.result = .ok r ∧ r.tooLong = false ∧ m.blank r.output = false := by
  cases given : v.result with
  | error e => simp [Mode.accepted?, given]
  | ok own =>
    simp only [Mode.accepted?, given, Except.ok.injEq, Option.ite_none_left_eq_some, Bool.or_eq_true,
      Option.some.injEq, not_or, Bool.not_eq_true]
    constructor
    · intro fits
      obtain ⟨fits, rfl⟩ := fits
      exact ⟨rfl, fits⟩
    · intro fits
      obtain ⟨rfl, fits⟩ := fits
      exact ⟨fits, rfl⟩

theorem Mode.settle_of_accepted (accepted : m.accepted? v = some r) :
    m.settle a v = ⟨a.length + (m.overhead a.kept + r.length), a.kept ++ [r.output]⟩ := by
  simp only [Mode.settle, accepted]

theorem Mode.settle_of_left (left : m.accepted? v = none) : m.settle a v = a := by
  simp only [Mode.settle, left]

theorem Mode.walk_of_failure (failed : (m.visit ctx maxTokens a s w).failure? index = some e) :
    m.walk ctx maxTokens index a (s :: rest) w =
      ⟨[m.visit ctx maxTokens a s w], .error e, (m.visit ctx maxTokens a s w).after⟩ := by
  simp only [Mode.walk, failed]

theorem Mode.walk_of_onward (onward : (m.visit ctx maxTokens a s w).failure? index = none) :
    let v := m.visit ctx maxTokens a s w
    let later := m.walk ctx maxTokens (index + 1) (m.settle a v) rest v.after
    m.walk ctx maxTokens index a (s :: rest) w = ⟨v :: later.visits, later.result, later.world⟩ := by
  simp only [Mode.walk, onward]

theorem Mode.walk_visited (m : Mode α) (ctx : Context) (maxTokens index : Nat) (a : Account α)
    (sections : List PromptSection) (w : World) :
    m.Visited ctx w (m.walk ctx maxTokens index a sections w).visits
      (m.walk ctx maxTokens index a sections w).world := by
  induction sections generalizing index a w with
  | nil => exact .nil w
  | cons s rest ih =>
    have rendered : m.render (m.visit ctx maxTokens a s w).item ctx (m.visit ctx maxTokens a s w).before
        (m.visit ctx maxTokens a s w).budget =
      ((m.visit ctx maxTokens a s w).result, (m.visit ctx maxTokens a s w).after) := rfl
    cases failed : (m.visit ctx maxTokens a s w).failure? index with
    | some e =>
      rw [Mode.walk_of_failure failed]
      exact .cons rendered (.nil _)
    | none =>
      rw [Mode.walk_of_onward failed]
      exact .cons rendered (ih _ _ _)

theorem Mode.walk_items (m : Mode α) (ctx : Context) (maxTokens index : Nat) (a : Account α)
    (sections : List PromptSection) (w : World) :
    let walk := m.walk ctx maxTokens index a sections w
    walk.visits.map (·.item) <+: sections ∧
      ∀ total, walk.result = .ok total → walk.visits.map (·.item) = sections := by
  induction sections generalizing index a w with
  | nil => exact ⟨List.nil_prefix, fun _ _ => rfl⟩
  | cons s rest ih =>
    cases failed : (m.visit ctx maxTokens a s w).failure? index with
    | some e =>
      rw [Mode.walk_of_failure failed]
      exact ⟨List.prefix_append [s] rest, fun _ given => by cases given⟩
    | none =>
      rw [Mode.walk_of_onward failed]
      obtain ⟨inside, whole⟩ := ih (index + 1) (m.settle a (m.visit ctx maxTokens a s w))
        (m.visit ctx maxTokens a s w).after
      exact ⟨List.cons_prefix_cons.mpr ⟨rfl, inside⟩,
        fun total given => congrArg (s :: ·) (whole total given)⟩

/-- Whatever goes along the sections as a walk does comes to what the walk comes to. -/
theorem Mode.eq_walk {β : Type} (m : Mode α) (finish : Account α → β)
    (go : Nat → Account α → List PromptSection → World → Except PromptError β × World)
    (nil : ∀ index a w, go index a [] w = (.ok (finish a), w))
    (cons : ∀ index a s rest w, go index a (s :: rest) w =
      let v := m.visit ctx maxTokens a s w
      match v.failure? index with
      | some e => (.error e, v.after)
      | none => go (index + 1) (m.settle a v) rest v.after)
    (index : Nat) (a : Account α) (sections : List PromptSection) (w : World) :
    go index a sections w = ((m.walk ctx maxTokens index a sections w).result.map finish,
      (m.walk ctx maxTokens index a sections w).world) := by
  induction sections generalizing index a w with
  | nil => exact nil index a w
  | cons s rest ih =>
    rw [cons]
    cases failed : (m.visit ctx maxTokens a s w).failure? index with
    | some e =>
      rw [Mode.walk_of_failure failed]
      simp only [failed]
      rfl
    | none =>
      rw [Mode.walk_of_onward failed]
      simp only [failed]
      exact ih _ _ _

end Steps

namespace Layout

variable {ctx : Context} {maxTokens index : Nat} {w : World} {s : PromptSection}
variable {rest : List PromptSection}

theorem messagesFrom_cons (a : Account (List Message)) :
    messagesFrom ctx maxTokens index a.length a.kept.flatten (s :: rest) w =
      let v := Mode.messages.visit ctx maxTokens a s w
      match v.failure? index with
      | some e => (.error e, v.after)
      | none =>
        let next := Mode.messages.settle a v
        messagesFrom ctx maxTokens (index + 1) next.length next.kept.flatten rest v.after := by
  have offered : s.budget.tokenBudget (maxTokens - a.length) =
      (Mode.messages.visit ctx maxTokens a s w).budget := by
    simp [Mode.visit, Mode.overhead, Mode.messages]
  have rendered : s.renderMessages ctx w (Mode.messages.visit ctx maxTokens a s w).budget =
    ((Mode.messages.visit ctx maxTokens a s w).result, (Mode.messages.visit ctx maxTokens a s w).after) := rfl
  have item : (Mode.messages.visit ctx maxTokens a s w).item = s := rfl
  rw [messagesFrom, offered, rendered]
  generalize Mode.messages.visit ctx maxTokens a s w = v at item
  cases given : v.result with
  | error e => simp [Visit.failure?, given]
  | ok r =>
    cases long : r.tooLong with
    | false =>
      simp [Visit.failure?, Mode.settle, Mode.accepted?, Mode.overhead, Mode.messages, given, long]
    | true =>
      cases required : s.required <;>
        simp [Visit.failure?, Mode.settle, Mode.accepted?, given, long, item, required]

theorem textFrom_cons (separator : String) (a : Account String) :
    let m := Mode.text (ctx.tokenizer.count separator)
    textFrom ctx separator maxTokens index a.length a.kept (s :: rest) w =
      let v := m.visit ctx maxTokens a s w
      match v.failure? index with
      | some e => (.error e, v.after)
      | none =>
        let next := m.settle a v
        textFrom ctx separator maxTokens (index + 1) next.length next.kept rest v.after := by
  intro m
  have rendered : s.renderText ctx w (m.visit ctx maxTokens a s w).budget =
    ((m.visit ctx maxTokens a s w).result, (m.visit ctx maxTokens a s w).after) := rfl
  have offered : s.budget.tokenBudget (maxTokens - (a.length + if a.kept.isEmpty then 0 else
      ctx.tokenizer.count separator)) = (m.visit ctx maxTokens a s w).budget := rfl
  have item : (m.visit ctx maxTokens a s w).item = s := rfl
  simp only [textFrom]
  rw [offered, rendered]
  generalize m.visit ctx maxTokens a s w = v at item
  cases given : v.result with
  | error e => simp [Visit.failure?, given]
  | ok r =>
    cases long : r.tooLong with
    | false =>
      cases empty : r.output.isEmpty <;>
        simp [m, Visit.failure?, Mode.settle, Mode.accepted?, Mode.overhead, Mode.text, given, long, empty]
    | true =>
      cases required : s.required <;>
        simp [Visit.failure?, Mode.settle, Mode.accepted?, given, long, item, required]

def messageWalk (l : Layout) (ctx : Context) (w : World) (maxTokens : Nat) : Walk (List Message) :=
  Mode.messages.walk ctx maxTokens 0 .empty l.sections w

def textWalk (l : Layout) (ctx : Context) (w : World) (maxTokens : Nat) : Walk String :=
  (Mode.text (ctx.tokenizer.count l.separator)).walk ctx maxTokens 0 .empty l.sections w

theorem renderMessages_eq_walk (l : Layout) (ctx : Context) (w : World) (maxTokens : Nat) :
    l.renderMessages ctx w maxTokens =
      ((l.messageWalk ctx w maxTokens).result.map fun a => ⟨a.kept.flatten, a.length, false⟩,
        (l.messageWalk ctx w maxTokens).world) := by
  exact Mode.messages.eq_walk (fun a => ⟨a.kept.flatten, a.length, false⟩)
    (fun index a => messagesFrom ctx maxTokens index a.length a.kept.flatten)
    (fun _ _ _ => rfl) (fun _ a _ _ _ => messagesFrom_cons a) 0 .empty l.sections w

theorem renderText_eq_walk (l : Layout) (ctx : Context) (w : World) (maxTokens : Nat) :
    l.renderText ctx w maxTokens =
      ((l.textWalk ctx w maxTokens).result.map fun a =>
          ⟨l.separator.intercalate a.kept, a.length, false⟩,
        (l.textWalk ctx w maxTokens).world) := by
  exact (Mode.text (ctx.tokenizer.count l.separator)).eq_walk
    (fun a => ⟨l.separator.intercalate a.kept, a.length, false⟩)
    (fun index a => textFrom ctx l.separator maxTokens index a.length a.kept)
    (fun _ _ _ => rfl) (fun _ a _ _ _ => textFrom_cons l.separator a) 0 .empty l.sections w

end Layout

end PromptKit
