import PromptKit.Proofs.Prompt.Cancellation
import PromptKit.Proofs.Prompt.Shares

/-!
Messages and text in step. Where every character is one token and nothing stands before a text or
between two of them, both modes offer every section the same, take the same sections and stop at the
same one, and the text is what the messages say.
-/
namespace PromptKit

open Render (Context World)

variable {α β γ ε : Type}

inductive SameOutcome (R : α → β → Prop) : Except ε α → Except ε β → Prop
  | error (e : ε) : SameOutcome R (.error e) (.error e)
  | ok {a : α} {b : β} (related : R a b) : SameOutcome R (.ok a) (.ok b)

theorem SameOutcome.map_eq {R : α → β → Prop} {x : Except ε α} {y : Except ε β} {f : α → γ} {g : β → γ}
    (same : SameOutcome R x y) (equal : ∀ a b, R a b → g b = f a) : y.map g = x.map f := by
  cases same with
  | error e => rfl
  | ok related => exact congrArg Except.ok (equal _ _ related)

section Walks

variable {m : Mode α} {n : Mode β} {ctx : Context} {maxTokens : Nat} {R : Account α → Account β → Prop}

/-- From accounts in relation, a section leads two modes to the same world and to accounts in relation,
or it stops both with the same error. -/
def Mode.InStep (m : Mode α) (n : Mode β) (ctx : Context) (maxTokens : Nat)
    (R : Account α → Account β → Prop) (s : PromptSection) : Prop :=
  ∀ a b w, R a b →
    let v := m.visit ctx maxTokens a s w
    let u := n.visit ctx maxTokens b s w
    u.after = v.after ∧ ∀ index, u.failure? index = v.failure? index ∧
      (v.failure? index = none → R (m.settle a v) (n.settle b u))

theorem Mode.walk_inStep {sections : List PromptSection}
    (inStep : ∀ s ∈ sections, m.InStep n ctx maxTokens R s) {a : Account α} {b : Account β}
    (related : R a b) (index : Nat) (w : World) :
    let first := m.walk ctx maxTokens index a sections w
    let second := n.walk ctx maxTokens index b sections w
    SameOutcome R first.result second.result ∧ second.world = first.world := by
  induction sections generalizing index a b w with
  | nil => exact ⟨.ok related, rfl⟩
  | cons s rest ih =>
    obtain ⟨after, together⟩ := inStep s List.mem_cons_self a b w related
    obtain ⟨failure, settled⟩ := together index
    cases failed : (m.visit ctx maxTokens a s w).failure? index with
    | some e =>
      rw [failed] at failure
      rw [walk_of_failure failed, walk_of_failure failure]
      exact ⟨.error e, after⟩
    | none =>
      rw [failed] at failure
      rw [walk_of_onward failed, walk_of_onward failure, after]
      have later : ∀ s ∈ rest, m.InStep n ctx maxTokens R s := fun s mem =>
        inStep s (List.mem_cons_of_mem _ mem)
      exact ih later (settled failed) (index + 1) _

end Walks

theorem intercalate_empty (blocks : List String) : "".intercalate blocks = String.join blocks := by
  induction blocks with
  | nil => rfl
  | cons block rest ih =>
    cases rest with
    | nil => simp
    | cons next rest =>
      rw [String.intercalate_cons_cons, String.append_empty, ih]
      exact String.join_cons.symm

def transcript (messages : List Message) : String := String.join (messages.map (·.content))

theorem transcript_singleton (m : Message) : transcript [m] = m.content := by
  simp [transcript, String.join_cons]

theorem transcript_append (first second : List Message) : transcript (first ++ second) =
    transcript first ++ transcript second := by
  rw [transcript, List.map_append, String.join_append]
  rfl

structure Account.Tells (a : Account (List Message)) (b : Account String) : Prop where
  length : b.length = a.length
  text : String.join b.kept = transcript a.kept.flatten

namespace TemplateSection

variable {t : TemplateSection}

theorem block_of_bare (bare : t.budget.textPrefix = "") (text : String) :
    t.block text = t.budget.cut text := by
  unfold block
  split
  · rename_i empty
    rw [String.isEmpty_iff.mp empty, Budget.cut_empty]
  · rw [bare, String.empty_append]

/-- Without a prefix, the block of a section is what its message says. -/
theorem transcript_speech (bare : t.budget.textPrefix = "") (text : String) :
    transcript (t.speech text) = t.block text := by
  rw [block_of_bare bare, speech, spoken]
  split
  · rename_i empty
    exact (String.isEmpty_iff.mp empty).symm
  · exact transcript_singleton _

theorem length_block_of_bare (bare : t.budget.textPrefix = "") (text : String) :
    (t.block text).length = scalarCount (t.speech text) := by
  rw [block_of_bare bare, Budget.length_cut, scalarCount_speech]

end TemplateSection

theorem Mode.overhead_text_zero (kept : List String) : (Mode.text 0).overhead kept = 0 :=
  Nat.le_zero.mp (Mode.overhead_le_joint _ kept)

namespace Account.Tells

variable {a : Account (List Message)} {b : Account String}

theorem left (tells : a.Tells b) (maxTokens : Nat) :
    (Mode.text 0).left maxTokens b = Mode.messages.left maxTokens a := by
  rw [Mode.left, Mode.left_messages, Mode.overhead_text_zero, tells.length, Nat.add_zero]

theorem charge (tells : a.Tells b) {r : Rendered (List Message)} {r' : Rendered String}
    (length : r'.length = r.length) (output : r'.output = transcript r.output)
    (measured : r'.length = r'.output.length) :
    (Mode.messages.charge a r).Tells ((Mode.text 0).charge b r') := by
  have grown : transcript (a.kept ++ [r.output]).flatten = String.join b.kept ++ r'.output := by
    rw [List.flatten_append, List.flatten_singleton, transcript_append, tells.text, output]
  rw [Mode.charge_messages]
  unfold Mode.charge
  split
  -- an empty block is left out, and the messages have nothing to say then
  · rename_i blank
    have none : r'.output = "" := String.isEmpty_iff.mp blank
    rw [none, String.length_empty, length] at measured
    constructor
    · simp only [tells.length, measured, Nat.add_zero]
    · rw [grown, none, String.append_empty]
  · constructor
    · simp only [tells.length, length, Mode.overhead_text_zero, Nat.zero_add]
    · rw [grown, String.join_append, String.join_cons, String.join_nil, String.append_empty]

end Account.Tells

namespace TemplateSection

variable {t : TemplateSection} {ctx : Context}

theorem inStep (scalars : ctx.tokenizer = .chars) (bare : t.budget.textPrefix = "") (maxTokens : Nat) :
    Mode.messages.InStep (.text 0) ctx maxTokens Account.Tells (.template t) := by
  intro a b w tells v u
  cases rendered : (Render.run ctx t.template.directives w).result with
  | error e =>
    have first : v.Renders ctx t w := Mode.messages.visit_renders ctx maxTokens a t w
    have second : u.Renders ctx t w := (Mode.text 0).visit_renders ctx maxTokens b t w
    refine ⟨second.after.trans first.after.symm, fun index => ?_⟩
    rw [Visit.failure?_of_error (first.fails e rendered), Visit.failure?_of_error (second.fails e rendered)]
    exact ⟨rfl, fun passed => nomatch passed⟩
  | ok parts =>
    let text := String.join parts
    have budget : u.budget = v.budget := congrArg t.budget.tokenBudget (tells.left maxTokens)
    have messages := renderMessages_of_run scalars rendered v.budget
    have block := renderText_of_run scalars rendered u.budget
    let r := (Rendered.measured scalarCount (t.speech text)).against v.budget
    let r' := (Rendered.measured String.length (t.block text)).against u.budget
    have given : v.result = .ok r := congrArg Prod.fst messages
    have given' : u.result = .ok r' := congrArg Prod.fst block
    have after : u.after = v.after := (congrArg Prod.snd block).trans (congrArg Prod.snd messages).symm
    have length : r'.length = r.length := length_block_of_bare bare text
    have marked : r'.tooLong = r.tooLong := by
      change decide (u.budget < r'.length) = decide (v.budget < r.length)
      rw [budget, length]
    have item : u.item = v.item := rfl
    refine ⟨after, fun index => ⟨?_, fun _ => ?_⟩⟩
    · simp only [Visit.failure?, given, given', marked, length, budget, item]
    · cases long : r.tooLong with
      | true =>
        rw [Mode.settle_of_long given long, Mode.settle_of_long given' (marked.trans long)]
        exact tells
      | false =>
        rw [Mode.settle_of_short given long, Mode.settle_of_short given' (marked.trans long)]
        exact tells.charge length (transcript_speech bare text).symm rfl

end TemplateSection

/-- With one token a character, no prefix and no separator, text and messages agree: they fail with the
same error or come to the same length, the text being what the messages say, and they leave one world. -/
theorem text_is_what_messages_say (sections : List TemplateSection) (ctx : Context) (w : World)
    (maxTokens : Nat) (scalars : ctx.tokenizer = .chars)
    (bare : ∀ t ∈ sections, t.budget.textPrefix = "") :
    let l : Layout := ⟨sections.map .template, ""⟩
    let messages := l.renderMessages ctx w maxTokens
    l.renderText ctx w maxTokens =
      (messages.1.map fun r => ⟨String.join (r.output.map (·.content)), r.length, r.tooLong⟩, messages.2) := by
  intro l messages
  have free : ctx.tokenizer.count l.separator = 0 := if_pos rfl
  have inStep : ∀ s ∈ l.sections, Mode.messages.InStep (.text 0) ctx maxTokens Account.Tells s := by
    intro s mem
    obtain ⟨t, inside, rfl⟩ := List.mem_map.mp mem
    exact t.inStep scalars (bare t inside) maxTokens
  have start : (Account.empty : Account (List Message)).Tells .empty := ⟨rfl, rfl⟩
  obtain ⟨same, world⟩ := Mode.walk_inStep inStep start 0 w
  have messages_eq : messages = _ := l.renderMessages_eq_walk ctx w maxTokens
  rw [messages_eq, l.renderText_eq_walk, Layout.textWalk, free]
  refine Prod.ext ?_ world
  have compose (x : Except PromptError (Account (List Message))) : (x.map fun a =>
      (⟨a.kept.flatten, a.length, false⟩ : Rendered (List Message))).map (fun r =>
        (⟨String.join (r.output.map (·.content)), r.length, r.tooLong⟩ : Rendered String)) =
      x.map fun a => ⟨transcript a.kept.flatten, a.length, false⟩ := by
    cases x <;> rfl
  simp only [compose]
  refine same.map_eq fun a b tells => ?_
  rw [intercalate_empty, tells.text, tells.length]

def countAndNote : Context where
  registry := ⟨(Dict.empty.insert "count" (Sample.function (.counter 0) 0)).insert "note"
    (Sample.function .set 1)⟩
  tokenizer := .chars
  clock := ⟨2026, 1, 1, 0, 0, 0⟩

def countedSections : List TemplateSection :=
  [⟨⟨"{{count}}. rules", [.call "count" [], .text ". rules"]⟩, "system", { tokens := 4.0 }⟩,
    ⟨⟨"{{count}}. remark", [.call "count" [], .text ". remark"]⟩, "assistant", { required := false }⟩,
    ⟨⟨"{{note mood fine}}", [.call "note" ["mood", "fine"]]⟩, "system", {}⟩,
    ⟨⟨"{{count}}. {{$mood}}", [.call "count" [], .text ". ", .lookup "mood"]⟩, "user", {}⟩]

theorem counted_text_is_what_messages_say :
    let l : Layout := ⟨countedSections.map .template, ""⟩
    countAndNote.tokenizer = .chars ∧ (∀ t ∈ countedSections, t.budget.textPrefix = "") ∧
    (l.renderMessages countAndNote default 12).1 =
      .ok ⟨[⟨"system", "1. r"⟩, ⟨"user", "3. fine"⟩], 11, false⟩ ∧
    (l.renderText countAndNote default 12).1 = .ok ⟨"1. r3. fine", 11, false⟩ ∧
    (l.renderText countAndNote default 12).2 = (l.renderMessages countAndNote default 12).2 ∧
    (l.renderText countAndNote default 12).2.store.calls 0 = 3 ∧
    (l.renderMessages countAndNote default 10).1 = .error (.sectionTooLong 3 7 6) ∧
    (l.renderText countAndNote default 10).1 = .error (.sectionTooLong 3 7 6) := by
  intro l
  have bare : ∀ t ∈ countedSections, t.budget.textPrefix = "" := by decide
  have fits : (l.renderMessages countAndNote default 12).1 =
    .ok ⟨[⟨"system", "1. r"⟩, ⟨"user", "3. fine"⟩], 11, false⟩ := by decide +kernel
  have exceeds : (l.renderMessages countAndNote default 10).1 = .error (.sectionTooLong 3 7 6) := by
    decide +kernel
  have text : l.renderText countAndNote default 12 = _ :=
    text_is_what_messages_say countedSections countAndNote default 12 rfl bare
  have short : l.renderText countAndNote default 10 = _ :=
    text_is_what_messages_say countedSections countAndNote default 10 rfl bare
  refine ⟨rfl, bare, fits, ?_, congrArg Prod.snd text, by decide +kernel, exceeds, ?_⟩
  · rw [text, fits]
    decide +kernel
  · rw [short, exceeds]
    rfl

end PromptKit
