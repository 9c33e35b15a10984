import PromptKit.Proofs.Prompt.Accounting
import PromptKit.Proofs.Render.Purity

/-!
Sections that leave no trace. Where templates change nothing, a section that adds no output could as
well not have been there: without it the walk goes through the same accounts, and comes to the same.
-/
namespace PromptKit

open Render (Context World)

variable {α : Type}

def Visit.dropped (v : Visit α) : Bool :=
  match v.result with
  | .ok r => r.tooLong
  | .error _ => false

def Visit.wordless (v : Visit String) : Bool :=
  match v.result with
  | .ok r => r.output.isEmpty
  | .error _ => false

theorem Visit.accepted?_of_dropped (m : Mode α) {v : Visit α} (dropped : v.dropped = true) :
    m.accepted? v = none := by
  unfold Visit.dropped at dropped
  unfold Mode.accepted?
  cases given : v.result with
  | error e => rfl
  | ok r =>
    have long : r.tooLong = true := by simpa only [given] using dropped
    simp only [long, Bool.true_or, if_true]

theorem Visit.accepted?_of_wordless (joint : Nat) {v : Visit String} (wordless : v.wordless = true) :
    (Mode.text joint).accepted? v = none := by
  unfold Visit.wordless at wordless
  unfold Mode.accepted?
  cases given : v.result with
  | error e => rfl
  | ok r =>
    have blank : r.output.isEmpty = true := by simpa only [given] using wordless
    simp only [Mode.text, blank, Bool.or_true, if_true]

def deleting (flags : List Bool) (sections : List PromptSection) : List PromptSection :=
  ((sections.zip flags).filter fun p => !p.2).map (·.1)

theorem deleting_cons_true (flags : List Bool) (s : PromptSection) (sections : List PromptSection) :
    deleting (true :: flags) (s :: sections) = deleting flags sections := rfl

theorem deleting_cons_false (flags : List Bool) (s : PromptSection) (sections : List PromptSection) :
    deleting (false :: flags) (s :: sections) = s :: deleting flags sections := rfl

def Layout.deleting (l : Layout) (flags : List Bool) : Layout :=
  { l with sections := PromptKit.deleting flags l.sections }

structure Mode.Still (m : Mode α) (ctx : Context) (later : Clock) (s : PromptSection) : Prop where
  later : ∀ w offer, m.render s (ctx.atTime later) w offer = m.render s ctx w offer
  world : ∀ w offer, (m.render s ctx w offer).2 = w

/-- The templates of the layout call no function but builtins, and none that tells the date. -/
def Layout.Undated (l : Layout) (registry : Registry) : Prop :=
  ∀ t, .template t ∈ l.sections → Render.Undated registry t.template.directives

section Sections

variable {ctx : Context} {s : PromptSection} {l : Layout}

theorem PromptSection.renderMessages_still (later : Clock)
    (undated : ∀ t, s = .template t → Render.Undated ctx.registry t.template.directives) :
    Mode.messages.Still ctx later s := by
  cases s with
  | messages content b => exact ⟨fun _ _ => rfl, fun _ _ => rfl⟩
  | template t =>
    have directives := undated t rfl
    constructor
    · intro w offer
      change t.renderMessages (ctx.atTime later) w offer = t.renderMessages ctx w offer
      unfold TemplateSection.renderMessages
      rw [Render.run_later directives]
      rfl
    · intro w offer
      exact Render.world_run directives w

theorem PromptSection.renderText_still (joint : Nat) {later : Clock}
    (still : Mode.messages.Still ctx later s) : (Mode.text joint).Still ctx later s := by
  constructor
  · intro w offer
    have same : s.renderMessages (ctx.atTime later) w offer = s.renderMessages ctx w offer :=
      still.later w offer
    change s.renderText (ctx.atTime later) w offer = s.renderText ctx w offer
    unfold renderText
    rw [same]
    rfl
  · intro w offer
    exact still.world w offer

theorem Layout.Undated.still (undated : l.Undated ctx.registry) (later : Clock) :
    ∀ s ∈ l.sections, Mode.messages.Still ctx later s := by
  intro s mem
  refine s.renderMessages_still later fun t same => undated t ?_
  rwa [← same]

end Sections

namespace Mode

variable {m : Mode α} {ctx : Context} {later : Clock} {maxTokens index : Nat} {a b : Account α}
variable {s : PromptSection} {sections : List PromptSection} {w : World} {out : Visit α → Bool}

theorem Still.visit_later (still : m.Still ctx later s) :
    m.visit (ctx.atTime later) maxTokens a s w = m.visit ctx maxTokens a s w := by
  simp only [visit, still.later]

theorem Still.after (still : m.Still ctx later s) : (m.visit ctx maxTokens a s w).after = w :=
  still.world w _

/-- A walk that succeeds goes on the same without sections that it did not accept anyway, at whatever
time and wherever its count begins. -/
theorem walk_deleting (still : ∀ s ∈ sections, m.Still ctx later s)
    (leftOut : ∀ v, out v = true → m.accepted? v = none)
    (done : (m.walk ctx maxTokens index a sections w).result = .ok b) (start : Nat) :
    let whole := m.walk ctx maxTokens index a sections w
    let rest := m.walk (ctx.atTime later) maxTokens start a (deleting (whole.visits.map out) sections) w
    rest.result = .ok b ∧ rest.world = whole.world := by
  induction sections generalizing index start a with
  | nil => exact ⟨done, rfl⟩
  | cons s rest ih =>
    let v := m.visit ctx maxTokens a s w
    let onward := m.walk ctx maxTokens (index + 1) (m.settle a v) rest w
    obtain ⟨passed, _, _⟩ := walk_cons_of_ok done
    have calm := still s List.mem_cons_self
    have after : v.after = w := calm.after
    have same : m.visit (ctx.atTime later) maxTokens a s w = v := calm.visit_later
    have whole : m.walk ctx maxTokens index a (s :: rest) w =
        ⟨v :: onward.visits, onward.result, onward.world⟩ := by
      rw [walk_of_onward passed, calm.after]
    rw [whole] at done ⊢
    have remaining := ih (fun s mem => still s (List.mem_cons_of_mem _ mem)) done
    simp only [List.map_cons]
    cases deleted : out v with
    | true =>
      have settled : m.settle a v = a := settle_of_left (leftOut v deleted)
      rw [settled] at remaining
      simp only [deleting_cons_true, onward, settled]
      exact remaining start
    | false =>
      -- the count of the sections appears in no error, because none is raised
      have passes : (m.visit (ctx.atTime later) maxTokens a s w).failure? start = none := by
        rw [same]
        exact Visit.failure?_eq_none_iff.mpr (Visit.failure?_eq_none_iff.mp passed)
      rw [deleting_cons_false, walk_of_onward passes, same, after]
      exact remaining (start + 1)

end Mode

/-- Where templates call no function but builtins, and none that tells the date, sections that were
dropped leave no trace in the messages, nor do they in the text, and neither do those without text: the
layout without them comes to the same, also at another time. -/
theorem deleted_sections_leave_no_trace (l : Layout) (ctx : Context) (w : World) (maxTokens : Nat)
    (undated : l.Undated ctx.registry) (later : Clock) :
    let messages := (l.messageWalk ctx w maxTokens).visits
    let blocks := (l.textWalk ctx w maxTokens).visits
    (∀ r final, l.renderMessages ctx w maxTokens = (.ok r, final) →
      messages.map (·.item) = l.sections ∧
      (l.deleting (messages.map (·.dropped))).renderMessages (ctx.atTime later) w maxTokens = (.ok r, final)) ∧
    ∀ r final, l.renderText ctx w maxTokens = (.ok r, final) →
      blocks.map (·.item) = l.sections ∧
      (l.deleting (blocks.map fun v => v.dropped || v.wordless)).renderText (ctx.atTime later) w maxTokens =
        (.ok r, final) := by
  intro messages blocks
  have still := undated.still later
  constructor
  · intro r final rendered
    rw [l.renderMessages_eq_walk] at rendered
    obtain ⟨a, done, rfl, rfl⟩ := Walk.exists_account rendered
    have leftOut : ∀ v : Visit (List Message), v.dropped = true → Mode.messages.accepted? v = none :=
      fun v => Visit.accepted?_of_dropped _
    obtain ⟨result, world⟩ := Mode.walk_deleting still leftOut done 0
    refine ⟨(Mode.messages.walk_items ctx maxTokens 0 .empty l.sections w).2 a done, ?_⟩
    rw [Layout.renderMessages_eq_walk]
    exact Prod.ext (congrArg (Except.map _) result) world
  · intro r final rendered
    rw [l.renderText_eq_walk] at rendered
    obtain ⟨a, done, rfl, rfl⟩ := Walk.exists_account rendered
    let m := Mode.text (ctx.tokenizer.count l.separator)
    have leftOut : ∀ v : Visit String, (v.dropped || v.wordless) = true → m.accepted? v = none := by
      intro v out
      rcases Bool.or_eq_true_iff.mp out with dropped | wordless
      · exact Visit.accepted?_of_dropped m dropped
      · exact Visit.accepted?_of_wordless _ wordless
    have still : ∀ s ∈ l.sections, m.Still ctx later s := fun s mem => s.renderText_still _ (still s mem)
    obtain ⟨result, world⟩ := Mode.walk_deleting still leftOut done 0
    refine ⟨(m.walk_items ctx maxTokens 0 .empty l.sections w).2 a done, ?_⟩
    rw [Layout.renderText_eq_walk]
    exact Prod.ext (congrArg (Except.map _) result) world

def builtinContext : Context := { charContext with registry := .withBuiltins }

def rulesSection : TemplateSection :=
  ⟨⟨"{{default rules}}", [.call "default" ["rules"]]⟩, "system", {}⟩

def moodSection : TemplateSection :=
  ⟨⟨"{{memory.get mood}}", [.call "memory.get" ["mood"]]⟩, "system", {}⟩

def moodless : Layout where
  sections := [.template rulesSection, plainSection "a long remark" "assistant" { required := false },
    .template moodSection, plainSection "hello" "user" {}]

theorem moodless_leaves_no_trace :
    let hello := plainSection "hello" "user" {}
    let noRemark : Layout := ⟨[.template rulesSection, .template moodSection, hello], "\n\n"⟩
    let onlyWords : Layout := ⟨[.template rulesSection, hello], "\n\n"⟩
    let later := builtinContext.atTime ⟨2027, 1, 1, 0, 0, 0⟩
    moodless.Undated builtinContext.registry ∧
    (moodless.renderMessages builtinContext default 12).1 =
      .ok ⟨[⟨"system", "rules"⟩, ⟨"user", "hello"⟩], 10, false⟩ ∧
    (noRemark.renderMessages later default 12).1 = .ok ⟨[⟨"system", "rules"⟩, ⟨"user", "hello"⟩], 10, false⟩ ∧
    (moodless.renderText builtinContext default 12).1 = .ok ⟨"rules\n\nhello", 12, false⟩ ∧
    (onlyWords.renderText later default 12).1 = .ok ⟨"rules\n\nhello", 12, false⟩ := by
  intro hello noRemark onlyWords later
  have undated : moodless.Undated builtinContext.registry := by
    have builtins : builtinContext.registry = .withBuiltins := rfl
    intro t mem
    rw [builtins]
    refine Render.undated_of_names fun name args called => ?_
    simp only [moodless, plainSection, List.mem_cons, PromptSection.template.injEq, List.not_mem_nil,
      or_false] at mem
    rcases mem with rfl | rfl | rfl | rfl
    · obtain ⟨rfl, _⟩ : name = "default" ∧ args = ["rules"] := by simpa [rulesSection] using called
      decide
    · simp at called
    · obtain ⟨rfl, _⟩ : name = "memory.get" ∧ args = ["mood"] := by simpa [moodSection] using called
      decide
    · simp at called
  have messages : (moodless.renderMessages builtinContext default 12).1 =
    .ok ⟨[⟨"system", "rules"⟩, ⟨"user", "hello"⟩], 10, false⟩ := by decide +kernel
  have text : (moodless.renderText builtinContext default 12).1 = .ok ⟨"rules\n\nhello", 12, false⟩ := by
    decide +kernel
  have dropped : (moodless.messageWalk builtinContext default 12).visits.map (·.dropped) =
    [false, true, false, false] := by decide +kernel
  have silent : (moodless.textWalk builtinContext default 12).visits.map (fun v => v.dropped || v.wordless) =
    [false, true, true, false] := by decide +kernel
  obtain ⟨inMessages, inText⟩ :=
    deleted_sections_leave_no_trace moodless builtinContext default 12 undated ⟨2027, 1, 1, 0, 0, 0⟩
  have withoutRemark := (inMessages _ _ (Prod.ext messages rfl)).2
  have withoutSilence := (inText _ _ (Prod.ext text rfl)).2
  rw [dropped] at withoutRemark
  rw [silent] at withoutSilence
  exact ⟨undated, messages, congrArg Prod.fst withoutRemark, text, congrArg Prod.fst withoutSilence⟩

end PromptKit
