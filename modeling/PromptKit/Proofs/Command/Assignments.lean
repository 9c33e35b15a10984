import PromptKit.Command.Run
import PromptKit.Proofs.Memory.LastWriter
import PromptKit.Proofs.Prompt.Accounting

/-!
What the assignments of a render come to. A key has the value of the last entry that assigns it, and its
value in the memory file where none does; an entry that is no assignment stops the render before anything
is printed. A prompt that is printed is within its limit.
-/
namespace PromptKit.Command

open Json (Value)
open Render (Context World)

section Entries

variable {entry key text message : String} {value : Value} {m : Memory} {entries : List String}

structure Splits (entry key text : String) : Prop where
  present : key ≠ ""
  first : '=' ∉ key.toList
  whole : entry = key ++ "=" ++ text

def WellFormed (entry : String) : Prop := ∃ key text, Splits entry key text

def Names (key entry : String) : Prop := ∃ text, Splits entry key text

/-- A text stands for the JSON value that it holds, or for itself. -/
inductive Means (text : String) : Value → Prop
  | json {value : Value} (parsed : Json.parse text = .ok value) : Means text value
  | plain {fault : Json.Fault} (unparsed : Json.parse text = .error fault) : Means text (.string text)

def Assigns (key entry : String) (value : Value) : Prop := ∃ text, Splits entry key text ∧ Means text value

inductive Complains (entry : String) : String → Prop
  | noEquals (absent : '=' ∉ entry.toList) : Complains entry ("expected KEY=VALUE, got \x27" ++ entry ++ "\x27")
  | emptyKey {text : String} (first : entry = "=" ++ text) : Complains entry ("empty key in \x27" ++ entry ++ "\x27")

theorem means_iff : Means text value ↔ valueOfText text = value := by
  unfold valueOfText
  cases parsed : Json.parse text with
  | error fault =>
    constructor
    · rintro (read | _)
      · rw [parsed] at read
        cases read
      · rfl
    · rintro rfl
      exact .plain parsed
  | ok own =>
    constructor
    · rintro (read | unread)
      · exact Except.ok.inj (parsed.symm.trans read)
      · rw [parsed] at unread
        cases unread
    · rintro rfl
      exact .json parsed

theorem Splits.splitFirst (splits : Splits entry key text) :
    Text.splitFirst '=' entry.toList = (key.toList, some text.toList) := by
  rw [Text.splitFirst_eq_some_iff, splits.whole]
  exact ⟨splits.first, by simp⟩

theorem Splits.unique {other rest : String} (splits : Splits entry key text) (again : Splits entry other rest) :
    key = other ∧ text = rest := by
  have same := splits.splitFirst.symm.trans again.splitFirst
  simpa [String.toList_inj] using same

theorem Splits.ofText (splits : Splits entry key text) :
    Assignment.ofText entry = .ok ⟨key, valueOfText text⟩ := by
  simp [Assignment.ofText, splits.splitFirst, splits.present]

theorem wellFormed_or_complains (entry : String) : WellFormed entry ∨ ∃ message, Complains entry message := by
  obtain ⟨before, rest, split⟩ : ∃ before rest, Text.splitFirst '=' entry.toList = (before, rest) := ⟨_, _, rfl⟩
  cases rest with
  | none => exact .inr ⟨_, .noEquals (Text.splitFirst_eq_none_iff.mp split).1⟩
  | some after =>
    obtain ⟨absent, whole⟩ := Text.splitFirst_eq_some_iff.mp split
    have written : entry = String.ofList before ++ "=" ++ String.ofList after := by
      rw [← String.toList_inj, whole]
      simp
    by_cases empty : before = []
    · rw [empty] at written
      have first : entry = "=" ++ String.ofList after := by simpa using written
      exact .inr ⟨_, .emptyKey first⟩
    · refine .inl ⟨String.ofList before, String.ofList after, ?_, by simpa using absent, written⟩
      simpa using empty

theorem Complains.ofText (complains : Complains entry message) :
    ∃ fault, Assignment.ofText entry = .error fault ∧ fault.message = message := by
  cases complains with
  | noEquals absent =>
    have split := Text.splitFirst_eq_none_iff.mpr ⟨absent, rfl⟩
    exact ⟨.noEquals entry, by simp only [Assignment.ofText, split], rfl⟩
  | @emptyKey text first =>
    have split : Text.splitFirst '=' entry.toList = ([], some text.toList) := by
      rw [Text.splitFirst_eq_some_iff, first]
      simp
    exact ⟨.emptyKey entry, by simp [Assignment.ofText, split], rfl⟩

theorem Complains.not_wellFormed (complains : Complains entry message) : ¬ WellFormed entry := by
  rintro ⟨key, text, splits⟩
  obtain ⟨fault, failed, _⟩ := complains.ofText
  rw [splits.ofText] at failed
  cases failed

theorem Complains.unique {other : String} (complains : Complains entry message)
    (again : Complains entry other) : message = other := by
  obtain ⟨fault, failed, rfl⟩ := complains.ofText
  obtain ⟨same, failedAgain, rfl⟩ := again.ofText
  rw [Except.error.inj (failed.symm.trans failedAgain)]

def put (m : Memory) (entry : String) : Memory :=
  match Assignment.ofText entry with
  | .ok a => m.set a.key a.value
  | .error _ => m

theorem put_of_splits (splits : Splits entry key text) (m : Memory) :
    put m entry = m.set key (valueOfText text) := by
  rw [put, splits.ofText]

theorem put_decides (key : String) :
    Decides (fun m : Memory => m.get? key) put (Names key) (Assigns key) := by
  refine ⟨?_, ?_, ?_⟩
  · rintro m entry ⟨text, splits⟩ value
    have found : (put m entry).get? key = some (valueOfText text) := by
      rw [put_of_splits splits, Memory.get?_set, if_pos rfl]
    rw [found, Option.some.injEq, ← means_iff]
    constructor
    · intro means
      exact ⟨text, splits, means⟩
    · rintro ⟨other, again, means⟩
      rwa [(splits.unique again).2]
  · intro m entry unnamed
    rcases wellFormed_or_complains entry with ⟨own, text, splits⟩ | ⟨message, complains⟩
    · have other : ¬ own = key := by
        rintro rfl
        exact unnamed ⟨text, splits⟩
      rw [put_of_splits splits, Memory.get?_set, if_neg other]
    · obtain ⟨fault, failed, _⟩ := complains.ofText
      rw [put, failed]
  · rintro entry value ⟨text, splits, _⟩
    exact ⟨text, splits⟩

theorem assign_of_wellFormed (wellFormed : ∀ entry ∈ entries, WellFormed entry) (m : Memory) :
    assign m entries = .ok (entries.foldl put m) := by
  induction entries generalizing m with
  | nil => rfl
  | cons entry rest ih =>
    obtain ⟨⟨key, text, splits⟩, later⟩ := List.forall_mem_cons.mp wellFormed
    have onward := ih later (put m entry)
    rw [put_of_splits splits] at onward
    simp only [assign, List.foldlM_cons, splits.ofText, Except.map, bind, Except.bind] at onward ⊢
    rw [onward, List.foldl_cons, put_of_splits splits]

theorem assign_of_complains {before : List String} (wellFormed : ∀ e ∈ before, WellFormed e)
    (complains : Complains entry message) (after : List String) (m : Memory) :
    ∃ fault, assign m (before ++ entry :: after) = .error fault ∧ fault.message = message := by
  obtain ⟨fault, failed, said⟩ := complains.ofText
  refine ⟨fault, ?_, said⟩
  -- the entries before it are assigned, and those after it are never looked at
  have early := assign_of_wellFormed wellFormed m
  unfold assign at early ⊢
  rw [List.foldlM_append, early]
  simp [List.foldlM_cons, failed, Except.map, bind, Except.bind]

end Entries

section Runs

variable {files : Files} {clock : Clock} {o : RenderOptions} {config : PromptConfig} {layout : Layout}
variable {stored m : Memory}

inductive Seeds (files : Files) : Option String → List (String × Value) → Prop
  | nothing : Seeds files none []
  | file {path text : String} {members : List (String × Value)} (read : files.text path = .ok text)
      (object : Json.Members text members) : Seeds files (some path) members

theorem exists_seeds {source : Option String} (loaded : loadMemory files source = .ok stored) :
    ∃ members, Seeds files source members ∧
      ∀ key value, stored.get? key = some value ↔ LastUnder key members value := by
  cases source with
  | none =>
    obtain rfl := Except.ok.inj loaded
    refine ⟨[], .nothing, fun key value => ?_⟩
    simp [LastUnder, not_lastGives_nil]
  | some path =>
    obtain ⟨text, read, loaded⟩ := exists_ok_of_bind loaded
    rcases Memory.members_or_fails text with ⟨members, object⟩ | ⟨error, fails⟩
    · have whole := Memory.ofText_of_members object
      obtain rfl := Except.ok.inj (whole.symm.trans (eq_ok_of_mapError loaded))
      refine ⟨members, .file (eq_ok_of_mapError read) object, fun key value => ?_⟩
      rw [Memory.get?, Dict.get?_ofList_entries, Dict.get?_ofList]
    · have failed : Memory.ofText text = .error error := Memory.edited_of_fails fails .empty
      rw [failed] at loaded
      cases loaded

def Outcome.ofRendered (limit : Nat) : Except PromptError (Rendered String) → Outcome
  | .ok r =>
    { stdout := r.output ++ "\n"
      stderr := "rendered " ++ toString r.length ++ " / " ++ toString limit ++ " tokens\n" }
  | .error e => failed (.prompt e)

theorem run_of_assigned (loaded : PromptConfig.load files o.config = .ok config)
    (built : config.layout = .ok layout) (seeded : loadMemory files o.memory = .ok stored)
    (assigned : assign stored o.assignments = .ok m) :
    let limit := o.maxTokens.getD config.maxTokens
    run files clock (.render o) = .ofRendered limit (renderLayout layout clock m o.asText limit) := by
  intro limit
  cases rendered : renderLayout layout clock m o.asText limit <;>
    simp [run, renderPrompt, renderMemory, loaded, built, seeded, assigned, rendered, limit, Except.mapError,
      bind, Except.bind, pure, Except.pure, Outcome.ofRendered]

theorem run_of_fault (loaded : PromptConfig.load files o.config = .ok config)
    (built : config.layout = .ok layout) (seeded : loadMemory files o.memory = .ok stored)
    {fault : AssignmentFault} (refused : assign stored o.assignments = .error fault) :
    run files clock (.render o) = failed (.assignment fault) := by
  simp [run, renderPrompt, renderMemory, loaded, built, seeded, refused, Except.mapError, bind, Except.bind]

theorem report_assignment (fault : AssignmentFault) :
    (CommandError.assignment fault).report = "Error: " ++ fault.message ++ "\n" := by
  have said : (CommandError.assignment fault).message = fault.message := rfl
  have alone : (CommandError.assignment fault).cause? = none := rfl
  simp only [CommandError.report, said, alone, Option.map_none, Option.getD_none, String.append_empty]

theorem run_of_complains (loaded : PromptConfig.load files o.config = .ok config)
    (built : config.layout = .ok layout) (seeded : loadMemory files o.memory = .ok stored)
    {before after : List String} {entry message : String} (split : o.assignments = before ++ entry :: after)
    (wellFormed : ∀ e ∈ before, WellFormed e) (complains : Complains entry message) :
    run files clock (.render o) = { exit := 1, stdout := "", stderr := "Error: " ++ message ++ "\n" } := by
  obtain ⟨fault, refused, rfl⟩ := assign_of_complains wellFormed complains after stored
  rw [← split] at refused
  rw [run_of_fault loaded built seeded refused, failed, report_assignment]

theorem length_renderLayout_le {asText : Bool} {limit : Nat} {r : Rendered String}
    (rendered : renderLayout layout clock m asText limit = .ok r) : r.length ≤ limit := by
  let ctx : Context := ⟨.withBuiltins, .chars, clock⟩
  let w : World := ⟨.ofMemory m, false⟩
  have scalars : ctx.tokenizer = .chars := rfl
  cases asText with
  | true =>
    have whole : layout.renderText ctx w limit = (.ok r, (layout.renderText ctx w limit).2) :=
      Prod.ext rendered rfl
    rw [layout.renderText_eq_walk] at whole
    obtain ⟨a, done, rfl, _⟩ := Walk.exists_account whole
    exact (Mode.walk_accounts (Mode.text_counts scalars layout.separator) done).2.fits
  | false =>
    have mapped : (layout.renderMessages ctx w limit).1.map _ = .ok r := rendered
    obtain ⟨messages, given, rfl⟩ := exists_ok_of_map mapped
    have whole : layout.renderMessages ctx w limit = (.ok messages, (layout.renderMessages ctx w limit).2) :=
      Prod.ext given rfl
    rw [layout.renderMessages_eq_walk] at whole
    obtain ⟨a, done, rfl, _⟩ := Walk.exists_account whole
    exact (Mode.walk_accounts (Mode.messages_counts scalars) done).2.fits

/-- A key has the value of the last entry that assigns it, and else its value in the memory file; the first
entry that is no assignment is reported and nothing is printed; what is printed is within the limit. -/
theorem last_assignment_wins (files : Files) (clock : Clock) (o : RenderOptions) (config : PromptConfig)
    (layout : Layout) (stored : Memory) (loaded : PromptConfig.load files o.config = .ok config)
    (built : config.layout = .ok layout) (seeded : loadMemory files o.memory = .ok stored) :
    let limit := o.maxTokens.getD config.maxTokens
    let outcome := run files clock (.render o)
    ((∀ entry ∈ o.assignments, WellFormed entry) →
      ∃ m members, Seeds files o.memory members ∧
        outcome = .ofRendered limit (renderLayout layout clock m o.asText limit) ∧
        ∀ key value, m.get? key = some value ↔
          LastGives (Names key) (Assigns key) o.assignments value ∨
            (∀ entry ∈ o.assignments, ¬ Names key entry) ∧ LastUnder key members value) ∧
    ((∃ entry ∈ o.assignments, ¬ WellFormed entry) →
      ∃ before entry after message, o.assignments = before ++ entry :: after ∧
        (∀ e ∈ before, WellFormed e) ∧ Complains entry message ∧
        outcome = { exit := 1, stdout := "", stderr := "Error: " ++ message ++ "\n" }) ∧
    (outcome.exit = 0 → ∃ length, length ≤ limit ∧
      outcome.stderr = "rendered " ++ toString length ++ " / " ++ toString limit ++ " tokens\n") := by
  intro limit outcome
  rcases all_or_first WellFormed o.assignments with wellFormed | ⟨before, entry, after, split, wellFormed, bad⟩
  · have assigned := assign_of_wellFormed wellFormed stored
    have printed : outcome = .ofRendered limit (renderLayout layout clock _ o.asText limit) :=
      run_of_assigned loaded built seeded assigned
    obtain ⟨members, seeds, holds⟩ := exists_seeds seeded
    refine ⟨fun _ => ⟨_, members, seeds, printed, fun key value => ?_⟩, ?_, fun success => ?_⟩
    · rw [← holds]
      exact (put_decides key).foldl o.assignments stored value
    · rintro ⟨entry, mem, bad⟩
      exact absurd (wellFormed entry mem) bad
    · rw [printed] at success ⊢
      cases rendered : renderLayout layout clock (o.assignments.foldl put stored) o.asText limit with
      | error e =>
        rw [rendered] at success
        cases success
      | ok r => exact ⟨r.length, length_renderLayout_le rendered, rfl⟩
  · obtain ⟨message, complains⟩ := (wellFormed_or_complains entry).resolve_left bad
    have stopped : outcome = _ := run_of_complains loaded built seeded split wellFormed complains
    refine ⟨fun all => ?_, fun _ => ⟨before, entry, after, message, split, wellFormed, complains, stopped⟩, ?_⟩
    · exact absurd (all entry (split ▸ List.mem_append_right _ List.mem_cons_self)) bad
    · intro success
      rw [stopped] at success
      cases success

end Runs

def greeting : Files where
  bytes
    | "prompt.json" => .ok (Text.utf8Bytes
        "\x7b\x22sections\x22: [\x7b\x22template\x22: \x22hello\x22\x7d]\x7d".toList)
    | "memory.json" => .ok (Text.utf8Bytes
        "\x7b\x22name\x22: \x22Ada\x22, \x22city\x22: \x22Oslo\x22\x7d".toList)
    | _ => .error .missing

def noon : Clock := ⟨2026, 1, 1, 12, 0, 0⟩

def greet (entries : List String) : RenderOptions where
  config := "prompt.json"
  memory := some "memory.json"
  assignments := entries
  maxTokens := some 40
  asText := true

theorem greeting_loads : ∃ config layout stored, PromptConfig.load greeting "prompt.json" = .ok config ∧
    config.layout = .ok layout ∧ loadMemory greeting (some "memory.json") = .ok stored := by
  have read : ((PromptConfig.load greeting "prompt.json").map fun c => c.layout.map fun _ => ()) =
      .ok (.ok ()) := by decide +kernel
  obtain ⟨config, loaded, compiled⟩ := exists_ok_of_map read
  obtain ⟨layout, built, _⟩ := exists_ok_of_map compiled
  have known : (loadMemory greeting (some "memory.json")).isOk = true := by decide +kernel
  cases seeded : loadMemory greeting (some "memory.json") with
  | error e =>
    rw [seeded] at known
    cases known
  | ok stored => exact ⟨config, layout, stored, loaded, built, rfl⟩

theorem greet_keeps_last :
    (∃ layout m, run greeting noon (.render (greet ["mood=calm", "name=Eve", "mood=a=b"])) =
        .ofRendered 40 (renderLayout layout noon m true 40) ∧
      m.get? "mood" = some (.string "a=b") ∧ m.get? "city" = some (.string "Oslo")) ∧
    (∃ length, length ≤ 40 ∧ (run greeting noon (.render (greet ["mood=calm"]))).stderr =
      "rendered " ++ toString length ++ " / " ++ toString 40 ++ " tokens\n") ∧
    run greeting noon (.render (greet ["mood=calm", "name", "=x"])) =
      { exit := 1, stdout := "", stderr := "Error: expected KEY=VALUE, got \x27name\x27\n" } := by
  obtain ⟨config, layout, stored, loaded, built, seeded⟩ := greeting_loads
  have results entries :=
    last_assignment_wins greeting noon (greet entries) config layout stored loaded built seeded
  have calm : Splits "mood=calm" "mood" "calm" := ⟨by decide, by decide, rfl⟩
  have named : Splits "name=Eve" "name" "Eve" := ⟨by decide, by decide, rfl⟩
  have twice : Splits "mood=a=b" "mood" "a=b" := ⟨by decide, by decide, rfl⟩
  have bare : Complains "name" _ := .noEquals (by decide)
  refine ⟨?_, (results ["mood=calm"]).2.2 (by decide +kernel), ?_⟩
  · have wellFormed : ∀ entry ∈ ["mood=calm", "name=Eve", "mood=a=b"], WellFormed entry := by
      simp only [List.forall_mem_cons, List.not_mem_nil, false_implies, implies_true, and_true]
      exact ⟨⟨_, _, calm⟩, ⟨_, _, named⟩, ⟨_, _, twice⟩⟩
    obtain ⟨m, members, seeds, printed, held⟩ := (results _).1 wellFormed
    refine ⟨layout, m, printed, (held _ _).mpr (.inl ?_), (held _ _).mpr (.inr ⟨?_, ?_⟩)⟩
    · exact ⟨[_, _], _, [], rfl, ⟨_, twice, means_iff.mpr rfl⟩, by simp⟩
    · have unnamed {entry key text} (splits : Splits entry key text) (other : key ≠ "city") :
          ¬ Names "city" entry := by
        rintro ⟨_, again⟩
        exact other (splits.unique again).1
      simp only [greet, List.forall_mem_cons, List.not_mem_nil, false_implies, implies_true, and_true]
      exact ⟨unnamed calm (by decide), unnamed named (by decide), unnamed twice (by decide)⟩
    · have content : greeting.text "memory.json" =
          .ok "\x7b\x22name\x22: \x22Ada\x22, \x22city\x22: \x22Oslo\x22\x7d" := by decide +kernel
      have object : Json.Members "\x7b\x22name\x22: \x22Ada\x22, \x22city\x22: \x22Oslo\x22\x7d"
          [("name", .string "Ada"), ("city", .string "Oslo")] := ⟨_, _, rfl, rfl, rfl⟩
      cases seeds with
      | file read written =>
        obtain rfl := Except.ok.inj (read.symm.trans content)
        obtain rfl := written.unique object
        exact ⟨[_], _, [], rfl, rfl, by simp⟩
  · obtain ⟨before, entry, after, message, split, wellFormed, complains, stopped⟩ :=
      (results ["mood=calm", "name", "=x"]).2.1 ⟨"name", by simp [greet], bare.not_wellFormed⟩
    rcases before with _ | ⟨first, before⟩
    · obtain ⟨rfl, _⟩ := List.cons.inj split
      exact absurd ⟨_, _, calm⟩ complains.not_wellFormed
    · obtain ⟨rfl, onward⟩ := List.cons.inj split
      rcases before with _ | ⟨second, before⟩
      · obtain ⟨rfl, _⟩ := List.cons.inj onward
        rw [stopped, complains.unique bare]
        rfl
      · obtain ⟨rfl, _⟩ := List.cons.inj onward
        exact absurd (wellFormed _ (by simp)) bare.not_wellFormed

end PromptKit.Command
