import Mathlib.Data.List.DropRight
import PromptKit.Config.File
import PromptKit.Proofs.Traversal

/-!
Which configurations have a layout, and which fault the others are told. The limit is looked at before
the sections and all roles before any template; among roles, and among templates, the first counts.
-/
namespace PromptKit

theorem Text.trimChars_eq_nil_iff {cs : List Char} : trimChars cs = [] ↔ ∀ c ∈ cs, isBlank c = true := by
  change (cs.dropWhile isBlank).rdropWhile isBlank = [] ↔ _
  rw [List.rdropWhile_eq_nil_iff]
  constructor
  · intro blank c mem
    rw [← List.takeWhile_append_dropWhile (p := isBlank) (l := cs), List.mem_append] at mem
    rcases mem with lead | rest
    · exact List.mem_takeWhile_imp lead
    · exact blank c rest
  · intro blank c mem
    exact blank c ((List.dropWhile_suffix isBlank).subset mem)

namespace SectionConfig

variable {s : SectionConfig}

def Voiced (s : SectionConfig) : Prop := ∃ c ∈ s.role.toList, Text.isBlank c = false

theorem hasRole_iff : s.hasRole = true ↔ s.Voiced := by
  have blank : (Text.trim s.role).isEmpty = true ↔ ∀ c ∈ s.role.toList, Text.isBlank c = true := by
    rw [String.isEmpty_iff, Text.trim, ← Text.trimChars_eq_nil_iff, String.ofList_eq_empty_iff]
  rw [hasRole, Bool.not_eq_true', ← Bool.not_eq_true, blank]
  simp [Voiced]

def Compiles (s : SectionConfig) : Prop := ∃ directives, Template.compile s.template = .ok directives

def Describes (s : SectionConfig) (p : PromptSection) : Prop :=
  ∃ directives, Template.compile s.template = .ok directives ∧
    p = .template ⟨⟨s.template, directives⟩, s.role, s.budget⟩

theorem compile_of_ok {directives : List Template.Directive}
    (compiled : Template.compile s.template = .ok directives) :
    s.compile = .ok ⟨⟨s.template, directives⟩, s.role, s.budget⟩ := by
  simp [compile, CompiledTemplate.ofSource, compiled, Except.map]

theorem compile_of_error {e : PromptError} (malformed : Template.compile s.template = .error e) :
    s.compile = .error e := by
  simp [compile, CompiledTemplate.ofSource, malformed, Except.map]

theorem describes_of_compile {t : TemplateSection} (compiled : s.compile = .ok t) :
    s.Describes (.template t) := by
  obtain ⟨template, sourced, rfl⟩ := exists_ok_of_map compiled
  obtain ⟨directives, given, rfl⟩ := exists_ok_of_map sourced
  exact ⟨directives, given, rfl⟩

end SectionConfig

theorem Template.eq_malformed_of_compile {source : String} {e : PromptError}
    (malformed : compile source = .error e) : ∃ construct offset, e = .malformedTemplate construct offset := by
  unfold compile at malformed
  split at malformed
  · cases malformed
  · exact ⟨_, _, (Except.error.inj malformed).symm⟩

namespace PromptConfig

variable {c : PromptConfig} {e : PromptError}

structure Valid (c : PromptConfig) : Prop where
  limit : 0 < c.maxTokens
  sections : c.sections ≠ []
  roles : ∀ s ∈ c.sections, s.Voiced
  templates : ∀ s ∈ c.sections, s.Compiles

/-- The fault that a configuration is told, of all that it has. -/
inductive FirstFault (c : PromptConfig) : PromptError → Prop
  | limit (zero : c.maxTokens = 0) :
      FirstFault c (.config "max_tokens must be greater than zero" none)
  | sections (limit : 0 < c.maxTokens) (empty : c.sections = []) :
      FirstFault c (.config "prompt has no sections" none)
  | role (limit : 0 < c.maxTokens) (before : List SectionConfig) (s : SectionConfig)
      (after : List SectionConfig) (split : c.sections = before ++ s :: after)
      (voiced : ∀ b ∈ before, b.Voiced) (mute : ¬ s.Voiced) :
      FirstFault c (.config "section role must not be empty"
        (some ("section " ++ toString before.length)))
  | template (limit : 0 < c.maxTokens) (roles : ∀ s ∈ c.sections, s.Voiced)
      (before : List SectionConfig) (s : SectionConfig) (after : List SectionConfig)
      (split : c.sections = before ++ s :: after) (compiled : ∀ b ∈ before, b.Compiles)
      (construct : OpenConstruct) (offset : Nat)
      (malformed : Template.compile s.template = .error (.malformedTemplate construct offset)) :
      FirstFault c (.malformedTemplate construct offset)

theorem valid_or_firstFault (c : PromptConfig) : c.Valid ∨ ∃ e, c.FirstFault e := by
  rcases Nat.eq_zero_or_pos c.maxTokens with zero | limit
  · exact .inr ⟨_, .limit zero⟩
  by_cases empty : c.sections = []
  · exact .inr ⟨_, .sections limit empty⟩
  rcases all_or_first SectionConfig.Voiced c.sections with roles | ⟨before, s, after, split, voiced, mute⟩
  · rcases all_or_first SectionConfig.Compiles c.sections with all | ⟨before, s, after, split, compiled, bad⟩
    · exact .inl ⟨limit, empty, roles, all⟩
    · cases outcome : Template.compile s.template with
      | ok directives => exact absurd ⟨directives, outcome⟩ bad
      | error e =>
        obtain ⟨construct, offset, rfl⟩ := Template.eq_malformed_of_compile outcome
        exact .inr ⟨_, .template limit roles before s after split compiled construct offset outcome⟩
  · exact .inr ⟨_, .role limit before s after split voiced mute⟩

theorem findIdx?_of_voiced {sections : List SectionConfig} (voiced : ∀ s ∈ sections, s.Voiced) :
    sections.findIdx? (fun s => !s.hasRole) = none := by
  rw [List.findIdx?_eq_none_iff]
  intro s mem
  rw [SectionConfig.hasRole_iff.mpr (voiced s mem)]
  rfl

theorem validate_of_voiced (limit : 0 < c.maxTokens) (present : c.sections ≠ [])
    (voiced : ∀ s ∈ c.sections, s.Voiced) : c.validate = .ok () := by
  simp [validate, fault?, Nat.ne_of_gt limit, present, findIdx?_of_voiced voiced]

theorem FirstFault.cases (fault : c.FirstFault e) : c.validate = .error e ∨
    c.validate = .ok () ∧ e.isCompileError = true ∧ c.sections.mapM SectionConfig.compile = .error e := by
  cases fault with
  | limit zero =>
    left
    simp [validate, fault?, zero, ConfigFault.toError]
  | sections limit empty =>
    left
    simp [validate, fault?, Nat.ne_of_gt limit, empty, ConfigFault.toError]
  | role limit before s after split voiced mute =>
    left
    have first : (s :: after).findIdx? (fun s => !s.hasRole) = some 0 := by
      rw [← SectionConfig.hasRole_iff] at mute
      simp [List.findIdx?_cons, mute]
    simp [validate, fault?, Nat.ne_of_gt limit, split, List.findIdx?_append, findIdx?_of_voiced voiced,
      first, ConfigFault.toError]
  -- every role is fine here, also those after the broken template
  | template limit roles before s after split compiled construct offset malformed =>
    right
    have present : c.sections ≠ [] := by simp [split]
    refine ⟨validate_of_voiced limit present roles, rfl, ?_⟩
    rw [split]
    refine mapM_of_error (fun b mem => ?_) (SectionConfig.compile_of_error malformed)
    obtain ⟨directives, compiled⟩ := compiled b mem
    exact ⟨_, SectionConfig.compile_of_ok compiled⟩

theorem layout_of_firstFault (fault : c.FirstFault e) : c.layout = .error e := by
  rcases fault.cases with early | ⟨sound, _, late⟩
  · simp [layout, early, bind, Except.bind]
  · simp [layout, sound, late, bind, Except.bind]

theorem layout_of_valid (valid : c.Valid) : ∃ l, c.layout = .ok l ∧ l.separator = c.separator ∧
    List.Forall₂ SectionConfig.Describes c.sections l.sections := by
  have each : ∀ s ∈ c.sections, ∃ t, s.compile = .ok t := fun s mem => by
    obtain ⟨directives, compiled⟩ := valid.templates s mem
    exact ⟨_, SectionConfig.compile_of_ok compiled⟩
  obtain ⟨sections, done, related⟩ := mapM_of_ok each
  refine ⟨⟨sections.map .template, c.separator⟩, ?_, rfl, ?_⟩
  · simp [layout, validate_of_voiced valid.limit valid.sections valid.roles, done, bind, Except.bind, pure,
      Except.pure]
  · rw [List.forall₂_map_right_iff]
    exact related.imp fun _ _ => SectionConfig.describes_of_compile

theorem validate_of_load {files : Files} {path : String} (loaded : load files path = .ok c) :
    c.validate = .ok () := by
  unfold load at loaded
  cases content : files.text path with
  | error fault => simp [content] at loaded
  | ok text =>
    simp only [content] at loaded
    obtain ⟨config, _, loaded⟩ := exists_ok_of_bind loaded
    obtain ⟨_, sound, loaded⟩ := exists_ok_of_bind loaded
    obtain rfl := Except.ok.inj loaded
    exact sound

theorem exists_layout_iff : (∃ l, c.layout = .ok l) ↔ c.Valid := by
  constructor
  · rintro ⟨l, done⟩
    rcases c.valid_or_firstFault with valid | ⟨e, fault⟩
    · exact valid
    · rw [layout_of_firstFault fault] at done
      cases done
  · intro valid
    obtain ⟨l, done, _⟩ := layout_of_valid valid
    exact ⟨l, done⟩

theorem layout_eq_error_iff : c.layout = .error e ↔ c.FirstFault e := by
  refine ⟨fun failed => ?_, layout_of_firstFault⟩
  rcases c.valid_or_firstFault with valid | ⟨own, fault⟩
  · obtain ⟨l, done, _⟩ := layout_of_valid valid
    rw [done] at failed
    cases failed
  · obtain rfl := Except.error.inj (failed.symm.trans (layout_of_firstFault fault))
    exact fault

theorem isCompileError_of_load {files : Files} {path : String} (loaded : load files path = .ok c)
    (failed : c.layout = .error e) : e.isCompileError = true := by
  rcases (layout_eq_error_iff.mp failed).cases with early | ⟨_, compile, _⟩
  -- what is looked at before the templates was looked at when the configuration was loaded
  · rw [validate_of_load loaded] at early
    cases early
  · exact compile

/-- A configuration has a layout just if it is valid, and then the layout has its sections, in order;
otherwise it is told its first fault. One that was loaded can only be at fault in a template. -/
theorem layout_of_valid_or_firstFault (c : PromptConfig) :
    ((∃ l, c.layout = .ok l) ↔ c.Valid) ∧
    (∀ l, c.layout = .ok l → l.separator = c.separator ∧
      List.Forall₂ SectionConfig.Describes c.sections l.sections) ∧
    (∀ e, c.layout = .error e ↔ c.FirstFault e) ∧
    ∀ files path, load files path = .ok c →
      (∃ l, c.layout = .ok l) ∨ ∃ e, c.layout = .error e ∧ e.isCompileError = true := by
  refine ⟨exists_layout_iff, fun l done => ?_, fun e => layout_eq_error_iff, fun files path loaded => ?_⟩
  · obtain ⟨own, same, described⟩ := layout_of_valid (exists_layout_iff.mp ⟨l, done⟩)
    obtain rfl := Except.ok.inj (done.symm.trans same)
    exact described
  · cases outcome : c.layout with
    | ok l => exact .inl ⟨l, rfl⟩
    | error e => exact .inr ⟨e, rfl, isCompileError_of_load loaded outcome⟩

def brokenThenMute : PromptConfig where
  sections := [{ template := "\x7b\x7bbroken" }, { template := "hello", role := " " }]

def halfWritten : Files where
  bytes _ := .ok (Text.utf8Bytes
    "\x7b\x22sections\x22: [\x7b\x22template\x22: \x22hi \x7b\x7bname\x22\x7d]\x7d".toList)

theorem brokenThenMute_is_mute :
    brokenThenMute.layout = .error (.config "section role must not be empty" (some "section 1")) ∧
    ∃ c, load halfWritten "prompt.json" = .ok c ∧ c.FirstFault (.malformedTemplate .directive 3) ∧
      ∃ e, c.layout = .error e ∧ e.isCompileError = true := by
  constructor
  · have voiced : ∀ b ∈ [({ template := "\x7b\x7bbroken" } : SectionConfig)], b.Voiced := by
      intro b mem
      obtain rfl := List.mem_singleton.mp mem
      exact ⟨'s', by decide, by decide⟩
    have mute : ¬ SectionConfig.Voiced { template := "hello", role := " " } := by
      rw [← SectionConfig.hasRole_iff]
      decide
    exact ((layout_of_valid_or_firstFault brokenThenMute).2.2.1 _).mpr
      (.role (by decide) _ _ [] rfl voiced mute)
  · have read : ((load halfWritten "prompt.json").map fun c => c.layout.map fun _ => ()) =
        .ok (.error (.malformedTemplate .directive 3)) := by decide +kernel
    obtain ⟨c, loaded, failed⟩ := exists_ok_of_map read
    obtain ⟨_, _, faults, compile⟩ := layout_of_valid_or_firstFault c
    refine ⟨c, loaded, (faults _).mp (eq_error_of_map failed), ?_⟩
    rcases compile _ _ loaded with ⟨l, done⟩ | fails
    · rw [done] at failed
      cases failed
    · exact fails

end PromptConfig

end PromptKit
