import PromptKit.Proofs.Render.Immediate
import PromptKit.Proofs.Template.Reprinting

/-!
Templates that need neither memory nor functions. Their holes are empty, and they render to their source
without these; and a template without a hole renders to its source.
-/
namespace PromptKit

namespace Template

def emptyHole : List Char := opening ++ closing

theorem exists_dynamic {body : List Char} (filled : body ≠ []) :
    ∃ d ∈ bodyDirective body, d.isDynamic = true := by
  have means : BodyMeans body (bodyDirective body) := bodyMeans_iff.mpr rfl
  generalize bodyDirective body = ds at means ⊢
  cases means with
  | empty => contradiction
  | lookup key => exact ⟨_, List.mem_cons_self, rfl⟩
  | call => exact ⟨_, List.mem_cons_self, rfl⟩

namespace Outline

variable {o : Outline}

def Hollow (o : Outline) : Prop := ∀ h ∈ o.holes, h.body = []

theorem hollow_of_static (static : ∀ d ∈ o.directives, d.isDynamic = false) : o.Hollow := by
  intro h there
  refine Decidable.byContradiction fun filled => ?_
  obtain ⟨d, inside, dynamic⟩ := exists_dynamic filled
  rw [static d (mem_directives.mpr (.inr ⟨h, there, inside⟩))] at dynamic
  contradiction

theorem directives_of_hollow (hollow : o.Hollow) :
    o.directives = ((o.texts.filter fun t => !t.isEmpty).map String.ofList).map .text := by
  have each (t : List Char) :
      textDirective t = (([t].filter fun t => !t.isEmpty).map String.ofList).map .text := by
    cases t <;> rfl
  obtain ⟨lead, holes⟩ := o
  induction holes generalizing lead with
  | nil => rw [directives, List.flatMap_nil, List.append_nil, each]; rfl
  | cons h holes ih =>
    obtain ⟨first, later⟩ := List.forall_mem_cons.mp hollow
    rw [directives_cons, first, ih h.after later, each]
    simp [texts, bodyDirective, ← List.map_append, ← List.filter_append]

/-- Taking the empty holes out of a template leaves its texts. -/
theorem WellFormed.replaceFrom_emptyHole (formed : o.WellFormed) (hollow : o.Hollow) :
    Text.replaceFrom emptyHole [] 0 o.chars = o.texts.flatten := by
  induction o using induction with
  | nil => rfl
  | push c o ih =>
    obtain ⟨unmarked, formed⟩ := wellFormed_push.mp formed
    have absent : ¬ emptyHole <+: c :: o.chars := fun marker =>
      unmarked ((List.prefix_append opening closing).trans marker)
    rw [chars_push, Text.replaceFrom_of_absent absent, ih formed hollow]
    rfl
  | hole body o ih =>
    obtain ⟨_, formed⟩ := wellFormed_hole.mp formed
    obtain ⟨first, later⟩ := List.forall_mem_cons.mp hollow
    change body = [] at first
    have spelt : (o.hole body).chars = emptyHole ++ o.chars := by rw [chars_hole, first]; rfl
    rw [spelt, Text.replaceFrom_needle (by decide), ih formed later]
    rfl

end Outline

end Template

namespace CompiledTemplate

open Template Render

variable {source : String} {t : CompiledTemplate} {ctx : Context} {w : World}

theorem ofSource_eq_ok_iff :
    ofSource source = .ok t ↔ t.source = source ∧ compile source = .ok t.directives := by
  obtain ⟨own, ds⟩ := t
  unfold ofSource
  cases compile source with
  | error e => simp [Except.map]
  | ok ds' => simp [Except.map, eq_comm]

theorem isStatic_iff : t.isStatic = true ↔ ∀ d ∈ t.directives, d.isDynamic = false := by
  simp [isStatic]

theorem mapM_alone_texts (ctx : Context) (w : World) (parts : List String) :
    (parts.map Directive.text).mapM (alone ctx w) = .ok parts := by
  induction parts with
  | nil => rfl
  | cons part parts ih =>
    rw [List.map_cons, List.mapM_cons, ih]
    rfl

theorem run_texts (parts : List String) (awake : w.cancelled = false) :
    (run ctx (parts.map .text) w).result = .ok parts ∧ (run ctx (parts.map .text) w).world = w := by
  have immediate : Immediate ctx.registry (parts.map .text) := by
    intro d mem
    obtain ⟨_, _, rfl⟩ := List.mem_map.mp mem
    rfl
  have inert : Inert ctx w (parts.map .text) := by
    intro d mem
    obtain ⟨_, _, rfl⟩ := List.mem_map.mp mem
    rfl
  obtain ⟨result, world⟩ := run_of_inert immediate inert awake
  exact ⟨result.trans (mapM_alone_texts ctx w parts), world⟩

def RendersTo (t : CompiledTemplate) (text : String) : Prop :=
  ∀ (ctx : Context) (w : World), w.cancelled = false →
    ∃ parts, (run ctx t.directives w).result = .ok parts ∧ String.join parts = text ∧
      (run ctx t.directives w).world = w

theorem rendersTo_texts {o : Outline} (hollow : o.Hollow) (same : t.directives = o.directives) :
    t.RendersTo (String.ofList o.texts.flatten) := by
  intro ctx w awake
  rw [same, Outline.directives_of_hollow hollow]
  obtain ⟨result, world⟩ := run_texts _ awake
  refine ⟨_, result, ?_, world⟩
  rw [join_ofList, List.flatten_filter_not_isEmpty]

/-- A static template renders to its source without the empty holes, taken out from left to right; and what
has no opening marker compiles, is static and renders to just itself. -/
theorem static_renders_source :
    (∀ source t, ofSource source = .ok t → t.isStatic = true →
      t.RendersTo (Text.replace source "\x7b\x7b\x7d\x7d" "")) ∧
    ∀ source, Text.contains source "\x7b\x7b" = false →
      ∃ t, ofSource source = .ok t ∧ t.isStatic = true ∧ t.RendersTo source := by
  constructor
  · intro source t sourced static
    obtain ⟨_, compiled⟩ := ofSource_eq_ok_iff.mp sourced
    obtain ⟨o, formed, spelt, same⟩ := compile_eq_ok_iff.mp compiled
    have hollow : o.Hollow := Outline.hollow_of_static (same ▸ isStatic_iff.mp static)
    have replaced : Text.replace source "\x7b\x7b\x7d\x7d" "" = String.ofList o.texts.flatten := by
      rw [← formed.replaceFrom_emptyHole hollow, spelt]
      rfl
    rw [replaced]
    exact rendersTo_texts hollow same.symm
  · intro source absent
    let o : Outline := ⟨source.toList, []⟩
    have hollow : o.Hollow := fun h none => nomatch none
    have formed : o.WellFormed := by
      rw [Outline.wellFormed_text, ← Text.occursIn_iff, Bool.not_eq_true]
      exact absent
    have compiled : compile source = .ok o.directives :=
      compile_eq_ok_iff.mpr ⟨o, formed, List.append_nil _, rfl⟩
    refine ⟨⟨source, o.directives⟩, ofSource_eq_ok_iff.mpr ⟨rfl, compiled⟩, isStatic_iff.mpr ?_, ?_⟩
    · intro d mem
      rw [Outline.directives_of_hollow hollow] at mem
      obtain ⟨_, _, rfl⟩ := List.mem_map.mp mem
      rfl
    · have whole : String.ofList o.texts.flatten = source := by
        simp [o, Outline.texts]
      rw [← whole]
      exact rendersTo_texts hollow rfl

def loneBraces : CompiledTemplate :=
  ⟨"a\x7b\x7b\x7d\x7d\x7bé\x7b\x7b\x7d\x7d\x7d", [.text "a", .text "\x7bé", .text "\x7d"]⟩

theorem lone_braces_rendered :
    ofSource loneBraces.source = .ok loneBraces ∧ loneBraces.isStatic = true ∧
      loneBraces.RendersTo "a\x7bé\x7d" ∧ Text.contains "\x7b\x7d\x7d" "\x7b\x7b" = false ∧
      ∃ t, ofSource "\x7b\x7d\x7d" = .ok t ∧ t.isStatic = true ∧ t.RendersTo "\x7b\x7d\x7d" := by
  have sourced : ofSource loneBraces.source = .ok loneBraces := by decide
  have static : loneBraces.isStatic = true := rfl
  have closed : Text.contains "\x7b\x7d\x7d" "\x7b\x7b" = false := rfl
  have replaced : Text.replace loneBraces.source "\x7b\x7b\x7d\x7d" "" = "a\x7bé\x7d" := by decide
  have rendered := static_renders_source.1 _ loneBraces sourced static
  rw [replaced] at rendered
  exact ⟨sourced, static, rendered, closed, static_renders_source.2 _ closed⟩

end CompiledTemplate

end PromptKit
