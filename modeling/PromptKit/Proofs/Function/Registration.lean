import PromptKit.Function.Registration
import PromptKit.Function.Sample

/-!
Runs of registrations. A registration adds functions only under names that are free, so what a name
stands for once it stands for in every later state; and all ways to ask for a name agree.
-/
namespace PromptKit

namespace Registry

variable {r r' r'' : Registry} {name : String} {f : PromptFunction} {steps : List Step}
variable {added more : List (String × PromptFunction)}

theorem has_eq_false_iff : r.has name = false ↔ r.get? name = none := by
  unfold has Dict.has get?
  rw [Option.isSome_eq_false_iff, Option.isNone_iff_eq_none]

theorem has_iff_mem_names : r.has name = true ↔ name ∈ r.names := isSome_lookup_iff

theorem has_of_found (found : r.get? name = some f) : r.has name = true := by
  rw [← Bool.not_eq_false, has_eq_false_iff, found]
  exact Option.some_ne_none f

theorem function_of_found (found : r.get? name = some f) : r.function name = f := by
  rw [function, found, Option.getD_some]

theorem function_of_absent (absent : r.get? name = none) : r.function name = .unknown name := by
  rw [function, absent, Option.getD_none]

theorem invoke_of_found (found : r.get? name = some f) (scope : Scope) (args : List String)
    (store : Store) : r.invoke scope name args store = f.call scope args store := by
  rw [invoke, function_of_found found]

theorem invoke_of_absent (absent : r.get? name = none) (scope : Scope) (args : List String)
    (store : Store) :
    r.invoke scope name args store = ⟨.error (.unknownFunction name), store, false⟩ := by
  rw [invoke, function_of_absent absent]
  rfl

section Observers

def uniform (r : Registry) (f : PromptFunction) : Registry where
  functions :=
    { entries := r.functions.entries.map fun e => (e.1, f)
      sorted := by
        have sorted := r.functions.sorted
        unfold Ascending at sorted ⊢
        rwa [List.pairwise_map] }

theorem names_uniform (r : Registry) (f : PromptFunction) : (r.uniform f).names = r.names := by
  simp [names, Dict.keys, uniform]

theorem get?_uniform (present : r.has name = true) (f : PromptFunction) :
    (r.uniform f).get? name = some f := by
  rw [has_iff_mem_names, ← r.names_uniform f, ← has_iff_mem_names] at present
  obtain ⟨g, found⟩ : ∃ g, (r.uniform f).get? name = some g := Option.isSome_iff_exists.mp present
  have mem : (name, g) ∈ (r.uniform f).functions.entries := mem_of_lookup found
  obtain ⟨e, _, same⟩ := List.mem_map.mp mem
  rw [found, (Prod.mk.inj same).2]

/-- Invoking the name fails, whatever the functions under the names of the registry do. -/
def Unknown (r : Registry) (name : String) : Prop :=
  ∀ other : Registry, other.names = r.names → ∀ scope args store,
    other.invoke scope name args store = ⟨.error (.unknownFunction name), store, false⟩

theorem has_iff_not_unknown : r.has name = true ↔ ¬ r.Unknown name := by
  constructor
  · intro present unknown
    let silent : PromptFunction := .pure fun _ _ _ => .ok .null
    have found : (r.uniform silent).get? name = some silent := get?_uniform present silent
    have failed := unknown _ (r.names_uniform silent) ⟨fun _ => false, ⟨0, 0, 0, 0, 0, 0⟩⟩ [] default
    rw [invoke_of_found found] at failed
    cases failed
  · intro known
    rw [← Bool.not_eq_false]
    intro absent
    apply known
    intro other same scope args store
    have unlisted : name ∉ other.names := by
      rw [same, ← has_iff_mem_names, absent]
      exact Bool.false_ne_true
    rw [← has_iff_mem_names, Bool.not_eq_true, has_eq_false_iff] at unlisted
    exact invoke_of_absent unlisted scope args store

/-- All that a registry can be asked about its names agrees. -/
structure Coherent (r : Registry) : Prop where
  ascending : r.names.Pairwise (· < ·)
  counted : r.names.length = r.size
  found : ∀ name, r.has name = true ↔ (r.get? name).isSome = true
  listed : ∀ name, r.has name = true ↔ name ∈ r.names
  known : ∀ name, r.has name = true ↔ ¬ r.Unknown name
  answered : ∀ name f, r.get? name = some f → ∀ scope args store,
    r.invoke scope name args store = f.call scope args store

theorem coherent (r : Registry) : r.Coherent where
  ascending := r.functions.keys_ascending
  counted := r.functions.length_keys
  found _ := Iff.rfl
  listed _ := has_iff_mem_names
  known _ := has_iff_not_unknown
  answered _ _ := invoke_of_found

end Observers

section Steps

/-- The second registry has some functions more than the first, under names that were free there. -/
structure Gains (r r' : Registry) (added : List (String × PromptFunction)) : Prop where
  free : ∀ e ∈ added, r.has e.1 = false
  found : ∀ name, r'.get? name = (added.lookup name).or (r.get? name)

namespace Gains

theorem refl (r : Registry) : r.Gains r [] := ⟨by simp, fun _ => rfl⟩

theorem lookup_eq_none (gains : r.Gains r' added) (present : r.has name = true) :
    added.lookup name = none := by
  rw [← Option.not_isSome_iff_eq_none, isSome_lookup_iff]
  intro mem
  obtain ⟨e, inside, rfl⟩ := List.mem_map.mp mem
  rw [gains.free e inside] at present
  contradiction

theorem keeps (gains : r.Gains r' added) (found : r.get? name = some f) : r'.get? name = some f := by
  rw [gains.found, gains.lookup_eq_none (has_of_found found), found]
  rfl

theorem has_iff (gains : r.Gains r' added) :
    r'.has name = true ↔ name ∈ added.map (·.1) ∨ r.has name = true := by
  unfold has Dict.has
  rw [show r'.functions.get? name = _ from gains.found name, Option.isSome_or, Bool.or_eq_true,
    isSome_lookup_iff]
  rfl

theorem trans (first : r.Gains r' added) (second : r'.Gains r'' more) : r.Gains r'' (added ++ more) where
  free e mem := by
    rcases List.mem_append.mp mem with early | late
    · exact first.free e early
    · have absent := second.free e late
      rw [← Bool.not_eq_true, first.has_iff, not_or] at absent
      exact Bool.not_eq_true _ ▸ absent.2
  found name := by
    rw [second.found, first.found, List.lookup_append]
    cases early : added.lookup name with
    | none => rfl
    | some f =>
      -- what was added first is no longer free, so nothing is added in its place
      have present : r'.has name = true := first.has_iff.mpr <| .inl <| by
        rw [← isSome_lookup_iff, early]
        rfl
      rw [second.lookup_eq_none present]
      rfl

end Gains

theorem add_of_taken (taken : r.has name = true) (f : PromptFunction) :
    r.add name f = .error (.duplicateFunction name) := if_pos taken

theorem add_of_free (free : r.has name = false) (f : PromptFunction) :
    ∃ r', r.add name f = .ok r' ∧ r.Gains r' [(name, f)] := by
  refine ⟨⟨r.functions.insert name f⟩, if_neg (by rw [free]; exact Bool.false_ne_true), ?_, ?_⟩
  · intro e mem
    rw [List.mem_singleton.mp mem]
    exact free
  · intro other
    have inserted := r.functions.get?_insert name other f
    simp only [get?, lookup_cons_eq, inserted]
    split <;> rfl

def Adds (r : Registry) (name : String) (f : PromptFunction) (out : Registry × Report) : Prop :=
  if r.has name then out = (r, .failed (.duplicateFunction name))
  else r.Gains out.1 [(name, f)] ∧ out.2 = .added

theorem step_add (r : Registry) (name : String) (f : PromptFunction) :
    r.Adds name f (r.step (.add name f)) := by
  unfold Adds
  cases taken : r.has name with
  | true =>
    rw [if_pos rfl]
    simp only [step, add_of_taken taken]
    rfl
  | false =>
    obtain ⟨r', added, gains⟩ := add_of_free taken f
    rw [if_neg Bool.false_ne_true]
    simp only [step, added]
    exact ⟨gains, rfl⟩

theorem step_share {source : String} (found : r.get? source = some f) (name : String) :
    r.step (.share name source) = r.step (.add name f) := by
  simp only [step, found]

theorem step_share_absent {source : String} (absent : r.get? source = none) (name : String) :
    r.step (.share name source) = (r, .absent) := by
  simp only [step, absent]

def entry (b : Builtin) : String × PromptFunction := (b.name, b.function)

theorem addBuiltins_eq (r : Registry) {bs : List Builtin} (distinct : (bs.map Builtin.name).Nodup) :
    ∃ before after r', bs = before ++ after ∧ r.Gains r' (before.map entry) ∧
      (∀ b, after.head? = some b → r.has b.name = true) ∧
      r.addBuiltins bs = (r', match after.head? with
        | none => .ok ()
        | some b => .error (.duplicateFunction b.name)) := by
  induction bs generalizing r with
  | nil => exact ⟨[], [], r, rfl, .refl r, by simp, rfl⟩
  | cons b bs ih =>
    rw [List.map_cons, List.nodup_cons] at distinct
    cases taken : r.has b.name with
    | true =>
      refine ⟨[], b :: bs, r, rfl, .refl r, ?_, ?_⟩
      · rintro _ ⟨⟩
        exact taken
      · simp only [addBuiltins, add_of_taken taken, List.head?_cons]
    | false =>
      obtain ⟨next, added, gains⟩ := add_of_free taken b.function
      obtain ⟨before, after, r', rfl, more, stops, same⟩ := ih next distinct.2
      refine ⟨b :: before, after, r', rfl, gains.trans more, ?_, ?_⟩
      · intro stop first
        have present := stops stop first
        rw [gains.has_iff] at present
        rcases present with own | present
        -- the builtin that was added just now is not among the later ones
        · have later : stop ∈ before ++ after := List.mem_append_right _ (List.mem_of_head? first)
          have name : stop.name = b.name := by simpa using own
          have again := List.mem_map_of_mem (f := Builtin.name) later
          rw [name] at again
          exact absurd again distinct.1
        · exact present
      · simp only [addBuiltins, added, same]

theorem nodup_builtin_names : Builtin.names.Nodup := by decide

theorem builtin_of_found (found : withBuiltins.get? name = some f) :
    ∃ b : Builtin, b.name = name ∧ b.function = f := by
  obtain ⟨before, _, r', _, gains, _, same⟩ := empty.addBuiltins_eq nodup_builtin_names
  rw [withBuiltins, same, gains.found, show empty.get? name = none from rfl, Option.or_none] at found
  obtain ⟨b, _, registered⟩ := List.mem_map.mp (mem_of_lookup found)
  obtain ⟨name, function⟩ := Prod.mk.inj registered
  exact ⟨b, name, function⟩

/-- What comes of registering all builtins: those in front of the first whose name is taken are added,
and it is that name that fails. -/
def AddsBuiltins (r : Registry) (out : Registry × Report) : Prop :=
  ∃ before after, Builtin.all = before ++ after ∧ r.Gains out.1 (before.map entry) ∧
    match after with
    | [] => out.2 = .added
    | b :: _ => r.has b.name = true ∧ out.2 = .failed (.duplicateFunction b.name)

theorem step_addBuiltins (r : Registry) : r.AddsBuiltins (r.step .addBuiltins) := by
  obtain ⟨before, after, r', all, gains, stops, same⟩ := r.addBuiltins_eq nodup_builtin_names
  refine ⟨before, after, all, ?_⟩
  simp only [step, same]
  cases after with
  | nil => exact ⟨gains, rfl⟩
  | cons b rest => exact ⟨gains, stops b rfl, rfl⟩

example : ((empty.stepAll [.add "date.format" (Sample.echo.function 0)]).step .addBuiltins).1.names =
    ["date.format", "date.now", "date.year"] := by decide

theorem AddsBuiltins.failed_iff {out : Registry × Report} (adds : r.AddsBuiltins out) :
    (∃ e, out.2 = .failed e) ↔ ∃ b ∈ Builtin.all, r.has b.name = true := by
  obtain ⟨before, after, all, gains, report⟩ := adds
  cases after with
  | nil =>
    constructor
    · rintro ⟨e, failed⟩
      rw [report] at failed
      cases failed
    · rintro ⟨b, mem, taken⟩
      rw [all, List.append_nil] at mem
      have free := gains.free _ (List.mem_map_of_mem mem)
      rw [entry, taken] at free
      contradiction
  | cons b rest =>
    obtain ⟨taken, failed⟩ := report
    refine ⟨fun _ => ⟨b, ?_, taken⟩, fun _ => ⟨_, failed⟩⟩
    rw [all]
    exact List.mem_append_right _ List.mem_cons_self

end Steps

section Runs

theorem Adds.gains {out : Registry × Report} (adds : r.Adds name f out) : ∃ added, r.Gains out.1 added := by
  unfold Adds at adds
  split at adds
  · rw [adds]
    exact ⟨[], .refl r⟩
  · exact ⟨_, adds.1⟩

theorem step_gains (r : Registry) (s : Step) : ∃ added, r.Gains (r.step s).1 added := by
  cases s with
  | add name f => exact (r.step_add name f).gains
  | share name source =>
    cases found : r.get? source with
    | none =>
      rw [step_share_absent found]
      exact ⟨[], .refl r⟩
    | some f =>
      rw [step_share found]
      exact (r.step_add name f).gains
  | addBuiltins =>
    obtain ⟨before, _, _, gains, _⟩ := r.step_addBuiltins
    exact ⟨_, gains⟩

theorem stepAll_gains (r : Registry) (steps : List Step) : ∃ added, r.Gains (r.stepAll steps) added := by
  induction steps generalizing r with
  | nil => exact ⟨[], .refl r⟩
  | cons s steps ih =>
    obtain ⟨added, gains⟩ := r.step_gains s
    obtain ⟨more, later⟩ := ih (r.step s).1
    exact ⟨added ++ more, gains.trans later⟩

/-- In every state that registrations lead to, all ways to ask for a name agree, a name keeps its
function whatever is registered later, and a registration fails for just the names that are taken. -/
theorem registrations_coherent (start : Registry) (steps : List Step) :
    let r := start.stepAll steps
    r.Coherent ∧
    (∀ name f, r.get? name = some f → ∀ later, (r.stepAll later).get? name = some f) ∧
    (∀ name f, r.Adds name f (r.step (.add name f))) ∧
    (∀ name source f, r.get? source = some f → r.Adds name f (r.step (.share name source))) ∧
    r.AddsBuiltins (r.step .addBuiltins) ∧
    ((∃ e, (r.step .addBuiltins).2 = .failed e) ↔ ∃ b ∈ Builtin.all, r.has b.name = true) := by
  intro r
  refine ⟨r.coherent, ?_, r.step_add, ?_, r.step_addBuiltins, r.step_addBuiltins.failed_iff⟩
  · intro name f found later
    obtain ⟨added, gains⟩ := r.stepAll_gains later
    exact gains.keeps found
  · intro name source f found
    rw [step_share found]
    exact r.step_add name f

def ownTrim : List Step := [.add "str.trim" (Sample.echo.function 2), .share "trim" "str.trim"]

theorem own_trim_stays :
    let r := Registry.empty.stepAll ownTrim
    r.get? "trim" = some (Sample.echo.function 2) ∧
    (r.stepAll [.addBuiltins]).get? "trim" = some (Sample.echo.function 2) ∧
    r.step (.add "trim" (Sample.cancel.function 0)) = (r, .failed (.duplicateFunction "trim")) ∧
    ∃ e, (r.step .addBuiltins).2 = .failed e := by
  intro r
  have found : r.get? "trim" = some (Sample.echo.function 2) := rfl
  have taken : r.has "trim" = true := rfl
  obtain ⟨_, keeps, adds, _, _, fails⟩ := registrations_coherent .empty ownTrim
  have again := adds "trim" (Sample.cancel.function 0)
  rw [Adds, if_pos taken] at again
  exact ⟨found, keeps _ _ found _, again, fails.mpr ⟨.trim, by decide, rfl⟩⟩

end Runs

end Registry

end PromptKit
