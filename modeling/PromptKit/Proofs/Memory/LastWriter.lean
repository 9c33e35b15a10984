import PromptKit.Memory.Edit
import PromptKit.Proofs.Json.Members

/-!
A memory is a map of last writers. After any run of edits a key holds what the last edit that reached it
left there, whether edits set one key or replace all; an edit that fails reaches no key.
-/
namespace PromptKit

open Json (Value)

section Runs

variable {σ ι α : Type} {writes : ι → Prop} {gives : ι → α → Prop} {item : ι} {rest : List ι} {value : α}

/-- Of the items that write, the last one gives this value. -/
def LastGives (writes : ι → Prop) (gives : ι → α → Prop) (items : List ι) (value : α) : Prop :=
  ∃ before item after, items = before ++ item :: after ∧ gives item value ∧ ∀ later ∈ after, ¬ writes later

theorem not_lastGives_nil : ¬ LastGives writes gives [] value := by
  rintro ⟨before, item, after, split, _⟩
  simp at split

theorem lastGives_cons : LastGives writes gives (item :: rest) value ↔
    LastGives writes gives rest value ∨ gives item value ∧ ∀ later ∈ rest, ¬ writes later := by
  constructor
  · rintro ⟨before, last, after, split, given, quiet⟩
    rcases List.cons_eq_append_iff.mp split with ⟨rfl, same⟩ | ⟨before, rfl, rfl⟩
    · obtain ⟨rfl, rfl⟩ := List.cons.inj same
      exact .inr ⟨given, quiet⟩
    · exact .inl ⟨before, last, after, rfl, given, quiet⟩
  · rintro (⟨before, last, after, rfl, given, quiet⟩ | ⟨given, quiet⟩)
    · exact ⟨item :: before, last, after, rfl, given, quiet⟩
    · exact ⟨[], item, rest, rfl, given, quiet⟩

/-- What is observed of a state is decided by an item that writes, and left alone by any other. -/
structure Decides (observe : σ → Option α) (step : σ → ι → σ) (writes : ι → Prop)
    (gives : ι → α → Prop) : Prop where
  decided : ∀ s item, writes item → ∀ value, observe (step s item) = some value ↔ gives item value
  kept : ∀ s item, ¬ writes item → observe (step s item) = observe s
  writes_of_gives : ∀ item value, gives item value → writes item

theorem Decides.foldl {observe : σ → Option α} {step : σ → ι → σ}
    (decides : Decides observe step writes gives) (items : List ι) (s : σ) (value : α) :
    observe (items.foldl step s) = some value ↔
      LastGives writes gives items value ∨ (∀ item ∈ items, ¬ writes item) ∧ observe s = some value := by
  -- what the first item does shows only where nothing after it writes
  induction items generalizing s with
  | nil => simp [not_lastGives_nil]
  | cons item rest ih =>
    rw [List.foldl_cons, ih, lastGives_cons, List.forall_mem_cons]
    by_cases written : writes item
    · rw [decides.decided s item written]
      simp only [written, not_true_eq_false, false_and, or_false]
      exact or_congr_right and_comm
    · have nothing : ¬ gives item value := fun given => written (decides.writes_of_gives item value given)
      simp only [decides.kept s item written, nothing, written, false_and, or_false, not_false_eq_true,
        true_and]

end Runs

section Entries

variable {α : Type} {key : String} {value : α} {entries : List (String × α)}

def LastUnder (key : String) (entries : List (String × α)) (value : α) : Prop :=
  LastGives (fun e => e.1 = key) (fun e value => e = (key, value)) entries value

theorem Dict.get?_ofList : (ofList entries).get? key = some value ↔ LastUnder key entries value := by
  have decides : Decides (fun d : Dict α => d.get? key) (fun d e => d.insert e.1 e.2) (fun e => e.1 = key)
      (fun e value => e = (key, value)) := by
    refine ⟨?_, ?_, ?_⟩
    · rintro d ⟨k, v⟩ (rfl : k = key) value
      simp [get?_insert]
    · intro d e other
      simp [get?_insert, other]
    · rintro e value rfl
      rfl
  simpa [ofList, LastUnder] using decides.foldl entries empty value

theorem lookup_of_least {rest : List (String × α)} (sorted : Ascending ((key, value) :: rest)) :
    rest.lookup key = none := by
  rw [← Option.not_isSome_iff_eq_none, isSome_lookup_iff]
  intro mem
  obtain ⟨e, later, same⟩ := List.mem_map.mp mem
  have less := (List.pairwise_cons.mp sorted).1 e later
  rw [same] at less
  exact String.lt_irrefl key less

theorem lastUnder_iff_lookup (sorted : Ascending entries) :
    LastUnder key entries value ↔ entries.lookup key = some value := by
  induction entries with
  | nil => simp [LastUnder, not_lastGives_nil]
  | cons e rest ih =>
    obtain ⟨k, v⟩ := e
    have later := (List.pairwise_cons.mp sorted).2
    rw [LastUnder, lastGives_cons, ← LastUnder, ih later, lookup_cons_eq]
    by_cases same : k = key
    -- the keys ascend, so the first entry under a key is the only one
    · subst same
      have single := lookup_of_least sorted
      have absent : k ∉ rest.map (·.1) := by
        rw [← isSome_lookup_iff, single]
        exact Bool.false_ne_true
      simp only [single, reduceCtorEq, false_or, Prod.mk.injEq, true_and, if_true, Option.some.injEq]
      refine and_iff_left fun e mem same => absent ?_
      exact same ▸ List.mem_map_of_mem mem
    · simp [same]

theorem Dict.get?_ofList_entries (d : Dict α) (key : String) : (ofList d.entries).get? key = d.get? key := by
  rw [Option.ext_iff]
  intro value
  rw [get?_ofList, lastUnder_iff_lookup d.sorted]
  rfl

end Entries

namespace Memory

variable {m : Memory} {e : Edit} {key text : String} {error : PromptError}

inductive Edit.Gives (key : String) : Edit → Value → Prop
  | set (value : Value) : Gives key (.set key value) value
  | fields {fields : List (String × Value)} {value : Value} (last : LastUnder key fields value) :
      Gives key (.replace (.object fields)) value
  | members {text : String} {members : List (String × Value)} {value : Value}
      (read : Json.Members text members) (last : LastUnder key members value) :
      Gives key (.replaceText text) value

inductive Edit.Reaches (key : String) : Edit → Prop
  | set (value : Value) : Reaches key (.set key value)
  | delete : Reaches key (.delete key)
  | fields (fields : List (String × Value)) : Reaches key (.replace (.object fields))
  | members {text : String} {members : List (String × Value)} (read : Json.Members text members) :
      Reaches key (.replaceText text)

theorem Edit.reaches_set_iff {k : String} {value : Value} : (Edit.set k value).Reaches key ↔ k = key := by
  constructor
  · rintro ⟨⟩
    rfl
  · rintro rfl
    exact .set value

theorem Edit.reaches_delete_iff {k : String} : (Edit.delete k).Reaches key ↔ k = key := by
  constructor
  · rintro ⟨⟩
    rfl
  · rintro rfl
    exact .delete

inductive Edit.Fails : Edit → PromptError → Prop
  | kind {value : Value} (other : ∀ fields, value ≠ .object fields) :
      Fails (.replace value) (.config ("Memory must be a JSON object, got " ++ value.kind) none)
  | malformed {text : String} {fault : Json.Fault} (read : Json.parse text = .error fault) :
      Fails (.replaceText text) (.json fault.text)
  | textKind {text : String} {value : Value} (read : Json.parse text = .ok value)
      (other : ∀ fields, value ≠ .object fields) :
      Fails (.replaceText text) (.config ("Memory must be a JSON object, got " ++ value.kind) none)

theorem ofJson_of_kind {value : Value} (other : ∀ fields, value ≠ .object fields) :
    ofJson value = .error (.config ("Memory must be a JSON object, got " ++ value.kind) none) := by
  cases value with
  | object fields => exact absurd rfl (other fields)
  | _ => rfl

theorem edited_of_fails (fails : e.Fails error) (m : Memory) : m.edited e = .error error := by
  cases fails with
  | kind other => exact ofJson_of_kind other
  | malformed read => simp only [edited, ofText, read]
  | textKind read other => simp only [edited, ofText, read, ofJson_of_kind other]

theorem edited_fields (fields : List (String × Value)) :
    m.edited (.replace (.object fields)) = .ok ⟨.ofList fields⟩ := rfl

theorem ofText_of_members {members : List (String × Value)} (read : Json.Members text members) :
    ofText text = .ok ⟨.ofList (Dict.ofList members).entries⟩ := by
  simp only [ofText, Json.parse_eq_object_iff.mpr ⟨members, read, rfl⟩, ofJson]

theorem edited_members {members : List (String × Value)} (read : Json.Members text members) :
    m.edited (.replaceText text) = .ok ⟨.ofList (Dict.ofList members).entries⟩ := ofText_of_members read

theorem object_or_other (value : Value) :
    (∃ fields, value = .object fields) ∨ ∀ fields, value ≠ .object fields := by
  cases value <;> simp

theorem members_or_fails (text : String) :
    (∃ members, Json.Members text members) ∨ ∃ error, (Edit.replaceText text).Fails error := by
  cases parsed : Json.parse text with
  | error fault => exact .inr ⟨_, .malformed parsed⟩
  | ok value =>
    rcases object_or_other value with ⟨fields, rfl⟩ | other
    · obtain ⟨members, read, _⟩ := Json.parse_eq_object_iff.mp parsed
      exact .inl ⟨members, read⟩
    · exact .inr ⟨_, .textKind parsed other⟩

theorem fails_or_edited (m : Memory) (e : Edit) : (∃ error, e.Fails error) ∨ ∃ next, m.edited e = .ok next := by
  cases e with
  | set key value => exact .inr ⟨_, rfl⟩
  | delete key => exact .inr ⟨_, rfl⟩
  | replace value =>
    rcases object_or_other value with ⟨fields, rfl⟩ | other
    · exact .inr ⟨_, edited_fields fields⟩
    · exact .inl ⟨_, .kind other⟩
  | replaceText text =>
    rcases members_or_fails text with ⟨members, read⟩ | fails
    · exact .inr ⟨_, edited_members read⟩
    · exact .inl fails

theorem edit_of_ok {next : Memory} (done : m.edited e = .ok next) : m.edit e = (next, none) := by
  rw [edit, done]

theorem edit_of_fails (fails : e.Fails error) (m : Memory) : m.edit e = (m, some error) := by
  rw [edit, edited_of_fails fails]

theorem edit_error_iff : (m.edit e).2 = some error ↔ e.Fails error := by
  constructor
  · intro failed
    rcases m.fails_or_edited e with ⟨own, fails⟩ | ⟨next, done⟩
    · rw [edit_of_fails fails] at failed
      obtain rfl := Option.some.inj failed
      exact fails
    · rw [edit_of_ok done] at failed
      cases failed
  · intro fails
    rw [edit_of_fails fails]

theorem get?_edit_iff (reaches : e.Reaches key) {value : Value} :
    (m.edit e).1.get? key = some value ↔ e.Gives key value := by
  cases reaches with
  | set own =>
    rw [edit_of_ok rfl, get?_set, if_pos rfl, Option.some.injEq]
    constructor
    · rintro rfl
      exact .set own
    · rintro ⟨⟩
      rfl
  | delete =>
    rw [edit_of_ok rfl, get?_delete, if_pos rfl]
    constructor <;> rintro ⟨⟩
  | fields fields =>
    rw [edit_of_ok (edited_fields fields), get?, Dict.get?_ofList]
    constructor
    · exact .fields
    · rintro ⟨⟩
      assumption
  | members read =>
    rw [edit_of_ok (edited_members read), get?, Dict.get?_ofList_entries, Dict.get?_ofList]
    constructor
    · exact .members read
    · rintro (_ | _ | ⟨again, last⟩)
      rwa [read.unique again]

theorem get?_edit_of_spared (spared : ¬ e.Reaches key) : (m.edit e).1.get? key = m.get? key := by
  cases e with
  | set k value =>
    rw [Edit.reaches_set_iff] at spared
    rw [edit_of_ok rfl, get?_set, if_neg spared]
  | delete k =>
    rw [Edit.reaches_delete_iff] at spared
    rw [edit_of_ok rfl, get?_delete, if_neg spared]
  | replace value =>
    rcases object_or_other value with ⟨fields, rfl⟩ | other
    · exact absurd (.fields fields) spared
    · rw [edit_of_fails (.kind other)]
  | replaceText text =>
    rcases members_or_fails text with ⟨members, read⟩ | ⟨error, fails⟩
    · exact absurd (.members read) spared
    · rw [edit_of_fails fails]

theorem Edit.Gives.reaches {value : Value} (given : e.Gives key value) : e.Reaches key := by
  cases given with
  | set => exact .set value
  | fields => exact .fields _
  | members read => exact .members read

theorem edit_decides (key : String) :
    Decides (fun m : Memory => m.get? key) (fun m e => (m.edit e).1) (Edit.Reaches key) (Edit.Gives key) where
  decided _ _ reaches _ := get?_edit_iff reaches
  kept _ _ spared := get?_edit_of_spared spared
  writes_of_gives _ _ given := given.reaches

structure Coherent (m : Memory) : Prop where
  found : ∀ key, m.has key = true ↔ ∃ value, m.get? key = some value
  ascending : m.keys.Pairwise (· < ·)
  listed : ∀ key, key ∈ m.keys ↔ m.has key = true
  counted : m.size = m.keys.length
  empty : m.isEmpty = true ↔ m.keys = []

theorem coherent (m : Memory) : m.Coherent where
  found _ := Option.isSome_iff_exists
  ascending := m.values.keys_ascending
  listed _ := isSome_lookup_iff.symm
  counted := m.values.length_keys.symm
  empty := by simp [isEmpty, keys, Dict.isEmpty, Dict.keys]

/-- After any run of edits a key holds what the last edit that reached it left there, a stored null
included; all observers agree on the keys; and an edit that fails, which is told why, changes nothing. -/
theorem edits_keep_last_written (edits : List Edit) :
    let m := Memory.empty.editAll edits
    (∀ key value, m.get? key = some value ↔ LastGives (Edit.Reaches key) (Edit.Gives key) edits value) ∧
    m.Coherent ∧
    ∀ e error, ((m.edit e).2 = some error ↔ e.Fails error) ∧ (e.Fails error → (m.edit e).1 = m) := by
  intro m
  refine ⟨fun key value => ?_, m.coherent, fun e error => ⟨edit_error_iff, fun fails => ?_⟩⟩
  · have written := (edit_decides key).foldl edits .empty value
    simp only [get?_empty, reduceCtorEq, and_false, or_false] at written
    exact written
  · rw [edit_of_fails fails]

def rewritten : List Edit :=
  [.set "mood" (.string "calm"), .set "name" (.string "Ada"),
    .replaceText "\x7b\x22city\x22: \x22Oslo\x22, \x22city\x22: \x22Rome\x22\x7d", .set "mood" .null,
    .replace (.array [])]

theorem rewritten_keeps_last :
    let m := Memory.empty.editAll rewritten
    m.get? "city" = some (.string "Rome") ∧ m.has "mood" = true ∧ (m.edit (.replace (.array []))).1 = m := by
  intro m
  obtain ⟨written, coherent, failing⟩ := edits_keep_last_written rewritten
  have members : Json.Members "\x7b\x22city\x22: \x22Oslo\x22, \x22city\x22: \x22Rome\x22\x7d"
    [("city", .string "Oslo"), ("city", .string "Rome")] := ⟨_, _, rfl, rfl, rfl⟩
  have twice : LastUnder "city" [("city", Value.string "Oslo"), ("city", .string "Rome")] (.string "Rome") :=
    ⟨[_], _, [], rfl, rfl, by simp⟩
  have spared : ∀ later ∈ [Edit.set "mood" .null, .replace (.array [])], ¬ later.Reaches "city" := by
    simp only [List.forall_mem_cons, Edit.reaches_set_iff, List.not_mem_nil, false_implies, implies_true,
      and_true]
    exact ⟨by decide, by rintro ⟨⟩⟩
  have list : (Edit.replace (.array [])).Fails _ := .kind (by simp)
  refine ⟨(written _ _).mpr ⟨[_, _], _, _, rfl, .members members twice, spared⟩, ?_, (failing _ _).2 list⟩
  refine (coherent.found "mood").mpr ⟨.null, (written _ _).mpr ⟨[_, _, _], _, _, rfl, .set .null, ?_⟩⟩
  simp only [List.forall_mem_cons, List.not_mem_nil, false_implies, implies_true, and_true]
  rintro ⟨⟩

end Memory

end PromptKit
