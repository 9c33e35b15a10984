/-!
Finite maps from strings, as entries in ascending order of their keys. Main statements: what a look-up
finds after an insertion or an erasure, that it finds just the keys that are there, and that their order
is strict.
-/
namespace PromptKit

variable {α : Type}

def insertEntry (key : String) (value : α) : List (String × α) → List (String × α)
  | [] => [(key, value)]
  | (k, v) :: rest =>
    if key < k then (key, value) :: (k, v) :: rest
    else if key = k then (key, value) :: rest
    else (k, v) :: insertEntry key value rest

def eraseEntry (key : String) (entries : List (String × α)) : List (String × α) :=
  entries.filter fun e => e.1 ≠ key

def Ascending (entries : List (String × α)) : Prop :=
  entries.Pairwise fun a b => a.1 < b.1

theorem lookup_cons_eq (key k : String) (v : α) (rest : List (String × α)) :
    ((k, v) :: rest).lookup key = if k = key then some v else rest.lookup key := by
  rw [List.lookup_cons]
  by_cases same : k = key
  · simp [same]
  · rw [if_neg same, beq_false_of_ne (Ne.symm same)]

theorem lookup_insertEntry (key other : String) (value : α) (entries : List (String × α)) :
    (insertEntry key value entries).lookup other =
      if key = other then some value else entries.lookup other := by
  induction entries with
  | nil => simp [insertEntry, lookup_cons_eq]
  | cons e rest ih =>
    obtain ⟨k, v⟩ := e
    simp only [insertEntry]
    split
    · rw [lookup_cons_eq]
    · split
      · rename_i same; subst same
        by_cases h : key = other <;> simp [lookup_cons_eq, h]
      · rename_i ne
        simp only [lookup_cons_eq, ih]
        by_cases h : k = other
        · subst h; simp [ne]
        · simp [h]

theorem lookup_eraseEntry (key other : String) (entries : List (String × α)) :
    (eraseEntry key entries).lookup other = if key = other then none else entries.lookup other := by
  induction entries with
  | nil => simp [eraseEntry]
  | cons e rest ih =>
    obtain ⟨k, v⟩ := e
    simp only [eraseEntry] at ih ⊢
    by_cases h : k = key
    · subst h
      simp only [List.filter_cons, ne_eq, not_true_eq_false, decide_false, Bool.false_eq_true,
        if_false, ih, lookup_cons_eq]
      by_cases h' : k = other <;> simp [h']
    · simp only [List.filter_cons, ne_eq, h, not_false_eq_true, decide_true, if_true, lookup_cons_eq, ih]
      by_cases h' : k = other
      · subst h'; simp [Ne.symm h]
      · simp [h']

theorem isSome_lookup_iff {key : String} {entries : List (String × α)} :
    (entries.lookup key).isSome = true ↔ key ∈ entries.map (·.1) := by
  rw [List.lookup_isSome_iff, List.mem_map]
  exact exists_congr fun e => and_congr_right fun _ => by rw [beq_iff_eq, eq_comm]

theorem mem_of_lookup {key : String} {value : α} {entries : List (String × α)}
    (found : entries.lookup key = some value) : (key, value) ∈ entries := by
  obtain ⟨before, after, rfl, _⟩ := List.lookup_eq_some_iff.mp found
  exact List.mem_append_right before List.mem_cons_self

theorem mem_insertEntry {key : String} {value : α} {entries : List (String × α)} {e : String × α}
    (mem : e ∈ insertEntry key value entries) : e = (key, value) ∨ e ∈ entries := by
  induction entries with
  | nil => simpa [insertEntry] using mem
  | cons f rest ih =>
    obtain ⟨k, v⟩ := f
    simp only [insertEntry] at mem
    split at mem
    · simpa using mem
    · split at mem
      · rcases List.mem_cons.1 mem with h | h
        · exact .inl h
        · exact .inr (List.mem_cons_of_mem _ h)
      · rcases List.mem_cons.1 mem with h | h
        · exact .inr (h ▸ List.mem_cons_self)
        · exact (ih h).imp id (List.mem_cons_of_mem _)

theorem Ascending.insertEntry {entries : List (String × α)} (sorted : Ascending entries)
    (key : String) (value : α) : Ascending (insertEntry key value entries) := by
  induction entries with
  | nil => simp [PromptKit.insertEntry, Ascending]
  | cons e rest ih =>
    obtain ⟨k, v⟩ := e
    have ⟨first, later⟩ := List.pairwise_cons.1 sorted
    simp only [PromptKit.insertEntry]
    split
    · rename_i less
      refine List.pairwise_cons.2 ⟨fun f mem => ?_, sorted⟩
      rcases List.mem_cons.1 mem with h | h
      · subst h; exact less
      · exact String.lt_trans less (first f h)
    · rename_i notLess
      split
      · rename_i same; subst same
        exact List.pairwise_cons.2 ⟨first, later⟩
      · rename_i ne
        refine List.pairwise_cons.2 ⟨fun f mem => ?_, ih later⟩
        rcases mem_insertEntry mem with h | h
        · subst h; exact Std.lt_of_le_of_ne (String.not_lt.mp notLess) (Ne.symm ne)
        · exact first f h

theorem Ascending.eraseEntry {entries : List (String × α)} (sorted : Ascending entries)
    (key : String) : Ascending (eraseEntry key entries) := sorted.filter _

structure Dict (α : Type) where
  entries : List (String × α)
  sorted : Ascending entries

namespace Dict

def empty : Dict α := ⟨[], List.Pairwise.nil⟩

instance : Inhabited (Dict α) := ⟨empty⟩

def get? (d : Dict α) (key : String) : Option α := d.entries.lookup key

def has (d : Dict α) (key : String) : Bool := (d.get? key).isSome

def insert (d : Dict α) (key : String) (value : α) : Dict α :=
  ⟨insertEntry key value d.entries, d.sorted.insertEntry key value⟩

def erase (d : Dict α) (key : String) : Dict α :=
  ⟨eraseEntry key d.entries, d.sorted.eraseEntry key⟩

def keys (d : Dict α) : List String := d.entries.map (·.1)

def size (d : Dict α) : Nat := d.entries.length

def isEmpty (d : Dict α) : Bool := d.entries.isEmpty

/-- Of several entries with one key the last counts. -/
def ofList (entries : List (String × α)) : Dict α :=
  entries.foldl (fun d e => d.insert e.1 e.2) empty

@[simp] theorem get?_empty (key : String) : (empty : Dict α).get? key = none := rfl

theorem get?_insert (d : Dict α) (key other : String) (value : α) :
    (d.insert key value).get? other = if key = other then some value else d.get? other :=
  lookup_insertEntry key other value d.entries

theorem get?_erase (d : Dict α) (key other : String) :
    (d.erase key).get? other = if key = other then none else d.get? other :=
  lookup_eraseEntry key other d.entries

theorem keys_ascending (d : Dict α) : d.keys.Pairwise (· < ·) :=
  List.pairwise_map.2 d.sorted

theorem length_keys (d : Dict α) : d.keys.length = d.size := by simp [keys, size]

end Dict

end PromptKit
