import Mathlib.Data.List.Nodup
import PromptKit.Function.Builtin

/-!
Filling in the placeholders of a date pattern. One replacement after another comes to reading the pattern once
from left to right, in whatever order they are made: each placeholder is a run of a letter of its own, and what
stands for it has no letters.
-/
namespace PromptKit

namespace Text

variable {needle by' cs rest : List Char} {d : Char}

theorem replaceFrom_of_foreign (foreign : ∀ c ∈ cs, ∀ rest, ¬ needle <+: c :: rest) (rest : List Char) :
    replaceFrom needle by' 0 (cs ++ rest) = cs ++ replaceFrom needle by' 0 rest := by
  induction cs with
  | nil => rfl
  | cons c cs ih =>
    obtain ⟨first, later⟩ := List.forall_mem_cons.mp foreign
    rw [List.cons_append, replaceFrom_of_absent (first _), ih later, List.cons_append]

theorem replicate_prefix_of_replaceFrom (filled : needle ≠ []) (filled' : by' ≠ []) (absent : d ∉ by') {n : Nat}
    (run : List.replicate n d <+: replaceFrom needle by' 0 cs) : List.replicate n d <+: cs := by
  induction cs generalizing n with
  | nil => exact run
  | cons c rest ih =>
    cases n with
    | zero => exact List.nil_prefix
    | succ n =>
      by_cases here : needle <+: c :: rest
      · obtain ⟨after, spelt⟩ := here
        rw [← spelt, replaceFrom_needle filled] at run
        obtain ⟨b, more, rfl⟩ := List.exists_cons_of_ne_nil filled'
        obtain ⟨rfl, _⟩ := List.cons_prefix_cons.mp run
        simp at absent
      · rw [replaceFrom_of_absent here, List.replicate_succ, List.cons_prefix_cons] at run
        obtain ⟨rfl, run⟩ := run
        rw [List.replicate_succ, List.cons_prefix_cons]
        exact ⟨rfl, ih run⟩

end Text

namespace Pattern

inductive Piece where
  | kept (c : Char)
  | filled (placeholder by' : String)

namespace Piece

def source : Piece → List Char
  | kept c => [c]
  | filled placeholder _ => placeholder.toList

def result : Piece → List Char
  | kept c => [c]
  | filled _ by' => by'.toList

end Piece

def placeholderAt? (rs : List (String × String)) (cs : List Char) : Option (String × String) :=
  rs.find? fun r => r.1.toList.isPrefixOf cs

/-- Reads a pattern once, from left to right: at each position a placeholder that begins there, or else one
character. Each of the `skip` next characters belongs to the placeholder that was just read. -/
def pieces (rs : List (String × String)) (skip : Nat) : List Char → List Piece
  | [] => []
  | c :: rest =>
    if 0 < skip then pieces rs (skip - 1) rest
    else match placeholderAt? rs (c :: rest) with
      | some r => .filled r.1 r.2 :: pieces rs (r.1.length - 1) rest
      | none => .kept c :: pieces rs 0 rest

/-- Placeholders that are runs of different letters, and texts for them that have none of these letters. -/
structure Apart (rs : List (String × String)) : Prop where
  runs : ∀ r ∈ rs, ∃ letter n, r.1.toList = List.replicate (n + 1) letter
  foreign : ∀ r ∈ rs, ∀ r' ∈ rs, ∀ c ∈ r.1.toList, c ∉ r'.2.toList
  filled : ∀ r ∈ rs, r.2.toList ≠ []
  disjoint : ∀ r ∈ rs, ∀ r' ∈ rs, r ≠ r' → r.1.toList.Disjoint r'.1.toList

variable {rs order : List (String × String)} {r r' : String × String} {cs rest : List Char} {c : Char}

namespace Apart

theorem subset (apart : Apart rs) (inside : order ⊆ rs) : Apart order where
  runs r mem := apart.runs r (inside mem)
  foreign r mem r' mem' := apart.foreign r (inside mem) r' (inside mem')
  filled r mem := apart.filled r (inside mem)
  disjoint r mem r' mem' := apart.disjoint r (inside mem) r' (inside mem')

theorem tail (apart : Apart (r :: rs)) : Apart rs := apart.subset (List.subset_cons_self r rs)

theorem ne_nil (apart : Apart rs) (mem : r ∈ rs) : r.1.toList ≠ [] := by
  obtain ⟨letter, n, spelt⟩ := apart.runs r mem
  simp [spelt]

theorem mem_of_prefix (apart : Apart rs) (mem : r ∈ rs) (begins : r.1.toList <+: c :: rest) : c ∈ r.1.toList := by
  obtain ⟨d, more, spelt⟩ := List.exists_cons_of_ne_nil (apart.ne_nil mem)
  rw [spelt, List.cons_prefix_cons] at begins
  rw [spelt, begins.1]
  exact List.mem_cons_self

theorem unique (apart : Apart rs) (mem : r ∈ rs) (mem' : r' ∈ rs) (begins : r.1.toList <+: c :: rest)
    (begins' : r'.1.toList <+: c :: rest) : r = r' := by
  by_contra other
  exact apart.disjoint r mem r' mem' other (apart.mem_of_prefix mem begins) (apart.mem_of_prefix mem' begins')

theorem placeholderAt?_eq_some_iff (apart : Apart rs) :
    placeholderAt? rs (c :: rest) = some r ↔ r ∈ rs ∧ r.1.toList <+: c :: rest := by
  unfold placeholderAt?
  constructor
  · intro found
    exact ⟨List.mem_of_find?_eq_some found, by simpa using List.find?_some found⟩
  · rintro ⟨mem, begins⟩
    have some : (rs.find? fun r => r.1.toList.isPrefixOf (c :: rest)).isSome = true := by
      rw [List.find?_isSome]
      exact ⟨r, mem, by simpa using begins⟩
    obtain ⟨r', found⟩ := Option.isSome_iff_exists.mp some
    have begins' : r'.1.toList <+: c :: rest := by simpa using List.find?_some found
    rw [found, apart.unique (List.mem_of_find?_eq_some found) mem begins' begins]

end Apart

theorem placeholderAt?_eq_none_iff : placeholderAt? rs cs = none ↔ ∀ r ∈ rs, ¬ r.1.toList <+: cs := by
  simp [placeholderAt?]

theorem pieces_skip (cs rest : List Char) : pieces rs cs.length (cs ++ rest) = pieces rs 0 rest := by
  induction cs with
  | nil => rfl
  | cons c cs ih =>
    rw [List.cons_append, List.length_cons, pieces, if_pos (Nat.zero_lt_succ _), Nat.add_sub_cancel, ih]

theorem pieces_filled (apart : Apart rs) (mem : r ∈ rs) (rest : List Char) :
    pieces rs 0 (r.1.toList ++ rest) = .filled r.1 r.2 :: pieces rs 0 rest := by
  obtain ⟨c, cs, spelt⟩ := List.exists_cons_of_ne_nil (apart.ne_nil mem)
  have begins : r.1.toList <+: c :: (cs ++ rest) := by
    rw [spelt]
    exact List.prefix_append (c :: cs) rest
  have length : r.1.length - 1 = cs.length := by
    rw [← String.length_toList, spelt, List.length_cons, Nat.add_sub_cancel]
  rw [spelt, List.cons_append, pieces, if_neg (Nat.lt_irrefl 0),
    apart.placeholderAt?_eq_some_iff.mpr ⟨mem, begins⟩]
  simp only [length, pieces_skip]

theorem pieces_kept (absent : ∀ r ∈ rs, ¬ r.1.toList <+: c :: rest) :
    pieces rs 0 (c :: rest) = .kept c :: pieces rs 0 rest := by
  rw [pieces, if_neg (Nat.lt_irrefl 0), placeholderAt?_eq_none_iff.mpr absent]

theorem pieces_foreign (apart : Apart rs) (foreign : ∀ r ∈ rs, ∀ c ∈ r.1.toList, c ∉ cs) (rest : List Char) :
    pieces rs 0 (cs ++ rest) = cs.map Piece.kept ++ pieces rs 0 rest := by
  induction cs with
  | nil => rfl
  | cons c cs ih =>
    have absent : ∀ r ∈ rs, ¬ r.1.toList <+: c :: (cs ++ rest) := fun r mem begins =>
      foreign r mem c (apart.mem_of_prefix mem begins) List.mem_cons_self
    have later := ih fun r mem d inside there => foreign r mem d inside (List.mem_cons_of_mem c there)
    rw [List.cons_append, pieces_kept absent, later]
    rfl

theorem induction {P : List Char → Prop} (apart : Apart rs) (nil : P [])
    (filled : ∀ r ∈ rs, ∀ rest, P rest → P (r.1.toList ++ rest))
    (kept : ∀ c rest, (∀ r ∈ rs, ¬ r.1.toList <+: c :: rest) → P rest → P (c :: rest)) (cs : List Char) : P cs := by
  match cs with
  | [] => exact nil
  | c :: rest =>
    by_cases absent : ∀ r ∈ rs, ¬ r.1.toList <+: c :: rest
    · exact kept c rest absent (induction apart nil filled kept rest)
    · push Not at absent
      obtain ⟨r, mem, after, spelt⟩ := absent
      have shorter : after.length < (c :: rest).length := by
        have long := List.length_pos_of_ne_nil (apart.ne_nil mem)
        rw [← spelt, List.length_append]
        omega
      rw [← spelt]
      exact filled r mem after (induction apart nil filled kept after)
termination_by cs.length
decreasing_by
  · simp
  · exact shorter

theorem source_pieces (apart : Apart rs) (cs : List Char) : (pieces rs 0 cs).flatMap Piece.source = cs := by
  induction cs using induction apart with
  | nil => rfl
  | filled r mem rest ih =>
    rw [pieces_filled apart mem, List.flatMap_cons, ih]
    rfl
  | kept c rest absent ih =>
    rw [pieces_kept absent, List.flatMap_cons, ih]
    rfl

theorem pieces_perm (apart : Apart rs) (perm : order.Perm rs) (skip : Nat) (cs : List Char) :
    pieces order skip cs = pieces rs skip cs := by
  induction cs generalizing skip with
  | nil => rfl
  | cons c rest ih =>
    have same : placeholderAt? order (c :: rest) = placeholderAt? rs (c :: rest) := by
      apply Option.ext
      intro r
      rw [(apart.subset perm.subset).placeholderAt?_eq_some_iff, apart.placeholderAt?_eq_some_iff, perm.mem_iff]
    simp only [pieces, same, ih]

/-- One placeholder may be replaced before the others are looked for. -/
theorem result_pieces_replaceFrom (apart : Apart (r :: rs)) (cs : List Char) :
    (pieces rs 0 (Text.replaceFrom r.1.toList r.2.toList 0 cs)).flatMap Piece.result =
      (pieces (r :: rs) 0 cs).flatMap Piece.result := by
  have first : r ∈ r :: rs := List.mem_cons_self
  induction cs using induction apart with
  | nil => rfl
  | filled r' mem rest ih =>
    rw [pieces_filled apart mem, List.flatMap_cons, ← ih]
    by_cases same : r' = r
    · subst same
      -- The text that comes in has no letters, so it is read character by character.
      have foreign : ∀ other ∈ rs, ∀ c ∈ other.1.toList, c ∉ r'.2.toList := fun other inside =>
        apart.foreign other (List.mem_cons_of_mem _ inside) r' first
      rw [Text.replaceFrom_needle (apart.ne_nil first), pieces_foreign apart.tail foreign, List.flatMap_append,
        List.flatMap_map]
      simp [Piece.result]
    · have inside : r' ∈ rs := (List.mem_cons.mp mem).resolve_left same
      have foreign : ∀ c ∈ r'.1.toList, ∀ rest, ¬ r.1.toList <+: c :: rest := fun c there rest begins =>
        apart.disjoint r' mem r first same there (apart.mem_of_prefix first begins)
      rw [Text.replaceFrom_of_foreign foreign, pieces_filled apart.tail inside, List.flatMap_cons]
  | kept c rest absent ih =>
    -- A placeholder that began here only after the replacement would be a run of a letter that went into it.
    have still : ∀ r' ∈ rs, ¬ r'.1.toList <+: c :: Text.replaceFrom r.1.toList r.2.toList 0 rest := by
      intro r' inside begins
      have mem : r' ∈ r :: rs := List.mem_cons_of_mem _ inside
      obtain ⟨letter, n, spelt⟩ := apart.runs r' mem
      have foreign : letter ∉ r.2.toList := apart.foreign r' mem r first letter (by simp [spelt])
      apply absent r' mem
      rw [spelt, List.replicate_succ, List.cons_prefix_cons] at begins ⊢
      exact ⟨begins.1, Text.replicate_prefix_of_replaceFrom (apart.ne_nil first) (apart.filled r first) foreign
        begins.2⟩
    rw [Text.replaceFrom_of_absent (absent r first), pieces_kept still, pieces_kept absent, List.flatMap_cons,
      List.flatMap_cons, ih]

def fill (rs : List (String × String)) (pattern : String) : String :=
  String.ofList ((pieces rs 0 pattern.toList).flatMap Piece.result)

theorem fillIn_eq_fill (apart : Apart rs) (pattern : String) : fillIn rs pattern = fill rs pattern := by
  induction rs generalizing pattern with
  | nil =>
    have copied : (pieces [] 0 pattern.toList).flatMap Piece.result = pattern.toList := by
      have read : pieces [] 0 (pattern.toList ++ []) = pattern.toList.map Piece.kept ++ pieces [] 0 [] :=
        pieces_foreign apart (by simp) []
      rw [List.append_nil] at read
      rw [read, List.flatMap_append, List.flatMap_map]
      simp [Piece.result, pieces]
    rw [fill, copied, String.ofList_toList]
    rfl
  | cons r rs ih =>
    have filled : r.1.toList.isEmpty = false := by
      rw [List.isEmpty_eq_false_iff]
      exact apart.ne_nil List.mem_cons_self
    change fillIn rs (Text.replace pattern r.1 r.2) = _
    rw [ih apart.tail, fill, fill, Text.replace, String.toList_ofList, Text.replaceChars, filled,
      if_neg Bool.false_ne_true, result_pieces_replaceFrom apart]

section Dates

def names : List String := ["YYYY", "MM", "DD", "HH", "mm", "ss"]

def Digits (text : String) : Prop := text.toList ≠ [] ∧ ∀ c ∈ text.toList, c.isDigit = true

theorem names_are_runs :
    ∀ name ∈ names, name.toList = List.replicate (name.toList.length - 1 + 1) (name.toList.headD ' ') := by
  simp [names, List.replicate]

theorem names_have_no_digit : ∀ name ∈ names, ∀ c ∈ name.toList, c.isDigit = false := by
  simp [names]

theorem names_disjoint :
    ∀ name ∈ names, ∀ other ∈ names, name ≠ other → ∀ c ∈ name.toList, c ∉ other.toList := by
  simp [names]

theorem apart_of_digits (named : rs.map (·.1) = names) (digits : ∀ r ∈ rs, Digits r.2) : Apart rs where
  runs r mem := ⟨_, _, names_are_runs r.1 (named ▸ List.mem_map_of_mem mem)⟩
  foreign r mem r' mem' c there inside := by
    have letter := names_have_no_digit r.1 (named ▸ List.mem_map_of_mem mem) c there
    rw [(digits r' mem').2 c inside] at letter
    contradiction
  filled r mem := (digits r mem).1
  disjoint r mem r' mem' other := by
    have distinct : (rs.map (·.1)).Nodup := by
      rw [named]
      decide
    have different : r.1 ≠ r'.1 := fun same => other (List.inj_on_of_nodup_map distinct mem mem' same)
    exact names_disjoint r.1 (named ▸ List.mem_map_of_mem mem) r'.1 (named ▸ List.mem_map_of_mem mem') different

theorem digits_padded (width n : Nat) : Digits (Clock.padded width n) := by
  have shown : (toString n).toList = Nat.toDigits 10 n := Nat.toList_repr
  unfold Digits Clock.padded
  rw [String.toList_append, String.toList_ofList, shown]
  constructor
  · exact List.append_ne_nil_of_right_ne_nil _ Nat.toDigits_ne_nil
  · intro c mem
    rcases List.mem_append.mp mem with zero | digit
    · rw [List.eq_of_mem_replicate zero]
      rfl
    · exact Nat.isDigit_of_mem_toDigits (by decide) (by decide) digit

theorem digits_placeholders (clock : Clock) : ∀ r ∈ clock.placeholders, Digits r.2 := by
  simp [Clock.placeholders, Clock.yearText, digits_padded]

/-- Numbers put into a date pattern one after another do not meet, in whatever order they come: it is as if the
pattern were read once, and its other characters stay where they are. So it is with every moment. -/
theorem date_patterns_read_once :
    (∀ (rs order : List (String × String)) (pattern : String),
      rs.map (·.1) = ["YYYY", "MM", "DD", "HH", "mm", "ss"] → (∀ r ∈ rs, Digits r.2) → order.Perm rs →
      fillIn order pattern = String.ofList ((pieces rs 0 pattern.toList).flatMap Piece.result) ∧
      pattern = String.ofList ((pieces rs 0 pattern.toList).flatMap Piece.source)) ∧
    ∀ (clock : Clock) (pattern : String) (rest : List String) (memory : Memory),
      Builtin.dateFormat.run clock (pattern :: rest) memory =
        .ok (.string (String.ofList ((pieces clock.placeholders 0 pattern.toList).flatMap Piece.result))) := by
  constructor
  · intro rs order pattern named digits perm
    have apart := apart_of_digits named digits
    constructor
    · rw [fillIn_eq_fill (apart.subset perm.subset), fill, pieces_perm apart perm]
    · rw [source_pieces apart, String.ofList_toList]
  · intro clock pattern rest memory
    have apart : Apart clock.placeholders := apart_of_digits rfl (digits_placeholders clock)
    change Except.ok (Json.Value.string (fillIn clock.placeholders pattern)) = _
    rw [fillIn_eq_fill apart, fill]

theorem odd_runs_read_once :
    let rs := [("YYYY", "2026"), ("MM", "01"), ("DD", "02"), ("HH", "03"), ("mm", "04"), ("ss", "05")]
    rs.map (·.1) = ["YYYY", "MM", "DD", "HH", "mm", "ss"] ∧ (∀ r ∈ rs, Digits r.2) ∧ rs.reverse.Perm rs ∧
    fillIn rs.reverse "YYYYYMMM mmm/sDDs" = "2026Y01M 04m/s02s" := by
  intro rs
  have digits : ∀ r ∈ rs, Digits r.2 := by simp [rs, Digits]
  have perm : rs.reverse.Perm rs := List.reverse_perm rs
  obtain ⟨filled, _⟩ := date_patterns_read_once.1 rs rs.reverse "YYYYYMMM mmm/sDDs" rfl digits perm
  exact ⟨rfl, digits, perm, filled.trans (by decide)⟩

/-- Letters meet where no digit comes to stand between them. -/
example : fillIn [("YYYY", ""), ("MM", "01")] "MYYYYM" = "01" := by decide

end Dates

end Pattern

end PromptKit
