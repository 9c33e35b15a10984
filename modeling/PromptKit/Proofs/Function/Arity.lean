import Mathlib.Data.List.Nodup
import PromptKit.Proofs.Function.Registration

/-!
How many arguments a builtin needs, and how many it looks at. A call fails for a missing argument or for a
stored value that is no list, and names the builtin in both cases; what stands behind the last argument
looked at makes no difference.
-/
namespace PromptKit.Builtin

open Json (Value)

def required : Builtin → Nat
  | dateNow | dateYear | coalesce => 0
  | contains | startsWith | endsWith => 2
  | replace => 3
  | _ => 1

/-- How many arguments make a difference. The fallback of `default` and the separator of `arr.join` may be
left out, and `coalesce` looks at whatever there is. -/
def used (b : Builtin) : Nat :=
  match b with
  | default | join => b.required + 1
  | _ => b.required

def readsList (b : Builtin) : Prop := b = join ∨ b = listLength

def tooFew (b : Builtin) (given : Nat) : PromptError :=
  .functionFailed b.name
    ("expected at least " ++ toString (given + 1) ++ " argument(s), got " ++ toString given)

def noList (b : Builtin) (key : String) : PromptError :=
  .functionFailed b.name ("memory key '" ++ key ++ "' does not hold an array")

def Misplaced (memory : Memory) (key : String) : Prop :=
  ∃ v, memory.get? key = some v ∧ v ≠ .null ∧ ∀ items, v ≠ .array items

variable {b : Builtin} {name key : String} {args : List String} {clock : Clock} {memory : Memory}

section Names

theorem mem_all (b : Builtin) : b ∈ all := by
  cases b <;> decide

theorem name_injective {b other : Builtin} (same : b.name = other.name) : b = other :=
  List.inj_on_of_nodup_map Registry.nodup_builtin_names b.mem_all other.mem_all same

theorem mem_names_iff : name ∈ names ↔ ∃ b : Builtin, b.name = name := by
  constructor
  · intro listed
    obtain ⟨b, _, same⟩ := List.mem_map.mp listed
    exact ⟨b, same⟩
  · rintro ⟨b, rfl⟩
    exact List.mem_map_of_mem b.mem_all

theorem ofName?_name (b : Builtin) : ofName? b.name = some b := by
  have found : (ofName? b.name).isSome = true := by
    rw [ofName?, List.find?_isSome]
    exact ⟨b, b.mem_all, by simp⟩
  obtain ⟨other, found⟩ := Option.isSome_iff_exists.mp found
  have same : other.name = b.name := by simpa using List.find?_some found
  rw [found, name_injective same]

theorem execute_name (b : Builtin) (clock : Clock) (args : List String) (memory : Memory) :
    execute b.name clock args memory = b.run clock args memory := by
  rw [execute, ofName?_name]

theorem execute_of_unlisted (unlisted : name ∉ names) (clock : Clock) (args : List String)
    (memory : Memory) : execute name clock args memory = .error (.unknownFunction name) := by
  have absent : ofName? name = none := by
    apply List.find?_eq_none.mpr
    intro b mem same
    apply unlisted
    rw [← of_decide_eq_true same]
    exact List.mem_map_of_mem mem
  rw [execute, absent]

end Names

section Arguments

theorem exists_cons_of_enough {n : Nat} (enough : n + 1 ≤ args.length) :
    ∃ first rest, args = first :: rest ∧ n ≤ rest.length := by
  obtain ⟨first, rest, rfl⟩ := List.exists_cons_of_length_pos (Nat.lt_of_lt_of_le n.succ_pos enough)
  exact ⟨first, rest, rfl, Nat.le_of_succ_le_succ enough⟩

theorem run_of_few (few : args.length < b.required) (clock : Clock) (memory : Memory) :
    b.run clock args memory = .error (b.tooFew args.length) := by
  -- The arguments are looked for one by one, so the check that fails is for the first that is not there.
  cases b with
  | dateNow | dateYear | coalesce => cases few
  | contains | startsWith | endsWith =>
    rcases args with _ | ⟨first, _ | ⟨second, rest⟩⟩
    · rfl
    · rfl
    · simp only [required, List.length_cons] at few
      omega
  | replace =>
    rcases args with _ | ⟨first, _ | ⟨second, _ | ⟨third, rest⟩⟩⟩
    · rfl
    · rfl
    · rfl
    · simp only [required, List.length_cons] at few
      omega
  | _ =>
    rcases args with _ | ⟨first, rest⟩
    · rfl
    · simp only [required, List.length_cons] at few
      omega

theorem storedList_of_misplaced (misplaced : Misplaced memory key) :
    b.storedList memory key = .error (b.noList key) := by
  obtain ⟨v, found, filled, other⟩ := misplaced
  rw [storedList, found]
  cases v with
  | null => contradiction
  | array items => exact absurd rfl (other items)
  | _ => rfl

theorem storedList_of_placed (placed : ¬ Misplaced memory key) :
    ∃ items, b.storedList memory key = .ok items := by
  cases found : memory.get? key with
  | none => exact ⟨[], by rw [storedList, found]⟩
  | some v =>
    cases v with
    | null => exact ⟨[], by rw [storedList, found]⟩
    | array items => exact ⟨items, by rw [storedList, found]⟩
    | _ => exact absurd ⟨_, found, by simp, by simp⟩ placed

theorem run_of_list (reads : b.readsList) (clock : Clock) (rest : List String) :
    ∃ answer : List Value → Value, b.run clock (key :: rest) memory =
      (b.storedList memory key >>= fun items => .ok (answer items)) := by
  rcases reads with rfl | rfl
  · exact ⟨_, rfl⟩
  · exact ⟨_, rfl⟩

/-- A call with enough arguments fails only where a list is read and something else is stored. -/
theorem run_of_enough (enough : b.required ≤ args.length) (plain : ¬ b.readsList) (clock : Clock)
    (memory : Memory) : ∃ v, b.run clock args memory = .ok v := by
  cases b with
  | dateNow | dateYear | coalesce => exact ⟨_, rfl⟩
  | join => exact absurd (.inl rfl) plain
  | listLength => exact absurd (.inr rfl) plain
  | contains | startsWith | endsWith =>
    obtain ⟨first, others, rfl, one⟩ := exists_cons_of_enough enough
    obtain ⟨second, rest, rfl, _⟩ := exists_cons_of_enough one
    exact ⟨_, rfl⟩
  | replace =>
    obtain ⟨first, others, rfl, two⟩ := exists_cons_of_enough enough
    obtain ⟨second, others, rfl, one⟩ := exists_cons_of_enough two
    obtain ⟨third, rest, rfl, _⟩ := exists_cons_of_enough one
    exact ⟨_, rfl⟩
  | default =>
    obtain ⟨first, rest, rfl, _⟩ := exists_cons_of_enough enough
    change ∃ v, (if first.isEmpty then _ else _) = _
    split
    · exact ⟨_, rfl⟩
    · exact ⟨_, rfl⟩
  | _ =>
    obtain ⟨first, rest, rfl, _⟩ := exists_cons_of_enough enough
    exact ⟨_, rfl⟩

theorem run_take (bounded : b ≠ coalesce) (clock : Clock) (args : List String) (memory : Memory) :
    b.run clock (args.take b.used) memory = b.run clock args memory := by
  cases b with
  | coalesce => contradiction
  | dateNow | dateYear => rfl
  | contains | startsWith | endsWith | join | default =>
    rcases args with _ | ⟨first, _ | ⟨second, rest⟩⟩
    · rfl
    · rfl
    · rfl
  | replace =>
    rcases args with _ | ⟨first, _ | ⟨second, _ | ⟨third, rest⟩⟩⟩
    · rfl
    · rfl
    · rfl
    · rfl
  | _ =>
    rcases args with _ | ⟨first, rest⟩
    · rfl
    · rfl

end Arguments

section Failures

inductive Fails (b : Builtin) (args : List String) (memory : Memory) : PromptError → Prop
  | few (few : args.length < b.required) : Fails b args memory (b.tooFew args.length)
  | noList {key : String} (reads : b.readsList) (first : args.head? = some key)
      (misplaced : Misplaced memory key) : Fails b args memory (b.noList key)

variable {e : PromptError}

theorem run_of_fails (fails : b.Fails args memory e) (clock : Clock) : b.run clock args memory = .error e := by
  cases fails with
  | few few => exact run_of_few few clock memory
  | noList reads first misplaced =>
    obtain ⟨rest, rfl⟩ := List.head?_eq_some_iff.mp first
    obtain ⟨answer, run⟩ := run_of_list reads clock rest
    rw [run, storedList_of_misplaced misplaced]
    rfl

theorem fails_or_ok (b : Builtin) (clock : Clock) (args : List String) (memory : Memory) :
    (∃ e, b.Fails args memory e) ∨ ∃ v, b.run clock args memory = .ok v := by
  by_cases few : args.length < b.required
  · exact .inl ⟨_, .few few⟩
  have enough : b.required ≤ args.length := Nat.not_lt.mp few
  by_cases reads : b.readsList
  · have one : 1 ≤ args.length := by
      rcases reads with rfl | rfl
      · exact enough
      · exact enough
    obtain ⟨key, rest, rfl, _⟩ := exists_cons_of_enough one
    by_cases misplaced : Misplaced memory key
    · exact .inl ⟨_, .noList reads rfl misplaced⟩
    · obtain ⟨answer, run⟩ := run_of_list reads clock rest
      obtain ⟨items, stored⟩ := storedList_of_placed (b := b) misplaced
      rw [run, stored]
      exact .inr ⟨_, rfl⟩
  · exact .inr (run_of_enough enough reads clock memory)

theorem run_eq_error_iff : b.run clock args memory = .error e ↔ b.Fails args memory e := by
  constructor
  · intro failed
    rcases b.fails_or_ok clock args memory with ⟨own, fails⟩ | ⟨v, done⟩
    · rw [run_of_fails fails] at failed
      rwa [← Except.error.inj failed]
    · rw [done] at failed
      contradiction
  · intro fails
    exact run_of_fails fails clock

theorem exists_fails_iff : (∃ e, b.Fails args memory e) ↔
    args.length < b.required ∨ b.readsList ∧ ∃ key, args.head? = some key ∧ Misplaced memory key := by
  constructor
  · rintro ⟨e, fails⟩
    cases fails with
    | few few => exact .inl few
    | noList reads first misplaced => exact .inr ⟨reads, _, first, misplaced⟩
  · rintro (few | ⟨reads, key, first, misplaced⟩)
    · exact ⟨_, .few few⟩
    · exact ⟨_, .noList reads first misplaced⟩

theorem Fails.names (fails : b.Fails args memory e) : ∃ text, e = .functionFailed b.name text := by
  cases fails with
  | few => exact ⟨_, rfl⟩
  | noList => exact ⟨_, rfl⟩

end Failures

/-- What the table lists is what can be called. A call under a listed name fails just for a missing argument or
for a stored value that is no list, under that name; and arguments past the last one used change nothing. -/
theorem execute_agrees_with_table (name : String) (clock : Clock) (args : List String) (memory : Memory) :
    ((∃ other, execute name clock args memory = .error (.unknownFunction other)) ↔ name ∉ names) ∧
    (name ∉ names → execute name clock args memory = .error (.unknownFunction name)) ∧
    (name ∈ names ↔ ∃ b : Builtin, b.name = name) ∧
    ∀ b : Builtin, b.name = name →
      ((∃ e, execute name clock args memory = .error e) ↔
        args.length < b.required ∨ b.readsList ∧ ∃ key, args.head? = some key ∧ Misplaced memory key) ∧
      (∀ e, execute name clock args memory = .error e → ∃ text, e = .functionFailed name text) ∧
      (args.length < b.required → execute name clock args memory = .error (.functionFailed name
        ("expected at least " ++ toString (args.length + 1) ++ " argument(s), got " ++ toString args.length))) ∧
      (b ≠ coalesce → ∀ other, other.take b.used = args.take b.used →
        execute name clock other memory = execute name clock args memory) := by
  refine ⟨⟨?_, fun unlisted => ⟨name, execute_of_unlisted unlisted clock args memory⟩⟩,
    fun unlisted => execute_of_unlisted unlisted clock args memory, mem_names_iff, ?_⟩
  · rintro ⟨other, unknown⟩ listed
    obtain ⟨b, rfl⟩ := mem_names_iff.mp listed
    rw [execute_name, run_eq_error_iff] at unknown
    obtain ⟨text, same⟩ := unknown.names
    cases same
  · rintro b rfl
    refine ⟨?_, fun e failed => ?_, fun few => ?_, fun bounded other same => ?_⟩
    · simp only [execute_name, run_eq_error_iff]
      exact exists_fails_iff
    · rw [execute_name, run_eq_error_iff] at failed
      exact failed.names
    · rw [execute_name]
      exact run_of_few few clock memory
    · rw [execute_name, execute_name, ← run_take bounded clock other, same, run_take bounded]

/-- A name that is not listed, a missing second argument, a string where a list is read, and a third argument
that nothing looks at. -/
theorem string_is_no_list :
    let clock : Clock := ⟨2026, 1, 1, 0, 0, 0⟩
    let memory := Memory.empty.set "name" (.string "Ada")
    execute "str.reverse" clock ["a"] memory = .error (.unknownFunction "str.reverse") ∧
    execute "str.replace" clock ["a"] memory =
      .error (.functionFailed "str.replace" "expected at least 2 argument(s), got 1") ∧
    (∃ e text, execute "arr.join" clock ["name"] memory = .error e ∧ e = .functionFailed "arr.join" text) ∧
    execute "arr.join" clock ["name", ";", "!"] memory = execute "arr.join" clock ["name", ";"] memory := by
  intro clock memory
  have misplaced : Misplaced memory "name" := ⟨_, rfl, by simp, by simp⟩
  obtain ⟨_, unlisted, _⟩ := execute_agrees_with_table "str.reverse" clock ["a"] memory
  obtain ⟨_, _, _, replaced⟩ := execute_agrees_with_table "str.replace" clock ["a"] memory
  obtain ⟨_, _, _, joined⟩ := execute_agrees_with_table "arr.join" clock ["name"] memory
  obtain ⟨_, _, _, parted⟩ := execute_agrees_with_table "arr.join" clock ["name", ";"] memory
  obtain ⟨e, failed⟩ := (joined .join rfl).1.mpr (.inr ⟨.inl rfl, _, rfl, misplaced⟩)
  obtain ⟨text, same⟩ := (joined .join rfl).2.1 e failed
  exact ⟨unlisted (by decide), (replaced .replace rfl).2.2.1 (by decide), ⟨e, text, failed, same⟩,
    (parted .join rfl).2.2.2 (by decide) _ rfl⟩

end PromptKit.Builtin
