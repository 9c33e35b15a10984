import PromptKit.Json.Reader
import PromptKit.Proofs.Traversal

/-!
The members of an object as a JSON text has them: in the order in which they are written, a key perhaps
more than once. The object that is read keeps of each key the last member.
-/
namespace PromptKit.Json

variable {fuel depth : Nat} {c after : Cursor} {text : String} {rest : List Char}
variable {fields members others : List (String × Value)} {v : Value}

def Members (text : String) (members : List (String × Value)) : Prop :=
  ∃ rest after, (Cursor.start text).skipSpace.rest = '\x7b' :: rest ∧ atEnd after = .ok () ∧
    readFields (2 * text.toList.length + 1) (depthLimit - 1) true (Cursor.start text).skipSpace.next =
      .ok (members, after)

theorem Members.unique (first : Members text members) (second : Members text others) : members = others := by
  obtain ⟨_, _, _, _, read⟩ := first
  obtain ⟨_, _, _, _, again⟩ := second
  rw [read] at again
  exact (Prod.mk.inj (Except.ok.inj again)).1

theorem readValue_of_brace (brace : c.skipSpace.rest = '\x7b' :: rest) (deep : 1 < depth) :
    readValue (fuel + 1) depth c = (readFields fuel (depth - 1) true c.skipSpace.next).map
      fun r => (Value.ofFields r.1, r.2) := by
  have open' : ¬ depth ≤ 1 := Nat.not_le.mpr deep
  rw [readValue]
  simp only [brace, open', if_false]
  cases readFields fuel (depth - 1) true c.skipSpace.next <;> rfl

theorem brace_of_readValue (read : readValue (fuel + 1) depth c = .ok (.object fields, after)) :
    ∃ rest, c.skipSpace.rest = '\x7b' :: rest := by
  rw [readValue] at read
  split at read
  case h_1 => cases read
  case h_2 | h_3 | h_4 | h_5 =>
    obtain ⟨_, _, same⟩ := exists_ok_of_bind read
    cases same
  case h_6 =>
    split at read
    · cases read
    · obtain ⟨_, _, same⟩ := exists_ok_of_bind read
      cases same
  case h_7 rest brace => exact ⟨rest, brace⟩
  case h_8 =>
    split at read
    · obtain ⟨_, _, same⟩ := exists_ok_of_bind read
      cases same
    · cases read

theorem parse_eq_ok_iff : parse text = .ok v ↔ ∃ after, atEnd after = .ok () ∧
    readValue (2 * text.toList.length + 2) depthLimit (Cursor.start text) = .ok (v, after) := by
  constructor
  · intro parsed
    obtain ⟨⟨own, after⟩, read, parsed⟩ := exists_ok_of_bind parsed
    obtain ⟨_, ended, same⟩ := exists_ok_of_bind parsed
    obtain rfl := Except.ok.inj same
    exact ⟨after, ended, read⟩
  · rintro ⟨after, ended, read⟩
    simp only [parse, Cursor.start] at read ⊢
    simp [read, ended, bind, Except.bind, pure, Except.pure]

/-- A text holds an object just if it has members, and the last one of each key is kept. -/
theorem parse_eq_object_iff : parse text = .ok (.object fields) ↔
    ∃ members, Members text members ∧ fields = (Dict.ofList members).entries := by
  rw [parse_eq_ok_iff]
  have deep : 1 < depthLimit := by decide
  constructor
  · rintro ⟨after, ended, read⟩
    obtain ⟨rest, brace⟩ := brace_of_readValue read
    rw [readValue_of_brace brace deep] at read
    cases inner : readFields (2 * text.toList.length + 1) (depthLimit - 1) true
        (Cursor.start text).skipSpace.next with
    | error e => simp [inner, Except.map] at read
    | ok r =>
      obtain ⟨members, last⟩ := r
      simp only [inner, Except.map, Value.ofFields, Except.ok.injEq, Prod.mk.injEq, Value.object.injEq] at read
      obtain ⟨rfl, rfl⟩ := read
      exact ⟨members, ⟨rest, last, brace, ended, inner⟩, rfl⟩
  · rintro ⟨members, ⟨rest, after, brace, ended, inner⟩, rfl⟩
    refine ⟨after, ended, ?_⟩
    rw [readValue_of_brace brace deep, inner]
    rfl

end PromptKit.Json
