import PromptKit.Proofs.Decimal.Whole
import PromptKit.Proofs.Prompt.Cuts

/-!
Messages are taken away from the end one by one, for a length that may have nothing to do with them. Each
step is spelt out here with the ways in which it could fail, a slice past the end of its tokens and a sum
beyond a word. No step fails, there are at most as many as there are messages, and what they come to is
settled: once more changes nothing.
-/
namespace PromptKit

namespace Budget

variable {b : Budget} {fixed : Nat}

theorem fixedTokens?_spec (budgeted : b.fixedTokens? = some fixed) :
    b.tokens > 1.0 ∧ fixed = b.tokens.toUInt64.toNat := by
  unfold fixedTokens? at budgeted
  split at budgeted
  · rename_i above
    exact ⟨above, (Option.some.inj budgeted).symm⟩
  · contradiction

theorem fixedTokens?_pos (budgeted : b.fixedTokens? = some fixed) : 0 < fixed := by
  obtain ⟨above, rfl⟩ := fixedTokens?_spec budgeted
  exact Decimal.one_le_toUInt64 above

theorem fixedTokens?_lt (budgeted : b.fixedTokens? = some fixed) : fixed < wordLimit := by
  obtain ⟨_, rfl⟩ := fixedTokens?_spec budgeted
  exact UInt64.toNat_lt _

end Budget

def slice? (tokens : List UInt32) (bound : Nat) : Option (List UInt32) :=
  if bound ≤ tokens.length then some (tokens.take bound) else none

/-- How far messages are taken away: the length that is left by count, and the messages that are left. -/
structure Removal where
  length : Nat
  output : List Message

inductive Removal.Step where
  | done
  | failed
  | next (s : Removal)

namespace Removal

variable {t : Tokenizer} {budget length : Nat} {before ms : List Message} {m : Message}

/-- While the length exceeds the budget, the last message goes. Where that leaves room, as much of it as
fits is put back, and the length is then the budget, whatever was put back. -/
def step (t : Tokenizer) (budget : Nat) (s : Removal) : Step :=
  if s.length ≤ budget then .done
  else match s.output.getLast? with
    | none => .done
    | some m =>
      let tokens := t.encode m.content
      let left := s.length - tokens.length
      if left < budget then
        let room := budget - left
        match slice? tokens (min room tokens.length), wordSum? left room with
        | some kept, some length =>
          .next ⟨length, s.output.dropLast ++ [{ m with content := t.decode kept }]⟩
        | _, _ => .failed
      else .next ⟨left, s.output.dropLast⟩

inductive Ends (t : Tokenizer) (budget : Nat) : Nat → Removal → Removal → Prop
  | done {s : Removal} (settled : s.step t budget = .done) : Ends t budget 0 s s
  | next {taken : Nat} {s after final : Removal} (given : s.step t budget = .next after)
      (later : Ends t budget taken after final) : Ends t budget (taken + 1) s final

theorem step_within (within : length ≤ budget) : step t budget ⟨length, ms⟩ = .done := if_pos within

theorem step_nil : step t budget ⟨length, []⟩ = .done := by
  unfold step
  split <;> rfl

theorem step_whole (beyond : budget < length) (enough : budget ≤ length - (t.encode m.content).length) :
    step t budget ⟨length, before ++ [m]⟩ = .next ⟨length - (t.encode m.content).length, before⟩ := by
  simp only [step, if_neg (Nat.not_le.mpr beyond), List.getLast?_concat, List.dropLast_concat,
    if_neg (Nat.not_lt.mpr enough)]

theorem step_part (word : budget < wordLimit) (beyond : budget < length)
    (room : length - (t.encode m.content).length < budget) :
    step t budget ⟨length, before ++ [m]⟩ = .next ⟨budget, before ++
      [{ m with content := t.take (budget - (length - (t.encode m.content).length)) m.content }]⟩ := by
  let tokens := t.encode m.content
  let left := length - tokens.length
  have filled : left + (budget - left) = budget := Nat.add_sub_of_le (Nat.le_of_lt room)
  have sum : wordSum? left (budget - left) = some budget := by
    rw [wordSum?, filled, if_pos word]
  have slice : slice? tokens (min (budget - left) tokens.length) = some (tokens.take (budget - left)) := by
    rw [slice?, if_pos (Nat.min_le_right _ _), ← List.take_eq_take_min]
  simp only [step, if_neg (Nat.not_le.mpr beyond), List.getLast?_concat, List.dropLast_concat,
    if_pos room, tokens, left, slice, sum]
  rfl

/-- The steps come to what trimming says, and there are no more of them than messages. -/
theorem ends_trim (t : Tokenizer) (length : Nat) (ms : List Message) (word : budget < wordLimit) :
    ∃ taken ≤ ms.length, Ends t budget taken
      ⟨length, ms.reverse⟩ ⟨(Budget.trim t budget length ms).1, (Budget.trim t budget length ms).2.reverse⟩ := by
  induction ms generalizing length with
  | nil => exact ⟨0, Nat.le_refl 0, .done step_nil⟩
  | cons m before ih =>
    rw [Budget.trim]
    by_cases within : length ≤ budget
    · rw [if_pos within]
      exact ⟨0, Nat.zero_le _, .done (step_within within)⟩
    · have beyond := Nat.not_le.mp within
      simp only [if_neg within, List.reverse_cons]
      -- a part that is put back is the last step; where the whole message goes, the others are left
      by_cases room : length - (t.encode m.content).length < budget
      · simp only [if_pos room, List.reverse_cons]
        exact ⟨1, Nat.succ_pos _, .next (step_part word beyond room) (.done (step_within (Nat.le_refl budget)))⟩
      · rw [if_neg room]
        obtain ⟨taken, few, ends⟩ := ih _
        exact ⟨taken + 1, Nat.succ_le_succ few, .next (step_whole beyond (Nat.not_lt.mp room)) ends⟩

end Removal

/-- What is left of messages: the first of them as they were, and of the next perhaps a part. -/
inductive Heads (part : Message → Message → Prop) : List Message → List Message → Prop
  | whole (kept dropped : List Message) : Heads part kept (kept ++ dropped)
  | parted (before dropped : List Message) (m shorter : Message) (partly : part m shorter) :
      Heads part (before ++ [shorter]) (before ++ m :: dropped)

namespace Heads

variable {part : Message → Message → Prop} {kept all : List Message}

theorem refl (ms : List Message) : Heads part ms ms := by
  have whole : Heads part ms (ms ++ []) := .whole ms []
  rwa [List.append_nil] at whole

theorem concat (heads : Heads part kept all) (m : Message) : Heads part kept (all ++ [m]) := by
  cases heads with
  | whole _ dropped =>
    rw [List.append_assoc]
    exact .whole kept (dropped ++ [m])
  | parted before dropped next shorter partly =>
    rw [List.append_assoc, List.cons_append]
    exact .parted before (dropped ++ [m]) next shorter partly

theorem getElem?_eq (heads : Heads part kept all) {i : Nat} (inner : i + 1 < kept.length) :
    kept[i]? = all[i]? := by
  cases heads with
  | whole _ dropped => rw [List.getElem?_append_left (by omega)]
  | parted before dropped m shorter partly =>
    rw [List.length_append, List.length_singleton] at inner
    rw [List.getElem?_append_left (by omega), List.getElem?_append_left (by omega)]

theorem getLast?_eq (heads : Heads part kept all) {last : Message} (ends : kept.getLast? = some last) :
    ∃ m, all[kept.length - 1]? = some m ∧ (last = m ∨ part m last) := by
  cases heads with
  | whole _ dropped =>
    rw [List.getLast?_eq_getElem?] at ends
    have inside := (List.getElem?_eq_some_iff.mp ends).1
    exact ⟨last, by rw [List.getElem?_append_left inside, ends], .inl rfl⟩
  | parted before dropped m shorter partly =>
    obtain rfl : shorter = last := by simpa using ends
    exact ⟨m, by simp, .inr partly⟩

end Heads

def Tokenizer.Part (t : Tokenizer) (m shorter : Message) : Prop :=
  ∃ count, shorter = { m with content := t.take count m.content }

namespace Budget

variable {t : Tokenizer} {b : Budget} {fixed length offer : Nat}

theorem heads_trim (t : Tokenizer) (fixed length : Nat) (ms : List Message) :
    Heads t.Part (trim t fixed length ms).2.reverse ms.reverse := by
  fun_induction trim t fixed length ms with
  | case1 length => exact .whole [] []
  | case2 length m before within =>
    exact Heads.refl _
  | case3 length m before beyond left room =>
    rw [List.reverse_cons, List.reverse_cons]
    exact .parted before.reverse [] m _ ⟨fixed - left, rfl⟩
  | case4 length m before beyond left room ih =>
    rw [List.reverse_cons]
    exact ih.concat m

/-- The length exceeds the budget only where no message is left to take. -/
theorem trim_settled (t : Tokenizer) (fixed length : Nat) (ms : List Message) :
    (trim t fixed length ms).1 ≤ fixed ∨ (trim t fixed length ms).2 = [] := by
  fun_induction trim t fixed length ms with
  | case1 length => exact .inr rfl
  | case2 length m before within => exact .inl within
  | case3 length m before beyond left room => exact .inl (Nat.le_refl fixed)
  | case4 length m before beyond left room ih => exact ih

theorem messages_of_fixed (budgeted : b.fixedTokens? = some fixed) (ms : List Message) :
    b.messages t ms length offer = ⟨(trim t fixed length ms.reverse).2.reverse,
      (trim t fixed length ms.reverse).1, decide (offer < (trim t fixed length ms.reverse).1)⟩ := by
  rw [messages, budgeted]

theorem messages_of_unfixed (free : b.fixedTokens? = none) (ms : List Message) :
    b.messages t ms length offer = ⟨ms, length, decide (offer < length)⟩ := by
  rw [messages, free]

theorem messages_nil : b.messages t [] length offer = ⟨[], length, decide (offer < length)⟩ := by
  cases budgeted : b.fixedTokens? with
  | none => exact messages_of_unfixed budgeted []
  | some fixed =>
    rw [messages_of_fixed budgeted]
    rfl

theorem heads_messages (b : Budget) (t : Tokenizer) (ms : List Message) (length offer : Nat) :
    Heads t.Part (b.messages t ms length offer).output ms := by
  cases budgeted : b.fixedTokens? with
  | none =>
    rw [messages_of_unfixed budgeted]
    exact Heads.refl ms
  | some fixed =>
    have heads := heads_trim t fixed length ms.reverse
    rw [List.reverse_reverse] at heads
    rwa [messages_of_fixed budgeted]

theorem messages_settled (budgeted : b.fixedTokens? = some fixed) (ms : List Message) :
    let r := b.messages t ms length offer
    r.length ≤ fixed ∨ r.output = [] := by
  rw [messages_of_fixed budgeted]
  exact (trim_settled t fixed length ms.reverse).imp id List.reverse_eq_nil_iff.mpr

theorem messages_messages (b : Budget) (t : Tokenizer) (ms : List Message) (length offer : Nat) :
    let r := b.messages t ms length offer
    b.messages t r.output r.length offer = r := by
  intro r
  have marked : r = ⟨r.output, r.length, decide (offer < r.length)⟩ := rfl
  rcases b.within_or_beyond r.length with within | ⟨fixed, budgeted, beyond⟩
  · rw [messages_of_within within, ← marked]
  · have none : r.output = [] :=
      (messages_settled budgeted ms).resolve_left (Nat.not_le.mpr beyond)
    rw [none, messages_nil, ← none, ← marked]

/-- Whatever length is claimed for messages and whatever the tokenizer, holding them to a budget is safe:
it ends without failure after at most one removal for each message, only the last one left can differ, and
to hold them again changes nothing. -/
theorem messages_of_any_length (b : Budget) (t : Tokenizer) (ms : List Message) (length offer : Nat) :
    let r := b.messages t ms length offer
    (b.fixedTokens? = none → r.output = ms ∧ r.length = length) ∧
    (∀ fixed, b.fixedTokens? = some fixed →
      (∃ taken ≤ ms.length, Removal.Ends t fixed taken ⟨length, ms⟩ ⟨r.length, r.output⟩) ∧
      (r.length ≤ fixed ∨ r.output = [])) ∧
    (∀ i, i + 1 < r.output.length → r.output[i]? = ms[i]?) ∧
    (∀ last, r.output.getLast? = some last → ∃ m, ms[r.output.length - 1]? = some m ∧ last.role = m.role ∧
      (last.content = m.content ∨
        ∃ count, last.content = t.decode ((t.encode m.content).take count))) ∧
    b.messages t r.output r.length offer = r := by
  intro r
  have heads : Heads t.Part r.output ms := b.heads_messages t ms length offer
  refine ⟨fun free => ?_, fun fixed budgeted => ⟨?_, messages_settled budgeted ms⟩, fun i inner =>
    heads.getElem?_eq inner, fun last ends => ?_, b.messages_messages t ms length offer⟩
  · simp only [r, messages_of_unfixed free, and_self]
  · have ends := Removal.ends_trim t length ms.reverse (fixedTokens?_lt budgeted)
    rw [List.reverse_reverse, List.length_reverse] at ends
    simpa only [r, messages_of_fixed budgeted] using ends
  · obtain ⟨m, there, rfl | ⟨count, rfl⟩⟩ := heads.getLast?_eq ends
    · exact ⟨last, there, rfl, .inl rfl⟩
    · exact ⟨m, there, rfl, .inr ⟨count, rfl⟩⟩

/-- A length that is too small: the last message goes, and of the one before it half a character stays. -/
theorem wrong_length_taken_away :
    let b : Budget := { tokens := 3.0 }
    let ms := [Message.user "abc", .user "é", .user "d"]
    let kept := [Message.user "abc", .user "�"]
    b.fixedTokens? = some 3 ∧ b.messages .bytes ms 5 9 = ⟨kept, 3, false⟩ ∧
    (∃ taken ≤ 3, Removal.Ends .bytes 3 taken ⟨5, ms⟩ ⟨3, kept⟩) ∧
    kept[0]? = ms[0]? ∧ b.messages .bytes kept 3 9 = ⟨kept, 3, false⟩ := by
  intro b ms kept
  have budgeted : b.fixedTokens? = some 3 := by decide +kernel
  have held : b.messages .bytes ms 5 9 = ⟨kept, 3, false⟩ := by decide +kernel
  have safe := messages_of_any_length b .bytes ms 5 9
  rw [held] at safe
  obtain ⟨_, ends, same, _, settled⟩ := safe
  exact ⟨budgeted, held, (ends 3 budgeted).1, same 0 (by decide), settled⟩

end Budget

end PromptKit
