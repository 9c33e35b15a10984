import PromptKit.Proofs.Prompt.Lockstep
import PromptKit.Proofs.Prompt.Removal
import PromptKit.Proofs.Prompt.Truncation

/-!
What is kept of messages whose length is measured, where every character is one token: the first characters
of all of them, as many as the budget holds, in messages that are as they were but for the last. A budget
is at least one token, and so something is left of any messages.
-/
namespace PromptKit

theorem length_transcript (ms : List Message) : (transcript ms).length = scalarCount ms := by
  induction ms with
  | nil => rfl
  | cons m rest ih =>
    rw [transcript, List.map_cons, String.join_cons, String.length_append, ← transcript, ih, scalarCount]

theorem transcript_begins {kept all : List Message} (begins : Begins kept all) :
    (transcript kept).toList <+: (transcript all).toList := by
  have joined := begins ""
  rwa [intercalate_empty, intercalate_empty] at joined

namespace Tokenizer

theorem role_of_part {t : Tokenizer} {m shorter : Message} (part : t.Part m shorter) :
    shorter.role = m.role := by
  obtain ⟨_, rfl⟩ := part
  rfl

theorem content_of_part_chars {m shorter : Message} (part : chars.Part m shorter) :
    shorter.content.toList <+: m.content.toList := by
  obtain ⟨count, rfl⟩ := part
  rw [take_chars, String.toList_ofList]
  exact List.take_prefix count _

end Tokenizer

theorem Heads.roles_prefix {part : Message → Message → Prop} {kept all : List Message}
    (heads : Heads part kept all) (same : ∀ m shorter, part m shorter → shorter.role = m.role) :
    kept.map (·.role) <+: all.map (·.role) := by
  cases heads with
  | whole _ dropped => exact (List.prefix_append kept dropped).map _
  | parted before dropped m shorter partly =>
    refine ⟨dropped.map (·.role), ?_⟩
    simp [same m shorter partly]

namespace Budget

variable {b : Budget} {fixed : Nat} {ms : List Message}

theorem length_messages (budgeted : b.fixedTokens? = some fixed) (ms : List Message) (offer : Nat) :
    (b.messages .chars ms (scalarCount ms) offer).length = min fixed (scalarCount ms) := by
  let r := b.messages .chars ms (scalarCount ms) offer
  have measured : r.length = scalarCount r.output := (b.messages_chars ms offer).length
  have settled : r.length ≤ fixed ∨ r.output = [] := messages_settled budgeted ms
  obtain ⟨begins, kept⟩ := messages_kept budgeted ms offer
  have fewer : scalarCount r.output ≤ scalarCount ms := by
    rw [← length_transcript, ← length_transcript, ← String.length_toList, ← String.length_toList]
    exact (transcript_begins begins).length_le
  have within : r.length ≤ fixed := by
    rcases settled with within | none
    · exact within
    · rw [measured, none]
      exact Nat.zero_le fixed
  change r.length = min fixed (scalarCount ms)
  rcases kept with (same : r.output = ms) | (full : scalarCount r.output = fixed)
  · rw [same] at measured
    omega
  · omega

theorem transcript_messages (budgeted : b.fixedTokens? = some fixed) (ms : List Message) (offer : Nat) :
    transcript (b.messages .chars ms (scalarCount ms) offer).output =
      String.ofList ((transcript ms).toList.take fixed) := by
  let r := b.messages .chars ms (scalarCount ms) offer
  have measured : r.length = scalarCount r.output := (b.messages_chars ms offer).length
  have count : (transcript r.output).toList.length = min fixed (transcript ms).toList.length := by
    rw [String.length_toList, String.length_toList, length_transcript, length_transcript, ← measured]
    exact length_messages budgeted ms offer
  have first := List.prefix_iff_eq_take.mp (transcript_begins (messages_kept budgeted ms offer).1)
  apply String.toList_inj.mp
  rw [String.toList_ofList, first, count, ← List.take_eq_take_min]

theorem output_messages_ne_nil (budgeted : b.fixedTokens? = some fixed) (present : ms ≠ []) (offer : Nat) :
    (b.messages .chars ms (scalarCount ms) offer).output ≠ [] := by
  intro none
  rcases (messages_kept budgeted ms offer).2 with same | full
  · exact present (same ▸ none)
  · rw [none] at full
    exact absurd full (Nat.ne_of_lt (fixedTokens?_pos budgeted))

/-- Messages of a measured length keep exactly the first tokens of a fixed budget. -/
theorem messages_keep_first_tokens (b : Budget) (fixed : Nat) (budgeted : b.fixedTokens? = some fixed)
    (ms : List Message) (offer : Nat) :
    let r := b.messages .chars ms (scalarCount ms) offer
    transcript r.output = String.ofList ((transcript ms).toList.take fixed) ∧
    r.output.map (·.role) <+: ms.map (·.role) ∧
    (∀ i, i + 1 < r.output.length → r.output[i]? = ms[i]?) ∧
    (∀ last, r.output.getLast? = some last → ∃ m, ms[r.output.length - 1]? = some m ∧
      last.role = m.role ∧ last.content.toList <+: m.content.toList) ∧
    (ms ≠ [] → r.output ≠ []) ∧
    r.length = min fixed (scalarCount ms) ∧ r.length = scalarCount r.output ∧
    (scalarCount ms ≤ fixed → r.output = ms) := by
  intro r
  have heads : Heads Tokenizer.chars.Part r.output ms := b.heads_messages .chars ms _ offer
  refine ⟨transcript_messages budgeted ms offer, heads.roles_prefix fun _ _ => Tokenizer.role_of_part,
    fun i inner => heads.getElem?_eq inner, fun last ends => ?_,
    fun present => output_messages_ne_nil budgeted present offer, length_messages budgeted ms offer,
    (b.messages_chars ms offer).length, fun within => ?_⟩
  · obtain ⟨m, there, rfl | part⟩ := heads.getLast?_eq ends
    · exact ⟨last, there, rfl, List.prefix_refl _⟩
    · exact ⟨m, there, Tokenizer.role_of_part part, Tokenizer.content_of_part_chars part⟩
  · simp only [r, messages_of_within (within_of_fixed budgeted within)]

theorem two_messages_gone_one_cut :
    let b : Budget := { tokens := 4.0 }
    let ms := [Message.system "ab", .user "", .user "cdé", .assistant "", .assistant "f"]
    let kept := [Message.system "ab", .user "", .user "cd"]
    b.fixedTokens? = some 4 ∧ b.messages .chars ms (scalarCount ms) 9 = ⟨kept, 4, false⟩ ∧
    transcript kept = String.ofList ("abcdéf".toList.take 4) ∧
    kept.map (·.role) <+: ms.map (·.role) ∧ 4 = scalarCount kept := by
  intro b ms kept
  have budgeted : b.fixedTokens? = some 4 := by decide +kernel
  have held : b.messages .chars ms (scalarCount ms) 9 = ⟨kept, 4, false⟩ := by decide +kernel
  have first := messages_keep_first_tokens b 4 budgeted ms 9
  rw [held] at first
  obtain ⟨contents, roles, _, _, _, _, measured, _⟩ := first
  exact ⟨budgeted, held, contents, roles, measured⟩

end Budget

end PromptKit
