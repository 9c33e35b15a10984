import PromptKit.Proofs.Prompt.Shares

/-!
Cutting messages and then their text comes to cutting the text once, where every character is one token.
What is kept of the messages begins the text of all of them, and its own characters alone fill the budget
before anything is lost.
-/
namespace PromptKit

/-- Whatever stands between messages, the text of the first ones begins the text of the others. -/
def Begins (kept all : List Message) : Prop := ∀ separator : String,
  (separator.intercalate (kept.map (·.content))).toList <+: (separator.intercalate (all.map (·.content))).toList

theorem Begins.refl (ms : List Message) : Begins ms ms := fun _ => List.prefix_refl _

theorem Begins.trans {first second third : List Message} (early : Begins first second)
    (late : Begins second third) : Begins first third := fun separator =>
  (early separator).trans (late separator)

theorem toList_intercalate_concat (separator last : String) (blocks : List String) :
    (separator.intercalate (blocks ++ [last])).toList =
      (if blocks = [] then [] else (separator.intercalate blocks).toList ++ separator.toList) ++ last.toList := by
  by_cases none : blocks = []
  · simp [none]
  · rw [if_neg none, String.intercalate_append_of_ne_nil none (List.cons_ne_nil _ _)]
    simp

theorem begins_concat (ms : List Message) (m : Message) : Begins ms (ms ++ [m]) := by
  intro separator
  rw [List.map_append, List.map_singleton, toList_intercalate_concat]
  by_cases none : ms.map (·.content) = []
  · simp [none]
  · rw [if_neg none, List.append_assoc]
    exact List.prefix_append _ _

theorem begins_shorter_last (ms : List Message) {m cut : Message}
    (shorter : cut.content.toList <+: m.content.toList) : Begins (ms ++ [cut]) (ms ++ [m]) := by
  intro separator
  simp only [List.map_append, List.map_singleton, toList_intercalate_concat]
  exact (List.prefix_append_right_inj _).mpr shorter

namespace Budget

variable {b : Budget} {fixed : Nat}

theorem trim_beyond {ms : List Message} (beyond : fixed < scalarCount ms) :
    let kept := (trim .chars fixed (scalarCount ms) ms).2
    scalarCount kept = fixed ∧ Begins kept.reverse ms.reverse := by
  induction ms with
  | nil => cases beyond
  | cons m before ih =>
    have left : scalarCount (m :: before) - (Tokenizer.chars.encode m.content).length = scalarCount before := by
      rw [Tokenizer.length_encode_chars, scalarCount]
      omega
    rw [trim, if_neg (Nat.not_le.mpr beyond)]
    simp only [left, List.reverse_cons]
    -- the last message is cut, or it goes whole and with it what was too much, or more has to go
    rcases Nat.lt_trichotomy (scalarCount before) fixed with room | full | more
    · rw [if_pos room]
      constructor
      · simp only [scalarCount, Tokenizer.length_take_chars] at beyond ⊢
        omega
      · rw [List.reverse_cons]
        apply begins_shorter_last
        rw [Tokenizer.take_chars, String.toList_ofList]
        exact List.take_prefix _ _
    · rw [if_neg (Nat.not_lt.mpr (Nat.le_of_eq full.symm)), trim_of_within (Nat.le_of_eq full)]
      exact ⟨full, begins_concat _ m⟩
    · rw [if_neg (Nat.not_lt.mpr (Nat.le_of_lt more))]
      obtain ⟨count, begins⟩ := ih more
      exact ⟨count, begins.trans (begins_concat _ m)⟩

theorem messages_kept (budgeted : b.fixedTokens? = some fixed) (ms : List Message) (offer : Nat) :
    let kept := (b.messages .chars ms (scalarCount ms) offer).output
    Begins kept ms ∧ (kept = ms ∨ scalarCount kept = fixed) := by
  intro kept
  rcases Nat.lt_or_ge fixed (scalarCount ms) with beyond | within
  · rw [← scalarCount_reverse] at beyond
    obtain ⟨count, begins⟩ := trim_beyond beyond
    have held : kept = (trim .chars fixed (scalarCount ms.reverse) ms.reverse).2.reverse := by
      simp only [kept, messages, budgeted, scalarCount_reverse]
    rw [List.reverse_reverse] at begins
    rw [held]
    exact ⟨begins, .inr ((scalarCount_reverse _).trans count)⟩
  · have same : kept = ms := by simp only [kept, messages_of_within (within_of_fixed budgeted within)]
    exact ⟨same ▸ Begins.refl ms, .inl same⟩

def whole (b : Budget) (ms : List Message) : String :=
  b.textPrefix ++ b.separator.intercalate (ms.map (·.content))

theorem whole_begins {kept ms : List Message} (begins : Begins kept ms) :
    (b.whole kept).toList <+: (b.whole ms).toList := by
  simp only [whole, String.toList_append]
  exact (List.prefix_append_right_inj _).mpr (begins b.separator)

theorem scalarCount_le_whole (b : Budget) (ms : List Message) : scalarCount ms ≤ (b.whole ms).length := by
  rw [whole, String.length_append, length_intercalate]
  omega

theorem cut_of_begins {kept ms : List Message} (budgeted : b.fixedTokens? = some fixed)
    (full : scalarCount kept = fixed) (begins : Begins kept ms) : b.cut (b.whole kept) = b.cut (b.whole ms) := by
  have enough : fixed ≤ (b.whole kept).toList.length := full ▸ b.scalarCount_le_whole kept
  obtain ⟨lost, same⟩ := whole_begins (b := b) begins
  simp only [cut, budgeted, ← same, List.take_append_of_le_length enough]

theorem output_text_of_cut (budgeted : b.fixedTokens? = some fixed) {ms : List Message} (present : ms ≠ [])
    (offer allowed : Nat) :
    (b.text .chars (b.messages .chars ms (scalarCount ms) offer) allowed).output = b.cut (b.whole ms) := by
  rw [output_text (b.messages_chars ms offer).length, ← whole]
  obtain ⟨begins, same | full⟩ := messages_kept budgeted ms offer
  · rw [same, List.isEmpty_eq_false_iff.mpr present]
    rfl
  · by_cases none : (b.messages .chars ms (scalarCount ms) offer).output.isEmpty = true
    -- no message is left only where the budget is zero, and then nothing is left of the text
    · rw [List.isEmpty_iff.mp none, scalarCount] at full
      simp [none, cut, budgeted, ← full]
    · rw [if_neg none, cut_of_begins budgeted full begins]

/-- Cutting messages to a fixed budget, and then their text, comes to cutting the text of all of them. -/
theorem text_of_cut_messages (b : Budget) (fixed : Nat) (budgeted : b.fixedTokens? = some fixed)
    (ms : List Message) (present : ms ≠ []) (offer allowed : Nat) :
    let whole := b.textPrefix ++ b.separator.intercalate (ms.map (·.content))
    let kept := b.messages .chars ms (scalarCount ms) offer
    b.text .chars kept allowed = ⟨String.ofList (whole.toList.take fixed), min fixed whole.length,
      decide (allowed < min fixed whole.length)⟩ ∧
    (whole.length < wordLimit → b.textOfClaim .chars kept allowed = some (b.text .chars kept allowed)) := by
  intro whole kept
  have measured : kept.length = scalarCount kept.output := (b.messages_chars ms offer).length
  constructor
  · have output : (b.text .chars kept allowed).output = b.cut whole :=
      output_text_of_cut budgeted present offer allowed
    have count : (b.cut whole).length = min fixed whole.length := by
      rw [length_cut, tokenBudget, budgeted]
    have exact := (b.text_chars measured allowed).eq_against
    simp only [output, Rendered.against, Rendered.measured, count] at exact
    rw [exact, cut, budgeted]
  · intro small
    have begins := (b.messages_kept budgeted ms offer).1
    have shorter := (whole_begins (b := b) begins).length_le
    apply b.textOfClaim_eq_text
    rw [← b.length_whole measured]
    exact Nat.lt_of_le_of_lt shorter small

theorem cut_remarks_as_text :
    let b : Budget := { tokens := 4.0, separator := " | " }
    let ms := [Message.user "ab", .user "", .user "cdé"]
    b.fixedTokens? = some 4 ∧ ms ≠ [] ∧
    b.text .chars (b.messages .chars ms (scalarCount ms) 9) 3 = ⟨"ab |", 4, true⟩ ∧
    b.textOfClaim .chars (b.messages .chars ms (scalarCount ms) 9) 3 = some ⟨"ab |", 4, true⟩ := by
  intro b ms
  have budgeted : b.fixedTokens? = some 4 := by decide +kernel
  have present : ms ≠ [] := List.cons_ne_nil _ _
  obtain ⟨cut, claim⟩ := text_of_cut_messages b 4 budgeted ms present 9 3
  have text : b.text .chars (b.messages .chars ms (scalarCount ms) 9) 3 = ⟨"ab |", 4, true⟩ :=
    cut.trans (by decide +kernel)
  exact ⟨budgeted, present, text, (claim (by decide +kernel)).trans (congrArg some text)⟩

end Budget

end PromptKit
