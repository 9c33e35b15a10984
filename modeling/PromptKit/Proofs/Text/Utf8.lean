import PromptKit.Text.Utf8

/-!
UTF-8 is read back as it was written. Main statement: the bytes of characters decode to these
characters, without a flaw.
-/
namespace PromptKit.Text

theorem toNat_bounds (c : Char) : c.toNat < 0xd800 ∨ 0xdfff < c.toNat ∧ c.toNat < 0x110000 := c.valid

section Sequences

variable {n : Nat}

theorem follows?_of_two (wide : 0x80 ≤ n) (bounded : n < 0x800) :
    follows? (0xc0 + n / 64) = some (1, 0x80, 0xbf) := by
  have lead : 0xc2 ≤ 0xc0 + n / 64 ∧ 0xc0 + n / 64 ≤ 0xdf := by omega
  simp [follows?, lead]

/-- The bounds of a second byte leave out what is written shorter, and what is no character. -/
theorem follows?_of_three (wide : 0x800 ≤ n) (bounded : n < 0x10000) (scalar : n < 0xd800 ∨ 0xdfff < n) :
    ∃ low high, follows? (0xe0 + n / 4096) = some (2, low, high) ∧
      low ≤ 0x80 + n / 64 % 64 ∧ 0x80 + n / 64 % 64 ≤ high := by
  have lead : 0xe0 + n / 4096 ≤ 0xef := by omega
  by_cases first : 0xe0 + n / 4096 = 0xe0
  · exact ⟨0xa0, 0xbf, by simp [follows?, first], by omega⟩
  by_cases gap : 0xe0 + n / 4096 = 0xed
  · exact ⟨0x80, 0x9f, by simp [follows?, gap], by omega⟩
  · refine ⟨0x80, 0xbf, ?_, by omega⟩
    have wider : ¬ 0xe0 + n / 4096 ≤ 0xdf := by omega
    have middle : 0xe1 ≤ 0xe0 + n / 4096 := by omega
    simp only [follows?, first, gap, wider, middle, lead, decide_true, decide_false, Bool.and_self,
      Bool.and_false, Bool.false_eq_true, if_true, if_false]

theorem follows?_of_four (wide : 0x10000 ≤ n) (bounded : n < 0x110000) :
    ∃ low high, follows? (0xf0 + n / 262144) = some (3, low, high) ∧
      low ≤ 0x80 + n / 4096 % 64 ∧ 0x80 + n / 4096 % 64 ≤ high := by
  by_cases first : n / 262144 = 0
  · exact ⟨0x90, 0xbf, by simp [follows?, first], by omega⟩
  by_cases last : n / 262144 = 4
  · exact ⟨0x80, 0x8f, by simp [follows?, last], by omega⟩
  · refine ⟨0x80, 0xbf, ?_, by omega⟩
    have middle : n / 262144 = 1 ∨ n / 262144 = 2 ∨ n / 262144 = 3 := by omega
    obtain lead | lead | lead := middle <;> simp [follows?, lead]

variable (rest : List UInt8)

theorem decodeFrom_two (wide : 0x80 ≤ n) (bounded : n < 0x800) :
    decodeFrom .fresh (UInt8.ofNat (0xc0 + n / 64) :: UInt8.ofNat (0x80 + n % 64) :: rest) =
      some (Char.ofNat n) :: decodeFrom .fresh rest := by
  have whole : (0xc0 + n / 64) % (64 >>> 1) * 64 + (0x80 + n % 64) % 64 = n := by
    rw [show 64 >>> 1 = 32 from rfl]
    omega
  rw [decodeFrom_cons (by omega) _ (Decoding.step_of_lead (follows?_of_two wide bounded) (by omega)),
    decodeFrom_cons (by omega) _ (Decoding.step_of_last (by omega)), whole]
  rfl

theorem decodeFrom_three (wide : 0x800 ≤ n) (bounded : n < 0x10000) (scalar : n < 0xd800 ∨ 0xdfff < n) :
    decodeFrom .fresh (UInt8.ofNat (0xe0 + n / 4096) :: UInt8.ofNat (0x80 + n / 64 % 64) ::
      UInt8.ofNat (0x80 + n % 64) :: rest) = some (Char.ofNat n) :: decodeFrom .fresh rest := by
  obtain ⟨low, high, follows, within⟩ := follows?_of_three wide bounded scalar
  have whole : ((0xe0 + n / 4096) % (64 >>> 2) * 64 + (0x80 + n / 64 % 64) % 64) * 64 +
      (0x80 + n % 64) % 64 = n := by
    rw [show 64 >>> 2 = 16 from rfl]
    omega
  rw [decodeFrom_cons (by omega) _ (Decoding.step_of_lead follows (by omega)),
    decodeFrom_cons (by omega) _ (Decoding.step_of_trail within Nat.one_pos),
    decodeFrom_cons (by omega) _ (Decoding.step_of_last (by omega)), whole]
  rfl

theorem decodeFrom_four (wide : 0x10000 ≤ n) (bounded : n < 0x110000) :
    decodeFrom .fresh (UInt8.ofNat (0xf0 + n / 262144) :: UInt8.ofNat (0x80 + n / 4096 % 64) ::
      UInt8.ofNat (0x80 + n / 64 % 64) :: UInt8.ofNat (0x80 + n % 64) :: rest) =
      some (Char.ofNat n) :: decodeFrom .fresh rest := by
  obtain ⟨low, high, follows, within⟩ := follows?_of_four wide bounded
  have whole : (((0xf0 + n / 262144) % (64 >>> 3) * 64 + (0x80 + n / 4096 % 64) % 64) * 64 +
      (0x80 + n / 64 % 64) % 64) * 64 + (0x80 + n % 64) % 64 = n := by
    rw [show 64 >>> 3 = 8 from rfl]
    omega
  rw [decodeFrom_cons (by omega) _ (Decoding.step_of_lead follows (by omega)),
    decodeFrom_cons (by omega) _ (Decoding.step_of_trail within Nat.two_pos),
    decodeFrom_cons (by omega) _ (Decoding.step_of_trail (by omega) Nat.one_pos),
    decodeFrom_cons (by omega) _ (Decoding.step_of_last (by omega)), whole]
  rfl

end Sequences

theorem decodeFrom_charBytes (c : Char) (rest : List UInt8) :
    decodeFrom .fresh (charBytes c ++ rest) = some c :: decodeFrom .fresh rest := by
  have scalar := toNat_bounds c
  have same : c = Char.ofNat c.toNat := (Char.ofNat_toNat c).symm
  unfold charBytes
  generalize c.toNat = n at scalar same
  subst same
  simp only [Nat.div_one]
  by_cases one : n < 0x80
  · rw [if_pos one, List.singleton_append, decodeFrom_cons (by omega) rest (Decoding.step_of_ascii one)]
    rfl
  rw [if_neg one]
  by_cases two : n < 0x800
  · rw [if_pos two]
    exact decodeFrom_two rest (Nat.not_lt.mp one) two
  rw [if_neg two]
  by_cases three : n < 0x10000
  · rw [if_pos three]
    exact decodeFrom_three rest (Nat.not_lt.mp two) three (by omega)
  · rw [if_neg three]
    exact decodeFrom_four rest (Nat.not_lt.mp three) (by omega)

theorem decode_utf8Bytes (cs : List Char) : decode (utf8Bytes cs) = cs.map some := by
  induction cs with
  | nil => rfl
  | cons c rest ih =>
    rw [utf8Bytes, List.flatMap_cons, decode, decodeFrom_charBytes, List.map_cons]
    exact congrArg (some c :: ·) ih

theorem ofUtf8Lossy_utf8Bytes (cs : List Char) : ofUtf8Lossy (utf8Bytes cs) = String.ofList cs := by
  rw [ofUtf8Lossy, decode_utf8Bytes, List.map_map]
  exact congrArg String.ofList (List.map_id cs)

end PromptKit.Text
