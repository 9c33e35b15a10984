import PromptKit.Decimal.Binary64

/-!
Dropping the fraction of a double. A double stores the exponent of its leading bit, so one above one has
a mantissa of full length that is shifted down by less than that length, and at least one is left.
-/
namespace PromptKit.Decimal

open Float.Model UnpackedFloat

theorem mantissa_shiftRight (m : ExtendedMantissa) (n : Nat) : (m >>> n).mantissa = m.mantissa >>> n := by
  change (n.repeat ExtendedMantissa.shiftRightOne m).mantissa = m.mantissa >>> n
  induction n with
  | zero => rfl
  | succ n ih =>
    rw [Nat.repeat, Nat.shiftRight_succ, ← ih]
    rfl

/-- A double has a mantissa of full length, or the least exponent. -/
theorem hiddenBit_le_or_least {bits : BitVec Format.binary64.numBits} {s : Sign} {m : Nat} {e : Int}
    {pos : 0 < m} (unpacked : UnpackedFloat.unpack Format.binary64 bits = .finite s m e pos) :
    hiddenBit ≤ m ∨ e = -1074 := by
  unfold UnpackedFloat.unpack at unpacked
  by_cases special : unpackExponent bits = -BitVec.ofNat _ 1
  · rw [if_pos special] at unpacked
    by_cases infinite : unpackMantissa bits = BitVec.ofNat _ 0
    · rw [if_pos infinite] at unpacked
      cases unpacked
    · rw [if_neg infinite] at unpacked
      cases unpacked
  rw [if_neg special] at unpacked
  by_cases least : unpackExponent bits = BitVec.ofNat _ 0
  · rw [if_pos least] at unpacked
    by_cases zero : unpackMantissa bits = BitVec.ofNat _ 0
    · rw [dif_pos zero] at unpacked
      cases unpacked
    · rw [dif_neg zero] at unpacked
      injection unpacked with _ _ exponent
      right
      rw [least] at exponent
      exact exponent.symm
  · rw [if_neg least] at unpacked
    injection unpacked with _ mantissa _
    left
    rw [← mantissa, BitVec.toNat_append, Nat.or_comm]
    exact Nat.right_le_or

theorem one_le_shiftRight {m shift : Nat} (full : hiddenBit ≤ m) (short : shift ≤ 52) : 1 ≤ m >>> shift := by
  rw [Nat.shiftRight_eq_div_pow]
  have small := Nat.pow_le_pow_right Nat.two_pos short
  exact Nat.div_pos (Nat.le_trans small full) (Nat.two_pow_pos shift)

theorem roundToInt_positive (m : Nat) (e : Int) :
    roundToInt .positive m e = ((m <<< e.toNat) >>> (-e).toNat : Nat) := by
  have shift : (0 - (e - (e.toNat : Int))).toNat = (-e).toNat := by omega
  simp only [roundToInt, decreaseExponent, shiftToExponent, mantissa_shiftRight, Int.sub_zero, shift]
  rfl

theorem one_le_roundToInt {m : Nat} {e : Int} (full : hiddenBit ≤ m) (large : -52 ≤ e) :
    1 ≤ roundToInt .positive m e := by
  have scaled : hiddenBit ≤ m <<< e.toNat := Nat.le_trans full (Nat.le_shiftLeft)
  have short : (-e).toNat ≤ 52 := by omega
  have one := one_le_shiftRight scaled short
  rw [roundToInt_positive]
  omega

/-- A double above one is no less than one where its fraction is dropped; beyond all doubles the
greatest whole number stands. -/
theorem one_le_toInt {x : UnpackedFloat} {greatest : Int} {bits : BitVec Format.binary64.numBits}
    (unpacked : UnpackedFloat.unpack Format.binary64 bits = x) (large : 1 ≤ greatest)
    (above : UnpackedFloat.lt (.finite .positive hiddenBit (-52) (by decide)) x = true) :
    1 ≤ x.toInt 0 greatest := by
  have order : UnpackedFloat.compare _ x = some .lt := beq_iff_eq.mp above
  -- all but positive numbers are found to be less, or not to be compared at all
  have notGreater : some Ordering.gt ≠ some .lt := by decide
  cases x with
  | notANumber => cases order
  | zero s => exact absurd order notGreater
  | infinity s =>
    cases s with
    | negative => exact absurd order notGreater
    | positive => exact large
  | finite s m e pos =>
    cases s with
    | negative => exact absurd order notGreater
    | positive =>
      have order : (compare (-52) e).then (compare hiddenBit m) = .lt := Option.some.inj order
      rw [Ordering.then_eq_lt, Int.compare_eq_lt, Int.compare_eq_eq, Nat.compare_eq_lt] at order
      have full : hiddenBit ≤ m := by
        rcases hiddenBit_le_or_least unpacked with full | least
        · exact full
        · omega
      exact one_le_roundToInt full (by omega)

theorem one_le_toUInt64 {x : Float} (above : x > 1.0) : 1 ≤ x.toUInt64.toNat := by
  have less : UnpackedFloat.lt (1.0 : Float).toModel.unpack x.toModel.unpack = true :=
    of_decide_eq_true above
  have one : 1 ≤ x.toModel.unpack.toInt 0 ((UInt64.size : Int) - 1) := one_le_toInt rfl (by decide) less
  change 1 ≤ (UInt64.ofNatClamp (x.toModel.unpack.toInt 0 ((UInt64.size : Int) - 1)).toNat).toNat
  rw [UInt64.ofNatClamp]
  split
  · rw [UInt64.toNat_ofNatLT]
    omega
  · decide

end PromptKit.Decimal
