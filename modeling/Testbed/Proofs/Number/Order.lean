import Mathlib
import Testbed.Number.Basic

/-!
# The order of doubles and of numbers

Doubles are compared through their signs, significands and exponents.  Two numbers that are not
ordered one way are ordered the other way, unless one of them is not a number.
-/

namespace Testbed

set_option autoImplicit false

open Float.Model (UnpackedFloat)

/-- A double as a special value, or as its sign, significand and exponent. -/
def unpacked (x : Float) : UnpackedFloat := x.toModel.unpack

theorem unpacked_compare_swap (a b : UnpackedFloat) :
    b.compare a = (a.compare b).map Ordering.swap := by
  cases a with
  | notANumber => cases b <;> rfl
  | infinity s =>
    cases b with
    | infinity t => cases s <;> cases t <;> rfl
    | _ => cases s <;> rfl
  | zero s =>
    cases b with
    | notANumber => rfl
    | infinity t | finite t => cases t <;> rfl
    | zero t => rfl
  | finite s m e =>
    cases b with
    | notANumber => rfl
    | infinity t => cases t <;> rfl
    | zero t => cases s <;> rfl
    | finite t n f =>
      have key : (compare e f).then (compare m n) = ((compare f e).then (compare n m)).swap := by
        rw [Ordering.swap_then, Int.compare_swap, Nat.compare_swap]
      cases s <;> cases t <;> simp [UnpackedFloat.compare, key]

theorem unpacked_compare_eq_none {a b : UnpackedFloat} :
    a.compare b = none ↔ a = .notANumber ∨ b = .notANumber := by
  cases a <;> cases b <;> simp [UnpackedFloat.compare] <;> split <;> simp_all

section Doubles

variable {x y : Float}

theorem lt_iff_compare : x < y ↔ (unpacked x).compare (unpacked y) = some .lt := by
  change decide (UnpackedFloat.lt (unpacked x) (unpacked y) = true) = true ↔ _
  rw [decide_eq_true_eq]
  exact beq_iff_eq

theorem le_iff_compare : x ≤ y ↔ ∃ o, (unpacked x).compare (unpacked y) = some o ∧ o.isLE := by
  change decide (UnpackedFloat.le (unpacked x) (unpacked y) = true) = true ↔ _
  rw [decide_eq_true_eq]
  exact Option.any_eq_true _ _

theorem beq_iff_compare : (x == y) = true ↔ (unpacked x).compare (unpacked y) = some .eq := by
  change UnpackedFloat.beq _ _ = true ↔ _
  exact beq_iff_eq

theorem isNaN_iff : x.isNaN = true ↔ unpacked x = .notANumber :=
  UnpackedFloat.isNaN_iff

theorem isNaN_eq_false_iff : x.isNaN = false ↔ unpacked x ≠ .notANumber := by
  rw [Bool.eq_false_iff, Ne, isNaN_iff]

theorem compare_isSome (hx : x.isNaN = false) (hy : y.isNaN = false) :
    ∃ o, (unpacked x).compare (unpacked y) = some o := by
  rw [← Option.isSome_iff_exists, Option.isSome_iff_ne_none, Ne, unpacked_compare_eq_none,
    ← isNaN_iff, ← isNaN_iff, hx, hy]
  simp

theorem compare_flip (o : Ordering) : (unpacked x).compare (unpacked y) = some o ↔
    (unpacked y).compare (unpacked x) = some o.swap := by
  rw [unpacked_compare_swap (unpacked x)]
  cases (unpacked x).compare (unpacked y) with
  | none => simp
  | some p => simp [Ordering.swap_inj]

/-- What is not below or equal is above, unless it is not a number. -/
theorem lt_of_not_le (hx : x.isNaN = false) (hy : y.isNaN = false) (h : ¬ x ≤ y) : y < x := by
  obtain ⟨o, ho⟩ := compare_isSome hx hy
  rw [lt_iff_compare, ← Ordering.swap_gt, ← compare_flip, ho]
  rw [le_iff_compare] at h
  cases o with
  | gt => rfl
  | lt | eq => exact absurd ⟨_, ho, rfl⟩ h

theorem le_of_not_lt (hx : x.isNaN = false) (hy : y.isNaN = false) (h : ¬ x < y) : y ≤ x := by
  obtain ⟨o, ho⟩ := compare_isSome hx hy
  rw [lt_iff_compare, ho] at h
  exact le_iff_compare.mpr ⟨o.swap, (compare_flip o).mp ho, by cases o <;> simp_all⟩

theorem isNaN_of_lt (h : x < y) : x.isNaN = false ∧ y.isNaN = false := by
  rw [lt_iff_compare] at h
  have hne : ¬ ((unpacked x).compare (unpacked y) = none) := by rw [h]; simp
  rw [unpacked_compare_eq_none, ← isNaN_iff, ← isNaN_iff] at hne
  simpa using hne

theorem isNaN_of_le (h : x ≤ y) : x.isNaN = false ∧ y.isNaN = false := by
  obtain ⟨o, ho, -⟩ := le_iff_compare.mp h
  have hne : ¬ ((unpacked x).compare (unpacked y) = none) := by rw [ho]; simp
  rw [unpacked_compare_eq_none, ← isNaN_iff, ← isNaN_iff] at hne
  simpa using hne

end Doubles

/-! The bits of a double. -/

theorem toNat_unpackExponent (b : BitVec 64) :
    (@UnpackedFloat.unpackExponent .binary64 b).toNat = b.toNat / 2 ^ 52 % 2 ^ 11 := by
  simp [UnpackedFloat.unpackExponent, Nat.shiftRight_eq_div_pow]

theorem toNat_unpackMantissa (b : BitVec 64) :
    (@UnpackedFloat.unpackMantissa .binary64 b).toNat = b.toNat % 2 ^ 52 := by
  simp [UnpackedFloat.unpackMantissa]

theorem toNat_implicit_append (b : BitVec 52) : (1#1 ++ b).toNat = 2 ^ 52 + b.toNat := by
  rw [BitVec.toNat_append, ← Nat.shiftLeft_add_eq_or_of_lt b.isLt]
  rfl

/-- The exact form of a double. -/
def Binary.ofUnpacked : UnpackedFloat → Binary
  | .notANumber => .nan
  | .infinity s => .infinite (s == .negative)
  | .zero s => .finite (s == .negative) 0 (-1074)
  | .finite s m e _ => .finite (s == .negative) m e

theorem ofBitVec_unpackSign (b : BitVec 64) :
    (UnpackedFloat.Sign.ofBitVec (@UnpackedFloat.unpackSign .binary64 b) == .negative) =
      (b.toNat / 2 ^ 63 % 2 == 1) := by
  have hsign : (@UnpackedFloat.unpackSign .binary64 b).toNat = b.toNat / 2 ^ 63 % 2 := by
    simp [UnpackedFloat.unpackSign, Nat.shiftRight_eq_div_pow]
  have hzero : @UnpackedFloat.unpackSign .binary64 b = 0#1 ↔ b.toNat / 2 ^ 63 % 2 = 0 := by
    rw [← BitVec.toNat_inj, hsign]
    rfl
  unfold UnpackedFloat.Sign.ofBitVec
  by_cases h : b.toNat / 2 ^ 63 % 2 = 0
  · rw [if_pos (hzero.mpr h), h]
    rfl
  · have hone : b.toNat / 2 ^ 63 % 2 = 1 := by omega
    rw [if_neg (mt hzero.mp h), hone]
    rfl

theorem Binary.ofFloat_eq (x : Float) : Binary.ofFloat x = Binary.ofUnpacked (unpacked x) := by
  have hexponent := toNat_unpackExponent x.toBits.toBitVec
  have hmantissa := toNat_unpackMantissa x.toBits.toBitVec
  have hones : @UnpackedFloat.unpackExponent .binary64 x.toBits.toBitVec = -1#11 ↔
      x.toBits.toNat / Nat.pow 2 52 % Nat.pow 2 11 = 2047 := by
    rw [← BitVec.toNat_inj, hexponent]
    rfl
  have hzero : @UnpackedFloat.unpackExponent .binary64 x.toBits.toBitVec = 0#11 ↔
      x.toBits.toNat / Nat.pow 2 52 % Nat.pow 2 11 = 0 := by
    rw [← BitVec.toNat_inj, hexponent]
    rfl
  have hnone : @UnpackedFloat.unpackMantissa .binary64 x.toBits.toBitVec = 0#52 ↔
      x.toBits.toNat % Nat.pow 2 52 = 0 := by
    rw [← BitVec.toNat_inj, hmantissa]
    rfl
  have hsign := ofBitVec_unpackSign x.toBits.toBitVec
  change _ = Binary.ofUnpacked (UnpackedFloat.unpack .binary64 x.toBits.toBitVec)
  unfold UnpackedFloat.unpack Binary.ofFloat
  simp only [beq_iff_eq, ← hones, ← hzero]
  by_cases ho : @UnpackedFloat.unpackExponent .binary64 x.toBits.toBitVec = -1#11
  · simp only [if_pos ho, ← hnone]
    split
    · exact congrArg Binary.infinite hsign.symm
    · rfl
  · simp only [if_neg ho]
    by_cases hz : @UnpackedFloat.unpackExponent .binary64 x.toBits.toBitVec = 0#11
    · simp only [if_pos hz]
      split
      case isTrue h => exact congrArg₂ (Binary.finite · · (-1074)) hsign.symm (hnone.mp h)
      case isFalse =>
        rw [Binary.ofUnpacked, hsign, hmantissa, hz]
        rfl
    · simp only [if_neg hz]
      rw [Binary.ofUnpacked, hsign, toNat_implicit_append, hmantissa, hexponent]
      rfl

theorem ofFloat_eq_nan {x : Float} : Binary.ofFloat x = .nan ↔ x.isNaN = true := by
  rw [Binary.ofFloat_eq, isNaN_iff]
  cases unpacked x <;> simp [Binary.ofUnpacked]

theorem compareInt_zero (negative : Bool) (m : Nat) (q : Int) :
    Binary.compareInt 0 (.finite negative m q) =
      some (compare 0
        (if negative then -((Binary.ratio m q).1 : Int) else (Binary.ratio m q).1)) := by
  simp only [Binary.compareInt, Int.zero_mul]
  rfl

namespace Num

/-- Whether a number is not one. -/
def isNaN : Num → Bool
  | .int _ => false
  | .real x => x.isNaN

theorem compare?_real (x y : Float) :
    compare? (.real x) (.real y) = (unpacked x).compare (unpacked y) := by
  have hlt := @lt_iff_compare x y
  have hgt := @lt_iff_compare y x
  rw [← Ordering.swap_gt, ← compare_flip] at hgt
  have heq := @beq_iff_compare x y
  rw [compare?]
  cases h : (unpacked x).compare (unpacked y) with
  | none => simp_all
  | some o => cases o <;> simp_all

/-- Whether a double is zero is the same question to whole numbers and to doubles. -/
theorem compare?_zero (x : Float) :
    compare? (.real x) (.int 0) = (unpacked x).compare (.zero .positive) := by
  change (Binary.compareInt 0 (Binary.ofFloat x)).map Ordering.swap = _
  rw [Binary.ofFloat_eq]
  cases unpacked x with
  | notANumber => rfl
  | infinity s => cases s <;> rfl
  | zero s =>
    have hratio : (Binary.ratio 0 (-1074)).1 = 0 := rfl
    rw [Binary.ofUnpacked, compareInt_zero, hratio]
    cases s <;> rfl
  | finite s m e h =>
    have hratio : 0 < (Binary.ratio m e).1 := by
      cases e with
      | ofNat k => exact Nat.mul_pos h (Nat.two_pow_pos k)
      | negSucc k => exact h
    rw [Binary.ofUnpacked, compareInt_zero]
    cases s with
    | negative =>
      have hgt : compare (0 : Int) (-(Binary.ratio m e).1) = .gt :=
        Int.compare_eq_gt.mpr (by omega)
      exact congrArg (fun o => some o.swap) hgt
    | positive =>
      have hlt : compare (0 : Int) (Binary.ratio m e).1 = .lt := Int.compare_eq_lt.mpr (by omega)
      exact congrArg (fun o => some o.swap) hlt

theorem compare?_swap (a b : Num) : compare? b a = (compare? a b).map Ordering.swap := by
  cases a with
  | int i =>
    cases b with
    | int j => simp [compare?, Int.compare_swap]
    | real y => rfl
  | real x =>
    cases b with
    | int j => simp [compare?, Function.comp_def]
    | real y => rw [compare?_real, compare?_real, unpacked_compare_swap]

theorem compare?_eq_none {a b : Num} :
    compare? a b = none ↔ a.isNaN = true ∨ b.isNaN = true := by
  have hint (i : Int) (x : Float) :
      Binary.compareInt i (Binary.ofFloat x) = none ↔ x.isNaN = true := by
    rw [← ofFloat_eq_nan]
    unfold Binary.compareInt
    split <;> simp [*]
  cases a with
  | int i =>
    cases b with
    | int j => simp [compare?, isNaN]
    | real y => simpa [compare?, isNaN] using hint i y
  | real x =>
    cases b with
    | int j => simpa [compare?, isNaN] using hint j x
    | real y =>
      change _ ↔ x.isNaN = true ∨ y.isNaN = true
      rw [compare?_real, unpacked_compare_eq_none, isNaN_iff, isNaN_iff]

section Order

variable {a b : Num}

theorem below_iff : below a b = true ↔ compare? a b = some .lt := beq_iff_eq

theorem below_real {x y : Float} : below (.real x) (.real y) = true ↔ x < y := by
  rw [below_iff, compare?_real, lt_iff_compare]

theorem atMost_of_isNaN (h : a.isNaN = true ∨ b.isNaN = true) : atMost a b = false := by
  rw [atMost, compare?_eq_none.mpr h]

theorem atMost_of_below (h : below b a = true) : atMost a b = false := by
  rw [atMost, compare?_swap b, below_iff.mp h]
  rfl

theorem below_of_not_atMost (ha : a.isNaN = false) (hb : b.isNaN = false)
    (h : atMost a b = false) : below b a = true := by
  rw [below_iff, compare?_swap a]
  rw [atMost] at h
  cases hc : compare? a b with
  | none =>
    rcases compare?_eq_none.mp hc with hn | hn
    · cases ha.symm.trans hn
    · cases hb.symm.trans hn
  | some o => cases o <;> simp [hc] at h ⊢

end Order

end Num

end Testbed
