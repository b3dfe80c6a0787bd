import Testbed.Proofs.Number.Rounding

/-!
# Products, sums and differences of doubles

A positive double is at least a power of two, and so are whole numbers and products.  The sum of a
finite double and another one is a number, and the difference of two doubles is ordered with zero
as they are ordered with one another: no rounding makes different doubles meet.
-/

namespace Testbed

set_option autoImplicit false

open Float.Model (Format UnpackedFloat totalExponent)
open Float.Model.UnpackedFloat

variable {x y : Float} {u v : UnpackedFloat} {j k : Int}

theorem unpacked_mul (x y : Float) :
    unpacked (x * y) = stored (mul .binary64 (unpacked x) (unpacked y)) := rfl

theorem unpacked_add (x y : Float) :
    unpacked (x + y) = stored (add .binary64 (unpacked x) (unpacked y)) := rfl

theorem unpacked_sub (x y : Float) :
    unpacked (x - y) = stored (sub .binary64 (unpacked x) (unpacked y)) := rfl

theorem unpacked_zero : unpacked 0 = .zero .positive := rfl

/-! Numbers that are not below a power of two. -/

/-- A double that is not below two to a given power. -/
inductive AtLeast (k : Int) : UnpackedFloat → Prop
  | infinity : AtLeast k (.infinity .positive)
  | finite {m : Nat} {e : Int} {h : 0 < m} (canonical : Canonical m e)
      (bound : k ≤ m.log2 + e) : AtLeast k (.finite .positive m e h)

theorem AtLeast.stored (h : AtLeast k u) : AtLeast k (stored u) := by
  cases h with
  | infinity => exact .infinity
  | finite canonical bound =>
    rcases stored_finite canonical with hs | hs <;> rw [hs]
    · exact .finite canonical bound
    · exact .infinity

theorem atLeast_roundWithAccuracy {m : Nat} {e : Int} (hm : m ≠ 0) (hk : k ≤ m.log2 + e)
    (hsmall : -1074 ≤ k) (hwide : 52 ≤ m.log2 ∨ e ≤ -1074) (a : Accuracy) :
    AtLeast k (roundWithAccuracy .binary64 .positive m e a) := by
  obtain ⟨n, f, h, hround, hc, hle⟩ :=
    roundWithAccuracy_canonical hm (by omega) hwide .positive a
  rw [hround]
  exact .finite hc (by omega)

theorem atLeast_round {m : Nat} {e : Int} (hm : m ≠ 0) (hk : k ≤ m.log2 + e)
    (hsmall : -1074 ≤ k) : AtLeast k (UnpackedFloat.round .binary64 .positive m e) := by
  obtain ⟨n, f, h, hround, hc, hle⟩ := round_canonical (e := e) hm (by omega) .positive
  rw [hround]
  exact .finite hc (by omega)

theorem mul_finite (spec : Format) (s t : Sign) (m n : Nat) (e f : Int) (hm : 0 < m) (hn : 0 < n) :
    mul spec (.finite s m e hm) (.finite t n f hn) =
      roundWithAccuracy spec (s * t) (m * n) (e + f) .exact := rfl

theorem log2_add_le {m n : Nat} (hm : m ≠ 0) (hn : n ≠ 0) : m.log2 + n.log2 ≤ (m * n).log2 := by
  rw [Nat.le_log2 (Nat.mul_ne_zero hm hn), Nat.pow_add]
  exact Nat.mul_le_mul (Nat.log2_self_le hm) (Nat.log2_self_le hn)

theorem AtLeast.mul (hu : AtLeast j u) (hv : AtLeast k v) (hk : -1022 ≤ k)
    (hjk : -1074 ≤ j + k) : AtLeast (j + k) (mul .binary64 u v) := by
  cases hu with
  | infinity => cases hv <;> exact .infinity
  | @finite m e hm _ hj =>
    cases hv with
    | infinity => exact .infinity
    | @finite n f hn hc hkn =>
      have hlog := log2_add_le (Nat.ne_of_gt hm) (Nat.ne_of_gt hn)
      unfold Canonical at hc
      rw [mul_finite]
      exact atLeast_roundWithAccuracy (Nat.ne_of_gt (Nat.mul_pos hm hn)) (by omega) hjk
        (by omega) .exact

theorem atLeast_ofUInt64 {n : UInt64} (h : n.toNat ≠ 0) : AtLeast 0 (ofUInt64 .binary64 n) := by
  have hpos : compare (n.toNat : Int) 0 = .gt := Int.compare_eq_gt.mpr (by omega)
  unfold ofUInt64 ofNat ofInt UnpackedFloat.normalize
  rw [hpos]
  exact atLeast_round h (by omega) (by decide)

theorem atLeast_ofScientific {n : Nat} (h : n ≠ 0) : AtLeast 0 (ofScientific .binary64 n 0) := by
  have hlog := log2_shiftLeft h 53
  unfold ofScientific
  rw [dif_neg h, if_neg (by decide), if_neg ?_, if_pos (by decide), mul_finite]
  · have hmantissa : n <<< Format.binary64.mantissaBits * 10 ^ (0 : Int).toNat = n <<< 53 :=
      Nat.mul_one _
    have hexponent : -(Format.binary64.mantissaBits : Int) + 0 = -53 := rfl
    have hsign : Sign.positive * Sign.positive = .positive := rfl
    rw [hmantissa, hexponent, hsign]
    exact atLeast_roundWithAccuracy (e := -53) (by simp [h]) (by omega) (by decide) (by omega)
      .exact
  · change ¬ (0 : Int) < -(2048 + n.log2)
    omega

/-- The double of a positive whole number is not below one. -/
theorem atLeast_ofNat {n : Nat} (h : n ≠ 0) : AtLeast 0 (unpacked (Float.ofNat n)) := by
  change AtLeast 0 (unpacked (Float.ofScientific n false 0))
  unfold Float.ofScientific
  split
  case isTrue hsmall =>
    have hn : n.toUInt64.toNat ≠ 0 := by
      rw [Nat.toUInt64_eq, UInt64.toNat_ofNat']
      omega
    have hone : AtLeast 0 (unpacked (Float.ofBits 0x3FF0000000000000)) :=
      .finite (.inl ⟨by decide, by decide⟩) (by decide)
    exact ((atLeast_ofUInt64 hn).stored.mul hone (by decide) (by decide)).stored
  case isFalse => exact (atLeast_ofScientific h).stored

/-! Signs. -/

theorem pos_iff_atLeast : 0 < x ↔ AtLeast (-1074) (unpacked x) := by
  have hx := rounded_unpacked x
  rw [lt_iff_compare, unpacked_zero]
  generalize unpacked x = u at hx
  constructor
  · intro h
    cases u with
    | notANumber | zero _ => simp [UnpackedFloat.compare] at h
    | infinity s =>
      cases s with
      | negative => simp [UnpackedFloat.compare] at h
      | positive => exact .infinity
    | finite s m e hm =>
      cases s with
      | negative => simp [UnpackedFloat.compare] at h
      | positive =>
        refine .finite hx ?_
        unfold Rounded Canonical at hx
        omega
  · intro h
    cases h <;> rfl

/-- What is not below a positive number is positive. -/
theorem pos_of_le (hx : 0 < x) (h : x ≤ y) : 0 < y := by
  rw [pos_iff_atLeast] at hx
  obtain ⟨o, ho, hle⟩ := le_iff_compare.mp h
  rw [lt_iff_compare, unpacked_zero]
  generalize unpacked x = u at *
  generalize unpacked y = v at *
  cases v with
  | notANumber => cases hx <;> cases ho
  | zero s => cases hx <;> cases ho <;> cases hle
  | infinity s | finite s =>
    cases s with
    | positive => rfl
    | negative => cases hx <;> cases ho <;> cases hle

/-! Differences. -/

section Exact

variable {m n : Nat} {e f : Int}

theorem lt_shiftLeft (hm : Canonical m e) (hn : Canonical n f) (h : e < f) :
    m < n <<< (f - e).toNat := by
  unfold Canonical at hm hn
  have hlog : n.log2 = 52 := by omega
  have hne : n ≠ 0 := by
    rintro rfl
    cases hlog
  have hlow : 2 ^ 52 ≤ n := (Nat.le_log2 hne).mp (Nat.le_of_eq hlog.symm)
  have hhigh : m < 2 ^ 53 := by
    have hlt : m < 2 ^ (m.log2 + 1) := Nat.lt_log2_self
    have hle : 2 ^ (m.log2 + 1) ≤ 2 ^ 53 := Nat.pow_le_pow_right (by decide) (by omega)
    omega
  obtain ⟨k, hk⟩ : ∃ k, (f - e).toNat = k + 1 := ⟨(f - e).toNat - 1, by omega⟩
  have hpow : 1 ≤ 2 ^ k := Nat.one_le_two_pow
  calc m < 2 ^ 52 * 2 := hhigh
    _ ≤ n * 2 ^ (k + 1) := Nat.mul_le_mul hlow (by omega)
    _ = n <<< (f - e).toNat := by rw [hk, Nat.shiftLeft_eq]

/-- Numbers are ordered as their significands are, brought to the smaller exponent. -/
theorem compare_magnitudes (hm : Canonical m e) (hn : Canonical n f) :
    (compare e f).then (compare m n) =
      compare ((m <<< (e - min e f).toNat : Nat) : Int) (n <<< (f - min e f).toNat : Nat) := by
  rcases Int.lt_trichotomy e f with h | rfl | h
  · have hlt := lt_shiftLeft hm hn h
    have hmin : min e f = e := by omega
    rw [Int.compare_eq_lt.mpr h, hmin, Int.sub_self]
    exact (Int.compare_eq_lt.mpr (Int.ofNat_lt.mpr hlt)).symm
  · have hself : compare e e = .eq := Int.compare_eq_eq.mpr rfl
    rw [hself, Int.min_self, Int.sub_self]
    change compare m n = compare (m : Int) n
    rw [Int.compare_eq_ite_lt, Nat.compare_eq_ite_lt]
    simp
  · have hlt := lt_shiftLeft hn hm h
    have hmin : min e f = f := by omega
    rw [Int.compare_eq_gt.mpr h, hmin, Int.sub_self]
    exact (Int.compare_eq_gt.mpr (Int.ofNat_lt.mpr hlt)).symm

theorem compare_finite {s t : Sign} {hm : 0 < m} {hn : 0 < n} (hcm : Canonical m e)
    (hcn : Canonical n f) :
    (UnpackedFloat.finite s m e hm).compare (.finite t n f hn) =
      some (compare (s.apply (m <<< (e - min e f).toNat : Nat))
        (t.apply (n <<< (f - min e f).toNat : Nat))) := by
  have hmag := compare_magnitudes hcm hcn
  have hmpos : m <<< (e - min e f).toNat ≠ 0 := by simp [Nat.ne_of_gt hm]
  have hnpos : n <<< (f - min e f).toNat ≠ 0 := by simp [Nat.ne_of_gt hn]
  generalize m <<< (e - min e f).toNat = a at *
  generalize n <<< (f - min e f).toNat = b at *
  cases s with
  | positive =>
    cases t with
    | positive => exact congrArg some hmag
    | negative =>
      change some Ordering.gt = some (compare (a : Int) (-b))
      rw [Int.compare_eq_gt.mpr (by omega)]
  | negative =>
    cases t with
    | positive =>
      change some Ordering.lt = some (compare (-a : Int) b)
      rw [Int.compare_eq_lt.mpr (by omega)]
    | negative =>
      change some (Ordering.swap _) = some (compare (-a : Int) (-b))
      rw [hmag, Int.compare_swap]
      simp only [Int.compare_eq_ite_lt, Int.neg_lt_neg_iff]

end Exact

theorem isFinite_iff : x.isFinite = true ↔
    (∃ s, unpacked x = .zero s) ∨ ∃ s m e h, unpacked x = .finite s m e h := by
  change UnpackedFloat.isFinite (unpacked x) = true ↔ _
  cases unpacked x with
  | notANumber | infinity _ | zero _ => simp [UnpackedFloat.isFinite]
  | finite s m e h => exact ⟨fun _ => .inr ⟨s, m, e, h, rfl⟩, fun _ => rfl⟩

theorem compare_sub_zero (a b : Int) : compare (a - b) 0 = compare a b := by
  simp only [Int.compare_eq_ite_lt]
  grind

/-- The difference of two doubles is on that side of zero on which they are of one another. -/
theorem compare_sub (hy : y.isFinite = true) :
    (unpacked (x - y)).compare (.zero .positive) = (unpacked x).compare (unpacked y) := by
  have hu := rounded_unpacked x
  have hv := rounded_unpacked y
  rw [isFinite_iff] at hy
  rw [unpacked_sub]
  generalize unpacked x = u at *
  generalize unpacked y = v at *
  suffices hsub : Rounded (sub .binary64 u v) ∧
      (sub .binary64 u v).compare (.zero .positive) = u.compare v from
    (compare_stored hsub.1).trans hsub.2
  rcases hy with ⟨t, rfl⟩ | ⟨t, n, f, hn, rfl⟩
  · cases u with
    | notANumber => exact ⟨trivial, rfl⟩
    | infinity s => cases s <;> exact ⟨trivial, rfl⟩
    | zero s => cases s <;> cases t <;> exact ⟨trivial, rfl⟩
    | finite s m e hm => cases s <;> exact ⟨hu, rfl⟩
  · cases u with
    | notANumber => exact ⟨trivial, rfl⟩
    | infinity s => cases s <;> exact ⟨trivial, rfl⟩
    | zero s => cases t <;> exact ⟨hv, rfl⟩
    | finite s m e hm =>
      rw [compare_finite hu hv]
      unfold Rounded Canonical at hu hv
      obtain ⟨hr, hcompare⟩ := normalize_rounded (s.apply (m <<< (e - min e f).toNat : Nat) -
        t.apply (n <<< (f - min e f).toNat : Nat)) (e := min e f) (by omega)
      exact ⟨hr, hcompare.trans (congrArg some (compare_sub_zero _ _))⟩

/-! Results that are numbers. -/

theorem roundWithAccuracy_ne_notANumber {spec : Format} {s : Sign} {m : Nat} {e : Int}
    {a : Accuracy} : roundWithAccuracy spec s m e a ≠ .notANumber := by
  unfold roundWithAccuracy
  dsimp only
  split <;> nofun

theorem normalize_ne_notANumber {spec : Format} {d e : Int} {s : Sign} :
    UnpackedFloat.normalize spec d e s ≠ .notANumber := by
  unfold UnpackedFloat.normalize
  split
  · exact roundWithAccuracy_ne_notANumber
  · nofun
  · exact roundWithAccuracy_ne_notANumber

section Finite

variable {spec : Format} {s : Sign} {m : Nat} {e : Int} {h : 0 < m}

theorem mul_ne_notANumber (hu : u ≠ .notANumber) : mul spec u (.finite s m e h) ≠ .notANumber := by
  cases u with
  | notANumber => exact hu
  | infinity _ | zero _ => nofun
  | finite => exact roundWithAccuracy_ne_notANumber

theorem div_ne_notANumber (hu : u ≠ .notANumber) : div spec u (.finite s m e h) ≠ .notANumber := by
  cases u with
  | notANumber => exact hu
  | infinity _ | zero _ => nofun
  | finite => exact roundWithAccuracy_ne_notANumber

end Finite

theorem ofScientific_ne_notANumber {spec : Format} {m : Nat} {e : Int} :
    ofScientific spec m e ≠ .notANumber := by
  unfold ofScientific
  split
  · nofun
  · split
    · nofun
    · split
      · nofun
      · split
        · exact mul_ne_notANumber nofun
        · exact div_ne_notANumber nofun

theorem isNaN_eq (x : Float) : x.isNaN = !(x.isFinite || x.isInf) := by
  change UnpackedFloat.isNaN (unpacked x) =
    !(UnpackedFloat.isFinite (unpacked x) || UnpackedFloat.isInf (unpacked x))
  cases unpacked x <;> rfl

theorem le_self (hx : x.isNaN = false) : x ≤ x := by
  refine le_of_not_lt hx hx fun hlt => ?_
  rw [lt_iff_compare] at hlt
  cases hlt.symm.trans ((compare_flip .lt).mp hlt)

/-- The sum of a finite double and of a double that is a number is a number. -/
theorem isNaN_add (hx : x.isFinite = true) (hy : y.isNaN = false) : (x + y).isNaN = false := by
  rw [isFinite_iff] at hx
  rw [isNaN_eq_false_iff] at hy ⊢
  rw [unpacked_add]
  refine stored_ne_notANumber ?_
  generalize unpacked x = u at *
  generalize unpacked y = v at *
  rcases hx with ⟨s, rfl⟩ | ⟨s, m, e, hm, rfl⟩
  · cases v with
    | notANumber => exact absurd rfl hy
    | infinity _ | finite => nofun
    | zero t => cases s <;> cases t <;> nofun
  · cases v with
    | notANumber => exact absurd rfl hy
    | infinity _ | zero _ => nofun
    | finite => exact normalize_ne_notANumber

theorem isNaN_mul (hx : x.isNaN = true) (y : Float) : (x * y).isNaN = true := by
  rw [isNaN_iff] at hx ⊢
  rw [unpacked_mul, hx]
  exact stored_notANumber

theorem isNaN_add_of_isNaN (x : Float) (hy : y.isNaN = true) : (x + y).isNaN = true := by
  rw [isNaN_iff] at hy ⊢
  have hsum : add .binary64 (unpacked x) .notANumber = .notANumber := by cases unpacked x <;> rfl
  rw [unpacked_add, hy, hsum]
  exact stored_notANumber

theorem powersOfTen_finite :
    ∀ p ∈ Float.exactlyRepresentablePowersOfTen, 0 < p ∧ p.isFinite = true := by
  decide +kernel

theorem isNaN_ofScientific (m : Nat) (s : Bool) (e : Nat) :
    (Float.ofScientific m s e).isNaN = false := by
  rw [isNaN_eq_false_iff]
  unfold Float.ofScientific
  split
  case isTrue h =>
    have hbound : e < Float.exactlyRepresentablePowersOfTen.size := Nat.lt_succ_of_le h.2
    obtain ⟨hpos, hfinite⟩ := powersOfTen_finite _ (Array.getElem_mem hbound)
    have hu : unpacked m.toUInt64.toFloat ≠ .notANumber :=
      stored_ne_notANumber normalize_ne_notANumber
    generalize Float.exactlyRepresentablePowersOfTen[e] = p at *
    rcases isFinite_iff.mp hfinite with ⟨t, ht⟩ | ⟨t, n, f, hn, ht⟩
    · rw [lt_iff_compare, ht] at hpos
      cases hpos
    · split
      · refine stored_ne_notANumber (ne_of_eq_of_ne (congrArg (div .binary64 _) ht) ?_)
        exact div_ne_notANumber hu
      · refine stored_ne_notANumber (ne_of_eq_of_ne (congrArg (mul .binary64 _) ht) ?_)
        exact mul_ne_notANumber hu
  case isFalse => exact stored_ne_notANumber ofScientific_ne_notANumber

theorem isNaN_neg (x : Float) : (-x).isNaN = x.isNaN := by
  rw [Bool.eq_iff_iff, isNaN_iff, isNaN_iff]
  change stored (unpacked x).neg = _ ↔ _
  constructor
  · intro h
    cases hx : unpacked x with
    | notANumber => rfl
    | infinity _ | zero _ | finite => exact absurd h (stored_ne_notANumber (by rw [hx]; nofun))
  · intro h
    rw [h]
    rfl

theorem isNaN_ofInt (i : Int) : (Float.ofInt i).isNaN = false := by
  cases i with
  | ofNat n => exact isNaN_ofScientific n false 0
  | negSucc n => exact (isNaN_neg _).trans (isNaN_ofScientific (n + 1) false 0)

end Testbed
