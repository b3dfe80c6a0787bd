import Testbed.Proofs.Number.Order

/-!
# Rounding of doubles

Results of arithmetic are rounded to doubles and written down as bits.  Rounding keeps the sign, a
number is not rounded below a power of two that it is not below, unless the power is too small for
doubles, and what is written down is read back, or is an infinity when it is too large.
-/

namespace Testbed

set_option autoImplicit false

open Float.Model (Format UnpackedFloat totalExponent)
open Float.Model.UnpackedFloat

/-- The significand and the exponent that a double has: the highest bit of the significand is the
one at 52, or the exponent is the least one. -/
def Canonical (m : Nat) (e : Int) : Prop := m.log2 = 52 ∧ -1074 ≤ e ∨ m.log2 < 52 ∧ e = -1074

/-- What a double can be. -/
def Rounded : UnpackedFloat → Prop
  | .finite _ m e _ => Canonical m e
  | _ => True

theorem targetExponent_eq (t : Int) : Format.binary64.targetExponent t = max (t - 53) (-1074) := rfl

theorem shifted_mantissa (em : ExtendedMantissa) (n : Nat) :
    (em >>> n).mantissa = em.mantissa / 2 ^ n := by
  induction n with
  | zero => exact (Nat.div_one _).symm
  | succ n ih =>
    change (em >>> n).mantissa / 2 = _
    rw [ih, Nat.div_div_eq_div_mul, Nat.pow_succ]

theorem mantissa_of_accuracy (m : Nat) (a : Accuracy) :
    (ExtendedMantissa.ofMantissaAndAccuracy m a).mantissa = m := by
  cases a with
  | exact => rfl
  | inexact o => cases o <;> rfl

theorem le_roundToNearestEven (m : Nat) (a : Accuracy) : m ≤ a.roundToNearestEven m := by
  cases a with
  | exact => exact Nat.le_refl _
  | inexact o => cases o <;> simp [Accuracy.roundToNearestEven]

theorem log2_div_two_pow {m n : Nat} (h : n ≤ m.log2) (hm : m ≠ 0) :
    0 < m / 2 ^ n ∧ (m / 2 ^ n).log2 = m.log2 - n := by
  have hle : 2 ^ n ≤ m := (Nat.le_log2 hm).mp h
  have hpos : 0 < m / 2 ^ n := Nat.div_pos hle (Nat.two_pow_pos n)
  refine ⟨hpos, (Nat.log2_eq_iff (Nat.ne_of_gt hpos)).mpr ⟨?_, ?_⟩⟩
  · rw [Nat.le_div_iff_mul_le (Nat.two_pow_pos n), ← Nat.pow_add, Nat.sub_add_cancel h]
    exact Nat.log2_self_le hm
  · rw [Nat.div_lt_iff_lt_mul (Nat.two_pow_pos n), ← Nat.pow_add]
    have hsum : m.log2 - n + 1 + n = m.log2 + 1 := by omega
    rw [hsum]
    exact Nat.lt_log2_self

theorem log2_mono {m n : Nat} (hm : m ≠ 0) (h : m ≤ n) : m.log2 ≤ n.log2 :=
  (Nat.le_log2 (by omega)).mpr (Nat.le_trans (Nat.log2_self_le hm) h)

theorem log2_shiftLeft {m : Nat} (hm : m ≠ 0) (n : Nat) : (m <<< n).log2 = m.log2 + n := by
  induction n with
  | zero => rfl
  | succ n ih =>
    have hne : m <<< n ≠ 0 := by simp [hm]
    rw [Nat.shiftLeft_succ, Nat.log2_two_mul hne, ih, Nat.add_assoc]

/-- The highest bit of a number that is not too small stays where it is. -/
theorem shift_canonical {m : Nat} {e : Int} (hm : m ≠ 0) (hsmall : -1074 ≤ m.log2 + e)
    (hwide : 52 ≤ m.log2 ∨ e ≤ -1074) (a : Accuracy) :
    ∃ n f, (shiftToTargetExponent .binary64 m e a).1.mantissa = n ∧
      (shiftToTargetExponent .binary64 m e a).2 = f ∧
      0 < n ∧ Canonical n f ∧ (n.log2 : Int) + f = m.log2 + e := by
  refine ⟨_, _, rfl, rfl, ?_⟩
  unfold shiftToTargetExponent shiftToExponent
  dsimp only
  rw [shifted_mantissa, mantissa_of_accuracy, targetExponent_eq, totalExponent]
  generalize hk : (max ((m.log2 : Int) + 1 + e - 53) (-1074) - e).toNat = k
  obtain ⟨hpos, hlog⟩ := log2_div_two_pow (n := k) (by omega) hm
  refine ⟨hpos, ?_, by omega⟩
  rw [Canonical, hlog]
  omega

/-- A number that is not below a power of two is not rounded below it. -/
theorem roundWithAccuracy_canonical {m : Nat} {e : Int} (hm : m ≠ 0)
    (hsmall : -1074 ≤ m.log2 + e) (hwide : 52 ≤ m.log2 ∨ e ≤ -1074) (s : Sign)
    (a : Accuracy) :
    ∃ n f h, roundWithAccuracy .binary64 s m e a = .finite s n f h ∧ Canonical n f ∧
      (m.log2 : Int) + e ≤ n.log2 + f := by
  obtain ⟨k, g, hk, hg, hkpos, hcanon, hkg⟩ := shift_canonical hm hsmall hwide a
  have hround := le_roundToNearestEven k (shiftToTargetExponent .binary64 m e a).1.accuracy
  generalize hr : Accuracy.roundToNearestEven k _ = r at hround
  have hlog : k.log2 ≤ r.log2 := log2_mono (by omega) hround
  -- rounding up may have made the significand too long, and it is shifted once more
  obtain ⟨n, f, hn, hf, hnpos, hnf, hsum⟩ :=
    shift_canonical (m := r) (e := g) (by omega) (by omega) (by unfold Canonical at hcanon; omega)
      .exact
  refine ⟨n, f, hnpos, ?_, hnf, by omega⟩
  have hrounded : (shiftToTargetExponent .binary64 m e a).1.roundedMantissa = r := by
    rw [ExtendedMantissa.roundedMantissa, hk, hr]
  unfold roundWithAccuracy
  simp only [hrounded, hg, hn, hf, Nat.ne_of_gt hnpos, ↓reduceDIte]

theorem round_canonical {m : Nat} {e : Int} (hm : m ≠ 0) (hsmall : -1074 ≤ m.log2 + e)
    (s : Sign) :
    ∃ n f h, UnpackedFloat.round .binary64 s m e = .finite s n f h ∧ Canonical n f ∧
      (m.log2 : Int) + e ≤ n.log2 + f := by
  unfold UnpackedFloat.round decreaseExponent
  dsimp only
  rw [targetExponent_eq, totalExponent]
  generalize hk : (e - max ((m.log2 : Int) + 1 + e - 53) (-1074)).toNat = k
  have hshift : m <<< k ≠ 0 := by simp [hm]
  have hlog : (m <<< k).log2 = m.log2 + k := log2_shiftLeft hm k
  obtain ⟨n, f, h, hround, hnf, hle⟩ :=
    roundWithAccuracy_canonical (e := e - k) hshift (by omega) (by omega) s .exact
  exact ⟨n, f, h, hround, hnf, by omega⟩

/-! Writing results down and reading them back. -/

theorem log2_implicit {n : Nat} (h : n < 2 ^ 52) : (2 ^ 52 + n).log2 = 52 :=
  (Nat.log2_eq_iff (by omega)).mpr ⟨by omega, by omega⟩

theorem implicit_add_mod {m : Nat} (h : m.log2 = 52) : 2 ^ 52 + m % 2 ^ 52 = m := by
  have hne : m ≠ 0 := by
    rintro rfl
    cases h
  obtain ⟨hle, hlt⟩ := (Nat.log2_eq_iff hne).mp h
  omega

theorem rounded_unpack (b : BitVec 64) : Rounded (unpack .binary64 b) := by
  have hmantissa := (@unpackMantissa .binary64 b).isLt
  unfold unpack
  dsimp only
  split
  case isTrue => split <;> trivial
  case isFalse =>
    split
    case isTrue hzero =>
      split
      · trivial
      case isFalse hne =>
        have hpos : (@unpackMantissa .binary64 b).toNat ≠ 0 :=
          fun h => hne (BitVec.eq_of_toNat_eq h)
        refine .inr ⟨(Nat.log2_lt hpos).mpr hmantissa, ?_⟩
        rw [hzero]
        rfl
    case isFalse hne =>
      have hpos : (@unpackExponent .binary64 b).toNat ≠ 0 :=
        fun h => hne (BitVec.eq_of_toNat_eq h)
      refine .inl ⟨?_, ?_⟩
      · rw [toNat_implicit_append]
        exact log2_implicit hmantissa
      · change _ ≤ ((@unpackExponent .binary64 b).toNat : Int) - 1075
        omega

theorem rounded_unpacked (x : Float) : Rounded (unpacked x) := rounded_unpack _

theorem unpack_normal {s : Sign} {m : Nat} {e : Int} {h : 0 < m} {n : Nat} (hm : m.log2 = 52)
    (hn : (n : Int) = e + 1075) (hpos : 0 < n) (hlt : n + 1 < 2 ^ 11) :
    unpack .binary64 (packComponents .binary64 s (BitVec.ofNat 11 n) (BitVec.ofNat 52 m)) =
      .finite s m e h := by
  have hexponent : (BitVec.ofNat 11 n).toNat = n := Nat.mod_eq_of_lt (by omega)
  have hzero : BitVec.ofNat 11 n ≠ 0#11 := by
    rw [Ne, ← BitVec.toNat_inj, hexponent]
    exact Nat.ne_of_gt hpos
  have hones : BitVec.ofNat 11 n ≠ -1#11 := by
    rw [Ne, ← BitVec.toNat_inj, hexponent]
    change n ≠ 2047
    omega
  have hmantissa : (1#1 ++ BitVec.ofNat 52 m).toNat = m := by
    rw [toNat_implicit_append, BitVec.toNat_ofNat, implicit_add_mod hm]
  unfold unpack
  simp only [unpackMantissa_packComponents, unpackExponent_packComponents,
    unpackSign_packComponents, Sign.ofBitVec_toBitVec, hzero, hones, ↓reduceIte, hexponent,
    hmantissa]
  congr 1
  change (n : Int) - 1075 = e
  omega

theorem unpack_subnormal {s : Sign} {m : Nat} {h : 0 < m} (hm : m.log2 < 52) :
    unpack .binary64 (packComponents .binary64 s 0#11 (BitVec.ofNat 52 m)) =
      .finite s m (-1074) h := by
  have hlt : m < 2 ^ 52 := (Nat.log2_lt (by omega)).mp hm
  have hmantissa : (BitVec.ofNat 52 m).toNat = m := Nat.mod_eq_of_lt hlt
  have hzero : BitVec.ofNat 52 m ≠ 0#52 := by
    rw [Ne, ← BitVec.toNat_inj, hmantissa]
    exact Nat.ne_of_gt h
  have hones : 0#11 ≠ -1#11 := by decide
  unfold unpack
  simp only [unpackMantissa_packComponents, unpackExponent_packComponents,
    unpackSign_packComponents, Sign.ofBitVec_toBitVec, hzero, hones, ↓reduceIte, ↓reduceDIte,
    hmantissa]
  rfl

/-- What is read back once a result is written down. -/
def stored (u : UnpackedFloat) : UnpackedFloat := unpack .binary64 (pack .binary64 u)

theorem stored_notANumber : stored .notANumber = .notANumber := unpack_packedNaN

theorem stored_infinity (s : Sign) : stored (.infinity s) = .infinity s := by
  cases s <;> rfl

theorem stored_zero (s : Sign) : stored (.zero s) = .zero s := unpack_packedZero

/-- A rounded result is read back, or an infinity when it is too large. -/
theorem stored_finite {s : Sign} {m : Nat} {e : Int} {h : 0 < m} (hc : Canonical m e) :
    stored (.finite s m e h) = .finite s m e h ∨ stored (.finite s m e h) = .infinity s := by
  have hbias : e + (Format.binary64.exponentBias : Int) + (52 : Nat) = e + 1075 := by
    change e + 1023 + 52 = _
    omega
  have hbits : Format.binary64.mantissaBits = 53 := rfl
  unfold stored pack
  dsimp only
  rw [hbias, hbits]
  by_cases hlarge : 2 ^ 11 ≤ (e + 1075).toNat + 1
  · rw [if_pos hlarge]
    exact .inr (stored_infinity s)
  · rw [if_neg hlarge]
    left
    rcases hc with ⟨hlog, he⟩ | ⟨hlog, rfl⟩
    · rw [if_pos (by omega)]
      exact unpack_normal hlog (by omega) (by omega) (by omega)
    · rw [if_neg (by omega)]
      exact unpack_subnormal hlog

theorem unpack_ne_notANumber {s : Sign} {e : BitVec 11} {m : BitVec 52} (h : e ≠ -1#11) :
    unpack .binary64 (packComponents .binary64 s e m) ≠ .notANumber := by
  unfold unpack
  simp only [unpackMantissa_packComponents, unpackExponent_packComponents, if_neg h]
  split
  · split <;> nofun
  · nofun

theorem stored_ne_notANumber {u : UnpackedFloat} (h : u ≠ .notANumber) :
    stored u ≠ .notANumber := by
  cases u with
  | notANumber => exact absurd rfl h
  | infinity s => exact ne_of_eq_of_ne (stored_infinity s) nofun
  | zero s => exact ne_of_eq_of_ne (stored_zero s) nofun
  | finite s m e hm =>
    unfold stored pack
    dsimp only
    split
    · exact ne_of_eq_of_ne (stored_infinity s) nofun
    case isFalse hsmall =>
      split
      · refine unpack_ne_notANumber fun hones => ?_
        have hnat := congrArg BitVec.toNat hones
        rw [BitVec.toNat_ofNat] at hnat
        change _ % 2 ^ 11 = 2047 at hnat
        change ¬ 2 ^ 11 ≤ _ at hsmall
        omega
      · exact unpack_ne_notANumber (by decide)

/-- Writing a result down keeps its side of zero. -/
theorem compare_stored {u : UnpackedFloat} (hu : Rounded u) :
    (stored u).compare (.zero .positive) = u.compare (.zero .positive) := by
  cases u with
  | notANumber => rw [stored_notANumber]
  | infinity s => rw [stored_infinity]
  | zero s => rw [stored_zero]
  | finite s m e h =>
    rcases stored_finite (h := h) hu with hs | hs
    · rw [hs]
    · rw [hs]
      cases s <;> rfl

/-- A whole number of units, at an exponent that is not too small, is rounded to its own side of
zero. -/
theorem normalize_rounded (d : Int) {e : Int} (he : -1074 ≤ e) :
    Rounded (UnpackedFloat.normalize .binary64 d e .positive) ∧
      (UnpackedFloat.normalize .binary64 d e .positive).compare (.zero .positive) =
        some (compare d 0) := by
  unfold UnpackedFloat.normalize
  cases hd : compare d 0 with
  | lt =>
    have hneg := Int.compare_eq_lt.mp hd
    obtain ⟨m, f, h, hround, hc, -⟩ :=
      round_canonical (m := (-d).toNat) (e := e) (by omega) (by omega) .negative
    dsimp only
    rw [hround]
    exact ⟨hc, rfl⟩
  | eq => exact ⟨trivial, rfl⟩
  | gt =>
    have hpos := Int.compare_eq_gt.mp hd
    obtain ⟨m, f, h, hround, hc, -⟩ :=
      round_canonical (m := d.toNat) (e := e) (by omega) (by omega) .positive
    dsimp only
    rw [hround]
    exact ⟨hc, rfl⟩

end Testbed
