import Mathlib.Data.Option.Basic
import Testbed.Fault.Numeral
import Testbed.Proofs.Names

/-!
# Whole numbers that are read back

A whole number is read from its decimal text as it was, up to the limit of digits.
-/

namespace Testbed

set_option autoImplicit false

namespace Parse

/-- A character that decimal texts are made of. -/
def IsNumeric (c : Char) : Prop := c = '-' ∨ c.isDigit = true

section Numeric

variable {c : Char} {cs : List Char}

theorem mem_numerals (h : IsNumeric c) : c ∈ "-0123456789".toList := by
  rcases h with rfl | hd
  · decide
  · rw [Char.isDigit, Bool.and_eq_true, decide_eq_true_eq, decide_eq_true_eq, ge_iff_le,
      UInt32.le_iff_toNat_le, UInt32.le_iff_toNat_le] at hd
    have bounded : ∀ n, n ≤ 57 → 48 ≤ n → Char.ofNat n ∈ "-0123456789".toList := by decide
    rw [← Char.ofNat_toNat c]
    exact bounded c.toNat hd.2 hd.1

theorem plain_numeric (h : IsNumeric c) : plain c = c := by
  have hall : "-0123456789".toList.all (fun d => plain d == d) = true := by decide
  exact beq_iff_eq.mp (List.all_eq_true.mp hall c (mem_numerals h))

theorem isPadding_numeric (h : IsNumeric c) : isPadding c = false := by
  have hall : "-0123456789".toList.all (fun d => !isPadding d) = true := by decide
  exact Bool.not_eq_true' _ |>.mp (List.all_eq_true.mp hall c (mem_numerals h))

theorem dropPadding_numeric (h : ∀ c ∈ cs, IsNumeric c) : cs.dropWhile isPadding = cs := by
  cases cs with
  | nil => rfl
  | cons c cs =>
    have hc := isPadding_numeric (h c List.mem_cons_self)
    rw [List.dropWhile_cons_of_neg (by simp [hc])]

theorem trim_numeric (h : ∀ c ∈ cs, IsNumeric c) : trim cs = cs := by
  have hr : ∀ c ∈ cs.reverse, IsNumeric c := fun c hc => h c (List.mem_reverse.mp hc)
  rw [trim, dropPadding_numeric h, dropPadding_numeric hr, List.reverse_reverse]

theorem dropUnderscores?_numeric (h : ∀ c ∈ cs, IsNumeric c) : dropUnderscores? cs = some cs := by
  fun_induction dropUnderscores? cs with
  | case1 => rfl
  | case2 rest => exact absurd (h '_' List.mem_cons_self) (by simp [IsNumeric])
  | case3 c => rfl
  | case4 c d rest hd ih =>
    exact absurd (h '_' (List.mem_cons_of_mem _ List.mem_cons_self)) (by simp [IsNumeric])
  | case5 c d rest hd =>
    exact absurd (h '_' (List.mem_cons_of_mem _ List.mem_cons_self)) (by simp [IsNumeric])
  | case6 c rest _ _ _ ih =>
    rw [ih fun d hd => h d (List.mem_cons_of_mem _ hd)]
    rfl

theorem prepare?_numeric (h : ∀ c ∈ cs, IsNumeric c) : prepare? (String.ofList cs) = some cs := by
  have hplain : cs.map plain = cs :=
    (List.map_congr_left fun c hc => plain_numeric (h c hc)).trans (List.map_id cs)
  rw [prepare?, String.toList_ofList, hplain, trim_numeric h, dropUnderscores?_numeric h]

end Numeric

theorem natOf_digits (n : Nat) : natOf (Decimal.digits n) = n := by
  rw [natOf, ← Nat.ofDigitChars_eq_foldl]
  exact Nat.ofDigitChars_toDigits (by decide) (by decide)

theorem sign_digits {ds : List Char} (h : ∀ c ∈ ds, c.isDigit = true) : sign ds = (false, ds) := by
  rw [sign]
  · rintro rest rfl
    cases h '-' List.mem_cons_self
  · rintro rest rfl
    cases h '+' List.mem_cons_self

/-- A run of digits is read as a number when it is not too long. -/
theorem int?_digits {ds : List Char} (hne : ds ≠ []) (hd : ∀ c ∈ ds, c.isDigit = true) :
    int? (String.ofList ds) = if ds.length ≤ digitLimit then some ↑(natOf ds) else none := by
  rw [int?, prepare?_numeric fun c hc => .inr (hd c hc)]
  simp only [Option.bind_eq_bind, Option.bind_some, sign_digits hd,
    List.isEmpty_eq_false_iff.mpr hne, List.all_eq_true.mpr hd]
  by_cases hl : ds.length ≤ digitLimit
  · rw [if_pos hl, decide_eq_true hl]
    rfl
  · rw [if_neg hl, decide_eq_false hl]
    rfl

/-- A whole number is read from its text. -/
theorem int?_ofInt {i : Int} (h : (Decimal.digits i.natAbs).length ≤ digitLimit) :
    int? (Decimal.ofInt i) = some i := by
  have hdigits (n : Nat) : ∀ c ∈ Decimal.digits n, c.isDigit = true := fun c hc =>
    Nat.isDigit_of_mem_toDigits (by decide) (by decide) hc
  have hne (n : Nat) : Decimal.digits n ≠ [] := Nat.toDigits_ne_nil
  cases i with
  | ofNat n =>
    have hl : (Decimal.digits n).length ≤ digitLimit := h
    rw [Decimal.ofInt, int?_digits (hne n) (hdigits n), if_pos hl, natOf_digits]
    rfl
  | negSucc n =>
    have hl : (Decimal.digits (n + 1)).length ≤ digitLimit := h
    have hp : prepare? (String.ofList ('-' :: Decimal.digits (n + 1))) =
        some ('-' :: Decimal.digits (n + 1)) := by
      refine prepare?_numeric fun c hc => ?_
      exact (List.mem_cons.mp hc).imp_right fun hc => hdigits (n + 1) c hc
    rw [int?, Decimal.ofInt, hp]
    simp only [Option.bind_eq_bind, Option.bind_some, sign, List.isEmpty_eq_false_iff.mpr (hne _),
      List.all_eq_true.mpr (hdigits (n + 1)), decide_eq_true hl, natOf_digits]
    rfl

end Parse

/-- The number that a run of digits stands for; a run that is too long is refused. -/
theorem Numeral.whole_digits {text : String} (hne : text.toList ≠ [])
    (hd : ∀ c ∈ text.toList, c.isDigit = true) :
    Numeral.whole text = if text.toList.length ≤ Parse.digitLimit
      then .ok ↑(Parse.natOf text.toList) else .error (Numeral.badWhole text) := by
  have hread := Parse.int?_digits hne hd
  rw [String.ofList_toList] at hread
  rw [Numeral.whole, hread]
  split <;> rfl

end Testbed
