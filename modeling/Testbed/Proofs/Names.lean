import Mathlib.Logic.Function.Basic
import Testbed.Proofs.Dsn.Query
import Testbed.Surroundings

/-!
# Unique names

The number at the end of a unique name can be read back from it, since it stands behind the last
underscore.  So names with different numbers are different, whatever they start with.
-/

namespace Testbed

set_option autoImplicit false

namespace Decimal

theorem padded_digits (width n : Nat) :
    ∀ c ∈ (Decimal.padded width n).toList, c.isDigit = true := by
  intro c hc
  rw [Decimal.padded, String.toList_ofList] at hc
  rcases List.mem_append.mp hc with hc | hc
  · rw [(List.mem_replicate.mp hc).2]
    rfl
  · exact Nat.isDigit_of_mem_toDigits (by decide) (by decide) hc

/-- The characters of a number are digits, or the sign. -/
theorem mem_ofInt {n : Int} {c : Char} (hc : c ∈ (Decimal.ofInt n).toList) :
    c = '-' ∨ c.isDigit = true := by
  cases n with
  | ofNat n =>
    rw [Decimal.ofInt, String.toList_ofList] at hc
    exact .inr (Nat.isDigit_of_mem_toDigits (by decide) (by decide) hc)
  | negSucc n =>
    rw [Decimal.ofInt, String.toList_ofList] at hc
    rcases List.mem_cons.mp hc with rfl | hc
    · exact .inl rfl
    · exact .inr (Nat.isDigit_of_mem_toDigits (by decide) (by decide) hc)

theorem ofInt_ne_nil (n : Int) : (Decimal.ofInt n).toList ≠ [] := by
  cases n with
  | ofNat n =>
    rw [Decimal.ofInt, String.toList_ofList]
    exact Nat.toDigits_ne_nil
  | negSucc n =>
    rw [Decimal.ofInt, String.toList_ofList]
    exact List.cons_ne_nil _ _

/-- The characters of a padded number are digits, or the sign. -/
theorem mem_paddedInt {width : Nat} {n : Int} {c : Char}
    (hc : c ∈ (Decimal.paddedInt width n).toList) : c = '-' ∨ c.isDigit = true := by
  cases n with
  | ofNat n => exact .inr (padded_digits width n c hc)
  | negSucc n =>
    rw [Decimal.paddedInt, String.toList_append] at hc
    rcases List.mem_append.mp hc with hc | hc
    · exact .inl (List.mem_singleton.mp hc)
    · exact .inr (padded_digits (width - 1) (n + 1) c hc)

/-- Zeros in front of a number do not change it. -/
theorem ofDigitChars_padded (width n : Nat) :
    Nat.ofDigitChars 10 (Decimal.padded width n).toList 0 = n := by
  have zeros (k : Nat) (ds : List Char) :
      Nat.ofDigitChars 10 (List.replicate k '0' ++ ds) 0 = Nat.ofDigitChars 10 ds 0 := by
    induction k with
    | zero => rfl
    | succ k ih =>
      rw [List.replicate_succ, List.cons_append, ← ih]
      rfl
  rw [Decimal.padded, String.toList_ofList, zeros]
  exact Nat.ofDigitChars_toDigits (by decide) (by decide)

theorem padded_injective (width : Nat) : Function.Injective (Decimal.padded width) := by
  intro m n h
  rw [← ofDigitChars_padded width m, ← ofDigitChars_padded width n, h]

/-- A number without a sign is not one with a sign. -/
theorem padded_ne_signed (width width' m n : Nat) :
    Decimal.padded width m ≠ "-" ++ Decimal.padded width' n := by
  intro h
  have hm : '-' ∈ (Decimal.padded width m).toList := by
    rw [h, String.toList_append]
    exact List.mem_append_left _ (List.mem_singleton_self _)
  cases padded_digits width m '-' hm

theorem paddedInt_injective (width : Nat) : Function.Injective (Decimal.paddedInt width) := by
  intro m n h
  cases m with
  | ofNat m =>
    cases n with
    | ofNat n => rw [padded_injective width h]
    | negSucc n => exact absurd h (padded_ne_signed _ _ _ _)
  | negSucc m =>
    cases n with
    | ofNat n => exact absurd h.symm (padded_ne_signed _ _ _ _)
    | negSucc n =>
      have hl := congrArg String.toList h
      simp only [Decimal.paddedInt, String.toList_append] at hl
      have hp := padded_injective _ (String.toList_injective (List.append_cancel_left hl))
      rw [Nat.add_right_cancel hp]

end Decimal

/-- A unique name tells what it was made from. -/
theorem uniqueName_inj {start start' : String} {m n : Int} :
    uniqueName start m = uniqueName start' n ↔ start = start' ∧ m = n := by
  have mark (k : Int) : '_' ∉ (Decimal.paddedInt 9 k).toList := fun hm =>
    absurd (Decimal.mem_paddedInt hm) (by decide)
  have cut (s : String) (k : Int) : Text.cutLast '_' (uniqueName s k).toList =
      (some s.toList, (Decimal.paddedInt 9 k).toList) := by
    rw [uniqueName, String.toList_append, String.toList_append, List.append_assoc]
    exact Dsn.cutLast_append (mark k) s.toList
  constructor
  · intro h
    have hcut := (cut start m).symm.trans ((congrArg _ (congrArg _ h)).trans (cut start' n))
    obtain ⟨hstart, hnumber⟩ := Prod.mk.inj hcut
    exact ⟨String.toList_injective (Option.some.inj hstart),
      Decimal.paddedInt_injective 9 (String.toList_injective hnumber)⟩
  · rintro ⟨rfl, rfl⟩
    rfl

/-- A unique name is longer than its start. -/
theorem uniqueName_ne (start : String) (n : Int) : uniqueName start n ≠ start := by
  intro h
  have hl := congrArg List.length (congrArg String.toList h)
  simp [uniqueName] at hl

theorem uniqueName_injective (start : String) : Function.Injective (uniqueName start) :=
  fun _ _ h => (uniqueName_inj.mp h).2

theorem uniqueName_ne_empty (start : String) (n : Int) : uniqueName start n ≠ "" := by
  intro he
  have hl := congrArg String.toList he
  simp [uniqueName] at hl

/-- A character of a unique name is one of its start, or a mark of the number. -/
theorem mem_uniqueName {start : String} {n : Int} {c : Char}
    (hc : c ∈ (uniqueName start n).toList) :
    c ∈ start.toList ∨ c = '_' ∨ c = '-' ∨ c.isDigit = true := by
  simp only [uniqueName, String.toList_append, List.mem_append] at hc
  rcases hc with (hc | hc) | hc
  · exact .inl hc
  · exact .inr (.inl (List.mem_singleton.mp hc))
  · exact .inr (.inr (Decimal.mem_paddedInt hc))

end Testbed
