import Testbed.Number.Parse
import Testbed.Proofs.Number.Arithmetic

/-!
# Texts that name NaN

A text is read as NaN when it names it, in any case and with or without a sign.  No numeral, however
large, small or long, is read as NaN.
-/

namespace Testbed

set_option autoImplicit false

namespace Parse

/-- The name of NaN in any case, perhaps with a sign and in between blanks. -/
def NamesNaN (text : String) : Prop :=
  ∃ cs ∈ prepare? text, String.ofList ((sign cs).2.map Char.toLower) = "nan"

instance (text : String) : Decidable (NamesNaN text) :=
  inferInstanceAs (Decidable (∃ cs ∈ prepare? text, _ = "nan"))

variable {text : String} {cs : List Char} {x : Float}

theorem isNaN_scale (m : Nat) (e : Int) : (scale m e).isNaN = false := by
  unfold scale
  dsimp only
  split
  · decide +kernel
  · split
    · decide +kernel
    · split
      · decide +kernel
      · split
        · exact isNaN_ofScientific ..
        · exact isNaN_ofScientific ..

theorem isNaN_magnitude (h : magnitude? cs = some x) : x.isNaN = false := by
  unfold magnitude? at h
  simp only [Option.bind_eq_bind, Option.bind_eq_some_iff, Option.pure_def,
    Option.some.injEq] at h
  obtain ⟨-, -, e, -, rfl⟩ := h
  exact isNaN_scale ..

theorem isNaN_signed (negative : Bool) (x : Float) :
    (if negative then -x else x).isNaN = x.isNaN := by
  cases negative with
  | false => rfl
  | true => exact isNaN_neg x

/-- What is read from a text is not a number exactly when the text says so. -/
theorem float?_isNaN (h : float? text = some x) : x.isNaN = true ↔ NamesNaN text := by
  unfold float? at h
  obtain ⟨cs, hcs, h⟩ := Option.bind_eq_some_iff.mp h
  have hnames : NamesNaN text ↔ String.ofList ((sign cs).2.map Char.toLower) = "nan" := by
    simp [NamesNaN, hcs]
  rw [hnames]
  dsimp only at h
  split at h
  case h_1 hname | h_2 hname | h_3 hname =>
    cases h
    rw [isNaN_signed, hname]
    decide +kernel
  case h_4 hname =>
    obtain ⟨y, hy, rfl⟩ := Option.map_eq_some_iff.mp h
    rw [isNaN_signed, isNaN_magnitude hy]
    simpa using hname

example : NamesNaN " -NaN\n" ∧ ¬ NamesNaN "1e999999999999" := by decide +kernel

end Parse

end Testbed
