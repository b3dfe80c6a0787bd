import Testbed.Readiness.TimeScale

/-!
# Times that are doubles

A clock tells doubles.  What is computed from its times and from durations in the range of doubles
are doubles again, and can be written down.
-/

namespace Testbed

set_option autoImplicit false

theorem later_of_real (x : Float) (n : Num) :
    numScale.later (.real x) n = inRange (n.toReal?.map fun w => Num.real (x + w)) := by
  cases n with
  | real w => rfl
  | int i =>
    have hx : (Num.real x).toReal? = some x := rfl
    cases hi : (Num.int i).toReal? with
    | none => simp [numScale, Num.add?, Num.combine?, hi]
    | some w => simp [numScale, Num.add?, Num.combine?, hx, hi]

theorem later_real (x y : Float) : numScale.later (.real x) (.real y) = .ok (.real (x + y)) := rfl

/-- What can be added to one double can be added to each. -/
theorem later_of_ok {x : Float} {n d : Num} (h : numScale.later (.real x) n = .ok d) (y : Float) :
    ∃ z, numScale.later (.real y) n = .ok (.real z) := by
  rw [later_of_real] at h ⊢
  cases hn : n.toReal? with
  | none =>
    rw [hn] at h
    cases h
  | some w => exact ⟨y + w, rfl⟩

theorem left_real (x y : Float) : ∃ z, numScale.left (.real x) (.real y) = .ok (.real z) := by
  change ∃ z, inRange (some (Num.atLeastZero (.real (y - x)))) = .ok (.real z)
  unfold Num.atLeastZero
  split
  · exact ⟨_, rfl⟩
  · exact ⟨_, rfl⟩

theorem times_real (x : Float) (k : Nat) :
    numScale.times (.real x) k = .real (((Num.int k).toReal?.map (x * ·)).getD x) := by
  have hmul : Num.mul? (.real x) (.int (Int.ofNat k)) =
      (Num.int (Int.ofNat k)).toReal?.bind fun y => some (.real (x * y)) := rfl
  change (Num.mul? (.real x) (.int (Int.ofNat k))).getD (.real x) = _
  rw [hmul]
  cases hk : (Num.int (Int.ofNat k)).toReal? <;> simp_all

theorem times_real_isSome (x : Float) (k : Nat) :
    (numScale.times (.real x) k).toReal?.isSome = true := by
  rw [times_real]
  rfl

namespace Num

theorem least_eq (a b : Num) : least a b = a ∨ least a b = b := by
  unfold least
  split
  · exact .inr rfl
  · exact .inl rfl

theorem least_isSome {a b : Num} (ha : a.toReal?.isSome = true) (hb : b.toReal?.isSome = true) :
    (least a b).toReal?.isSome = true := by
  rcases least_eq a b with h | h <;> rw [h]
  · exact ha
  · exact hb

end Num

theorem brief_of_isSome {n : Num} (h : n.toReal?.isSome = true) :
    ∃ text, numScale.brief n = .ok text := by
  obtain ⟨x, hx⟩ := Option.isSome_iff_exists.mp h
  refine ⟨Decimal.fixedFloat 2 x, ?_⟩
  change inRange (n.toReal?.map (Decimal.fixedFloat 2)) = _
  rw [hx]
  rfl

end Testbed
