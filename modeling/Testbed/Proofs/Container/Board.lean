import Testbed.Container.Expiry

/-!
# Timers on the expiry board

On a board that only its own operations have changed, every running timer is the one registered
for its container, and no two containers share one.
-/

namespace Testbed.ExpiryBoard

set_option autoImplicit false

variable {b : ExpiryBoard}

/-- A timer is running for a container. -/
def Armed (b : ExpiryBoard) (key : ContainerKey) : Prop := ∃ a ∈ b.armed, a.key = key

structure WellFormed (b : ExpiryBoard) : Prop where
  registered : ∀ a ∈ b.armed, b.registered? a.key = some a.serial
  unique : ∀ j k n, b.registered? j = some n → b.registered? k = some n → j = k
  serial : ∀ k n, b.registered? k = some n → n < b.nextSerial

theorem registered?_unregister_of_ne {j k : ContainerKey} (h : j ≠ k) :
    (b.unregister k).registered? j = b.registered? j := by
  unfold registered? unregister
  induction b.table with
  | nil => rfl
  | cons e rest ih =>
    obtain ⟨i, n⟩ := e
    by_cases hi : i = k
    · subst hi
      have hj : (j == i) = false := by simpa using h
      simpa [List.lookup_cons, hj] using ih
    · by_cases hj : j = i
      · subst hj
        simp [h]
      · have hj' : (j == i) = false := by simpa using hj
        simpa [hi, List.lookup_cons, hj'] using ih

/-- A board on which a container without a timer was given the next one. -/
def enter (b : ExpiryBoard) (k : ContainerKey) : ExpiryBoard :=
  { b with table := b.table ++ [(k, b.nextSerial)], nextSerial := b.nextSerial + 1 }

theorem register_eq (b : ExpiryBoard) (k : ContainerKey) : b.register k = (b.cancel k).enter k := by
  unfold register cancel
  cases b.registered? k <;> rfl

theorem registered?_enter {k : ContainerKey} (h : b.registered? k = none) (j : ContainerKey) :
    (b.enter k).registered? j = if j = k then some b.nextSerial else b.registered? j := by
  unfold registered? enter at *
  rw [List.lookup_append]
  by_cases hj : j = k
  · subst hj
    simp [h]
  · have hj' : (j == k) = false := by simpa using hj
    simp [hj, List.lookup_cons, hj']

/-- The timer that was registered last is the newest one. -/
theorem registered?_register (b : ExpiryBoard) (k : ContainerKey) :
    (b.register k).registered? k = some (b.register k).newest := by
  rw [register_eq, registered?_enter (registered?_cancel b k), if_pos rfl]
  rfl

theorem wellFormed_empty : WellFormed {} where
  registered a h := by cases h
  unique j k n h := by cases h
  serial k n h := by cases h

theorem not_armed_empty (k : ContainerKey) : ¬ Armed {} k := by
  rintro ⟨a, h, -⟩
  cases h

namespace WellFormed

theorem stop (h : b.WellFormed) (n : Nat) : (b.stop n).WellFormed where
  registered a ha := h.registered a (List.mem_filter.mp ha).1
  unique := h.unique
  serial := h.serial

/-- Stopping the timer of a container stops no other one. -/
theorem armed_stop (h : b.WellFormed) {k : ContainerKey} {n : Nat}
    (hk : b.registered? k = some n) (j : ContainerKey) :
    (b.stop n).Armed j ↔ j ≠ k ∧ b.Armed j := by
  constructor
  · rintro ⟨a, ha, rfl⟩
    obtain ⟨ha, hn⟩ := List.mem_filter.mp ha
    refine ⟨fun hj => ?_, a, ha, rfl⟩
    have := h.registered a ha
    rw [hj, hk, Option.some.injEq] at this
    simp [this] at hn
  · rintro ⟨hj, a, ha, rfl⟩
    refine ⟨a, List.mem_filter.mpr ⟨ha, ?_⟩, rfl⟩
    rw [bne_iff_ne]
    intro hn
    exact hj (h.unique _ _ n (hn ▸ h.registered a ha) hk)

theorem unregister (h : b.WellFormed) {k : ContainerKey} (hk : ¬ b.Armed k) :
    (b.unregister k).WellFormed where
  registered a ha := by
    rw [registered?_unregister_of_ne fun hj => hk ⟨a, ha, hj⟩]
    exact h.registered a ha
  unique i j n hi hj := by
    have hik : i ≠ k := by
      rintro rfl
      rw [registered?_unregister] at hi
      cases hi
    have hjk : j ≠ k := by
      rintro rfl
      rw [registered?_unregister] at hj
      cases hj
    rw [registered?_unregister_of_ne hik] at hi
    rw [registered?_unregister_of_ne hjk] at hj
    exact h.unique i j n hi hj
  serial j n hj := by
    have hjk : j ≠ k := by
      rintro rfl
      rw [registered?_unregister] at hj
      cases hj
    rw [registered?_unregister_of_ne hjk] at hj
    exact h.serial j n hj

/-- A container without a registered timer has no running one. -/
theorem not_armed (h : b.WellFormed) {k : ContainerKey} (hk : b.registered? k = none) :
    ¬ b.Armed k := by
  rintro ⟨a, ha, rfl⟩
  have := h.registered a ha
  rw [hk] at this
  cases this

theorem cancel (h : b.WellFormed) (k : ContainerKey) : (b.cancel k).WellFormed ∧
    ∀ j, (b.cancel k).Armed j ↔ j ≠ k ∧ b.Armed j := by
  unfold ExpiryBoard.cancel
  cases hk : b.registered? k with
  | none =>
    refine ⟨h.unregister (h.not_armed hk), fun j => ⟨fun ha => ⟨?_, ha⟩, fun ha => ha.2⟩⟩
    rintro rfl
    exact h.not_armed hk ha
  | some n =>
    have ha := h.armed_stop hk
    exact ⟨(h.stop n).unregister fun hk' => ((ha k).mp hk').1 rfl, ha⟩

theorem enter (h : b.WellFormed) {k : ContainerKey} (hk : b.registered? k = none) :
    (b.enter k).WellFormed where
  registered a ha := by
    have hak : a.key ≠ k := fun hj => h.not_armed hk ⟨a, ha, hj⟩
    rw [registered?_enter hk, if_neg hak]
    exact h.registered a ha
  unique i j n hi hj := by
    rw [registered?_enter hk] at hi hj
    split at hi <;> split at hj <;> rename_i hi' hj'
    · rw [hi', hj']
    · rw [← Option.some.inj hi] at hj
      exact absurd (h.serial j _ hj) (Nat.lt_irrefl _)
    · rw [← Option.some.inj hj] at hi
      exact absurd (h.serial i _ hi) (Nat.lt_irrefl _)
    · exact h.unique i j n hi hj
  serial j n hj := by
    rw [registered?_enter hk] at hj
    split at hj
    · rw [← Option.some.inj hj]
      exact Nat.lt_succ_self _
    · exact Nat.lt_succ_of_lt (h.serial j n hj)

theorem register (h : b.WellFormed) (k : ContainerKey) : (b.register k).WellFormed ∧
    ∀ j, (b.register k).Armed j ↔ j ≠ k ∧ b.Armed j := by
  rw [register_eq]
  exact ⟨(h.cancel k).1.enter (registered?_cancel b k), (h.cancel k).2⟩

theorem arm (h : b.WellFormed) {a : Alarm} (ha : b.registered? a.key = some a.serial) :
    (b.arm a).WellFormed ∧ ∀ j, (b.arm a).Armed j ↔ j = a.key ∨ b.Armed j := by
  refine ⟨⟨fun x hx => ?_, h.unique, h.serial⟩, fun j => ?_⟩
  · rcases List.mem_append.mp hx with hx | hx
    · exact h.registered x hx
    · rw [List.mem_singleton.mp hx]
      exact ha
  · simp only [Armed, ExpiryBoard.arm, List.mem_append, List.mem_singleton]
    constructor
    · rintro ⟨x, hx | rfl, rfl⟩
      · exact .inr ⟨x, hx, rfl⟩
      · exact .inl rfl
    · rintro (rfl | ⟨x, hx, rfl⟩)
      · exact ⟨a, .inr rfl, rfl⟩
      · exact ⟨x, .inl hx, rfl⟩

end WellFormed

end Testbed.ExpiryBoard
