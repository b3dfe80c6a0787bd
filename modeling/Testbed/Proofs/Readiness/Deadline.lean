import Mathlib.Algebra.Order.Floor.Semiring
import Mathlib.Data.Rat.Floor
import Testbed.Proofs.Readiness.Rounds

/-!
# A wait ends at its deadline

In exact time, a wait for an instance that never becomes ready is over once the deadline has
passed.  The time that is left bounds the number of probes, since every sleep is either as long as
the shortest delay or reaches the deadline.
-/

namespace Testbed

set_option autoImplicit false

open Act

variable {σ : Type}

def exactScale (text brief : ℚ → String) : TimeScale ℚ where
  later a b := .ok (a + b)
  left now deadline := .ok (max (deadline - now) 0)
  times a n := a * n
  least a b := min a b
  isZero a := a == 0
  text := text
  brief a := .ok (brief a)

namespace Polling

/-- A wait in exact time for an instance that never becomes ready.  Every probe fails, in no time or
in some, and a sleep takes exactly as long as it is asked to. -/
structure Hopeless (p : Polling ℚ σ) : Prop where
  scale : ∃ text brief, p.scale = exactScale text brief
  timeout : 0 ≤ p.timeout
  interval : 0 < p.interval
  maxBackoff : 0 < p.maxBackoff
  probe : ∀ s, ∃ e t, p.probe p.endpoint s = (.error e, t) ∧ p.Transient e ∧
    p.clock.now s ≤ p.clock.now t
  sleep : ∀ d s, 0 < d → ∃ t, p.clock.sleep d s = (.ok (), t) ∧ p.clock.now t = p.clock.now s + d
  write : ∀ level topic text s, p.clock.now (p.diary.write level topic text s) = p.clock.now s

def shortest (p : Polling ℚ σ) : ℚ := min p.interval p.maxBackoff

/-- How a wait runs out of time from some state on, after a number of earlier probes. -/
structure Expires (p : Polling ℚ σ) (deadline : ℚ) (earlier : Nat) (s : σ)
    (result : Except Fault Unit) (events : List (WaitEvent ℚ σ)) (t : σ) : Prop where
  /-- The wait raises its own fault once the last probe has ended, which is not before the
  deadline. -/
  last : ∃ u f, events.getLast? = some (.probe p.endpoint u (.error f) t) ∧
    result = .error (Fault.raisedFrom (p.timedOut (earlier + events.countP (·.isProbe)) f) f) ∧
    deadline ≤ p.clock.now t
  probes : events.countP (·.isProbe) ≤ ⌈(deadline - p.clock.now s) / p.shortest⌉₊ + 1
  sleeps : ∀ d u q v, .sleep d u q v ∈ events → 0 < d ∧ p.clock.now v ≤ deadline
  /-- With probes that take no time, the wait ends exactly at the deadline. -/
  exact : (∀ e u q v, .probe e u q v ∈ events → p.clock.now v = p.clock.now u) →
    p.clock.now t = deadline

namespace Hopeless

variable {p : Polling ℚ σ} {deadline : ℚ}

theorem shortest_pos (h : p.Hopeless) : 0 < p.shortest := lt_min h.interval h.maxBackoff

theorem later_eq (h : p.Hopeless) (a b : ℚ) : p.scale.later a b = .ok (a + b) := by
  obtain ⟨text, brief, hs⟩ := h.scale
  rw [hs]
  rfl

theorem left_eq (h : p.Hopeless) (t : σ) :
    p.left deadline t = .ok (max (deadline - p.clock.now t) 0) := by
  obtain ⟨text, brief, hs⟩ := h.scale
  rw [left, hs]
  rfl

theorem isZero_iff (h : p.Hopeless) (d : ℚ) : p.scale.isZero d = true ↔ d = 0 := by
  obtain ⟨text, brief, hs⟩ := h.scale
  rw [hs]
  exact beq_iff_eq

theorem nap_eq (h : p.Hopeless) (k : Nat) (d : ℚ) :
    p.nap k d = min (min (p.interval * k) p.maxBackoff) d := by
  obtain ⟨text, brief, hs⟩ := h.scale
  rw [nap, hs]
  rfl

theorem measures (h : p.Hopeless) : p.Measures deadline where
  left t := ⟨_, h.left_eq t⟩
  brief k hk t d hd := by
    obtain ⟨text, brief, hs⟩ := h.scale
    exact ⟨brief (p.nap k d), by rw [hs]; rfl⟩

/-- A sleep that is not cut to the time that is left is not shorter than the shortest delay. -/
theorem nap_bounds (h : p.Hopeless) (k : Nat) {d : ℚ} (hd : 0 < d) :
    0 < p.nap (k + 1) d ∧ p.nap (k + 1) d ≤ d ∧
      (p.nap (k + 1) d = d ∨ p.shortest ≤ p.nap (k + 1) d) := by
  have hshort : p.shortest ≤ min (p.interval * (k + 1 : Nat)) p.maxBackoff := by
    have hk : (1 : ℚ) ≤ (k + 1 : Nat) := by exact_mod_cast Nat.succ_le_succ (Nat.zero_le k)
    exact min_le_min_right _ (le_mul_of_one_le_right h.interval.le hk)
  rw [h.nap_eq]
  refine ⟨lt_min (h.shortest_pos.trans_le hshort) hd, min_le_right _ _, ?_⟩
  rcases le_total d (min (p.interval * (k + 1 : Nat)) p.maxBackoff) with hle | hle
  · exact .inl (min_eq_right hle)
  · rw [min_eq_left hle]
    exact .inr hshort

theorem ceil_lt_ceil {m x y : ℚ} (hm : 0 < m) (hx : 0 < x) (hy : 0 ≤ y) (h : y = 0 ∨ y + m ≤ x) :
    ⌈y / m⌉₊ < ⌈x / m⌉₊ := by
  rw [Nat.lt_ceil]
  rcases h with rfl | h
  · rw [zero_div, Nat.ceil_zero, Nat.cast_zero]
    exact div_pos hx hm
  · calc (⌈y / m⌉₊ : ℚ) < y / m + 1 := Nat.ceil_lt_add_one (div_nonneg hy hm.le)
      _ = (y + m) / m := by rw [add_div, div_self hm.ne']
      _ ≤ x / m := div_le_div_of_nonneg_right h hm.le

/-- What a round does in exact time: its sleep ends no later than the deadline, and fewer probes are
to come. -/
theorem round (h : p.Hopeless) {k : Nat} {s u : σ} {q : Except Fault Unit}
    {events : List (WaitEvent ℚ σ)} (hr : p.Round deadline (k + 1) s q u events) :
    ∃ e t d v, q = .ok () ∧
      events = [.probe p.endpoint s (.error e) t, .sleep d v (.ok ()) u] ∧ 0 < d ∧
      p.clock.now u ≤ deadline ∧
      ⌈(deadline - p.clock.now u) / p.shortest⌉₊ < ⌈(deadline - p.clock.now s) / p.shortest⌉₊ := by
  cases hr with
  | @mk t _ e d _ text hprobe he hleft hz hsleep =>
    rw [h.left_eq] at hleft
    cases hleft
    have hpos : 0 < deadline - p.clock.now t := by
      by_contra hle
      rw [Bool.eq_false_iff, Ne, h.isZero_iff] at hz
      exact hz (max_eq_right (not_lt.mp hle))
    rw [max_eq_left hpos.le] at hsleep ⊢
    obtain ⟨hnap, hcut, hlong⟩ := h.nap_bounds k hpos
    obtain ⟨u', hu, hnow⟩ := h.sleep _ (p.diary.write .debug .readiness text t) hnap
    cases hu.symm.trans hsleep
    rw [h.write] at hnow
    have hlater : p.clock.now s ≤ p.clock.now t := by
      obtain ⟨_, _, hp, -, hle⟩ := h.probe s
      cases hp.symm.trans hprobe
      exact hle
    refine ⟨e, t, _, _, rfl, rfl, hnap, by linarith, ?_⟩
    refine ceil_lt_ceil h.shortest_pos (by linarith) (by linarith) ?_
    rcases hlong with hd | hd
    · exact .inl (by linarith)
    · exact .inr (by linarith)

/-- A wait that starts before its deadline runs out of time when enough probes are allowed. -/
theorem expires (h : p.Hopeless) {n k earlier : Nat} {s t : σ} {r : Except Fault Unit}
    {events : List (WaitEvent ℚ σ)} (hr : p.Runs deadline n k s r t events) (hk : k = earlier + 1)
    (hs : p.clock.now s ≤ deadline) (hn : ⌈(deadline - p.clock.now s) / p.shortest⌉₊ < n) :
    p.Expires deadline earlier s r events t := by
  -- the time left at the start of a round bounds the rounds to come
  induction hr generalizing earlier with
  | cut => exact absurd hn (Nat.not_lt_zero _)
  | ready _ hprobe =>
    obtain ⟨_, _, hp, -⟩ := h.probe _
    cases hp.symm.trans hprobe
  | refused hprobe he =>
    obtain ⟨_, _, hp, ht, -⟩ := h.probe _
    cases hp.symm.trans hprobe
    exact absurd ht he
  | @timedOut n k s t e d hprobe he hleft hz =>
    subst hk
    rw [h.left_eq] at hleft
    cases hleft
    rw [h.isZero_iff, max_eq_right_iff, sub_nonpos] at hz
    refine ⟨⟨s, e, rfl, rfl, hz⟩, Nat.le_add_left _ _, by simp, fun hinstant => ?_⟩
    have hnow := hinstant p.endpoint s (.error e) t (List.mem_singleton_self _)
    exact le_antisymm (hnow.trans_le hs) hz
  | disturbed hround =>
    subst hk
    obtain ⟨_, _, _, _, hq, -⟩ := h.round hround
    cases hq
  | @again n k s u t r events more hround _ ih =>
    subst hk
    obtain ⟨e, w, d, v, -, rfl, hd, hu, hlt⟩ := h.round hround
    have hmore := ih rfl hu (by omega)
    obtain ⟨x, f, hlast, hresult, hdeadline⟩ := hmore.last
    have hcount : ([WaitEvent.probe p.endpoint s (.error e) w, .sleep d v (.ok ()) u] ++
        more).countP (·.isProbe) = 1 + more.countP (·.isProbe) := by
      rw [List.countP_append]
      rfl
    refine ⟨⟨x, f, ?_, ?_, hdeadline⟩, ?_, ?_, fun hinstant => ?_⟩
    · rw [List.getLast?_append, hlast, Option.some_or]
    · rw [hresult, hcount, Nat.add_assoc]
    · have := hmore.probes
      omega
    · intro d' u' q' v' hmem
      rcases List.mem_append.mp hmem with hmem | hmem
      · rcases List.mem_pair.mp hmem with heq | heq
        · cases heq
        · cases heq
          exact ⟨hd, hu⟩
      · exact hmore.sleeps d' u' q' v' hmem
    · exact hmore.exact fun e' u' q' v' hmem => hinstant e' u' q' v' (List.mem_append_right _ hmem)

end Hopeless

/-- A wait for an instance that never becomes ready raises its own fault at its deadline, or after
the probe during which the deadline passed. -/
theorem awaitReady_expires (p : Polling ℚ σ) (h : p.Hopeless)
    (hn : ⌈p.timeout / min p.interval p.maxBackoff⌉₊ < p.probeLimit) (s : σ) :
    ∃ last events t,
      p.awaitReady s =
        (.error (Fault.raisedFrom (p.timedOut (events.countP (·.isProbe)) last) last), t) ∧
      p.watched.awaitReady ([], s) =
        (.error (Fault.raisedFrom (p.timedOut (events.countP (·.isProbe)) last) last),
          (events, t)) ∧
      events.countP (·.isProbe) ≤ ⌈p.timeout / min p.interval p.maxBackoff⌉₊ + 1 ∧
      (∀ d u q v, .sleep d u q v ∈ events →
        0 < d ∧ p.clock.now v ≤ p.clock.now s + p.timeout) ∧
      (∃ u, events.getLast? = some (.probe p.endpoint u (.error last) t)) ∧
      p.clock.now s + p.timeout ≤ p.clock.now t ∧
      ((∀ e u q v, .probe e u q v ∈ events → p.clock.now v = p.clock.now u) →
        p.clock.now t = p.clock.now s + p.timeout) := by
  obtain ⟨r, t, events, hwatched, hrun, hruns⟩ := awaitReady_runs (h.later_eq _ _) h.measures
  have hleft : p.clock.now s + p.timeout - p.clock.now s = p.timeout := add_sub_cancel_left _ _
  have hexp := h.expires hruns rfl (le_add_of_nonneg_right h.timeout) (by rwa [hleft])
  have hprobes := hexp.probes
  rw [hleft] at hprobes
  obtain ⟨u, f, hlast, hresult, hdeadline⟩ := hexp.last
  rw [Nat.zero_add] at hresult
  subst hresult
  exact ⟨f, events, t, hrun, hwatched, hprobes, hexp.sleeps, ⟨u, hlast⟩, hdeadline, hexp.exact⟩

/-- A wait of one second for a server that never answers. -/
def unanswered : Polling ℚ ℚ where
  scale := exactScale toString toString
  clock := {
    now := id
    sleep := fun d t => (.ok (), t + d) }
  diary := { write := fun _ _ _ t => t }
  endpoint := "localhost:9200"
  probe _ t := (.error (.of (.notReady "yellow")), t)
  timeout := 1
  interval := 1 / 2
  maxBackoff := 2
  isTransient := none
  probeLimit := 10

theorem unanswered_hopeless : unanswered.Hopeless where
  scale := ⟨_, _, rfl⟩
  timeout := by decide +kernel
  interval := by decide +kernel
  maxBackoff := by decide +kernel
  probe s := ⟨_, s, rfl, ⟨rfl, rfl⟩, le_refl _⟩
  sleep d s _ := ⟨_, rfl, rfl⟩
  write _ _ _ _ := rfl

/-- It ends after exactly one second and no more than three probes. -/
theorem awaitReady_expires_of_unanswered : ∃ f events,
    unanswered.watched.awaitReady ([], 0) = (.error f, (events, 1)) ∧
    events.countP (·.isProbe) ≤ 3 := by
  have hbound : ⌈unanswered.timeout / min unanswered.interval unanswered.maxBackoff⌉₊ = 2 := by
    decide +kernel
  obtain ⟨last, events, t, -, hw, hprobes, -, -, -, hexact⟩ :=
    awaitReady_expires unanswered unanswered_hopeless (by rw [hbound]; decide) 0
  have instant : (unanswered.watched.awaitReady ([], 0)).2.1.all fun
      | .probe _ u _ v => u == v
      | .sleep _ _ _ _ => true := by decide +kernel
  rw [hw] at instant
  rw [hbound] at hprobes
  have ht : t = 0 + 1 := hexact fun e u q v hmem =>
    (beq_iff_eq.mp (List.all_eq_true.mp instant _ hmem)).symm
  rw [zero_add] at ht
  subst ht
  exact ⟨_, events, hw, hprobes⟩

end Polling

end Testbed
