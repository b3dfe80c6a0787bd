import Mathlib.Algebra.Ring.Parity
import Testbed.Proofs.Readiness.Doubles
import Testbed.Proofs.Readiness.Rounds

/-!
# The law of a wait

Probes and sleeps of a wait alternate, each sleep follows a failure that waiting may mend, and the
last probe decides how the wait ends.
-/

namespace Testbed

set_option autoImplicit false

open Act

variable {τ σ : Type}

namespace Polling

/-- How a wait with at most `n` more probes ended after some earlier probes, as told by what
happened last. -/
inductive Ended (p : Polling τ σ) (deadline : τ) (n earlier : Nat)
    (events : List (WaitEvent τ σ)) : Except Fault Unit → Prop
  | ready {s t : σ} : events.getLast? = some (.probe p.endpoint s (.ok ()) t) →
      Ended p deadline n earlier events (.ok ())
  | refused {s t : σ} {e : Fault} :
      events.getLast? = some (.probe p.endpoint s (.error e) t) → ¬ p.Transient e →
      Ended p deadline n earlier events (.error e)
  | timedOut {s t : σ} {e : Fault} {left : τ} :
      events.getLast? = some (.probe p.endpoint s (.error e) t) → p.Transient e →
      p.left deadline t = .ok left → p.scale.isZero left = true →
      Ended p deadline n earlier events
        (.error (Fault.raisedFrom (p.timedOut (earlier + events.countP (·.isProbe)) e) e))
  | disturbed {d : τ} {s t : σ} {e : Fault} :
      events.getLast? = some (.sleep d s (.error e) t) →
      Ended p deadline n earlier events (.error e)
  | cut : events.length = 2 * n → Ended p deadline n earlier events (.error (.of .exhausted))

/-- The shape of what happens from some probe of a wait on. -/
structure Follows (p : Polling τ σ) (deadline : τ) (n earlier : Nat)
    (result : Except Fault Unit) (events : List (WaitEvent τ σ)) : Prop where
  probes : ∀ i x, events[2 * i]? = some x → ∃ s r t, x = .probe p.endpoint s r t
  sleeps : ∀ i x, events[2 * i + 1]? = some x → ∃ s e t left u q v,
    events[2 * i]? = some (.probe p.endpoint s (.error e) t) ∧ p.Transient e ∧
    p.left deadline t = .ok left ∧ p.scale.isZero left = false ∧
    x = .sleep (p.nap (earlier + i + 1) left) u q v
  ended : p.Ended deadline n earlier events result

section Follows

variable {p : Polling τ σ} {deadline : τ} {n earlier : Nat} {s u : σ} {q r : Except Fault Unit}
  {events more : List (WaitEvent τ σ)}

theorem Ended.after_round (hr : p.Round deadline (earlier + 1) s q u events)
    (h : p.Ended deadline n (earlier + 1) more r) :
    p.Ended deadline (n + 1) earlier (events ++ more) r := by
  have count : earlier + 1 + more.countP (·.isProbe) =
      earlier + (events ++ more).countP (·.isProbe) := by
    cases hr
    rw [List.countP_append, ← Nat.add_assoc]
    rfl
  have last {x : WaitEvent τ σ} (hx : more.getLast? = some x) :
      (events ++ more).getLast? = some x := by
    rw [List.getLast?_append, hx, Option.some_or]
  cases h with
  | ready hl => exact .ready (last hl)
  | refused hl he => exact .refused (last hl) he
  | timedOut hl he hleft hz =>
    rw [count]
    exact .timedOut (last hl) he hleft hz
  | disturbed hl => exact .disturbed (last hl)
  | cut hn =>
    refine .cut ?_
    cases hr
    rw [List.length_append, hn, Nat.mul_add, Nat.add_comm]
    rfl

theorem Ended.timedOut_single {t : σ} {e : Fault} {left : τ} (he : p.Transient e)
    (hleft : p.left deadline t = .ok left) (hz : p.scale.isZero left = true) :
    p.Ended deadline n earlier [.probe p.endpoint s (.error e) t]
      (.error (Fault.raisedFrom (p.timedOut (earlier + 1) e) e)) := .timedOut rfl he hleft hz

theorem Follows.of_probe {t : σ} {result : Except Fault Unit}
    (h : p.Ended deadline n earlier [.probe p.endpoint s r t] result) :
    p.Follows deadline n earlier result [.probe p.endpoint s r t] where
  probes i x hx := by
    cases i with
    | zero =>
      cases hx
      exact ⟨s, r, t, rfl⟩
    | succ i => cases hx
  sleeps i x hx := by cases hx
  ended := h

theorem Follows.of_round {d : Fault} (hr : p.Round deadline (earlier + 1) s (.error d) u events) :
    p.Follows deadline n earlier (.error d) events := by
  cases hr with
  | mk text hprobe he hleft hz hsleep =>
    refine ⟨fun i x hx => ?_, fun i x hx => ?_, .disturbed rfl⟩
    · cases i with
      | zero =>
        cases hx
        exact ⟨_, _, _, rfl⟩
      | succ i => cases hx
    · cases i with
      | zero =>
        cases hx
        exact ⟨_, _, _, _, _, _, _, rfl, he, hleft, hz, rfl⟩
      | succ i => cases hx

theorem Follows.after_round (hr : p.Round deadline (earlier + 1) s (.ok ()) u events)
    (h : p.Follows deadline n (earlier + 1) r more) :
    p.Follows deadline (n + 1) earlier r (events ++ more) := by
  refine ⟨fun i x hx => ?_, fun i x hx => ?_, h.ended.after_round hr⟩ <;>
    cases hr with | mk text hprobe he hleft hz hsleep => ?_
  · cases i with
    | zero =>
      cases hx
      exact ⟨_, _, _, rfl⟩
    | succ i => exact h.probes i x hx
  · cases i with
    | zero =>
      cases hx
      exact ⟨_, _, _, _, _, _, _, rfl, he, hleft, hz, rfl⟩
    | succ i =>
      have later : earlier + 1 + i + 1 = earlier + (i + 1) + 1 := by omega
      rw [← later]
      exact h.sleeps i x hx

theorem Runs.follows {k : Nat} {s' : σ} (h : p.Runs deadline n k s r s' events)
    (hk : k = earlier + 1) : p.Follows deadline n earlier r events := by
  -- the positions in a shape start at its own first probe, so the earlier probes are counted apart
  induction h generalizing earlier with
  | cut => exact ⟨by simp, by simp, .cut rfl⟩
  | ready text _ => exact .of_probe (.ready rfl)
  | refused _ he => exact .of_probe (.refused rfl he)
  | timedOut _ he hleft hz =>
    subst hk
    exact .of_probe (.timedOut_single he hleft hz)
  | disturbed hr =>
    subst hk
    exact .of_round hr
  | again hr _ ih =>
    subst hk
    exact .after_round hr (ih rfl)

theorem Ended.of_probe {t : σ} (h : p.Ended deadline n earlier events r)
    (hodd : events.length % 2 = 1)
    (hl : events.getLast? = some (.probe p.endpoint s q t)) :
    (q = .ok () ∧ r = .ok ()) ∨ ∃ e, q = .error e ∧
      ((¬ p.Transient e ∧ r = .error e) ∨ (p.Transient e ∧ r = .error
        (Fault.raisedFrom (p.timedOut (earlier + events.countP (·.isProbe)) e) e))) := by
  cases h with
  | ready hl' =>
    cases hl.symm.trans hl'
    exact .inl ⟨rfl, rfl⟩
  | refused hl' he =>
    cases hl.symm.trans hl'
    exact .inr ⟨_, rfl, .inl ⟨he, rfl⟩⟩
  | timedOut hl' he hleft hz =>
    cases hl.symm.trans hl'
    exact .inr ⟨_, rfl, .inr ⟨he, rfl⟩⟩
  | disturbed hl' => cases hl.symm.trans hl'
  | cut hn => omega

/-- A probe after which nothing is to be waited for is the last thing that happens. -/
theorem Follows.decided {i : Nat} {e : String} {t : σ} (h : p.Follows deadline n earlier r events)
    (hx : events[i]? = some (.probe e s q t))
    (hq : ∀ d left, q = .error d → p.Transient d → p.left deadline t = .ok left →
      p.scale.isZero left = true) :
    i + 1 = events.length ∧ ((q = .ok () ∧ r = .ok ()) ∨ ∃ e, q = .error e ∧
      ((¬ p.Transient e ∧ r = .error e) ∨ (p.Transient e ∧ r = .error
        (Fault.raisedFrom (p.timedOut (earlier + events.countP (·.isProbe)) e) e)))) := by
  have hlt : i < events.length := (List.getElem?_eq_some_iff.mp hx).1
  obtain ⟨j, rfl | rfl⟩ := Nat.even_or_odd' i
  · obtain ⟨_, _, _, hp⟩ := h.probes j _ hx
    cases hp
    have hend : 2 * j + 1 = events.length := by
      by_contra hne
      -- anything after this probe would be a sleep, and a sleep needs time that is left
      obtain ⟨_, d, _, left, _, _, _, hp, hd, hleft, hz, -⟩ :=
        h.sleeps j _ (List.getElem?_eq_getElem (by omega : 2 * j + 1 < events.length))
      cases hx.symm.trans hp
      rw [hq d left rfl hd hleft] at hz
      cases hz
    have hl : events.getLast? = some (.probe p.endpoint s q t) := by
      rw [List.getLast?_eq_getElem?, ← hend]
      exact hx
    exact ⟨hend, h.ended.of_probe (by omega) hl⟩
  · obtain ⟨_, _, _, _, _, _, _, -, -, -, -, hp⟩ := h.sleeps j _ hx
    cases hp

end Follows

structure Law (p : Polling τ σ) (deadline : τ) (result : Except Fault Unit)
    (events : List (WaitEvent τ σ)) : Prop where
  /-- Probes and sleeps alternate, and a probe comes first. -/
  alternate : ∀ (i : Nat) x, events[i]? = some x → x.isProbe = (i % 2 == 0)
  endpoint : ∀ (i : Nat) e s q t, events[i]? = some (.probe e s q t) → e = p.endpoint
  /-- The first probe that succeeds is the last thing that happens, and the wait returns. -/
  ready : ∀ (i : Nat) e s t, events[i]? = some (.probe e s (.ok ()) t) →
    i + 1 = events.length ∧ result = .ok ()
  /-- The first fault that is not transient, an interruption among others, is raised as it is, and
  nothing happens after it. -/
  refused : ∀ (i : Nat) e s f t, events[i]? = some (.probe e s (.error f) t) → ¬ p.Transient f →
    i + 1 = events.length ∧ result = .error f
  /-- The first transient fault with no time left after it is the cause of what is raised, which
  tells the number of probes. -/
  late : ∀ (i : Nat) e s f t left, events[i]? = some (.probe e s (.error f) t) → p.Transient f →
    p.left deadline t = .ok left → p.scale.isZero left = true → i + 1 = events.length ∧
      result = .error (Fault.raisedFrom (p.timedOut (events.countP (·.isProbe)) f) f)
  /-- Each sleep follows a transient fault with some time left after it, and this and the number of
  the sleep give its length. -/
  sleeps : ∀ (k : Nat) x, events[2 * k + 1]? = some x → ∃ s f t left u q v,
    events[2 * k]? = some (.probe p.endpoint s (.error f) t) ∧ p.Transient f ∧
    p.left deadline t = .ok left ∧ p.scale.isZero left = false ∧
    x = .sleep (p.scale.least (p.scale.least (p.scale.times p.interval (k + 1)) p.maxBackoff) left)
      u q v
  ended : p.Ended deadline p.probeLimit 0 events result

theorem Follows.law {p : Polling τ σ} {deadline : τ} {r : Except Fault Unit}
    {events : List (WaitEvent τ σ)} (h : p.Follows deadline p.probeLimit 0 r events) :
    p.Law deadline r events where
  alternate i x hx := by
    obtain ⟨j, rfl | rfl⟩ := Nat.even_or_odd' i
    · obtain ⟨_, _, _, rfl⟩ := h.probes j x hx
      simp [WaitEvent.isProbe]
    · obtain ⟨_, _, _, _, _, _, _, -, -, -, -, rfl⟩ := h.sleeps j x hx
      simp [WaitEvent.isProbe, Nat.add_mod]
  endpoint i e s q t hx := by
    obtain ⟨j, rfl | rfl⟩ := Nat.even_or_odd' i
    · obtain ⟨_, _, _, hp⟩ := h.probes j _ hx
      cases hp
      rfl
    · obtain ⟨_, _, _, _, _, _, _, -, -, -, -, hp⟩ := h.sleeps j _ hx
      cases hp
  ready i e s t hx := by
    have hq (d : Fault) (left : τ) (hd : (.ok () : Except Fault Unit) = .error d) :
        p.Transient d → p.left deadline t = .ok left → p.scale.isZero left = true := by
      cases hd
    obtain ⟨hend, ⟨-, rfl⟩ | ⟨f, hf, -⟩⟩ := h.decided hx hq
    · exact ⟨hend, rfl⟩
    · cases hf
  refused i e s f t hx hf := by
    have hq (d : Fault) (left : τ) (hd : (.error f : Except Fault Unit) = .error d)
        (ht : p.Transient d) : p.left deadline t = .ok left → p.scale.isZero left = true := by
      cases hd
      exact absurd ht hf
    obtain ⟨hend, ⟨hq, -⟩ | ⟨d, hd, ⟨-, rfl⟩ | ⟨ht, -⟩⟩⟩ := h.decided hx hq
    · cases hq
    · cases hd
      exact ⟨hend, rfl⟩
    · cases hd
      exact absurd ht hf
  late i e s f t left hx hf hleft hz := by
    have hq (d : Fault) (left' : τ) (_ : (.error f : Except Fault Unit) = .error d)
        (_ : p.Transient d) (hl : p.left deadline t = .ok left') : p.scale.isZero left' = true := by
      cases hleft.symm.trans hl
      exact hz
    obtain ⟨hend, ⟨hq, -⟩ | ⟨d, hd, ⟨hn, -⟩ | ⟨-, rfl⟩⟩⟩ := h.decided hx hq
    · cases hq
    · cases hd
      exact absurd hf hn
    · cases hd
      rw [Nat.zero_add]
      exact ⟨hend, rfl⟩
  sleeps k x hx := by
    obtain ⟨s, f, t, left, u, q, v, hp, hf, hleft, hz, rfl⟩ := h.sleeps k x hx
    refine ⟨s, f, t, left, u, q, v, hp, hf, hleft, hz, ?_⟩
    rw [Nat.zero_add]
    rfl
  ended := h.ended

/-- A wait on the scale of numbers whose clock tells doubles and whose durations are in their
range. -/
structure InRange (p : Polling Num σ) : Prop where
  scale : p.scale = numScale
  now : ∀ t, ∃ x, p.clock.now t = .real x
  timeout : p.timeout.toReal?.isSome = true
  delays : ∀ k ≤ p.probeLimit,
    (backoff numScale p.interval p.maxBackoff k).toReal?.isSome = true

namespace InRange

variable {p : Polling Num σ}

theorem later (h : p.InRange) (s : σ) :
    ∃ y, numScale.later (p.clock.now s) p.timeout = .ok (.real y) := by
  obtain ⟨x, hx⟩ := h.now s
  obtain ⟨w, hw⟩ := Option.isSome_iff_exists.mp h.timeout
  refine ⟨x + w, ?_⟩
  rw [hx, later_of_real, hw]
  rfl

theorem measures (h : p.InRange) (y : Float) : p.Measures (.real y) where
  left t := by
    obtain ⟨x, hx⟩ := h.now t
    obtain ⟨z, hz⟩ := left_real x y
    exact ⟨.real z, by rw [Polling.left, h.scale, hx, hz]⟩
  brief k hk t left hleft := by
    obtain ⟨x, hx⟩ := h.now t
    obtain ⟨z, hz⟩ := left_real x y
    rw [Polling.left, h.scale, hx, hz] at hleft
    cases hleft
    rw [Polling.nap, h.scale]
    exact brief_of_isSome (Num.least_isSome (h.delays k hk) rfl)

end InRange

/-- Every wait obeys the law: whatever the probes and the sleeps do, whatever the clock tells, and
whichever faults count as transient. -/
theorem awaitReady_lawful (p : Polling Num σ) (h : p.InRange) (s : σ) :
    ∃ deadline result events t, numScale.later (p.clock.now s) p.timeout = .ok deadline ∧
      p.awaitReady s = (result, t) ∧ p.watched.awaitReady ([], s) = (result, (events, t)) ∧
      p.Law deadline result events := by
  obtain ⟨y, hd⟩ := h.later s
  have hd' : p.scale.later (p.clock.now s) p.timeout = .ok (.real y) := by rw [h.scale, hd]
  obtain ⟨r, s', events, hwatched, hrun, hruns⟩ := awaitReady_runs hd' (h.measures y)
  exact ⟨.real y, r, events, s', hd, hrun, hwatched, (hruns.follows rfl).law⟩

/-- A wait for a server that answers after a quarter of a second that it is starting. -/
def starting : Polling Num Float where
  scale := numScale
  clock := {
    now := .real
    sleep := fun n t => (.ok (), t + n.toReal) }
  diary := { write := fun _ _ _ t => t }
  endpoint := "localhost:9200"
  probe _ t := (.error (.of (.notReady "yellow")), t + 0.25)
  timeout := .int 1
  interval := .real 0.5
  maxBackoff := .int 2
  isTransient := none
  probeLimit := 10

theorem starting_inRange : starting.InRange where
  scale := rfl
  now t := ⟨t, rfl⟩
  timeout := by decide +kernel
  delays k _ := Num.least_isSome (times_real_isSome 0.5 k) (by decide +kernel)

/-- Two probes are made, with a sleep of half a second between them. -/
theorem awaitReady_lawful_of_starting : ∃ deadline f events t,
    starting.watched.awaitReady ([], 0) = (.error f, (events, t)) ∧
    starting.Law deadline (.error f) events ∧ events.length = 3 ∧
    f.message =
      "[readiness] Instance at 'localhost:9200' not ready after 1s (2 probes): yellow" := by
  obtain ⟨deadline, r, events, t, -, -, hw, hlaw⟩ := awaitReady_lawful starting starting_inRange 0
  obtain ⟨raised, happened⟩ :
      (starting.watched.awaitReady ([], 0)).1.mapError Fault.message = .error
        "[readiness] Instance at 'localhost:9200' not ready after 1s (2 probes): yellow" ∧
      (starting.watched.awaitReady ([], 0)).2.1.length = 3 := by decide +kernel
  rw [hw] at raised happened
  cases r with
  | ok _ => cases raised
  | error f => exact ⟨deadline, f, events, t, hw, hlaw, happened, Except.error.inj raised⟩

end Polling

end Testbed
