import Testbed.Instance.Options
import Testbed.Readiness.Polling
import Testbed.Proofs.Number.Spelling
import Testbed.Proofs.Readiness.Doubles

/-!
# Accepted times

Timeouts and intervals are checked before they are used, and what is not positive is refused.  NaN
is neither positive nor refused: it passes each of the checks, delays made from it are not
positive, and a deadline made from it never passes.  Whatever else is accepted is usable.
-/

namespace Testbed

set_option autoImplicit false

namespace Num

theorem toReal?_int {i : Int} {y : Float} (h : (Num.int i).toReal? = some y) :
    y = Float.ofInt i := by
  unfold toReal? at h
  dsimp only at h
  split at h
  · cases h
  · exact (Option.some.inj h).symm

end Num

/-! Delays. -/

section Delays

variable {interval cap : Float} {n : Nat}

/-- An interval repeated a number of times, or once when the number is beyond the doubles. -/
def repeated (interval : Float) (n : Nat) : Float :=
  ((Num.int n).toReal?.map (interval * ·)).getD interval

/-- Repeating a positive interval makes no delay that is zero, however short the interval. -/
theorem repeated_pos (hn : n ≠ 0) (h : 0 < interval) : 0 < repeated interval n := by
  unfold repeated
  cases hy : (Num.int n).toReal? with
  | none => exact h
  | some y =>
    obtain rfl := Num.toReal?_int hy
    change 0 < interval * Float.ofNat n
    rw [pos_iff_atLeast, unpacked_mul]
    exact ((pos_iff_atLeast.mp h).mul (atLeast_ofNat hn) (by decide) (by decide)).stored

theorem repeated_isNaN (h : interval.isNaN = true) : (repeated interval n).isNaN = true := by
  unfold repeated
  cases (Num.int n).toReal? with
  | none => exact h
  | some y => exact isNaN_mul h y

theorem backoff_real : backoff numScale (.real interval) (.real cap) n =
    .real (if cap < repeated interval n then cap else repeated interval n) := by
  change Num.least (numScale.times (.real interval) n) (.real cap) = _
  rw [times_real]
  unfold Num.least
  simp only [Num.below_real]
  exact (apply_ite Num.real ..).symm

theorem backoff_pos (hn : n ≠ 0) (h : 0 < interval) (hcap : ¬ cap < interval) :
    ∃ d, backoff numScale (.real interval) (.real cap) n = .real d ∧ 0 < d := by
  refine ⟨_, backoff_real, ?_⟩
  split
  case isTrue hlt => exact pos_of_le h (le_of_not_lt (isNaN_of_lt hlt).1 (isNaN_of_lt h).2 hcap)
  case isFalse => exact repeated_pos hn h

theorem backoff_isNaN (h : interval.isNaN = true) :
    ∃ d, backoff numScale (.real interval) (.real cap) n = .real d ∧ d.isNaN = true := by
  have hrepeated := repeated_isNaN (n := n) h
  refine ⟨_, backoff_real, ?_⟩
  split
  case isTrue hlt => cases (isNaN_of_lt hlt).2.symm.trans hrepeated
  case isFalse => exact hrepeated

end Delays

/-! Deadlines. -/

/-- A wait with a given deadline is over at a given time of the clock; this is what `Polling.poll`
asks after a failed probe. -/
def Over (deadline now : Num) : Prop :=
  ∃ left, numScale.left now deadline = .ok left ∧ numScale.isZero left = true

/-- A finite clock ends a wait when it shows the deadline or a later time. -/
theorem over_iff {d t : Float} (ht : t.isFinite = true) : Over (.real d) (.real t) ↔ d ≤ t := by
  have hcompare := compare_sub (x := d) ht
  have hbelow : Num.below (.real (d - t)) (.real 0.0) = true ↔
      (unpacked d).compare (unpacked t) = some .lt := by
    rw [Num.below_iff, Num.compare?_real, ← hcompare]
    rfl
  have hzero : Num.isZero (.real (d - t)) = true ↔
      (unpacked d).compare (unpacked t) = some .eq := by
    rw [← hcompare, ← Num.compare?_zero]
    exact beq_iff_eq
  have hover : Over (.real d) (.real t) ↔
      Num.isZero (Num.atLeastZero (.real (d - t))) = true := by
    constructor
    · rintro ⟨left, hleft, hz⟩
      obtain rfl := Except.ok.inj hleft
      exact hz
    · exact fun hz => ⟨_, rfl, hz⟩
  rw [hover, le_iff_compare]
  unfold Num.atLeastZero
  split
  case isTrue hlt =>
    have hself : Num.isZero (.real 0.0) = true := by decide +kernel
    exact iff_of_true hself ⟨_, hbelow.mp hlt, rfl⟩
  case isFalse hlt =>
    rw [hzero]
    rw [hbelow] at hlt
    constructor
    · exact fun h => ⟨_, h, rfl⟩
    · rintro ⟨o, ho, hle⟩
      cases o with
      | lt => exact absurd ho hlt
      | eq => exact ho
      | gt => cases hle

theorem later_real_ok {now : Float} {n : Num} {d : Float} :
    numScale.later (.real now) n = .ok (.real d) ↔ ∃ y, n.toReal? = some y ∧ now + y = d := by
  rw [later_of_real]
  cases n.toReal? with
  | none => simp [inRange]
  | some y => simp [inRange]

theorem isNaN_toReal {n : Num} {y : Float} (h : n.toReal? = some y) : y.isNaN = n.isNaN := by
  cases n with
  | int i =>
    obtain rfl := Num.toReal?_int h
    exact isNaN_ofInt i
  | real x =>
    obtain rfl := Option.some.inj h
    rfl

/-- A deadline that a clock reaches, or an infinite one. -/
def Attainable (d : Float) : Prop :=
  d.isInf = true ∨ ∃ t : Float, t.isFinite = true ∧ Over (.real d) (.real t)

theorem attainable_iff {d : Float} : Attainable d ↔ d.isNaN = false := by
  constructor
  · rintro (hinf | ⟨t, ht, hover⟩)
    · rw [isNaN_eq, hinf, Bool.or_true]
      rfl
    · exact (isNaN_of_le ((over_iff ht).mp hover)).1
  · intro hnumber
    have hkind := hnumber
    rw [isNaN_eq, Bool.not_eq_false', Bool.or_eq_true] at hkind
    rcases hkind with hfinite | hinf
    · exact .inr ⟨d, hfinite, (over_iff hfinite).mpr (le_self hnumber)⟩
    · exact .inl hinf

/-- What a deadline is made from is a number in the range of doubles. -/
theorem later_attainable {now : Float} {n : Num} (hnow : now.isFinite = true) :
    (∃ d, numScale.later (.real now) n = .ok (.real d) ∧ Attainable d) ↔
      n.isNaN = false ∧ n.toReal?.isSome = true := by
  simp only [later_real_ok, attainable_iff]
  constructor
  · rintro ⟨d, ⟨y, hy, rfl⟩, hd⟩
    refine ⟨?_, by rw [hy]; rfl⟩
    cases hn : n.isNaN with
    | false => rfl
    | true =>
      have hy' := (isNaN_toReal hy).trans hn
      cases hd.symm.trans (isNaN_add_of_isNaN now hy')
  · rintro ⟨hn, hsome⟩
    obtain ⟨y, hy⟩ := Option.isSome_iff_exists.mp hsome
    exact ⟨_, ⟨y, hy, rfl⟩, isNaN_add hnow ((isNaN_toReal hy).trans hn)⟩

/-! What is accepted. -/

theorem bind_eq_ok {ε α β : Type} {x : Except ε α} {f : α → Except ε β} {y : β} :
    x >>= f = .ok y ↔ ∃ a, x = .ok a ∧ f a = .ok y := by
  cases x with
  | error e => exact ⟨nofun, fun ⟨_, h, _⟩ => nomatch h⟩
  | ok a => exact ⟨fun h => ⟨a, rfl, h⟩, fun ⟨_, ha, h⟩ => Except.ok.inj ha ▸ h⟩

theorem ok_of_toOption {ε α : Type} {x : Except ε α} {a : α} (h : x.toOption = some a) :
    x = .ok a := by
  cases x with
  | error e => cases h
  | ok b => exact congrArg Except.ok (Option.some.inj h)

/-- A variable is set to a name of NaN. -/
def Environment.NamesNaN (env : Environment) (name : String) : Prop :=
  ∃ text ∈ env.get? name, Parse.NamesNaN text

instance (env : Environment) (name : String) : Decidable (env.NamesNaN name) :=
  inferInstanceAs (Decidable (∃ text ∈ env.get? name, Parse.NamesNaN text))

namespace Settings

variable {env : Environment} {s : Settings}

theorem float_isNaN {name : String} {default x : Float} (h : float env name default = .ok x)
    (hdefault : default.isNaN = false) : x.isNaN = false ↔ ¬ env.NamesNaN name := by
  unfold float at h
  cases hv : env.get? name with
  | none =>
    rw [hv] at h
    obtain rfl := Except.ok.inj h
    exact iff_of_true hdefault (by simp [Environment.NamesNaN, hv])
  | some text =>
    rw [hv] at h
    change (Parse.float? text).elim _ _ = _ at h
    cases hx : Parse.float? text with
    | none =>
      rw [hx] at h
      cases h
    | some y =>
      rw [hx] at h
      obtain rfl := Except.ok.inj h
      simp [Environment.NamesNaN, hv, ← Parse.float?_isNaN hx]

theorem checkTimeout_ok {x : Float} (h : checkTimeout x = .ok ()) : ¬ x ≤ 0 := by
  unfold checkTimeout at h
  split at h
  · cases h
  · assumption

theorem checkPolling_ok {interval cap : Float} (h : checkPolling interval cap = .ok ()) :
    ¬ interval ≤ 0 ∧ ¬ cap < interval := by
  unfold checkPolling at h
  split at h
  · cases h
  case isFalse hne => exact not_or.mp hne

theorem pos_of_not_le {x : Float} (h : ¬ x ≤ 0) : 0 < x ↔ x.isNaN = false :=
  ⟨fun hx => (isNaN_of_lt hx).2, fun hx => lt_of_not_le hx (by decide +kernel) h⟩

/-- The time settings are those of their variables, and have passed their checks. -/
theorem ofEnvironment_times (h : ofEnvironment env = .ok s) :
    float env "EPHEMERAL_START_TIMEOUT" 60.0 = .ok s.startTimeout ∧
      float env "EPHEMERAL_POLL_INTERVAL" 0.5 = .ok s.pollInterval ∧
      float env "EPHEMERAL_MAX_BACKOFF" 5.0 = .ok s.maxBackoff ∧
      checkTimeout s.startTimeout = .ok () ∧ checkPolling s.pollInterval s.maxBackoff = .ok () := by
  unfold ofEnvironment at h
  simp only [bind_eq_ok] at h
  obtain ⟨startTimeout, hstart, ⟨⟩, hcheck, daemonTimeout, -, interval, hinterval, cap, hcap, ⟨⟩,
    hpolling, connectTimeout, -, hostname, -, hs⟩ := h
  obtain rfl := Except.ok.inj hs
  exact ⟨hstart, hinterval, hcap, hcheck, hpolling⟩

/-- The time settings are usable but for those that are NaN. -/
structure Timed (s : Settings) (env : Environment) : Prop where
  startTimeout : 0 < s.startTimeout ↔ ¬ env.NamesNaN "EPHEMERAL_START_TIMEOUT"
  pollInterval : 0 < s.pollInterval ↔ ¬ env.NamesNaN "EPHEMERAL_POLL_INTERVAL"
  maxBackoff : s.pollInterval ≤ s.maxBackoff ↔
    ¬ env.NamesNaN "EPHEMERAL_POLL_INTERVAL" ∧ ¬ env.NamesNaN "EPHEMERAL_MAX_BACKOFF"
  backoff : ∀ n, n ≠ 0 → ∃ d,
    backoff numScale (.real s.pollInterval) (.real s.maxBackoff) n = .real d ∧
      (0 < d ↔ ¬ env.NamesNaN "EPHEMERAL_POLL_INTERVAL")

theorem timed_ofEnvironment (h : ofEnvironment env = .ok s) : s.Timed env := by
  obtain ⟨hstart, hinterval, hcap, hcheck, hpolling⟩ := ofEnvironment_times h
  obtain ⟨hpos, hle⟩ := checkPolling_ok hpolling
  have hstartNaN := float_isNaN hstart (by decide +kernel)
  have hintervalNaN := float_isNaN hinterval (by decide +kernel)
  have hcapNaN := float_isNaN hcap (by decide +kernel)
  have hpollInterval := pos_of_not_le hpos
  refine ⟨(pos_of_not_le (checkTimeout_ok hcheck)).trans hstartNaN,
    hpollInterval.trans hintervalNaN, ?_, fun n hn => ?_⟩
  · rw [← hintervalNaN, ← hcapNaN]
    exact ⟨isNaN_of_le, fun ⟨hi, hc⟩ => le_of_not_lt hc hi hle⟩
  · rw [← hintervalNaN]
    cases hi : s.pollInterval.isNaN with
    | false =>
      obtain ⟨d, hd, hdpos⟩ := backoff_pos hn (hpollInterval.mpr hi) hle
      exact ⟨d, hd, iff_of_true hdpos rfl⟩
    | true =>
      have hdelay : ∃ d, backoff numScale (.real s.pollInterval) (.real s.maxBackoff) n = .real d ∧
          d.isNaN = true := backoff_isNaN hi
      obtain ⟨d, hd, hdNaN⟩ := hdelay
      refine ⟨d, hd, iff_of_false (fun hdpos => ?_) nofun⟩
      cases (isNaN_of_lt hdpos).2.symm.trans hdNaN

end Settings

namespace StartOptions

variable {η : Type} {standard : Num} {f : OptionFields η} {o : StartOptions η}

theorem checkTimeout_ok {given : Option Num} {t : Num} (h : checkTimeout given = .ok t) :
    t.atMost 0 = false := by
  cases given with
  | none => cases h
  | some u =>
    unfold checkTimeout at h
    dsimp only at h
    split at h
    · cases h
    case isFalse hpos =>
      obtain rfl := Except.ok.inj h
      simpa using hpos

theorem ofFields?_timeout (h : ofFields? standard f = .ok o) : o.timeout.atMost 0 = false := by
  unfold ofFields? at h
  split at h
  · cases h
  · simp only [bind_eq_ok] at h
    obtain ⟨timeout, ht, hooks, -, ho⟩ := h
    obtain rfl := Except.ok.inj ho
    exact checkTimeout_ok ht

/-- The timeout is usable unless it is NaN or beyond the range of doubles. -/
structure Timed (o : StartOptions η) : Prop where
  timeout : Num.below 0 o.timeout = true ↔ o.timeout.isNaN = false
  deadline : ∀ now : Float, now.isFinite = true →
    ((∃ d, numScale.later (.real now) o.timeout = .ok (.real d) ∧ Attainable d) ↔
      o.timeout.isNaN = false ∧ o.timeout.toReal?.isSome = true)

theorem timed_ofFields? (h : ofFields? standard f = .ok o) : o.Timed where
  timeout := by
    constructor
    · intro hbelow
      cases hn : o.timeout.isNaN with
      | false => rfl
      | true =>
        rw [Num.below_iff, Num.compare?_eq_none.mpr (.inr hn)] at hbelow
        cases hbelow
    · exact fun hn => Num.below_of_not_atMost hn rfl (ofFields?_timeout h)
  deadline := fun _ hnow => later_attainable hnow

end StartOptions

/-- Settings and options that are accepted hold usable times, but for those that are NaN, and for
timeouts that no double can hold. -/
theorem accepted_times {η : Type} {env : Environment} {s : Settings} {standard : Num}
    {f : OptionFields η} {o : StartOptions η} (hs : Settings.ofEnvironment env = .ok s)
    (ho : StartOptions.ofFields? standard f = .ok o) : s.Timed env ∧ o.Timed :=
  ⟨Settings.timed_ofEnvironment hs, StartOptions.timed_ofFields? ho⟩

/-- A setting with a sign, an exponent and blanks, an empty one and a tiny one. -/
def fineTimes : Environment :=
  [("EPHEMERAL_START_TIMEOUT", " +1_2.5e1 "), ("EPHEMERAL_POLL_INTERVAL", "5e-324"),
    ("EPHEMERAL_MAX_BACKOFF", "")]

def wholeTimeout : OptionFields Empty := { timeout := some (some 30), names := ["timeout"] }

theorem accepted_times_of_fine : ∃ (s : Settings) (o : StartOptions Empty),
    Settings.ofEnvironment fineTimes = .ok s ∧
      StartOptions.ofFields? (.real s.startTimeout) wholeTimeout = .ok o ∧
      0 < s.startTimeout ∧ 0 < s.pollInterval ∧ s.pollInterval ≤ s.maxBackoff ∧
      Num.below 0 o.timeout = true ∧
      ∃ d, numScale.later (.real 1.5) o.timeout = .ok (.real d) ∧ Attainable d := by
  have hread : (Settings.ofEnvironment fineTimes).toOption.isSome = true := by decide +kernel
  obtain ⟨s, hsome⟩ := Option.isSome_iff_exists.mp hread
  have hs := ok_of_toOption hsome
  have ho : StartOptions.ofFields? (.real s.startTimeout) wholeTimeout =
      .ok { timeout := 30 } := rfl
  obtain ⟨settings, options⟩ := accepted_times hs ho
  have hdeadline := (options.deadline 1.5 (by decide +kernel)).mpr ⟨rfl, by decide +kernel⟩
  exact ⟨s, _, hs, ho, settings.startTimeout.mpr (by decide +kernel),
    settings.pollInterval.mpr (by decide +kernel), settings.maxBackoff.mpr (by decide +kernel),
    options.timeout.mpr rfl, hdeadline⟩

def nanTimes : Environment :=
  [("EPHEMERAL_START_TIMEOUT", "nan"), ("EPHEMERAL_POLL_INTERVAL", "nan")]

def nanTimeout : OptionFields Empty :=
  { timeout := some (some (.real Parse.notANumber)), names := ["timeout"] }

/-- NaN passes the checks, and is no time that a wait could end at. -/
theorem nan_accepted :
    (∃ s, Settings.ofEnvironment nanTimes = .ok s ∧ ¬ 0 < s.startTimeout ∧ ¬ 0 < s.pollInterval ∧
        ¬ s.pollInterval ≤ s.maxBackoff) ∧
      ∃ o, StartOptions.ofFields? 60 nanTimeout = .ok o ∧ Num.below 0 o.timeout = false ∧
        ∃ d, numScale.later (.real 1.5) o.timeout = .ok (.real d) ∧ ¬ Attainable d := by
  have hsettings : (Settings.ofEnvironment nanTimes).toOption.map
      (fun s => (decide (0 < s.startTimeout), decide (0 < s.pollInterval),
        decide (s.pollInterval ≤ s.maxBackoff))) = some (false, false, false) := by
    decide +kernel
  refine ⟨?_, { timeout := .real Parse.notANumber }, rfl, by decide +kernel, _, rfl, ?_⟩
  · obtain ⟨s, hs, h⟩ := Option.map_eq_some_iff.mp hsettings
    simp only [Prod.mk.injEq, decide_eq_false_iff_not] at h
    exact ⟨s, ok_of_toOption hs, h⟩
  · rw [attainable_iff, Bool.not_eq_false]
    decide +kernel

end Testbed
