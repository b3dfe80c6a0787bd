import Mathlib.Algebra.BigOperators.Group.List.Lemmas
import Mathlib.Algebra.Order.Group.Multiset
import Testbed.Proofs.Instance.Soundness

/-!
# The clients of an instance

Every client that was opened for an instance or one of its clones is held by the handle, held by
an open clone, or was handed to the service to be closed.
-/

namespace Testbed

set_option autoImplicit false

open FamilyAct Act

variable {η ρ κ σ : Type}

/-! The courses of a readiness attempt. -/

inductive Ensuring : Course ρ κ Unit
  | present {f : Family ρ κ} {c : κ} : f.handle.client = some c → Ensuring f (.ok ()) f []
  | noInfo {f : Family ρ κ} (e : Fault) : f.handle.client = none → Ensuring f (.error e) f []
  | failed {f : Family ρ κ} (info : ConnectionInfo) (e : Fault) : f.handle.client = none →
      Ensuring f (.error e) f [.connect info (.error e)]
  | done {f : Family ρ κ} (info : ConnectionInfo) (c : κ) : f.handle.client = none →
      Ensuring f (.ok ()) (f.onHandle fun h => { h with client := some c })
        [.connect info (.ok c)]

def Family.giveUp (f : Family ρ κ) : Family ρ κ := f.onHandle fun h => { h with client := none }

/-- Probing an instance; after an ordinary fault the client is given up. -/
inductive Probing : Course ρ κ Unit
  | ready {f : Family ρ κ} : Probing f (.ok ()) f [.probe f.handle.client (.ok ())]
  | interrupted {f : Family ρ κ} (e : Fault) : e.isOrdinary = false →
      Probing f (.error e) f [.probe f.handle.client (.error e)]
  | failed {f : Family ρ κ} (e : Fault) : f.handle.client = none →
      Probing f (.error e) f.giveUp [.probe none (.error e)]
  | givenUp {f : Family ρ κ} {c : κ} (e d : Fault) (r : Except Fault Unit) :
      f.handle.client = some c →
      Probing f (.error d) f.giveUp [.probe (some c) (.error e), .closeClient c r]

/-- Probing an instance, with the fault that it raises: that of the probe, unless closing the client
was interrupted. -/
inductive Trying : Course ρ κ Unit
  | ready {f : Family ρ κ} : Trying f (.ok ()) f [.probe f.handle.client (.ok ())]
  | interrupted {f : Family ρ κ} (e : Fault) : e.isOrdinary = false →
      Trying f (.error e) f [.probe f.handle.client (.error e)]
  | failed {f : Family ρ κ} (e : Fault) : e.isOrdinary = true → f.handle.client = none →
      Trying f (.error e) f.giveUp [.probe none (.error e)]
  | givenUp {f : Family ρ κ} {c : κ} (e : Fault) (q : Except Fault Unit) : e.isOrdinary = true →
      (∀ d, q = .error d → d.isOrdinary = true) → f.handle.client = some c →
      Trying f (.error e) f.giveUp [.probe (some c) (.error e), .closeClient c q]
  | abandoned {f : Family ρ κ} {c : κ} (e d : Fault) : e.isOrdinary = true →
      d.isOrdinary = false → f.handle.client = some c →
      Trying f (.error d) f.giveUp [.probe (some c) (.error e), .closeClient c (.error d)]

theorem Trying.probing {f f' : Family ρ κ} {r : Except Fault Unit} {calls : List (Call ρ κ)}
    (h : Trying f r f' calls) : Probing f r f' calls := by
  cases h with
  | ready => exact .ready
  | interrupted e he => exact .interrupted e he
  | failed e _ hc => exact .failed e hc
  | givenUp e q _ _ hc => exact .givenUp e e q hc
  | abandoned e d _ _ hc => exact .givenUp e d (.error d) hc

theorem ensureClient_takes (b : Backing η ρ κ σ) : Takes (ensureClient b.recorded) Ensuring := by
  intro f l s
  rw [ensureClient, handle_bind]
  cases hc : f.handle.client with
  | some c => exact ⟨.ok (), f, [], s, by rw [List.append_nil]; rfl, .present hc⟩
  | none =>
    rw [Option.isNone_none, if_pos rfl]
    cases hi : b.service.connectionInfo f.handle with
    | error e =>
      have hs : b.recorded.service.connect f.handle (l, s) = (.error e, (l, s)) := by
        change (Act.ofExcept (b.service.connectionInfo f.handle) >>= _) (l, s) = _
        rw [hi]
        rfl
      exact ⟨.error e, f, [], s, by rw [bind_of_error (outside_of_eq f hs), List.append_nil],
        .noInfo e hc⟩
    | ok info =>
      have hs : b.recorded.service.connect f.handle (l, s) =
          b.recorded.service.connectTo info (l, s) := by
        change (Act.ofExcept (b.service.connectionInfo f.handle) >>= _) (l, s) = _
        rw [hi]
        rfl
      rcases h : b.service.connectTo info s with ⟨e | c, s₁⟩
      · have ht : b.recorded.service.connectTo info (l, s) = _ := noted_of_eq _ l h
        exact ⟨.error e, f, _, s₁, bind_of_error (outside_of_eq f (hs.trans ht)),
          .failed info e hc⟩
      · have ht : b.recorded.service.connectTo info (l, s) = _ := noted_of_eq _ l h
        exact ⟨.ok (), _, _, s₁, bind_of_ok (outside_of_eq f (hs.trans ht)), .done info c hc⟩

theorem probeClient_tries (b : Backing η ρ κ σ) (endpoint : String) :
    Takes (probeClient b.recorded endpoint) Trying := by
  intro f l s
  rw [probeClient, handle_bind]
  rcases h : b.service.probe f.handle.client s with ⟨e | ⟨⟩, s₁⟩
  · have hs : b.recorded.service.probe f.handle.client (l, s) = _ := noted_of_eq _ l h
    cases ho : e.isOrdinary with
    | false =>
      exact ⟨.error e, f, _, s₁, bind_of_error (outside_of_eq f (attempt_of_interruption hs ho)),
        .interrupted e ho⟩
    | true =>
      rw [bind_of_ok (outside_of_eq f (attempt_of_ordinary hs ho))]
      cases hc : f.handle.client with
      | none =>
        exact ⟨.error e, f.giveUp, _, s₁, rfl, .failed e ho hc⟩
      | some c =>
        change ∃ r f' calls s', (outside (Act.attempt (b.recorded.service.closeClient c)) >>= _)
          (f.giveUp, (l ++ [.probe (some c) (.error e)], s₁)) = _ ∧ _
        rcases h' : b.service.closeClient c s₁ with ⟨d | ⟨⟩, s₂⟩
        · have hd : b.recorded.service.closeClient c (_, s₁) = _ :=
            noted_of_eq _ (l ++ [.probe (some c) (.error e)]) h'
          rw [List.append_assoc] at hd
          cases hi : d.isOrdinary with
          | false =>
            exact ⟨.error d, f.giveUp, _, s₂,
              bind_of_error (outside_of_eq _ (attempt_of_interruption hd hi)),
              .abandoned e d ho hi hc⟩
          | true =>
            exact ⟨.error e, f.giveUp, _, _,
              bind_of_ok (outside_of_eq _ (attempt_of_ordinary hd hi)),
              .givenUp e (.error d) ho (by rintro _ ⟨⟩; exact hi) hc⟩
        · have hd : b.recorded.service.closeClient c (_, s₁) = _ :=
            noted_of_eq _ (l ++ [.probe (some c) (.error e)]) h'
          rw [List.append_assoc] at hd
          exact ⟨.error e, f.giveUp, _, s₂, bind_of_ok (outside_of_eq _ (attempt_of_ok hd)),
            .givenUp e (.ok ()) ho (by rintro _ ⟨⟩) hc⟩
  · have hs : b.recorded.service.probe f.handle.client (l, s) = _ := noted_of_eq _ l h
    exact ⟨.ok (), f, _, s₁, bind_of_ok (outside_of_eq f (attempt_of_ok hs)), .ready⟩

theorem probeClient_takes (b : Backing η ρ κ σ) (endpoint : String) :
    Takes (probeClient b.recorded endpoint) Probing :=
  (probeClient_tries b endpoint).mono fun _ _ _ _ h => h.probing

/-! Opened clients and those handed over to be closed. -/

def Call.opened? : Call ρ κ → Option κ
  | .connect _ (.ok c) => some c
  | _ => none

def Call.passed? : Call ρ κ → Option κ
  | .closeClient c _ => some c
  | _ => none

/-- The clients that were opened by calls. -/
def opened (calls : List (Call ρ κ)) : Multiset κ := calls.filterMap Call.opened?

/-- The clients that the service was asked to close. -/
def passed (calls : List (Call ρ κ)) : Multiset κ := calls.filterMap Call.passed?

theorem opened_append (l m : List (Call ρ κ)) : opened (l ++ m) = opened l + opened m := by
  simp only [opened, List.filterMap_append, Multiset.coe_add]

theorem passed_append (l m : List (Call ρ κ)) : passed (l ++ m) = passed l + passed m := by
  simp only [passed, List.filterMap_append, Multiset.coe_add]

@[simp] theorem opened_nil : opened ([] : List (Call ρ κ)) = 0 := rfl

@[simp] theorem passed_nil : passed ([] : List (Call ρ κ)) = 0 := rfl

@[simp] theorem opened_cons (c : Call ρ κ) (l : List (Call ρ κ)) :
    opened (c :: l) = (c.opened?.toList : Multiset κ) + opened l := by
  unfold opened
  cases h : c.opened? with
  | none => simp [h]
  | some k => simp [h]

@[simp] theorem passed_cons (c : Call ρ κ) (l : List (Call ρ κ)) :
    passed (c :: l) = (c.passed?.toList : Multiset κ) + passed l := by
  unfold passed
  cases h : c.passed? with
  | none => simp [h]
  | some k => simp [h]

def Clone.held (c : Clone κ) : Multiset κ := if c.closed then 0 else {c.client}

namespace Family

def held (f : Family ρ κ) : Multiset κ :=
  (f.handle.client.toList : Multiset κ) + (f.clones.map Clone.held).sum

theorem held_addClone (f : Family ρ κ) {c : Clone κ} (h : c.closed = false) :
    (f.addClone c).held = f.held + {c.client} := by
  simp [held, addClone, Clone.held, h, add_assoc]

theorem sum_set_closed {l : List (Clone κ)} {id : Nat} {c : Clone κ} (hc : l[id]? = some c)
    (ho : c.closed = false) : (l.map Clone.held).sum =
      ((l.set id { c with closed := true }).map Clone.held).sum + {c.client} := by
  induction l generalizing id with
  | nil => cases hc
  | cons d l ih =>
    cases id with
    | zero =>
      rw [List.getElem?_cons_zero, Option.some.injEq] at hc
      subst hc
      simp [Clone.held, ho, add_comm]
    | succ id =>
      rw [List.getElem?_cons_succ] at hc
      simp [ih hc, add_assoc]

theorem held_retire {f : Family ρ κ} {id : CloneId} {c : Clone κ} (hc : f.clones[id]? = some c)
    (ho : c.closed = false) : f.held = (f.retire id c).held + {c.client} := by
  simp [held, retire, sum_set_closed hc ho, add_assoc]

theorem held_of_closed {f : Family ρ κ} (h : ∀ c ∈ f.clones, c.closed = true) :
    f.held = (f.handle.client.toList : Multiset κ) := by
  have hz : ∀ x ∈ f.clones.map Clone.held, x = 0 := by
    intro x hx
    obtain ⟨c, hc, rfl⟩ := List.mem_map.mp hx
    rw [Clone.held, if_pos (h c hc)]
  rw [held, List.sum_eq_zero hz, add_zero]

end Family

/-- The clients that calls opened and those held before are held after them or were passed on. -/
def Balanced (f f' : Family ρ κ) (calls : List (Call ρ κ)) : Prop :=
  opened calls + f.held ≤ passed calls + f'.held

namespace Balanced

variable {f f' f'' : Family ρ κ} {calls calls' : List (Call ρ κ)}

theorem of_held_eq (ho : opened calls = 0) (hf : f'.held = f.held) : Balanced f f' calls := by
  rw [Balanced, ho, hf, zero_add]
  exact Multiset.le_add_left _ _

theorem trans (h : Balanced f f' calls) (h' : Balanced f' f'' calls') :
    Balanced f f'' (calls ++ calls') := by
  rw [Balanced, opened_append, passed_append]
  calc opened calls + opened calls' + f.held
      = opened calls' + (opened calls + f.held) := by rw [add_comm (opened calls), add_assoc]
    _ ≤ opened calls' + (passed calls + f'.held) := add_le_add_right h _
    _ = passed calls + (opened calls' + f'.held) := add_left_comm _ _ _
    _ ≤ passed calls + (passed calls' + f''.held) := add_le_add_right h' _
    _ = passed calls + passed calls' + f''.held := (add_assoc _ _ _).symm

end Balanced

/-! The courses of the operations are balanced. -/

section Courses

variable {f f' : Family ρ κ} {calls : List (Call ρ κ)}

theorem Terminating.balanced {r : Except Fault Unit} (h : Terminating f r f' calls) :
    Balanced f f' calls := by
  cases h <;> exact .of_held_eq rfl rfl

theorem Reverting.balanced {r : Except Fault Unit} (h : Reverting f r f' calls) :
    Balanced f f' calls := by
  cases h <;> exact .of_held_eq rfl rfl

theorem Ending.balanced {r : Except Fault Unit} (h : Ending f r f' calls) :
    Balanced f f' calls := by
  cases h with
  | kept _ => exact .of_held_eq rfl rfl
  | ended _ ht => exact ht.balanced

theorem Dismissing.balanced {r : Except Fault Unit} (h : Dismissing f r f' calls) :
    Balanced f f' calls := by
  cases h <;> exact .of_held_eq rfl rfl

theorem Closing.balanced {r : Except Fault Unit} (h : Closing f r f' calls) :
    Balanced f f' calls := by
  cases h with
  | again _ _ => exact .of_held_eq rfl rfl
  | retried _ _ _ ht => exact ht.balanced
  | refused _ hr => exact hr.balanced
  | failed _ hr he => exact hr.balanced.trans he.balanced
  | done _ hr he hd => exact (hr.balanced.trans he.balanced).trans hd.balanced

theorem Dropping.opened_eq {c : Clone κ} {r : Except Fault Unit}
    (h : Dropping (ρ := ρ) c r calls) : opened calls = 0 ∧ c.client ∈ passed calls := by
  cases h <;> simp [Call.opened?, Call.passed?]

theorem Retiring.balanced {id : CloneId} {r : Except Fault Bool} (h : Retiring id f r f' calls) :
    Balanced f f' calls := by
  cases h with
  | idle _ => exact .of_held_eq rfl rfl
  | failed _ _ hd => exact .of_held_eq hd.opened_eq.1 rfl
  | done hc ho hd =>
    obtain ⟨hz, hm⟩ := hd.opened_eq
    rw [Balanced, hz, zero_add, Family.held_retire hc ho, add_comm]
    exact add_le_add_left (Multiset.singleton_le.mpr hm) _

theorem Releasing.balanced {id : CloneId} {r : Except Fault Unit} (h : Releasing id f r f' calls) :
    Balanced f f' calls := by
  cases h with
  | kept _ => exact .of_held_eq rfl rfl
  | last _ _ ht =>
    have hf : Balanced f (f.forget id) ([] : List (Call ρ κ)) := .of_held_eq rfl rfl
    exact hf.trans ht.balanced

theorem ClosingClone.balanced {id : CloneId} {r : Except Fault Unit}
    (h : ClosingClone id f r f' calls) : Balanced f f' calls := by
  cases h with
  | idle ht => exact ht.balanced
  | failed ht => exact ht.balanced
  | done ht hl => exact ht.balanced.trans hl.balanced

theorem Promoting.balanced {e? : Option Fault} {r : Except Fault Unit}
    (h : Promoting e? f r f' calls) : Balanced f f' calls := by
  cases h <;> exact .of_held_eq rfl rfl

theorem Connecting.opened_eq {info : ConnectionInfo} {r : Except Fault κ}
    (h : Connecting (ρ := ρ) info r calls) :
    (∃ e, r = .error e ∧ opened calls = 0) ∨ ∃ c, r = .ok c ∧ opened calls = {c} := by
  cases h with
  | done c => exact .inr ⟨c, rfl, rfl⟩
  | interrupted e _ => exact .inl ⟨_, rfl, rfl⟩
  | removed e r _ _ => exact .inl ⟨_, rfl, rfl⟩
  | removalInterrupted e d _ _ => exact .inl ⟨_, rfl, rfl⟩

theorem Cloning.balanced {info? : Handle ρ κ → Except Fault ConnectionInfo}
    {r : Except Fault CloneId} (h : Cloning info? f r f' calls) : Balanced f f' calls := by
  cases h with
  | notConnected name _ _ _ hk =>
    rcases hk.opened_eq with ⟨e, -, ho⟩ | ⟨c, hr, -⟩
    · exact .of_held_eq ho rfl
    · cases hr
  | @done _ name info client calls' _ _ _ hk =>
    rcases hk.opened_eq with ⟨e, hr, -⟩ | ⟨c, hr, ho⟩
    · cases hr
    · cases hr
      have hz : opened (.createCopy f.handle name (.ok ()) :: calls') = {client} := by
        rw [opened_cons, ho]
        rfl
      rw [Balanced, hz, Family.held_addClone f rfl, add_comm]
      exact Multiset.le_add_left _ _
  | closed _ => exact .of_held_eq rfl rfl
  | notTemplate _ _ => exact .of_held_eq rfl rfl
  | unnamed e _ _ => exact .of_held_eq rfl rfl
  | copyFailed name e _ _ => exact .of_held_eq rfl rfl
  | noInfo name e _ _ _ => exact .of_held_eq rfl rfl

theorem Ensuring.balanced {r : Except Fault Unit} (h : Ensuring f r f' calls) :
    Balanced f f' calls := by
  cases h with
  | present _ => exact .of_held_eq rfl rfl
  | noInfo e _ => exact .of_held_eq rfl rfl
  | failed info e _ => exact .of_held_eq rfl rfl
  | done info c hc =>
    rw [Balanced]
    simp [Call.opened?, Call.passed?, Family.held, hc]

theorem Probing.balanced {r : Except Fault Unit} (h : Probing f r f' calls) :
    Balanced f f' calls := by
  cases h with
  | ready => exact .of_held_eq rfl rfl
  | interrupted e _ => exact .of_held_eq rfl rfl
  | failed e hc => exact .of_held_eq rfl (by simp [Family.held, Family.giveUp, hc])
  | givenUp e d r hc =>
    refine le_of_eq ?_
    simp [Call.opened?, Call.passed?, Family.held, Family.giveUp, hc]

end Courses

/-! What an operation leaves alone. -/

namespace Family

def LiveOpen (f : Family ρ κ) : Prop :=
  ∀ id ∈ f.handle.liveClones, ∃ c, f.clones[id]? = some c ∧ c.closed = false

/-- A family in the same container, with its runtime owned or not as before. -/
def SameHost (f f' : Family ρ κ) : Prop :=
  f'.handle.container = f.handle.container ∧ f'.handle.ownsRuntime = f.handle.ownsRuntime

/-- A family with the same clones, of which the same are live. -/
structure Still (f f' : Family ρ κ) : Prop where
  live : f'.handle.liveClones = f.handle.liveClones
  clones : f'.clones = f.clones
  host : f.SameHost f'

theorem Still.trans {f f' f'' : Family ρ κ} (h : f.Still f') (h' : f'.Still f'') :
    f.Still f'' where
  live := h'.live.trans h.live
  clones := h'.clones.trans h.clones
  host := ⟨h'.host.1.trans h.host.1, h'.host.2.trans h.host.2⟩

theorem Still.liveOpen {f f' : Family ρ κ} (h : f.Still f') (hl : f.LiveOpen) : f'.LiveOpen := by
  unfold LiveOpen
  rw [h.live, h.clones]
  exact hl

end Family

section Courses

variable {f f' : Family ρ κ} {calls : List (Call ρ κ)}

theorem Terminating.still {r : Except Fault Unit} (h : Terminating f r f' calls) : f.Still f' := by
  cases h <;> exact ⟨rfl, rfl, rfl, rfl⟩

theorem Reverting.still {r : Except Fault Unit} (h : Reverting f r f' calls) : f.Still f' := by
  cases h <;> exact ⟨rfl, rfl, rfl, rfl⟩

theorem Ending.still {r : Except Fault Unit} (h : Ending f r f' calls) : f.Still f' := by
  cases h with
  | kept _ => exact ⟨rfl, rfl, rfl, rfl⟩
  | ended _ ht => exact ht.still

theorem Dismissing.still {r : Except Fault Unit} (h : Dismissing f r f' calls) : f.Still f' := by
  cases h <;> exact ⟨rfl, rfl, rfl, rfl⟩

theorem still_closed (f : Family ρ κ) : f.Still (f.onHandle fun h => { h with closed := true }) :=
  ⟨rfl, rfl, rfl, rfl⟩

theorem Closing.still {r : Except Fault Unit} (h : Closing f r f' calls) : f.Still f' := by
  cases h with
  | again _ _ => exact ⟨rfl, rfl, rfl, rfl⟩
  | retried _ _ _ ht => exact ht.still
  | refused _ hr => exact hr.still
  | failed _ hr he => exact hr.still.trans he.still
  | done _ hr he hd =>
    exact ((hr.still.trans he.still).trans (still_closed _)).trans hd.still

theorem Promoting.still {e? : Option Fault} {r : Except Fault Unit}
    (h : Promoting e? f r f' calls) : f.Still f' := by
  cases h <;> exact ⟨rfl, rfl, rfl, rfl⟩

theorem Ensuring.still {r : Except Fault Unit} (h : Ensuring f r f' calls) : f.Still f' := by
  cases h <;> exact ⟨rfl, rfl, rfl, rfl⟩

theorem Probing.still {r : Except Fault Unit} (h : Probing f r f' calls) : f.Still f' := by
  cases h <;> exact ⟨rfl, rfl, rfl, rfl⟩

theorem Cloning.liveOpen {info? : Handle ρ κ → Except Fault ConnectionInfo}
    {r : Except Fault CloneId} (h : Cloning info? f r f' calls) (hl : f.LiveOpen) :
    f'.LiveOpen := by
  rcases h.outcome.1 with ⟨-, rfl⟩ | ⟨-, -, -, c, ho, rfl⟩
  · exact hl
  · intro id hid
    rcases List.mem_append.mp hid with hid | hid
    · obtain ⟨d, hd, hdo⟩ := hl id hid
      exact ⟨d, (List.getElem?_append_left (List.getElem?_eq_some_iff.mp hd).1).trans hd, hdo⟩
    · rw [List.mem_singleton.mp hid]
      exact ⟨c, by simp [Family.addClone], ho⟩

theorem Cloning.sameHost {info? : Handle ρ κ → Except Fault ConnectionInfo}
    {r : Except Fault CloneId} (h : Cloning info? f r f' calls) : f.SameHost f' := by
  rcases h.outcome.1 with ⟨-, rfl⟩ | ⟨-, -, -, c, -, rfl⟩ <;> exact ⟨rfl, rfl⟩

theorem Releasing.still {id : CloneId} {r : Except Fault Unit} (h : Releasing id f r f' calls) :
    (f.forget id).Still f' := by
  cases h with
  | kept _ => exact ⟨rfl, rfl, rfl, rfl⟩
  | last _ _ ht => exact ht.still

theorem ClosingClone.liveOpen {id : CloneId} {r : Except Fault Unit}
    (h : ClosingClone id f r f' calls) (hl : f.LiveOpen) : f'.LiveOpen := by
  rcases h.outcome with ⟨rfl, -⟩ | ⟨c, first, second, -, -, -, hc, ho, hr⟩
  · exact hl
  · refine hr.still.liveOpen fun i hi => ?_
    obtain ⟨hi, hne⟩ := List.mem_filter.mp hi
    obtain ⟨d, hd, hdo⟩ := hl i hi
    have hii : id ≠ i := by
      rintro rfl
      simp at hne
    exact ⟨d, by simpa [Family.forget, Family.retire, List.getElem?_set_ne hii] using hd, hdo⟩

theorem ClosingClone.sameHost {id : CloneId} {r : Except Fault Unit}
    (h : ClosingClone id f r f' calls) : f.SameHost f' := by
  rcases h.outcome with ⟨rfl, -⟩ | ⟨c, first, second, -, -, -, -, -, hr⟩
  · exact ⟨rfl, rfl⟩
  · exact hr.still.host

end Courses

end Testbed
