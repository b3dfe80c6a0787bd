import Testbed.Proofs.Readiness.Rounds
import Testbed.Proofs.Start.Order

/-!
# The clients of a wait

While a start waits for its instance, every client that was opened is the one that the instance
holds or was handed to the service to be closed, once for each time it was opened.
-/

namespace Testbed

set_option autoImplicit false

open FamilyAct Act

variable {η ρ κ σ τ α β : Type}

/-! From what holds before every probe to what holds at the end. -/

/-- An action that leads from a property of the state to a property of the result and the state. -/
def Act.Yields (I : σ → Prop) (Q : Except Fault α → σ → Prop) (x : Act σ α) : Prop :=
  ∀ s, I s → Q (x s).1 (x s).2

theorem Act.Yields.bind {I : σ → Prop} {Q : Except Fault β → σ → Prop} {x : Act σ α}
    {f : α → Act σ β} (hx : Act.Keeps I x) (hQ : ∀ e s, I s → Q (.error e) s)
    (hf : ∀ a, Act.Yields I Q (f a)) : Act.Yields I Q (x >>= f) := by
  intro s hs
  have hs' := hx s hs
  rcases h : x s with ⟨e | a, s'⟩ <;> rw [h] at hs'
  · rw [bind_of_error h]
    exact hQ e s' hs'
  · rw [bind_of_ok h]
    exact hf a s' hs'

namespace Polling

/-- What holds before every probe of a wait, and what holds at its end. -/
structure Carries (p : Polling τ σ) (I : σ → Prop) (Q : Except Fault Unit → σ → Prop) : Prop where
  ready : ∀ s t, I s → p.probe p.endpoint s = (.ok (), t) → Q (.ok ()) t
  failed : ∀ s e t, I s → p.probe p.endpoint s = (.error e, t) → p.Transient e → I t
  refused : ∀ s e t, I s → p.probe p.endpoint s = (.error e, t) → ¬ p.Transient e → Q (.error e) t
  stopped : ∀ e s, I s → Q (.error e) s
  sleep : ∀ n, Act.Keeps I (p.clock.sleep n)
  write : ∀ level topic text s, I s → I (p.diary.write level topic text s)
  reported : ∀ level topic text s, Q (.ok ()) s → Q (.ok ()) (p.diary.write level topic text s)

variable {p : Polling τ σ} {I : σ → Prop} {Q : Except Fault Unit → σ → Prop}

theorem poll_carries (h : p.Carries I Q) (deadline : τ) (n k : Nat) :
    Act.Yields I Q (p.poll deadline n k) := by
  induction n generalizing k with
  | zero => exact h.stopped _
  | succ n ih =>
    -- after a failed probe nothing ends the wait but a fault, and the invariant lasts until then
    intro s hs
    rcases hp : p.probe p.endpoint s with ⟨e | ⟨⟩, t⟩
    · by_cases he : p.Transient e
      · have next : Act.Yields I Q (do
            let left ← Act.ofExcept (p.scale.left (← Act.read p.clock.now) deadline)
            if p.scale.isZero left then Act.fail (Fault.raisedFrom (p.timedOut k e) e)
            else do
              p.pause k left e
              p.poll deadline n (k + 1)) := by
          refine .bind (.read _) h.stopped fun now => .bind (.ofExcept _) h.stopped fun left => ?_
          split
          · exact h.stopped _
          · refine .bind ?_ h.stopped fun _ => ih (k + 1)
            refine .bind (.ofExcept _) fun _ => ?_
            exact .bind (.update fun s => h.write _ _ _ s) fun _ => h.sleep _
        rw [poll, bind_of_ok (attempt_of_ordinary hp he.1)]
        dsimp only
        rw [if_pos he.2]
        exact next t (h.failed s e t hs hp he)
      · rw [poll_of_refused hp he]
        exact h.refused s e t hs hp he
    · rw [poll, bind_of_ok (attempt_of_ok hp)]
      exact h.reported _ _ _ t (h.ready s t hs hp)

theorem awaitReady_carries (h : p.Carries I Q) : Act.Yields I Q p.awaitReady :=
  .bind (.read _) h.stopped fun _ => .bind (.ofExcept _) h.stopped fun _ => poll_carries h _ _ _

end Polling

/-! Attempts. -/

abbrev Attempt : Course ρ κ Unit := Course.Then Ensuring fun _ => Trying

theorem attemptProbe_attempt (b : Backing η ρ κ σ) (endpoint : String) :
    Takes (attemptProbe b.recorded endpoint) Attempt :=
  (ensureClient_takes b).bind fun _ => probeClient_tries b endpoint

section Attempt

variable {f f' : Family ρ κ} {r : Except Fault Unit} {calls : List (Call ρ κ)}

theorem Attempt.attempting (h : Attempt f r f' calls) : Attempting f r f' calls := by
  cases h with
  | failed he => exact .failed he
  | next he ht => exact .next he ht.probing

/-- The clients opened by calls, and one that was there before, were passed on by the calls or are
there after them. -/
def Handed (f f' : Family ρ κ) (calls : List (Call ρ κ)) : Prop :=
  opened calls + (f.handle.client.toList : Multiset κ) =
    passed calls + (f'.handle.client.toList : Multiset κ)

theorem Handed.trans {f'' : Family ρ κ} {calls' : List (Call ρ κ)} (h : Handed f f' calls)
    (h' : Handed f' f'' calls') : Handed f f'' (calls ++ calls') := by
  rw [Handed, opened_append, passed_append]
  calc opened calls + opened calls' + (f.handle.client.toList : Multiset κ)
      = opened calls' + (opened calls + f.handle.client.toList) := by
        rw [add_comm (opened calls), add_assoc]
    _ = passed calls + (opened calls' + f'.handle.client.toList) := by rw [h, add_left_comm]
    _ = passed calls + passed calls' + f''.handle.client.toList := by rw [h', add_assoc]

theorem Ensuring.handed (h : Ensuring f r f' calls) : Handed f f' calls := by
  cases h with
  | present _ | noInfo _ _ | failed _ _ _ => simp [Handed, Call.opened?, Call.passed?]
  | done info c hc => simp [Handed, Call.opened?, Call.passed?, hc]

theorem Trying.handed (h : Trying f r f' calls) : Handed f f' calls := by
  cases h with
  | ready | interrupted _ _ => simp [Handed, Call.opened?, Call.passed?]
  | failed _ _ hc => simp [Handed, Call.opened?, Call.passed?, Family.giveUp, hc]
  | givenUp _ _ _ _ hc | abandoned _ _ _ _ hc =>
    simp [Handed, Call.opened?, Call.passed?, Family.giveUp, hc]

theorem Attempt.handed (h : Attempt f r f' calls) : Handed f f' calls := by
  cases h with
  | failed he => exact he.handed
  | next he ht => exact he.handed.trans ht.handed

theorem Attempt.released {e : Fault} (h : Attempt f (.error e) f' calls)
    (he : e.isOrdinary = true) (hf : f.handle.client = none) : f'.handle.client = none := by
  cases h with
  | failed hens => cases hens <;> exact hf
  | next _ ht =>
    cases ht with
    | interrupted _ hi => cases he.symm.trans hi
    | failed _ _ _ | givenUp _ _ _ _ _ | abandoned _ _ _ _ _ => rfl

theorem Ensuring.not_closing (h : Ensuring f r f' calls) (c : κ) (q : Except Fault Unit) :
    .closeClient c q ∉ calls := by
  cases h <;> simp

/-- A client is passed on after its probe failed, and an attempt raises what the probe raised unless
closing the client was interrupted. -/
theorem Attempt.closing (h : Attempt f r f' calls) {c : κ} {q : Except Fault Unit}
    (hc : .closeClient c q ∈ calls) : ∃ e, .probe (some c) (.error e) ∈ calls ∧
      (r = .error e ∨ ∃ d, q = .error d ∧ d.isOrdinary = false ∧ r = .error d) := by
  cases h with
  | failed he => exact absurd hc (he.not_closing c q)
  | next he ht =>
    have hc := (List.mem_append.mp hc).resolve_left (he.not_closing c q)
    cases ht with
    | ready => simp at hc
    | interrupted e _ => simp at hc
    | failed e _ _ => simp at hc
    | givenUp e q' _ _ _ =>
      obtain ⟨rfl, rfl⟩ : c = _ ∧ q = q' := by simpa using hc
      exact ⟨e, by simp, .inl rfl⟩
    | abandoned e d _ hd _ =>
      obtain ⟨rfl, rfl⟩ : c = _ ∧ q = .error d := by simpa using hc
      exact ⟨e, by simp, .inr ⟨d, rfl, hd, rfl⟩⟩

end Attempt

/-! A wait. -/

/-- Every client that was opened was passed on or is the one that the instance holds. -/
def Accounted (s : Family ρ κ × Recorded ρ κ σ) : Prop :=
  opened s.2.1 = passed s.2.1 + (s.1.handle.client.toList : Multiset κ)

theorem Accounted.card_le {s : Family ρ κ × Recorded ρ κ σ} (h : Accounted s) :
    (opened s.2.1).card ≤ (passed s.2.1).card + 1 := by
  rw [h, Multiset.card_add, Multiset.coe_card]
  cases s.1.handle.client <;> simp

theorem Accounted.next {f f' : Family ρ κ} {l calls : List (Call ρ κ)} {t t' : σ}
    (h : Accounted (f, (l, t))) (hc : Handed f f' calls) : Accounted (f', (l ++ calls, t')) := by
  have h : opened l = passed l + (f.handle.client.toList : Multiset κ) := h
  change opened (l ++ calls) = passed (l ++ calls) + (f'.handle.client.toList : Multiset κ)
  rw [opened_append, passed_append, h, add_assoc, add_comm (f.handle.client.toList : Multiset κ),
    hc, add_assoc]

/-- A wait that is watched, on recorded collaborators. -/
abbrev Watched (ρ κ σ : Type) :=
  List (WaitEvent Num (Family ρ κ × Recorded ρ κ σ)) × (Family ρ κ × Recorded ρ κ σ)

structure WaitEvent.Sound (x : WaitEvent Num (Family ρ κ × Recorded ρ κ σ)) : Prop where
  before : Accounted x.before
  after : Accounted x.after
  attempt : ∀ endpoint s r t, x = .probe endpoint s r t →
    ∃ calls, t.2.1 = s.2.1 ++ calls ∧ Attempt s.1 r t.1 calls

/-- How the readiness polling of a start stands before every attempt. -/
structure Resting (s : Watched ρ κ σ) : Prop where
  events : ∀ x ∈ s.1, x.Sound
  accounted : Accounted s.2
  client : s.2.1.handle.client = none

/-- How it stands at the end. -/
structure Rested (r : Except Fault Unit) (s : Watched ρ κ σ) : Prop where
  events : ∀ x ∈ s.1, x.Sound
  accounted : Accounted s.2
  returned : r = .ok () → ∃ c, s.2.1.handle.client = some c ∧
    s.2.2.1.getLast? = some (.probe (some c) (.ok ()))
  raised : ∀ e, r = .error e → e.isOrdinary = true → s.2.1.handle.client = none

section Polling

variable {b : Backing η ρ κ σ} {p : Provisioner η ρ κ (Recorded ρ κ σ)}

theorem Resting.probed {endpoint : String} {timeout : Num} {s t : Watched ρ κ σ}
    {r : Except Fault Unit} (hs : Resting s)
    (h : (readinessPolling p b.recorded endpoint timeout).watched.probe endpoint s = (r, t)) :
    (∀ x ∈ t.1, x.Sound) ∧ Accounted t.2 ∧
      ∃ calls, t.2.2.1 = s.2.2.1 ++ calls ∧ Attempt s.2.1 r t.2.1 calls := by
  obtain ⟨events, f, l, o⟩ := s
  obtain ⟨r', f', calls, o', hprobe, ha⟩ := attemptProbe_attempt b endpoint f l o
  have hobserved := observed_of_eq (@WaitEvent.probe Num _ endpoint) events hprobe
  cases h.symm.trans hobserved
  have hafter : Accounted (f', (l ++ calls, o')) := hs.accounted.next ha.handed
  refine ⟨fun x hx => ?_, hafter, calls, rfl, ha⟩
  rcases List.mem_append.mp hx with hx | hx
  · exact hs.events x hx
  · cases List.mem_singleton.mp hx
    refine ⟨hs.accounted, hafter, ?_⟩
    rintro _ _ _ _ ⟨⟩
    exact ⟨calls, rfl, ha⟩

theorem readinessPolling_carries (hp : p.around = b.around.beside) (endpoint : String)
    (timeout : Num) :
    (readinessPolling p b.recorded endpoint timeout).watched.Carries Resting Rested where
  ready s t hs h := by
    obtain ⟨hevents, haccounted, calls, hl, ha⟩ := hs.probed h
    obtain ⟨c, hf, hlast⟩ := ha.attempting.of_ready
    refine ⟨hevents, haccounted, fun _ => ⟨c, ?_, ?_⟩, by rintro _ ⟨⟩⟩
    · rw [hf, Family.holding_client]
    · rw [hl, List.getLast?_append, hlast, Option.some_or]
  failed s e t hs h he := by
    obtain ⟨hevents, haccounted, calls, -, ha⟩ := hs.probed h
    exact ⟨hevents, haccounted, ha.released he.1 hs.client⟩
  refused s e t hs h _ := by
    obtain ⟨hevents, haccounted, calls, -, ha⟩ := hs.probed h
    refine ⟨hevents, haccounted, by rintro ⟨⟩, ?_⟩
    rintro _ ⟨⟩ ho
    exact ha.released ho hs.client
  stopped e s hs := ⟨hs.events, hs.accounted, by rintro ⟨⟩, fun _ _ _ => hs.client⟩
  sleep n := by
    rintro ⟨events, f, l, o⟩ hs
    have hsleep : (readinessPolling p b.recorded endpoint timeout).clock.sleep n (f, (l, o)) =
        ((b.around.clock.sleep n o).1, (f, (l, (b.around.clock.sleep n o).2))) := by
      change Act.outside (p.around.clock.sleep n) (f, (l, o)) = _
      rw [hp]
      rfl
    change Resting (Act.observed _ _ _).2
    rw [observed_of_eq _ events hsleep]
    refine ⟨fun x hx => ?_, hs.accounted, hs.client⟩
    rcases List.mem_append.mp hx with hx | hx
    · exact hs.events x hx
    · cases List.mem_singleton.mp hx
      exact ⟨hs.accounted, hs.accounted, by rintro _ _ _ _ ⟨⟩⟩
  write level topic text s hs := by
    refine ⟨hs.events, ?_, hs.client⟩
    change Accounted (s.2.1, p.around.diary.write level topic text s.2.2)
    rw [hp]
    exact hs.accounted
  reported level topic text s hs := by
    have hl : (p.around.diary.write level topic text s.2.2).1 = s.2.2.1 := by
      rw [hp]
      rfl
    refine ⟨hs.events, ?_, fun hr => ?_, hs.raised⟩
    · change Accounted (s.2.1, p.around.diary.write level topic text s.2.2)
      rw [hp]
      exact hs.accounted
    · obtain ⟨c, hc, hlast⟩ := hs.returned hr
      exact ⟨c, hc, (congrArg List.getLast? hl).trans hlast⟩

end Polling

/-- What a start raises in the place of a fault of its readiness polling. -/
def unready (service endpoint : String) (e : Fault) : Fault :=
  if e.isOrdinary && !e.isReadinessTimeout then
    Fault.raisedFrom (.setup .general .readiness
      s!"Could not connect to {service} at '{endpoint}': {e.message}") e
  else e

theorem unready_isOrdinary (service endpoint : String) (e : Fault) :
    (unready service endpoint e).isOrdinary = e.isOrdinary := by
  unfold unready
  split
  · next h =>
    rw [(Bool.and_eq_true_iff.mp h).1]
    rfl
  · rfl

theorem waitReady_apply (p : Provisioner η ρ κ σ) (b : Backing η ρ κ σ) (timeout : Num)
    (f : Family ρ κ) (o : σ) : waitReady p b timeout (f, o) =
      match (readinessPolling p b f.handle.endpoint timeout).awaitReady (f, o) with
      | (r, s) => (r.mapError (unready b.service.name f.handle.endpoint), s) := by
  rw [waitReady, handle_bind]
  rcases h : (readinessPolling p b f.handle.endpoint timeout).awaitReady (f, o) with ⟨e | ⟨⟩, s⟩
  · cases ho : e.isOrdinary with
    | false =>
      rw [bind_of_error (attempt_of_interruption h ho)]
      simp [Except.mapError, unready, ho]
    | true =>
      rw [bind_of_ok (attempt_of_ordinary h ho)]
      cases hr : e.isReadinessTimeout <;> simp [Except.mapError, unready, ho, hr, Act.fail]
  · rw [bind_of_ok (attempt_of_ok h)]
    rfl

/-- No client is lost while a start waits for its instance, whatever connecting, probing and closing
clients do. -/
theorem waitReady_conserves (p : Provisioner η ρ κ (Recorded ρ κ σ)) (b : Backing η ρ κ σ)
    (hp : p.around = b.around.beside) (timeout : Num) (f : Family ρ κ)
    (hf : f.handle.client = none) (s : σ) :
    ∃ result raised events f' calls s',
      (readinessPolling p b.recorded f.handle.endpoint timeout).watched.awaitReady
        ([], (f, ([], s))) = (raised, (events, (f', (calls, s')))) ∧
      waitReady p b.recorded timeout (f, ([], s)) = (result, (f', (calls, s'))) ∧
      result = raised.mapError (unready b.service.name f.handle.endpoint) ∧
      (∀ t, (t = (f', (calls, s')) ∨ ∃ x ∈ events, t = x.before ∨ t = x.after) →
        Accounted t ∧ (opened t.2.1).card ≤ (passed t.2.1).card + 1) ∧
      passed calls ≤ opened calls ∧ ((opened calls).Nodup → (passed calls).Nodup) ∧
      (∀ endpoint u q v, .probe endpoint u q v ∈ events → ∃ tried, v.2.1 = u.2.1 ++ tried ∧
        ∀ c d, .closeClient c d ∈ tried → ∃ e, .probe (some c) (.error e) ∈ tried ∧
          (q = .error e ∨ ∃ i, d = .error i ∧ i.isOrdinary = false ∧ q = .error i)) ∧
      (result = .ok () → ∃ c, f'.handle.client = some c ∧
        calls.getLast? = some (.probe (some c) (.ok ()))) ∧
      (∀ e, result = .error e → e.isOrdinary = true → f'.handle.client = none) := by
  have hstart : @Resting ρ κ σ ([], (f, ([], s))) := by
    refine ⟨by simp, ?_, hf⟩
    change opened [] = passed [] + (f.handle.client.toList : Multiset κ)
    rw [hf]
    rfl
  have hend := Polling.awaitReady_carries
    (readinessPolling_carries hp f.handle.endpoint timeout) _ hstart
  have hsame := Polling.watched_maps (readinessPolling p b.recorded f.handle.endpoint timeout)
    ([], (f, ([], s)))
  rcases hw : (readinessPolling p b.recorded f.handle.endpoint timeout).watched.awaitReady
    ([], (f, ([], s))) with ⟨r, events, f', calls, s'⟩
  rw [hw] at hend hsame
  have hwait := waitReady_apply p b.recorded timeout f ([], s)
  rw [hsame] at hwait
  have honce : passed calls ≤ opened calls := by
    rw [show opened calls = _ from hend.accounted]
    exact Multiset.le_add_right _ _
  refine ⟨_, r, events, f', calls, s', rfl, hwait, rfl, fun t ht => ?_, honce,
    Multiset.nodup_of_le honce, ?_, ?_, ?_⟩
  · have haccounted : Accounted t := by
      rcases ht with rfl | ⟨x, hx, rfl | rfl⟩
      · exact hend.accounted
      · exact (hend.events x hx).before
      · exact (hend.events x hx).after
    exact ⟨haccounted, haccounted.card_le⟩
  · intro endpoint u q v hx
    obtain ⟨tried, hv, ha⟩ := (hend.events _ hx).attempt endpoint u q v rfl
    exact ⟨tried, hv, fun c d hc => ha.closing hc⟩
  · intro hr
    refine hend.returned ?_
    cases r with
    | ok _ => rfl
    | error e => cases hr
  · intro e hr he
    cases r with
    | ok _ => cases hr
    | error d =>
      cases hr
      rw [unready_isOrdinary] at he
      exact hend.raised d rfl he

/-- A backing whose first client is broken and cannot be closed. -/
def Backing.flaky : Backing Unit Unit Nat Nat where
  service := {
    (Service.abstract "store" : Service Unit Unit Nat Nat) with
    connectTo _ := fun n => (.ok n, n + 1)
    connectionInfo _ := .ok { host := "localhost", port := 5432 }
    probe c := if c = some 0 then Act.raise (.notReady "restarting") else pure ()
    closeClient _ := Act.raise (.host .brokenConnection "gone") }
  runtime := {
    ping := pure ()
    launch _ := pure ()
    scheduleExpiry _ _ := pure ()
    endpoint _ _ := pure "localhost:5432"
    terminate _ := pure ()
    close := pure () }
  around := {
    clock := { now := fun _ => .real 0, sleep := fun _ => pure () }
    date _ := .real 0
    stamp := pure 0
    diary := { write := fun _ _ _ s => s } }

def Provisioner.flaky : Provisioner Unit Unit Nat (Recorded Unit Nat Nat) where
  around := Backing.flaky.around.beside
  newRuntime := pure Backing.flaky.runtime.recorded
  runHook _ _ _ := pure ()
  hookLabel _ := ""
  pollInterval := .real 0.5
  maxBackoff := .int 2
  furtherProbes := 10

def Family.unconnected : Family Unit Nat where
  handle := { container := (), endpoint := "localhost:5432", logicalName := "orders" }

/-- The second client is the one that the instance holds, and the first was passed on. -/
theorem waitReady_conserves_of_flaky : ∃ f calls s,
    waitReady .flaky Backing.flaky.recorded (.real 1) (.unconnected, ([], 0)) =
      (.ok (), (f, (calls, s))) ∧
    f.handle.client = some 1 ∧ opened calls = {0, 1} ∧ passed calls = {0} := by
  obtain ⟨r, _, events, f, calls, s, -, hw, -, hpoints, -, -, -, hreturned, -⟩ :=
    waitReady_conserves .flaky .flaky rfl (.real 1) .unconnected rfl 0
  obtain ⟨hok, hopened, hpassed⟩ :
      (waitReady .flaky Backing.flaky.recorded (.real 1) (.unconnected, ([], 0))).1.isOk = true ∧
      (waitReady .flaky Backing.flaky.recorded (.real 1)
        (.unconnected, ([], 0))).2.2.1.filterMap Call.opened? = [0, 1] ∧
      (waitReady .flaky Backing.flaky.recorded (.real 1)
        (.unconnected, ([], 0))).2.2.1.filterMap Call.passed? = [0] := by decide +kernel
  rw [hw] at hok hopened hpassed
  cases r with
  | error e => cases hok
  | ok _ =>
    obtain ⟨c, hc, -⟩ := hreturned rfl
    have hopened : opened calls = {0, 1} := congrArg Multiset.ofList hopened
    have hpassed : passed calls = {0} := congrArg Multiset.ofList hpassed
    have hheld : opened calls = passed calls + (f.handle.client.toList : Multiset Nat) :=
      (hpoints _ (.inl rfl)).1
    rw [hopened, hpassed, hc] at hheld
    have hlast : ({0} : Multiset Nat) + {1} = {0} + {c} := hheld
    rw [← Multiset.singleton_inj.mp (add_left_cancel hlast)] at hc
    exact ⟨f, calls, s, hw, hc, hopened, hpassed⟩

end Testbed
