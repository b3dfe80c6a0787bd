import Testbed.Proofs.Start.Run

/-!
# The step that failed

A start that fails on an engine raises a setup fault that names the first step that failed.  What
is not raised as such a fault is known one by one: the faults of requests to the daemon that are not
of the daemon's own kind are among it.
-/

namespace Testbed

set_option autoImplicit false

open FamilyAct Act

variable {η κ σ α : Type}

/-- The kinds of setup failure that stand for one step name it; the others name any. -/
def SetupKind.step (kind : SetupKind) (stage : Stage) : Stage :=
  match kind with
  | .general | .launch => stage
  | .runtimeUnavailable => .runtime
  | .readinessTimeout => .readiness
  | .postStart => .postStart
  | .template => .template

/-- The step that a fault names. -/
def Fault.step? (e : Fault) : Option Stage :=
  match e.head with
  | .setup kind stage _ => some (kind.step stage)
  | _ => none

theorem ordinary_of_wrapped {wrap : Fault → Incident} {e : Fault}
    (ho : (wrapped wrap e).isOrdinary = true) : e.isOrdinary = true := by
  by_contra hn
  rw [wrapped, if_neg hn] at ho
  exact hn ho

/-- An ordinary fault that is raised in the place of another one names the step of the new one. -/
theorem step?_wrapped {wrap : Fault → Incident} {g : Stage} {e : Fault}
    (hw : (Fault.of (wrap e)).step? = some g) (ho : (wrapped wrap e).isOrdinary = true) :
    (wrapped wrap e).step? = some g := by
  rw [wrapped, if_pos (ordinary_of_wrapped ho)]
  exact hw

/-! Faults that leave an engine. -/

/-- An ordinary fault of a request to the daemon that is not of the daemon's own kind. -/
def Act.RaisesOther (x : Act σ α) (d : Fault) : Prop :=
  d.isDaemonFault = false ∧ ∃ s, (x s).1 = .error d

/-- An ordinary fault behind an attempt comes from what is done with its outcome. -/
theorem attempt_fault {β : Type} {x : Act σ α} {f : Except Fault α → Act σ β} {s : σ} {d : Fault}
    (h : ((attempt x >>= f) s).1 = .error d) (ho : d.isOrdinary = true) :
    ∃ r s', x s = (r, s') ∧ (f r s').1 = .error d := by
  rcases hx : x s with ⟨e | a, s'⟩
  · cases he : e.isOrdinary with
    | false =>
      rw [bind_of_error (attempt_of_interruption hx he)] at h
      cases h
      cases he.symm.trans ho
    | true =>
      rw [bind_of_ok (attempt_of_ordinary hx he)] at h
      exact ⟨.error e, s', rfl, h⟩
  · rw [bind_of_ok (attempt_of_ok hx)] at h
    exact ⟨.ok a, s', rfl, h⟩

namespace Engine

theorem available_fault {x : Act σ α} {text : String} {s : σ} {d : Fault}
    (h : (available x text s).1 = .error d) (ho : d.isOrdinary = true) :
    d.step? = some .runtime ∨ x.RaisesOther d := by
  rw [available] at h
  obtain ⟨e | a, s', hx, h⟩ := attempt_fault h ho
  · cases hd : e.isDaemonFault with
    | true =>
      simp only [hd, if_true] at h
      cases h
      exact .inl rfl
    | false =>
      simp only [hd, Bool.false_eq_true, if_false] at h
      cases h
      exact .inr ⟨hd, s, by rw [hx]⟩
  · cases h

/-- What an inspection can raise besides faults that name their step: a fault of the request that
is not of the daemon's own kind, that of what the daemon tells, and that of the sleep between two
inspections. -/
inductive Uninspected (e : Engine σ) (c : Container) (port : String) (d : Fault) : Prop
  | request : (e.daemon.inspect c).RaisesOther d → e.Uninspected c port d
  | unreadable (attributes : Value) : published attributes port = .error d → e.Uninspected c port d
  | sleep (s : σ) : (e.around.clock.sleep (.real 0.2) s).1 = .error d → e.Uninspected c port d

theorem findEndpoint_fault {e : Engine σ} {c : Container} {port : String} {d : Fault} {n : Nat}
    {s : σ} (h : (e.findEndpoint c port n s).1 = .error d) (ho : d.isOrdinary = true) :
    d.step? = some .endpoint ∨ e.Uninspected c port d := by
  induction n generalizing s with
  | zero =>
    cases h
    exact .inl rfl
  | succ n ih =>
    rw [findEndpoint] at h
    obtain ⟨f | attributes, s', hx, h⟩ := attempt_fault h ho
    · cases hd : f.isDaemonFault with
      | true =>
        simp only [hd, if_true] at h
        cases h
        exact .inl rfl
      | false =>
        simp only [hd, Bool.false_eq_true, if_false] at h
        cases h
        exact .inr (.request ⟨hd, s, by rw [hx]⟩)
    · dsimp only at h
      cases hp : published attributes port with
      | error f =>
        rw [hp] at h
        cases h
        exact .inr (.unreadable attributes hp)
      | ok ports =>
        rw [hp] at h
        cases ports with
        | cons first rest => cases h
        | nil =>
          change ((e.around.clock.sleep (.real 0.2) >>= _) s').1 = _ at h
          rcases hs : e.around.clock.sleep (.real 0.2) s' with ⟨f | ⟨⟩, s''⟩
          · rw [bind_of_error hs] at h
            cases h
            exact .inr (.sleep s' (by rw [hs]))
          · rw [bind_of_ok hs] at h
            exact ih h

end Engine

/-! Faults that leave a step. -/

section Steps

variable {create : Act σ (Engine σ)} {engine? : Option (Engine σ)} {e : Engine σ}
  {s : Service η Container κ σ} {a : Surroundings σ} {o : StartOptions η} {owned : Bool}
  {label : η → String} {does : HookPath η Container κ}

/-- The engine of a start: the given one, or a new one. -/
def Employs (create : Act σ (Engine σ)) (engine? : Option (Engine σ)) (e : Engine σ) : Prop :=
  engine? = some e ∨ engine? = none ∧ ∃ t, (create t).1 = .ok e

/-- The ordinary faults that leave a step although they do not name it. -/
inductive Unnamed (s : Service η Container κ σ) (o : StartOptions η) (create : Act σ (Engine σ))
    (engine? : Option (Engine σ)) (d : Fault) : Stage → Prop
  | creation : engine? = none → create.RaisesOther d → Unnamed s o create engine? d .runtime
  | ping {e : Engine σ} : Employs create engine? e → e.daemon.ping.RaisesOther d →
      Unnamed s o create engine? d .runtime
  | launchSpec (name : String) (t : σ) : (s.launchSpec name o t).1 = .error d →
      Unnamed s o create engine? d .launch
  | endpoint {e : Engine σ} (c : Container) : Employs create engine? e →
      e.Uninspected c s.containerPort d → Unnamed s o create engine? d .endpoint
  /-- A hook closed the instance. -/
  | template (h : Handle Container κ) : h.closed = true → d = h.alreadyClosed →
      Unnamed s o create engine? d .template

theorem Readying.fault {service : String} {f f' : Family Container κ} {d : Fault}
    {calls : List (Call Container κ)} (h : Readying service f (.error d) f' calls)
    (ho : d.isOrdinary = true) : d.step? = some .readiness := by
  cases h with
  | interrupted _ hi => cases hi.symm.trans ho
  | timedOut _ ht =>
    unfold Fault.isReadinessTimeout at ht
    unfold Fault.step?
    split at ht
    · next hd => rw [hd]; rfl
    · cases ht
  | failed _ => rfl

theorem Hooking.fault {hooks : List η} {f f' : Family Container κ} {d : Fault}
    {events : List (StartEvent η Container κ)} (h : Hooking label does hooks f (.error d) f' events)
    (ho : d.isOrdinary = true) : d.step? = some .postStart := by
  generalize hr : (.error d : Except Fault Unit) = r at h
  induction h with
  | done => cases hr
  | failed _ =>
    cases hr
    exact step?_wrapped rfl ho
  | next _ _ ih => exact ih hr

theorem Promoting.fault {f f' : Family Container κ} {d : Fault} {calls : List (Call Container κ)}
    (h : Promoting none f (.error d) f' calls) (ho : d.isOrdinary = true) :
    d.step? = some .template ∨ f.handle.closed = true ∧ d = f.handle.alreadyClosed := by
  cases h with
  | unsupported hn => cases hn
  | closed _ hc => exact .inr ⟨hc, rfl⟩
  | failed _ _ _ _ => exact .inl (step?_wrapped rfl ho)

/-- An ordinary fault of a step on an engine names the step, or is one of those that do not. -/
theorem StartStep.fault {g : Stage} {m m' : Option (Family Container κ)} {d : Fault}
    {events : List (StartEvent η Container κ)}
    (h : StartStep ⟨s, e.runtime, a⟩ o owned label does g m (.error d) m' events)
    (he : Employs create engine? e) (ho : d.isOrdinary = true) :
    d.step? = some g ∨ Unnamed s o create engine? d g := by
  generalize hr : (.error d : Except Fault Unit) = r at h
  cases h with
  | reach t => exact (Engine.available_fault hr.symm ho).imp_right (.ping he)
  | unspecified name t hl =>
    cases hr
    exact .inr (.launchSpec name t hl)
  | unlaunched _ _ _ _ =>
    cases hr
    exact .inl (step?_wrapped rfl ho)
  | schedule q =>
    cases q with
    | ok _ => cases hr
    | error f =>
      cases hr
      exact .inl (step?_wrapped rfl ho)
  | unlocated t hl =>
    cases hr
    exact (Engine.findEndpoint_fault hl ho).imp_right (.endpoint _ he)
  | wait hw =>
    cases hr
    exact .inl (hw.fault ho)
  | hooks hh =>
    cases hr
    exact .inl (hh.fault ho)
  | mark _ hp =>
    cases hr
    exact (hp.fault ho).imp_right fun ⟨hc, hd⟩ => .template _ hc hd
  | launched _ _ _ _ | located _ | plain _ => cases hr

end Steps

/-! Faults that leave the teardown. -/

section Teardown

variable {ρ : Type} {f f' : Family ρ κ} {d : Fault} {calls : List (Call ρ κ)}

theorem Terminating.fault (h : Terminating f (.error d) f' calls) (ho : d.isOrdinary = true) :
    d.IsTeardown ∨ .closeRuntime (.error d) ∈ calls := by
  cases h with
  | failed e => exact .inl (wrapped_isTeardown (ordinary_of_wrapped ho) ⟨_, rfl⟩)
  | ownRuntime r _ => exact .inr (List.mem_cons_of_mem _ List.mem_cons_self)

theorem Closing.fault (h : Closing f (.error d) f' calls) (ho : d.isOrdinary = true) :
    d.IsTeardown ∨ .closeRuntime (.error d) ∈ calls := by
  cases h with
  | retried _ _ _ ht => exact ht.fault ho
  | refused _ hrev =>
    cases hrev with
    | failed e _ _ => exact .inl (wrapped_isTeardown (ordinary_of_wrapped ho) ⟨_, rfl⟩)
  | failed _ _ he =>
    cases he with
    | ended _ ht => exact (ht.fault ho).imp_right fun hm => List.mem_append_right _ hm
  | done _ _ _ hd =>
    cases hd with
    | interrupted e _ hi => cases hi.symm.trans ho

/-- Only a runtime that cannot be closed makes a teardown raise an ordinary fault. -/
theorem TearingDown.fault {owned : Bool} {m m' : Option (Family ρ κ)}
    {events : List (StartEvent η ρ κ)} (h : TearingDown owned m (.error d) m' events)
    (ho : d.isOrdinary = true) : .call (.closeRuntime (.error d)) ∈ events := by
  cases h with
  | ownRuntime q _ => exact List.mem_cons_self
  | discarded hd =>
    cases hd with
    | failed hc hn => exact List.mem_map_of_mem ((hc.fault ho).resolve_left hn)

end Teardown

/-! The whole start. -/

/-- A new engine, once the daemon is found. -/
def Engine.opening (create : Act σ (Engine σ)) : Act σ (Runtime Container σ) := do
  let e ← Engine.available create "Failed to connect to Docker daemon"
  pure e.runtime

section Opening

variable {create : Act σ (Engine σ)} {t : σ}

theorem Engine.opening_ok {r : Runtime Container σ} (h : (Engine.opening create t).1 = .ok r) :
    ∃ e : Engine σ, r = e.runtime ∧ (create t).1 = .ok e := by
  rcases hx : create t with ⟨f | e, t'⟩
  · have hn : ∃ d t'', Engine.available create "Failed to connect to Docker daemon" t =
        (.error d, t'') := by
      cases ho : f.isOrdinary with
      | false => exact ⟨f, t', bind_of_error (attempt_of_interruption hx ho)⟩
      | true =>
        rw [Engine.available, bind_of_ok (attempt_of_ordinary hx ho)]
        dsimp only
        split
        · exact ⟨_, t', rfl⟩
        · exact ⟨_, t', rfl⟩
    obtain ⟨d, t'', hn⟩ := hn
    rw [Engine.opening, bind_of_error hn] at h
    cases h
  · have ha : Engine.available create "Failed to connect to Docker daemon" t = (.ok e, t') := by
      rw [Engine.available, bind_of_ok (attempt_of_ok hx)]
      rfl
    rw [Engine.opening, bind_of_ok ha] at h
    cases h
    exact ⟨e, rfl, rfl⟩

theorem Engine.opening_fault {d : Fault} (h : (Engine.opening create t).1 = .error d)
    (ho : d.isOrdinary = true) : d.step? = some .runtime ∨ create.RaisesOther d := by
  rcases hx : Engine.available create "Failed to connect to Docker daemon" t with ⟨f | e, t'⟩
  · rw [Engine.opening, bind_of_error hx] at h
    cases h
    exact Engine.available_fault (by rw [hx]) ho
  · rw [Engine.opening, bind_of_ok hx] at h
    cases h

theorem Uses.engine {engine? : Option (Engine σ)} {used : Runtime Container σ}
    (h : Uses (Engine.opening create) (engine?.map Engine.runtime) used) :
    ∃ e, Employs create engine? e ∧ used = e.runtime := by
  rcases h with h | ⟨hn, t, ht⟩
  · obtain ⟨e, he, rfl⟩ := Option.map_eq_some_iff.mp h
    exact ⟨e, .inl he, rfl⟩
  · obtain ⟨e, rfl, he⟩ := Engine.opening_ok ht
    exact ⟨e, .inr ⟨Option.map_eq_none_iff.mp hn, t, he⟩, rfl⟩

end Opening

/-- The first step of a start that failed, what was done before the teardown, and the teardown. -/
inductive FirstFailed (s : Service η Container κ σ) (o : StartOptions η)
    (create : Act σ (Engine σ)) (engine? : Option (Engine σ)) (a : Surroundings σ)
    (label : η → String) (does : HookPath η Container κ) :
    Stage → List (StartEvent η Container κ) → List (StartEvent η Container κ) → Prop
  | creation {f : Fault} (t : σ) : engine? = none →
      (Engine.opening create t).1 = .error f →
      FirstFailed s o create engine? a label does .runtime [] []
  | step {e : Engine σ} {g : Stage} {f : Fault} {m m' : Option (Family Container κ)}
      {r : Except Fault Unit} {done after : List (StartEvent η Container κ)} :
      Employs create engine? e →
      Proceeds (StartStep ⟨s, e.runtime, a⟩ o engine?.isNone label does) Stage.order none
        (.error (g, f)) m done → TearingDown engine?.isNone m r m' after →
      FirstFailed s o create engine? a label does g done after

/-- An ordinary fault of a start on an engine names the first step that failed.  The faults that
leave a start without naming it are known: that of a service without templates and that of a
timeout beyond the clock, which come before everything, those of single steps and of closing an own
runtime, and that of whoever is told of the instance. -/
theorem start_fault_named (s : Service η Container κ σ) (o : StartOptions η)
    (create : Act σ (Engine σ)) (engine? : Option (Engine σ))
    (tell? : Option (InstanceId → Act σ Unit)) {p : Provisioner η Container κ (Traced η Container κ σ)}
    {a : Surroundings σ} {does : HookPath η Container κ}
    (hp : p.Traces a (Engine.opening create) does) (ha : a.Regular)
    {st st' : Estate Container κ (Traced η Container κ σ)} {d : Fault}
    (h : Given.start ⟨s, o, engine?.map Engine.runtime, tell?⟩ p st = (.error d, st'))
    (ho : d.isOrdinary = true) :
    ∃ done after, st'.outside.1 = st.outside.1 ++ (done ++ after) ∧
      ((o.wantsTemplate = true ∧ s.supportsTemplates = false ∧ d = Service.noTemplates s.name ∧
          done ++ after = []) ∨
        (∃ now, numScale.later (.real now) o.timeout = .error d ∧ done ++ after = []) ∨
        (∃ g, FirstFailed s o create engine? a p.hookLabel does g done after ∧
          (d.step? = some g ∨ Unnamed s o create engine? d g ∨
            .call (.closeRuntime (.error d)) ∈ after)) ∨
        after = [.register st.families.length (.error d)]) := by
  obtain ⟨r, events, st₁, hs, hevents, hpath⟩ :=
    Given.start_takes (x := ⟨s, o, engine?.map Engine.runtime, tell?⟩) hp ha st
  obtain ⟨rfl, rfl⟩ := Prod.mk.inj (hs.symm.trans h)
  rw [hevents]
  generalize hr : (.error d : Except Fault InstanceId) = r at hpath
  generalize st₁.families[st.families.length]? = m at hpath
  cases hpath with
  | refused ht =>
    cases hr
    obtain ⟨hw, hn⟩ := Bool.and_eq_true_iff.mp ht
    rw [Bool.not_eq_true'] at hn
    exact ⟨[], [], rfl, .inl ⟨hw, hn, rfl, rfl⟩⟩
  | untimed _ hd =>
    cases hr
    exact ⟨[], [], rfl, .inr (.inl ⟨_, hd, rfl⟩)⟩
  | uncreated t _ hn hd =>
    cases hr
    have hnone : engine? = none := Option.map_eq_none_iff.mp hn
    refine ⟨[], [], rfl, .inr (.inr (.inl ⟨.runtime, .creation t hnone hd, ?_⟩))⟩
    exact (Engine.opening_fault hd ho).imp_right fun hc => .inl (.creation hnone hc)
  | @failed _ g f q _ _ done after _ hu hq htd =>
    obtain ⟨e, he, rfl⟩ := hu.engine
    have howned : (engine?.map Engine.runtime).isNone = engine?.isNone := Option.isNone_map
    rw [howned] at hq htd
    refine ⟨done, after, rfl, .inr (.inr (.inl ⟨g, .step he hq htd, ?_⟩))⟩
    -- The fault is that of the step, unless the teardown raised its own.
    cases q with
    | ok _ =>
      cases hr
      obtain ⟨-, m, last, hstep⟩ := hq.failure
      exact (hstep.fault he ho).imp_right .inl
    | error f' =>
      cases hr
      exact .inr (.inr (htd.fault ho))
  | @started _ _ _ done told _ hu hq ht =>
    refine ⟨done, told, rfl, .inr (.inr (.inr ?_))⟩
    cases ht with
    | nobody _ => cases hr
    | @told tell t _ =>
      cases hq : (tell st.families.length t).1 with
      | ok _ =>
        rw [hq] at hr
        cases hr
      | error f =>
        rw [hq] at hr
        cases hr
        rfl

/-- A daemon that does not answer a ping in time. -/
def Host.silent : Host Unit :=
  { Host.stubborn with
    daemon := {
      Host.stubborn.daemon with
      ping := Act.raise (.http .readTimeout "Read timed out." none) } }

/-- A daemon that does not answer an inspection in time. -/
def Host.blind : Host Unit :=
  { Host.stubborn with
    daemon := {
      Host.stubborn.daemon with
      inspect := fun _ => Act.raise (.http .readTimeout "Read timed out." none) } }

/-- A start on a given engine of a host, or on a new one. -/
def Host.starts (h : Host Unit) (create : Act (Watch × Unit) (Engine (Watch × Unit)))
    (engine? : Option (Engine (Watch × Unit))) :
    Except Fault InstanceId × Estate Container Unit (Traced Unit Container Unit (Watch × Unit)) :=
  Given.start ⟨Service.ready.beside, .brief, engine?.map Engine.runtime, none⟩
    (.looking h.surroundings (Engine.opening create) (fun _ _ => pure ()) fun _ => "")
    ⟨[], ([], ({}, ()))⟩

/-- Whether a result is an ordinary fault that names no step. -/
def namesNoStep (r : Except Fault α) : Bool :=
  match r with
  | .ok _ => false
  | .error d => d.isOrdinary && d.step?.isNone

def StartEvent.isPing : StartEvent η Container κ → Bool
  | .call (.ping _) => true
  | _ => false

/-- The fault of a daemon that does not answer a ping is known as one that names no step. -/
theorem start_fault_named_of_silent : ∃ d g done after,
    (Host.silent.starts (pure (Host.silent.engine 0)) (some (Host.silent.engine 0))).1 = .error d ∧
    FirstFailed Service.ready.beside .brief (pure (Host.silent.engine 0))
      (some (Host.silent.engine 0)) Host.silent.surroundings (fun _ => "") .looking g done after ∧
    Unnamed Service.ready.beside .brief (pure (Host.silent.engine 0))
      (some (Host.silent.engine 0)) d g := by
  have leaks : namesNoStep (Host.silent.starts (pure (Host.silent.engine 0))
      (some (Host.silent.engine 0))).1 = true := by decide +kernel
  have pinged : (Host.silent.starts (pure (Host.silent.engine 0))
      (some (Host.silent.engine 0))).2.outside.1.all StartEvent.isPing = true := by decide +kernel
  have regular : Host.silent.surroundings.Regular :=
    ⟨fun _ => ⟨_, rfl⟩, fun _ => ⟨_, rfl⟩, fun _ => ⟨_, _, rfl⟩⟩
  rcases hs : Host.silent.starts (pure (Host.silent.engine 0)) (some (Host.silent.engine 0)) with
    ⟨d | _, st'⟩
  · rw [hs] at leaks pinged
    obtain ⟨ho, hn⟩ := Bool.and_eq_true_iff.mp leaks
    obtain ⟨done, after, hevents, h⟩ := start_fault_named Service.ready.beside .brief
      (pure (Host.silent.engine 0)) (some (Host.silent.engine 0)) none
      (Provisioner.looking_traces _ _ _ _) regular hs ho
    have hpings : ∀ e ∈ after, e.isPing = true := by
      intro e he
      have hall := List.all_eq_true.mp pinged e
      rw [hevents] at hall
      exact hall (List.mem_append_right _ (List.mem_append_right _ he))
    rcases h with ⟨hw, -⟩ | ⟨now, hd, -⟩ | ⟨g, hg, h⟩ | h
    · cases hw
    · cases hd
    · refine ⟨d, g, done, after, rfl, hg, ?_⟩
      rcases h with h | h | h
      · rw [h] at hn
        cases hn
      · exact h
      · cases hpings _ h
    · rw [h] at hpings
      cases hpings _ List.mem_cons_self
  · rw [hs] at leaks
    cases leaks

/-- Faults of a daemon that cannot be reached, does not answer, or does not answer in time leave a
start as they are. -/
theorem start_fault_unnamed :
    namesNoStep (Host.silent.starts (pure (Host.silent.engine 0))
      (some (Host.silent.engine 0))).1 = true ∧
    namesNoStep (Host.blind.starts (pure (Host.blind.engine 0)) none).1 = true ∧
    namesNoStep (Host.stubborn.starts
      (Act.raise (.http .connection "Connection refused" none)) none).1 = true :=
  ⟨by decide +kernel, by decide +kernel, by decide +kernel⟩

end Testbed
