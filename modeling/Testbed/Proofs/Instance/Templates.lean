import Testbed.Proofs.Instance.Copies
import Testbed.Proofs.Instance.Sections

/-!
# Promoting and cloning

Promoting an instance and making a clone of a template take full effect or none, in every state
that an instance can reach.  A copy to which no client can be had is removed again.
-/

namespace Testbed

set_option autoImplicit false

open Act

variable {η ρ κ σ : Type}

/-- Whatever the calls that promote and clone an instance raise is an ordinary fault. -/
structure Backing.CopiesOrdinarily (b : Backing η ρ κ σ) : Prop where
  setTemplate : ∀ h flag s e, (b.service.setTemplate h flag s).1 = .error e → e.isOrdinary = true
  createCopy : ∀ h name s e, (b.service.createCopy h name s).1 = .error e → e.isOrdinary = true
  connectTo : ∀ info s e, (b.service.connectTo info s).1 = .error e → e.isOrdinary = true
  dropCopy : ∀ info s e, (b.service.dropCopy info s).1 = .error e → e.isOrdinary = true

/-- Every instance at an integer port has connection details. -/
def Service.Informs (s : Service η ρ κ σ) : Prop :=
  ∀ h n, h.port = .ok n → ∃ info, s.connectionInfo h = .ok info

theorem Service.plainInfo_informs {s : Service η ρ κ σ} (hs : s.connectionInfo = plainInfo) :
    s.Informs := by
  intro h n hn
  rw [hs]
  exact ⟨{ host := h.host, port := n }, by rw [plainInfo, hn]; rfl⟩

/-- The ways in which making a clone fails, each with its calls: the instance is closed, it is no
template, no copy could be made, or no client could be had and the copy was dropped again. -/
inductive NotCloned (info? : Handle ρ κ → Except Fault ConnectionInfo) (h : Handle ρ κ) :
    Fault → List (Call ρ κ) → Prop
  | closed : h.closed = true → NotCloned info? h h.alreadyClosed []
  | notTemplate : h.closed = false → h.isTemplate = false →
      NotCloned info? h (notTemplate h.logicalName) []
  | notCopied (name : String) (e : Fault) : h.closed = false → h.isTemplate = true →
      NotCloned info? h (Fault.raisedFrom (h.cannotClone name e) e)
        [.createCopy h name (.error e)]
  | notConnected (name : String) {base info : ConnectionInfo} (e : Fault)
      (r : Except Fault Unit) : h.closed = false → h.isTemplate = true →
      info? h = .ok base → info = { base with database := name } →
      NotCloned info? h (Fault.raisedFrom (info.cannotConnect e) e)
        [.createCopy h name (.ok ()), .connect info (.error e), .dropCopy info r]

/-- One more clone of an open template: a new copy, to which a client was had. -/
structure Cloned (info? : Handle ρ κ → Except Fault ConnectionInfo) (f f' : Family ρ κ)
    (id : CloneId) (calls : List (Call ρ κ)) (name : String) (base : ConnectionInfo)
    (client : κ) : Prop where
  informed : info? f.handle = .ok base
  made : f' = f.addClone { info := { base with database := name }, client }
  newest : id = f.clones.length
  unused : id ∉ f.handle.liveClones
  calls_eq : calls = [.createCopy f.handle name (.ok ()),
    .connect { base with database := name } (.ok client)]

/-! What is kept of an instance that can be promoted and cloned. -/

/-- Live clones are numbered below the next one, and only a service with templates has one. -/
structure Family.Copyable (b : Backing η ρ κ σ) (f : Family ρ κ) : Prop where
  live : ∀ id ∈ f.handle.liveClones, id < f.clones.length
  supported : f.handle.isTemplate = true → b.service.supportsTemplates = true

theorem Closing.marked {f f' : Family ρ κ} {r : Except Fault Unit} {calls : List (Call ρ κ)}
    (h : Closing f r f' calls) (ht : f'.handle.isTemplate = true) :
    f.handle.isTemplate = true := by
  have reverted {f₁ f₂ : Family ρ κ} {c₁ c₂ : List (Call ρ κ)} {q : Except Fault Unit}
      (hr : Reverting f (.ok ()) f₁ c₁) (he : Ending f₁ q f₂ c₂) :
      f₂.handle.isTemplate = false := he.isTemplate_eq.trans hr.returned.1
  cases h with
  | again _ _ => exact ht
  | retried _ _ _ hte => exact hte.isTemplate_eq.symm.trans ht
  | refused _ hr =>
    cases hr with
    | failed _ _ _ => exact ht
  | failed _ hr he => cases ht.symm.trans (reverted hr he)
  | done _ hr he hd =>
    obtain ⟨rfl, -⟩ := hd.outcome
    have unmarked := reverted hr he
    cases ht.symm.trans unmarked

namespace Moment

variable {b : Backing η ρ κ σ} {m : Moment ρ κ (Recorded ρ κ σ)}

theorem Passing.copyable {x : Section} {f' : Family ρ κ} {calls : List (Call ρ κ)}
    (h : Passing b m x f' calls) (hm : m.family.Copyable b) : f'.Copyable b := by
  cases h with
  | promote t =>
    refine ⟨by rw [t.still.live, t.still.clones]; exact hm.live, fun ht => ?_⟩
    cases t with
    | done hn _ _ => simpa using hn
    | unsupported _ => exact hm.supported ht
    | closed _ _ => exact hm.supported ht
    | already _ _ _ => exact hm.supported ht
    | failed _ _ _ _ => exact hm.supported ht
  | clone t =>
    obtain ⟨-, rfl⟩ | ⟨-, -, -, c, -, rfl⟩ := t.outcome.1
    · exact hm
    · refine ⟨fun id hid => ?_, hm.supported⟩
      rw [Family.addClone, List.length_append, List.length_singleton]
      rcases List.mem_append.mp hid with hid | hid
      · exact Nat.lt_succ_of_lt (hm.live id hid)
      · rw [List.mem_singleton.mp hid]
        exact Nat.lt_succ_self _
  | close t =>
    refine ⟨?_, fun ht => hm.supported (t.marked ht)⟩
    rw [t.still.live, t.still.clones]
    exact hm.live
  | retire t =>
    obtain ⟨-, rfl⟩ | ⟨-, c, -, -, rfl⟩ := t.outcome.1
    · exact hm
    · refine ⟨fun id hid => ?_, hm.supported⟩
      rw [Family.retire, List.length_set]
      exact hm.live id hid
  | @release id _ _ _ _ t =>
    have forgotten : (m.family.forget id).Copyable b :=
      ⟨fun i hi => hm.live i (List.mem_filter.mp hi).1, hm.supported⟩
    cases t with
    | kept _ => exact forgotten
    | last _ _ ht =>
      refine ⟨?_, fun hs => forgotten.supported (ht.isTemplate_eq.symm.trans hs)⟩
      rw [ht.still.live, ht.still.clones]
      exact forgotten.live
  | idle _ => exact hm

theorem run_copyable (hm : m.family.Copyable b) (xs : List Section) :
    (m.run b.recorded xs).family.Copyable b := by
  induction xs generalizing m with
  | nil => exact hm
  | cons x xs ih =>
    obtain ⟨calls, -, hx, -⟩ := after_passes b m x
    exact ih (hx.copyable hm)

end Moment

theorem Family.Fresh.copyable {b : Backing η ρ κ σ} {f : Family ρ κ} (hf : f.Fresh)
    (ht : f.handle.isTemplate = true → b.service.supportsTemplates = true) : f.Copyable b where
  live id hid := by
    rw [hf.liveClones] at hid
    cases hid
  supported := ht

/-! One promotion and one clone. -/

theorem wrapped_of_ordinary {wrap : Fault → Incident} {e : Fault} (he : e.isOrdinary = true) :
    wrapped wrap e = Fault.raisedFrom (wrap e) e := if_pos he

section Operations

variable {b : Backing η ρ κ σ} {f f' : Family ρ κ} {calls : List (Call ρ κ)}

/-- A promotion that fails changes nothing. -/
theorem Promoting.raised {e? : Option Fault} {e : Fault}
    (h : Promoting e? f (.error e) f' calls) : f' = f := by
  cases h <;> rfl

theorem Promoting.of_template {r : Except Fault Unit} (h : Promoting none f r f' calls)
    (hc : f.handle.closed = false) (ht : f.handle.isTemplate = true) :
    r = .ok () ∧ f' = f ∧ calls = [] := by
  cases h with
  | unsupported hn => cases hn
  | closed _ hc' => simp [hc] at hc'
  | already _ _ _ => exact ⟨rfl, rfl, rfl⟩
  | failed _ _ _ ht' => simp [ht] at ht'
  | done _ _ ht' => simp [ht] at ht'

theorem Promoting.returned {e? : Option Fault} (h : Promoting e? f (.ok ()) f' calls)
    (ht : f.handle.isTemplate = false) :
    f.handle.closed = false ∧ calls = [.setTemplate f.handle true (.ok ())] ∧
      f' = f.onHandle fun h => { h with isTemplate := true } := by
  cases h with
  | already _ _ ht' => simp [ht] at ht'
  | done _ hc _ => exact ⟨hc, rfl, rfl⟩

/-- An open template of a service with templates is a template already. -/
theorem promote_of_template (b : Backing η ρ κ σ) {f : Family ρ κ} {o : σ}
    (hs : b.service.supportsTemplates = true) (hc : f.handle.closed = false)
    (ht : f.handle.isTemplate = true) : promote b (f, o) = (.ok (), (f, o)) := by
  rw [promote, hs]
  change (checkOpen >>= _) (f, o) = _
  rw [bind_of_ok (checkOpen_of_open o hc), FamilyAct.handle_bind, ht]
  rfl

/-- Calls are made for the clone of an open template, since a name for it is had. -/
theorem cloneTemplate_calls (hstamp : ∀ s, ∃ n s', b.around.stamp s = (.ok n, s'))
    (hc : f.handle.closed = false) (ht : f.handle.isTemplate = true) (l : List (Call ρ κ))
    (s : σ) : l.length < (cloneTemplate b.recorded (f, (l, s))).2.2.1.length := by
  have grows {α : Type} (x : Act σ α) (note : Except Fault α → Call ρ κ) :
      Keeps (fun o : Recorded ρ κ σ => l.length < o.1.length) (x.noted note) := by
    refine .noted fun calls s h => ?_
    rw [List.length_append, List.length_singleton]
    exact Nat.lt_succ_of_lt h
  have serving : b.recorded.KeepsServing fun o => l.length < o.1.length := {
    closeClient := fun _ => grows _ _
    setTemplate := fun _ _ => grows _ _
    terminate := fun _ => grows _ _
    close := grows _ _
    write := fun _ _ _ _ h => h
    connectTo := fun _ => grows _ _
    dropCopy := fun _ => grows _ _ }
  obtain ⟨n, s', hn⟩ := hstamp s
  have named : b.recorded.around.newName f.handle.logicalName (l, s) =
      (.ok (uniqueName f.handle.logicalName n), (l, s')) :=
    newName_beside _ _ l (bind_of_ok hn)
  refine cloneTemplate_leads_of_open serving hc ht (fun e t h => ?_) fun name t h => ?_
  · rw [named] at h
    cases h
  · rw [named] at h
    cases h
    change l.length < (l ++ [_]).length
    rw [List.length_append]
    exact Nat.lt_succ_self _

theorem Connecting.raised {info : ConnectionInfo} {e : Fault}
    (h : Connecting info (.error e : Except Fault κ) calls) (ho : b.CopiesOrdinarily)
    (ha : ∀ c ∈ calls, b.Answers c) : ∃ d r, e = Fault.raisedFrom (info.cannotConnect d) d ∧
      calls = [.connect info (.error d), .dropCopy info r] := by
  cases h with
  | interrupted _ hi =>
    obtain ⟨s, hs⟩ := ha _ List.mem_cons_self
    rw [ho.connectTo info s e hs] at hi
    cases hi
  | removed d r _ _ => exact ⟨d, r, rfl, rfl⟩
  | removalInterrupted d _ _ hi =>
    obtain ⟨s, hs⟩ := ha _ (List.mem_cons_of_mem _ List.mem_cons_self)
    rw [ho.dropCopy info s e hs] at hi
    cases hi

/-- A clone that is not made leaves nothing behind. -/
theorem Cloning.raised {e : Fault}
    (h : Cloning b.service.connectionInfo f (.error e) f' calls) (ho : b.CopiesOrdinarily)
    (hinfo : ∃ info, b.service.connectionInfo f.handle = .ok info)
    (hcalls : f.handle.closed = false → f.handle.isTemplate = true → calls ≠ [])
    (ha : ∀ c ∈ calls, b.Answers c) :
    f' = f ∧ NotCloned b.service.connectionInfo f.handle e calls := by
  cases h with
  | closed hc => exact ⟨rfl, .closed hc⟩
  | notTemplate hc ht => exact ⟨rfl, .notTemplate hc ht⟩
  | unnamed _ hc ht => exact absurd rfl (hcalls hc ht)
  | copyFailed name d hc ht =>
    obtain ⟨s, hs⟩ := ha _ List.mem_cons_self
    rw [wrapped_of_ordinary (ho.createCopy f.handle name s d hs)]
    exact ⟨rfl, .notCopied name d hc ht⟩
  | noInfo name _ _ _ hi =>
    obtain ⟨info, hinfo⟩ := hinfo
    rw [hi] at hinfo
    cases hinfo
  | notConnected name hc ht hi hk =>
    obtain ⟨d, r, rfl, rfl⟩ := hk.raised ho fun c hm => ha c (List.mem_cons_of_mem _ hm)
    exact ⟨rfl, .notConnected name d r hc ht hi rfl⟩

theorem Cloning.returned {info? : Handle ρ κ → Except Fault ConnectionInfo} {id : CloneId}
    (h : Cloning info? f (.ok id) f' calls)
    (hl : ∀ id ∈ f.handle.liveClones, id < f.clones.length) :
    ∃ name base client, Cloned info? f f' id calls name base client := by
  cases h with
  | done name _ _ hi hk =>
    cases hk
    exact ⟨name, _, _, hi, rfl, rfl, fun hid => Nat.lt_irrefl _ (hl _ hid), rfl⟩

end Operations

open Moment

/-- Promoting and cloning are all or nothing, after every sequence of sections and for every
outcome of the calls.  A promotion that fails changes nothing, and an open template is promoted
again without a call.  When no clone is made the template is as it was, and the copy that may have
been made is dropped again; a clone that is made is one more live clone, with the connection
details of its template but for the database. -/
theorem promote_clone_atomic (b : Backing η ρ κ σ) (f : Family ρ κ) (s : σ) (xs : List Section)
    (hf : f.Fresh) (ht : f.handle.isTemplate = true → b.service.supportsTemplates = true)
    (hport : ∃ n, f.handle.port = .ok n) (hinfo : b.service.Informs)
    (hstamp : ∀ s, ∃ n s', b.around.stamp s = (.ok n, s')) (ho : b.CopiesOrdinarily) :
    let m := (fresh f s).run b.recorded xs
    let h := m.family.handle
    (∃ r f' calls s', promote b.recorded (m.family, m.outside) =
        (r, (f', (m.outside.1 ++ calls, s'))) ∧
      (∀ e, r = .error e → f' = m.family) ∧
      (h.closed = false → h.isTemplate = true → r = .ok () ∧ f' = m.family ∧ calls = []) ∧
      (r = .ok () → h.isTemplate = false →
        calls = [.setTemplate h true (.ok ())] ∧
        f' = m.family.onHandle (fun h => { h with isTemplate := true }) ∧
        ∀ o, promote b.recorded (f', o) = (.ok (), (f', o)))) ∧
    ∃ r f' calls s', cloneTemplate b.recorded (m.family, m.outside) =
        (r, (f', (m.outside.1 ++ calls, s'))) ∧
      (∀ e, r = .error e → f' = m.family ∧ NotCloned b.service.connectionInfo h e calls) ∧
      ∀ id, r = .ok id → ∃ name base client,
        Cloned b.service.connectionInfo m.family f' id calls name base client := by
  intro m h
  have copyable : m.family.Copyable b := run_copyable (hf.copyable ht) xs
  have attached := run_attached (b := b) (fresh_attached hf s) xs
  obtain ⟨info, hinfo⟩ : ∃ info, b.service.connectionInfo h = .ok info := by
    obtain ⟨n, hn⟩ := hport
    refine hinfo h n ?_
    rw [Handle.port, attached.server.endpoint]
    exact hn
  constructor
  · obtain ⟨r, f', calls, s', hx, t⟩ := promote_takes b m.family m.outside.1 m.outside.2
    refine ⟨r, f', calls, s', hx, ?_, fun hc hm => ?_, ?_⟩
    · rintro e rfl
      exact t.raised
    · rw [copyable.supported hm] at t
      exact t.of_template hc hm
    · rintro rfl hm
      obtain ⟨hc, rfl, rfl⟩ := t.returned hm
      refine ⟨rfl, rfl, fun o => promote_of_template b.recorded ?_ hc rfl⟩
      obtain ⟨calls, -, hp, -⟩ := after_passes b m .promote
      have marked := hp.copyable copyable
      rw [show (m.after b.recorded .promote).family = _ from congrArg (·.2.1) hx] at marked
      exact marked.supported rfl
  · obtain ⟨r, f', calls, s', hx, t⟩ := cloneTemplate_takes b m.family m.outside.1 m.outside.2
    refine ⟨r, f', calls, s', hx, ?_, ?_⟩
    · rintro e rfl
      refine t.raised ho ⟨info, hinfo⟩ (fun hc hm => ?_)
        (answered (fun I hI => cloneTemplate_keeps hI) hx)
      have called := cloneTemplate_calls hstamp hc hm m.outside.1 m.outside.2
      rw [hx] at called
      rintro rfl
      exact Nat.lt_irrefl _ (called.trans_le (by simp))
    · rintro id rfl
      exact t.returned copyable.live

/-- A backing whose copies cannot be connected to. -/
def Backing.mute : Backing Unit Unit Unit Unit :=
  { Backing.willing with
    service := {
      Backing.willing.service with
      connectTo := fun _ => Act.raise (.daemon .api "starting up" none none)
      connectionInfo := Service.plainInfo } }

def Family.listening : Family Unit Unit where
  handle := { container := (), endpoint := "localhost:5432", logicalName := "orders" }

/-- An instance that was promoted; no client of its copy can be had. -/
theorem promote_clone_atomic_of_mute :
    let m := (fresh Family.listening ()).run Backing.mute.recorded [.promote]
    ∃ e calls s', cloneTemplate Backing.mute.recorded (m.family, m.outside) =
        (.error e, (m.family, (m.outside.1 ++ calls, s'))) ∧
      NotCloned Service.plainInfo m.family.handle e calls ∧ calls.length = 3 := by
  intro m
  have ordinary : Backing.mute.CopiesOrdinarily := {
    setTemplate := fun _ _ _ _ h => by cases h
    createCopy := fun _ _ _ _ h => by cases h
    connectTo := fun _ _ _ h => by
      cases h
      rfl
    dropCopy := fun _ _ _ h => by cases h }
  obtain ⟨-, r, f', calls, s', hx, raised, -⟩ := promote_clone_atomic Backing.mute
    Family.listening () [.promote] ⟨rfl, rfl, rfl, rfl⟩ (fun _ => rfl) ⟨5432, rfl⟩
    (Service.plainInfo_informs rfl) (fun s => ⟨0, s, rfl⟩) ordinary
  cases r with
  | ok id => cases hx
  | error e =>
    obtain ⟨rfl, failed⟩ := raised e rfl
    have made : m.outside.1.length + calls.length = 4 := by
      rw [← List.length_append]
      exact congrArg (·.2.2.1.length) hx.symm
    exact ⟨e, calls, s', hx, failed, Nat.add_left_cancel made⟩

end Testbed
