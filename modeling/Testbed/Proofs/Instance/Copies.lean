import Testbed.Proofs.Instance.Lifetime
import Testbed.Proofs.Start.Clients

/-!
# Clones on their server

In every run an instance stays on its server, and each of its clones is a new copy there, to which
a client was had.
-/

namespace Testbed

set_option autoImplicit false

open Act FamilyAct

variable {η ρ κ σ α : Type}

/-! The server of a family. -/

/-- Two handles of one server, which differ in their flags and clones only. -/
structure Handle.SameServer (h h' : Handle ρ κ) : Prop where
  container : h'.container = h.container
  endpoint : h'.endpoint = h.endpoint
  logicalName : h'.logicalName = h.logicalName
  ownsRuntime : h'.ownsRuntime = h.ownsRuntime
  client : h'.client = h.client

namespace Handle.SameServer

variable {h h' h'' : Handle ρ κ}

theorem refl (h : Handle ρ κ) : h.SameServer h := ⟨rfl, rfl, rfl, rfl, rfl⟩

theorem trans (a : h.SameServer h') (b : h'.SameServer h'') : h.SameServer h'' where
  container := b.container.trans a.container
  endpoint := b.endpoint.trans a.endpoint
  logicalName := b.logicalName.trans a.logicalName
  ownsRuntime := b.ownsRuntime.trans a.ownsRuntime
  client := b.client.trans a.client

end Handle.SameServer

/-- The connection details of a clone to which a client was had. -/
def Backing.Copied (b : Backing η ρ κ σ) (h : Handle ρ κ) (info : ConnectionInfo) : Prop :=
  ∃ h' base n client s s', h.SameServer h' ∧ b.service.connectionInfo h' = .ok base ∧
    info = { base with database := uniqueName h'.logicalName n } ∧
    b.service.connectTo info s = (.ok client, s')

/-- A family of one server. -/
structure Family.Attached (b : Backing η ρ κ σ) (h : Handle ρ κ) (f : Family ρ κ) : Prop where
  server : h.SameServer f.handle
  copied : ∀ c ∈ f.clones, b.Copied h c.info

section Courses

variable {f f' : Family ρ κ} {r : Except Fault Unit} {calls : List (Call ρ κ)}

theorem Terminating.server (h : Terminating f r f' calls) : f.handle.SameServer f'.handle := by
  cases h <;> exact ⟨rfl, rfl, rfl, rfl, rfl⟩

theorem Reverting.server (h : Reverting f r f' calls) : f.handle.SameServer f'.handle := by
  cases h <;> exact ⟨rfl, rfl, rfl, rfl, rfl⟩

theorem Ending.server (h : Ending f r f' calls) : f.handle.SameServer f'.handle := by
  cases h with
  | kept _ => exact ⟨rfl, rfl, rfl, rfl, rfl⟩
  | ended _ ht => exact ht.server

theorem Closing.server (h : Closing f r f' calls) : f.handle.SameServer f'.handle := by
  cases h with
  | again _ _ => exact .refl _
  | retried _ _ _ ht => exact ht.server
  | refused _ hr => exact hr.server
  | failed _ hr he => exact hr.server.trans he.server
  | done _ hr he hd =>
    obtain ⟨rfl, -⟩ := hd.outcome
    exact (hr.server.trans he.server).trans ⟨rfl, rfl, rfl, rfl, rfl⟩

theorem Releasing.server {id : CloneId} (h : Releasing id f r f' calls) :
    f.handle.SameServer f'.handle := by
  cases h with
  | kept _ => exact ⟨rfl, rfl, rfl, rfl, rfl⟩
  | last _ _ ht =>
    have hf : f.handle.SameServer (f.forget id).handle := ⟨rfl, rfl, rfl, rfl, rfl⟩
    exact hf.trans ht.server

end Courses

theorem outside_ok {x : Act σ α} {f f' : Family ρ κ} {s s' : σ} {a : α}
    (h : outside x (f, s) = (.ok a, (f', s'))) : f = f' ∧ x s = (.ok a, s') := by
  rcases hx : x s with ⟨r, t⟩
  rw [outside_of_eq f hx] at h
  cases h
  exact ⟨rfl, rfl⟩

theorem newName_ok {a : Surroundings σ} {start name : String} {s s' : σ}
    (h : a.newName start s = (.ok name, s')) : ∃ n, name = uniqueName start n := by
  obtain ⟨n, t, -, h⟩ := bind_ok h
  cases h
  exact ⟨n, rfl⟩

theorem connectCopy_ok {b : Backing η ρ κ σ} {info : ConnectionInfo} {client : κ} {s s' : σ}
    (h : connectCopy b info s = (.ok client, s')) :
    ∃ t, b.service.connectTo info s = (.ok client, t) := by
  obtain ⟨r, t, hr, h⟩ := bind_ok h
  cases r with
  | error e =>
    obtain ⟨d, t', -, h⟩ := bind_ok h
    cases d with
    | error d =>
      obtain ⟨_, _, -, h⟩ := bind_ok h
      cases h
    | ok u => cases h
  | ok k =>
    cases h
    exact ⟨_, attempt_ok hr⟩

/-- A clone that was made is a new copy under a new name, to which a client was had. -/
theorem cloneTemplate_copied {b : Backing η ρ κ σ} {f f' : Family ρ κ} {s s' : σ} {id : CloneId}
    (h : cloneTemplate b (f, s) = (.ok id, (f', s'))) :
    ∃ c, c.closed = false ∧ f' = f.addClone c ∧ b.Copied f.handle c.info ∧
      ∃ t, b.around.newName f.handle.logicalName s = (.ok c.info.database, t) := by
  rw [cloneTemplate] at h
  cases hc : f.handle.closed with
  | true =>
    rw [bind_of_error (checkOpen_of_closed s hc)] at h
    cases h
  | false =>
    rw [bind_of_ok (checkOpen_of_open s hc), handle_bind] at h
    cases ht : f.handle.isTemplate with
    | false =>
      rw [ht] at h
      cases h
    | true =>
      rw [ht] at h
      change (outside (b.around.newName f.handle.logicalName) >>= _) (f, s) = _ at h
      obtain ⟨name, ⟨f₁, s₁⟩, hn, h⟩ := bind_ok h
      obtain ⟨rfl, hnew⟩ := outside_ok hn
      obtain ⟨n, rfl⟩ := newName_ok hnew
      obtain ⟨_, ⟨f₂, s₂⟩, hcopy, h⟩ := bind_ok h
      obtain ⟨rfl, -⟩ := outside_ok hcopy
      obtain ⟨info, ⟨f₃, s₃⟩, hi, h⟩ := bind_ok h
      cases hinfo : b.service.connectionInfo f.handle with
      | error e =>
        rw [hinfo] at hi
        cases hi
      | ok base =>
        rw [hinfo] at hi
        cases hi
        obtain ⟨client, ⟨f₄, s₄⟩, hk, h⟩ := bind_ok h
        obtain ⟨rfl, hclient⟩ := outside_ok hk
        obtain ⟨t, hconnect⟩ := connectCopy_ok hclient
        cases h
        exact ⟨_, rfl, rfl, ⟨_, _, n, client, _, t, .refl _, hinfo, rfl, hconnect⟩, _, hnew⟩

/-- What making the copy brings about, and the requests for a clone keep, holds once a clone of an
open template was tried to be made. -/
theorem cloneTemplate_leads_of_open {b : Backing η ρ κ σ} {K : σ → Prop} (h : b.KeepsServing K)
    {f : Family ρ κ} {s : σ} (hc : f.handle.closed = false) (ht : f.handle.isTemplate = true)
    (hname : ∀ e t, b.around.newName f.handle.logicalName s = (.error e, t) → K t)
    (hcopy : ∀ name t, b.around.newName f.handle.logicalName s = (.ok name, t) →
      K (b.service.createCopy f.handle name t).2) :
    K (cloneTemplate b (f, s)).2.2 := by
  rw [cloneTemplate, bind_of_ok (checkOpen_of_open s hc), handle_bind, ht]
  change K ((outside (b.around.newName f.handle.logicalName) >>= _) (f, s)).2.2
  rcases hn : b.around.newName f.handle.logicalName s with ⟨e | name, t⟩
  · rw [bind_of_error (outside_of_eq f hn)]
    exact hname e t hn
  · rw [bind_of_ok (outside_of_eq f hn)]
    have copied := hcopy name t hn
    rcases hk : b.service.createCopy f.handle name t with ⟨e | ⟨⟩, t'⟩ <;> rw [hk] at copied
    · rw [bind_of_error (outside_of_eq f (orRaise_of_error _ hk))]
      exact copied
    · rw [bind_of_ok (outside_of_eq f (orRaise_of_ok _ hk))]
      refine Keeps.bind (I := K ∘ Prod.snd) (.ofExcept _) (fun info => ?_) (f, t') copied
      refine .bind (.outside (connectCopy_keeps h _)) fun client => ?_
      refine .bind (fun _ hs => hs) fun id => ?_
      refine .bind (.bind (.read _) fun _ => .pure _) fun shown => ?_
      exact .bind (debug_keeps h.toKeepsClosing _ _) fun _ => .pure _

/-- An instance that is closed or no template is not cloned, and nothing is changed. -/
theorem cloneTemplate_leads {b : Backing η ρ κ σ} {K : σ → Prop} (h : b.KeepsServing K)
    {f : Family ρ κ} {s : σ}
    (hname : ∀ e t, b.around.newName f.handle.logicalName s = (.error e, t) → K t)
    (hcopy : ∀ name t, b.around.newName f.handle.logicalName s = (.ok name, t) →
      K (b.service.createCopy f.handle name t).2) :
    (∃ e, cloneTemplate b (f, s) = (.error e, (f, s))) ∨ K (cloneTemplate b (f, s)).2.2 := by
  cases hc : f.handle.closed with
  | true =>
    rw [cloneTemplate]
    exact .inl ⟨_, bind_of_error (checkOpen_of_closed s hc)⟩
  | false =>
    cases ht : f.handle.isTemplate with
    | false =>
      rw [cloneTemplate, bind_of_ok (checkOpen_of_open s hc), handle_bind, ht]
      exact .inl ⟨_, rfl⟩
    | true => exact .inr (cloneTemplate_leads_of_open h hc ht hname hcopy)

/-! A run of sections keeps to one server. -/

theorem Backing.Copied.of_same {b : Backing η ρ κ σ} {h h' : Handle ρ κ} {info : ConnectionInfo}
    (hs : h.SameServer h') (hc : b.Copied h' info) : b.Copied h info := by
  obtain ⟨h'', base, n, client, s, s', hs', hi, rfl, hk⟩ := hc
  exact ⟨h'', base, n, client, s, s', hs.trans hs', hi, rfl, hk⟩

namespace Moment

variable {b : Backing η ρ κ σ} {h : Handle ρ κ} {m : Moment ρ κ (Recorded ρ κ σ)}

/-- A clone that is there after a section and was not there before. -/
structure NewClone (b : Backing η ρ κ σ) (m : Moment ρ κ σ) (x : Section)
    (info : ConnectionInfo) : Prop where
  made : x = .clone
  copied : b.Copied m.family.handle info
  named : ∃ t, b.around.newName m.family.handle.logicalName m.outside = (.ok info.database, t)

/-- An instance stays on its server, and each of its clones stays where it is. -/
theorem after_server (x : Section) :
    m.family.handle.SameServer (m.after b.recorded x).family.handle ∧
    ∀ d ∈ (m.after b.recorded x).family.clones,
      (∃ c ∈ m.family.clones, d.info = c.info) ∨ NewClone b.recorded m x d.info := by
  have same {f' : Family ρ κ} (hs : m.family.handle.SameServer f'.handle)
      (hc : f'.clones = m.family.clones) : m.family.handle.SameServer f'.handle ∧
      ∀ d ∈ f'.clones, (∃ c ∈ m.family.clones, d.info = c.info) ∨
        NewClone b.recorded m x d.info := by
    refine ⟨hs, fun d hd => .inl ⟨d, ?_, rfl⟩⟩
    rw [← hc]
    exact hd
  cases x with
  | promote =>
    obtain ⟨r, f', calls, s', hx, t⟩ := promote_takes b m.family m.outside.1 m.outside.2
    simp only [after, hx]
    rcases t.outcome.1 with rfl | ⟨-, rfl⟩
    · exact same (.refl _) rfl
    · exact same ⟨rfl, rfl, rfl, rfl, rfl⟩ rfl
  | clone =>
    obtain ⟨r, f', calls, s', hx, t⟩ := cloneTemplate_takes b m.family m.outside.1 m.outside.2
    simp only [after, hx]
    rcases t.outcome.1 with ⟨⟨e, rfl⟩, rfl⟩ | ⟨rfl, -⟩
    · exact same (.refl _) rfl
    · obtain ⟨c, -, rfl, hcopied, hnamed⟩ := cloneTemplate_copied hx
      refine ⟨⟨rfl, rfl, rfl, rfl, rfl⟩, fun d hd => ?_⟩
      rcases List.mem_append.mp hd with hd | hd
      · exact .inl ⟨d, hd, rfl⟩
      · rw [List.mem_singleton.mp hd]
        exact .inr ⟨rfl, hcopied, hnamed⟩
  | close =>
    obtain ⟨r, f', calls, s', hx, t⟩ := closeInstance_takes b m.family m.outside.1 m.outside.2
    simp only [after, hx]
    exact same t.server t.still.clones
  | retire id =>
    obtain ⟨r, f', calls, s', hx, t⟩ := retireClone_takes b id m.family m.outside.1 m.outside.2
    have hf : (m.after b.recorded (.retire id)).family = f' := by
      rcases r with e | _ | _ <;> simp only [after, hx, moved]
    rw [hf]
    rcases t.outcome.1 with ⟨-, rfl⟩ | ⟨-, c, hc, -, rfl⟩
    · exact same (.refl _) rfl
    · refine ⟨.refl _, fun d hd => .inl ?_⟩
      rcases List.mem_or_eq_of_mem_set hd with hd | rfl
      · exact ⟨d, hd, rfl⟩
      · exact ⟨c, List.mem_of_getElem? hc, rfl⟩
  | release id =>
    by_cases hw : id ∈ m.waiting
    · obtain ⟨r, f', calls, s', hx, t⟩ :=
        releaseClone_takes b id m.family m.outside.1 m.outside.2
      simp only [after, if_pos hw, hx]
      exact same t.server t.still.clones
    · simp only [after, if_neg hw]
      exact same (.refl _) rfl

theorem after_attached (hm : m.family.Attached b.recorded h) (x : Section) :
    (m.after b.recorded x).family.Attached b.recorded h := by
  obtain ⟨server, clones⟩ := after_server (b := b) (m := m) x
  refine ⟨hm.server.trans server, fun d hd => ?_⟩
  rcases clones d hd with ⟨c, hc, he⟩ | made
  · rw [he]
    exact hm.copied c hc
  · exact made.copied.of_same hm.server

theorem fresh_attached {f : Family ρ κ} (hf : f.Fresh) (s : σ) :
    (fresh f s : Moment ρ κ (Recorded ρ κ σ)).family.Attached b.recorded f.handle where
  server := .refl _
  copied c hc := by
    rw [fresh, hf.clones] at hc
    cases hc

theorem run_attached (hm : m.family.Attached b.recorded h) (xs : List Section) :
    (m.run b.recorded xs).family.Attached b.recorded h := by
  induction xs generalizing m with
  | nil => exact hm
  | cons x xs ih => exact ih (after_attached hm x)

end Moment

theorem Backing.Copied.of_recorded {b : Backing η ρ κ σ} {h : Handle ρ κ} {info : ConnectionInfo}
    (hc : b.recorded.Copied h info) : b.Copied h info := by
  obtain ⟨h', base, n, client, ⟨l, s⟩, s', hs, hi, rfl, hk⟩ := hc
  rcases hx : b.service.connectTo { base with database := uniqueName h'.logicalName n } s with
    ⟨r, t⟩
  have hr : b.recorded.service.connectTo _ (l, s) = _ := noted_of_eq _ l hx
  rw [hr] at hk
  cases hk
  exact ⟨h', base, n, client, s, t, hs, hi, rfl, hx⟩

theorem Moment.run_copied {b : Backing η ρ κ σ} {f : Family ρ κ} (hf : f.Fresh) (s : σ)
    (xs : List Section) : ∀ c ∈ ((fresh f s).run b.recorded xs).family.clones,
      b.Copied f.handle c.info := by
  intro c hc
  exact ((run_attached (fresh_attached hf s) xs).copied c hc).of_recorded

end Testbed
