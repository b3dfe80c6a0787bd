import Testbed.Proofs.Instance.Copies

/-!
# Closing what has vanished

When nothing that closing asks for fails in a way that counts, an instance and its clones can be
closed in any order: each closing returns, and nothing is left open, live or pending.
-/

namespace Testbed

set_option autoImplicit false

open Act FamilyAct

variable {η ρ κ σ α : Type}

/-! Closing when nothing fails in a way that counts. -/

/-- An action that returns as long as a property of the state holds, which it keeps. -/
def Act.Returns (G : σ → Prop) (x : Act σ Unit) : Prop := ∀ s, G s → ∃ s', x s = (.ok (), s') ∧ G s'

/-- Everything that closing the instance of a handle and its clones asks for returns, and only
the template flag may be left where it is, for want of a server.  `D` says which stores can be
dropped. -/
structure Backing.Forgives (b : Backing η ρ κ σ) (h : Handle ρ κ) (D : ConnectionInfo → Prop)
    (G : σ → Prop) : Prop where
  terminate : Returns G (b.runtime.terminate h.container)
  close : h.ownsRuntime = true → Returns G b.runtime.close
  closeClient : ∀ client, Returns G (b.service.closeClient client)
  dropCopy : ∀ info, D info → Returns G (b.service.dropCopy info)
  setTemplate : ∀ h' s, h.SameServer h' → G s → ∃ r s', b.service.setTemplate h' false s = (r, s') ∧
    G s' ∧ ∀ e, r = .error e → e.isOrdinary = true ∧ e.isTransport = true
  write : ∀ level topic text s, G s → G (b.around.diary.write level topic text s)

/-- An action that returns and leads from one family to another one. -/
def Brings (G : σ → Prop) (x : FamilyAct ρ κ σ Unit) (f f' : Family ρ κ) : Prop :=
  ∀ s, G s → ∃ s', x (f, s) = (.ok (), (f', s')) ∧ G s'

section Forgiving

variable {b : Backing η ρ κ σ} {h : Handle ρ κ} {D : ConnectionInfo → Prop} {G : σ → Prop}
  {f f' f'' : Family ρ κ}

theorem Brings.bind {x : FamilyAct ρ κ σ Unit} {g : Unit → FamilyAct ρ κ σ Unit}
    (hx : Brings G x f f') (hg : Brings G (g ()) f' f'') : Brings G (x >>= g) f f'' := by
  intro s hs
  obtain ⟨s₁, h₁, hs₁⟩ := hx s hs
  obtain ⟨s₂, h₂, hs₂⟩ := hg s₁ hs₁
  exact ⟨s₂, (bind_of_ok h₁).trans h₂, hs₂⟩

theorem Brings.done (f : Family ρ κ) : Brings G (pure () : FamilyAct ρ κ σ Unit) f f :=
  fun s hs => ⟨s, rfl, hs⟩

theorem debug_brings (hb : b.Forgives h D G) (topic : Topic) (text : String) (f : Family ρ κ) :
    Brings G (debug b topic text) f f :=
  fun s hs => ⟨_, rfl, hb.write _ _ _ s hs⟩

theorem terminate_brings (hb : b.Forgives h D G) (hf : h.SameServer f.handle) :
    Brings G (terminate b) f f.unkept := by
  intro s hs
  obtain ⟨s₁, ht, h₁⟩ := hb.terminate s hs
  rw [← hf.container] at ht
  rw [terminate, handle_bind, bind_of_ok (outside_of_eq f (orRaise_of_ok _ ht)), setHandle_bind]
  cases ho : f.handle.ownsRuntime with
  | false => exact ⟨s₁, rfl, h₁⟩
  | true =>
    obtain ⟨s₂, hc, h₂⟩ := hb.close (hf.ownsRuntime ▸ ho) s₁ h₁
    exact ⟨s₂, outside_of_eq _ hc, h₂⟩

theorem revertTemplate_brings (hb : b.Forgives h D G) (hf : h.SameServer f.handle) :
    Brings G (revertTemplate b) f f.unmark := by
  intro s hs
  cases ht : f.handle.isTemplate with
  | false =>
    rw [revertTemplate, handle_bind, ht, Family.unmark_of_unmarked ht]
    exact ⟨s, rfl, hs⟩
  | true =>
    obtain ⟨r, s₁, hr, h₁, he⟩ := hb.setTemplate f.handle s hf hs
    rw [revertTemplate, handle_bind, ht, if_pos rfl]
    cases r with
    | ok u =>
      rw [bind_of_ok (outside_of_eq f (attempt_of_ok hr))]
      exact ⟨s₁, rfl, h₁⟩
    | error e =>
      obtain ⟨ho, hl⟩ := he e rfl
      rw [bind_of_ok (outside_of_eq f (attempt_of_ordinary hr ho))]
      dsimp only
      rw [if_pos hl]
      exact ⟨_, rfl, hb.write _ _ _ s₁ h₁⟩

theorem closeClient_brings (hb : b.Forgives h D G) (f : Family ρ κ) :
    Brings G (closeClient b) f f := by
  intro s hs
  rw [closeClient, handle_bind]
  cases f.handle.client with
  | none => exact ⟨s, rfl, hs⟩
  | some c =>
    obtain ⟨s₁, hc, h₁⟩ := hb.closeClient c s hs
    exact ⟨s₁, bind_of_ok (outside_of_eq f (attempt_of_ok hc)), h₁⟩

theorem keepOrTerminate_brings (hb : b.Forgives h D G) (hf : h.SameServer f.handle) :
    Brings G (keepOrTerminate b) f
      (f.onHandle fun h => { h with terminatePending := !h.liveClones.isEmpty }) := by
  intro s hs
  rw [keepOrTerminate, handle_bind]
  cases hl : f.handle.liveClones.isEmpty with
  | true =>
    have hu : (f.onHandle fun h => { h with terminatePending := !h.liveClones.isEmpty }) =
        f.unkept := by
      simp only [Family.onHandle, Family.unkept, hl, Bool.not_true]
    rw [hu]
    exact terminate_brings hb hf s hs
  | false =>
    have hk : (f.onHandle fun h => { h with terminatePending := !h.liveClones.isEmpty }) =
        f.onHandle fun h => { h with terminatePending := true } := by
      simp only [Family.onHandle, hl, Bool.not_false]
    rw [hk]
    exact ⟨_, rfl, hb.write _ _ _ s hs⟩

/-- An open instance is closed; it keeps its container for the live clones. -/
theorem closeInstance_brings (hb : b.Forgives h D G) (hf : h.SameServer f.handle)
    (hc : f.handle.closed = false) : Brings G (closeInstance b) f f.close := by
  intro s hs
  have hu : h.SameServer f.unmark.handle := hf.trans ⟨rfl, rfl, rfl, rfl, rfl⟩
  obtain ⟨s₁, h₁, hs₁⟩ := revertTemplate_brings hb hf s hs
  obtain ⟨s₂, h₂, hs₂⟩ := keepOrTerminate_brings hb hu s₁ hs₁
  rw [closeInstance, handle_bind, hc, if_neg Bool.false_ne_true, bind_of_ok h₁, bind_of_ok h₂,
    setHandle_bind]
  have hend : Brings G (do
      let name ← label b
      debug b .instances s!"Closed {name}") f.close f.close :=
    fun s hs => ⟨_, rfl, hb.write _ _ _ s hs⟩
  exact (closeClient_brings hb f.close).bind hend s₂ hs₂

theorem dropStore_returns (hb : b.Forgives h D G) {c : Clone κ} (hc : D c.info) :
    Returns G (dropStore b.service c) := by
  intro s hs
  obtain ⟨s₁, h₁, hs₁⟩ := hb.closeClient c.client s hs
  obtain ⟨s₂, h₂, hs₂⟩ := hb.dropCopy c.info hc s₁ hs₁
  exact ⟨s₂, orRaise_of_ok _ ((bind_of_ok h₁).trans h₂), hs₂⟩

theorem releaseClone_kept (id : CloneId)
    (hk : f.handle.terminatePending = true → (f.forget id).handle.liveClones ≠ []) :
    Brings G (releaseClone b id) f (f.forget id) := by
  intro s hs
  have hn : ¬ ((f.forget id).handle.terminatePending &&
      (f.forget id).handle.liveClones.isEmpty) = true := by
    rw [Bool.and_eq_true, List.isEmpty_iff]
    exact fun hp => hk hp.1 hp.2
  refine ⟨s, ?_, hs⟩
  rw [releaseClone, setHandle_bind, handle_bind]
  exact congrFun (if_neg hn) (f.forget id, s)

theorem releaseClone_last (hb : b.Forgives h D G) (hf : h.SameServer f.handle) (id : CloneId)
    (hp : f.handle.terminatePending = true) (hl : (f.forget id).handle.liveClones = []) :
    Brings G (releaseClone b id) f (f.forget id).unkept := by
  intro s hs
  have hd : ((f.forget id).handle.terminatePending &&
      (f.forget id).handle.liveClones.isEmpty) = true := by
    rw [Bool.and_eq_true, List.isEmpty_iff]
    exact ⟨hp, hl⟩
  have hf' : h.SameServer (f.forget id).handle := hf.trans ⟨rfl, rfl, rfl, rfl, rfl⟩
  rw [releaseClone, setHandle_bind, handle_bind]
  change ∃ s', (if ((f.forget id).handle.terminatePending &&
    (f.forget id).handle.liveClones.isEmpty) = true then _ else _ : FamilyAct ρ κ σ Unit)
      (f.forget id, s) = _ ∧ _
  rw [if_pos hd, label_bind]
  exact (debug_brings hb _ _ _).bind (g := fun _ => terminate b) (terminate_brings hb hf') s hs

/-- Closing a clone that is closed, or that there is not, does nothing. -/
theorem closeClone_idle {id : CloneId} (hi : ∀ c, f.clones[id]? = some c → c.closed = true) :
    Brings G (closeClone b id) f f := by
  intro s hs
  have hr : retireClone b id (f, s) = (.ok false, (f, s)) := by
    rw [retireClone, clone?_bind]
    cases hc : f.clones[id]? with
    | none => rfl
    | some c =>
      dsimp only
      rw [hi c hc, if_pos rfl]
      rfl
  rw [closeClone, bind_of_ok hr]
  exact ⟨s, rfl, hs⟩

/-- Closing an open clone removes its store, and then it is released. -/
theorem closeClone_brings (hb : b.Forgives h D G) {id : CloneId} {c : Clone κ}
    (hc : f.clones[id]? = some c) (ho : c.closed = false) (hi : D c.info)
    (hr : Brings G (releaseClone b id) (f.retire id c) f') : Brings G (closeClone b id) f f' := by
  intro s hs
  obtain ⟨s₁, hd, hs₁⟩ := dropStore_returns hb hi s hs
  have ht : retireClone b id (f, s) = (.ok true, (f.retire id c, s₁)) := by
    rw [retireClone_open b hc ho, hd]
  rw [closeClone, bind_of_ok ht, if_pos rfl, clone?_bind]
  cases (f.retire id c).clones[id]? with
  | none => exact hr s₁ hs₁
  | some d => exact (debug_brings hb _ _ _).bind hr s₁ hs₁

end Forgiving

/-! Closing in any order. -/

inductive Closable where
  /-- The instance, which owns the container. -/
  | owner
  | clone (id : CloneId)
  deriving DecidableEq

def Closable.close (b : Backing η ρ κ σ) : Closable → FamilyAct ρ κ σ Unit
  | .owner => closeInstance b
  | .clone id => closeClone b id

/-- Closes one after the other; a fault of one ends it. -/
def closeAll (b : Backing η ρ κ σ) : List Closable → FamilyAct ρ κ σ Unit
  | [] => pure ()
  | x :: xs => do
    x.close b
    closeAll b xs

/-- The instance is closed, and its container waits for no clone that is gone. -/
def Family.Done (f : Family ρ κ) : Prop :=
  f.handle.closed = true ∧ (f.handle.terminatePending = true → f.handle.liveClones ≠ [])

/-- What closing some of a family leaves: the clones among them are not live any more, and the
instance is done if it is among them. -/
structure Family.Closed (f : Family ρ κ) (xs : List Closable) (f' : Family ρ κ) : Prop where
  live : ∀ id ∈ f'.handle.liveClones, id ∈ f.handle.liveClones ∧ .clone id ∉ xs
  done : f.Done ∨ .owner ∈ xs → f'.Done

section Order

variable {b : Backing η ρ κ σ} {h : Handle ρ κ} {D : ConnectionInfo → Prop} {G : σ → Prop}
  {f f' : Family ρ κ} {n : Nat}

theorem Family.Closed.trans {f f' f'' : Family ρ κ} {xs ys : List Closable} (hx : f.Closed xs f')
    (hy : f'.Closed ys f'') : f.Closed (xs ++ ys) f'' where
  live id hid := by
    obtain ⟨hid', hn⟩ := hy.live id hid
    obtain ⟨hid'', hn'⟩ := hx.live id hid'
    refine ⟨hid'', fun hm => ?_⟩
    rcases List.mem_append.mp hm with hm | hm
    · exact hn' hm
    · exact hn hm
  done hd := by
    rw [List.mem_append, ← or_assoc] at hd
    exact hy.done (hd.imp_left hx.done)

/-- The families that are reached while nothing is being closed, when the stores of the open clones
can be dropped. -/
structure Family.Ready (h : Handle ρ κ) (D : ConnectionInfo → Prop) (f : Family ρ κ) : Prop where
  server : h.SameServer f.handle
  droppable : ∀ c ∈ f.clones, c.closed = false → D c.info
  sound : ∃ n, f.Sound [] n

theorem Family.Ready.of_clones (hf : f.Ready h D) (hs : f.handle.SameServer f'.handle)
    (hc : f'.clones = f.clones) (hn : f'.Sound [] n) : f'.Ready h D where
  server := hf.server.trans hs
  droppable := by
    rw [hc]
    exact hf.droppable
  sound := ⟨n, hn⟩

/-- Nothing has to be dropped any more for a clone that was closed. -/
theorem Family.Ready.of_retired (hf : f.Ready h D) {id : CloneId} {c : Clone κ}
    (hs : f.handle.SameServer f'.handle) (hc : f'.clones = (f.retire id c).clones)
    (hn : f'.Sound [] n) : f'.Ready h D where
  server := hf.server.trans hs
  droppable d hd ho := by
    rw [hc] at hd
    rcases List.mem_or_eq_of_mem_set hd with hd | rfl
    · exact hf.droppable d hd ho
    · cases ho
  sound := ⟨n, hn⟩

theorem closeInstance_closed (hb : b.Forgives h D G) (hf : f.Ready h D) :
    ∃ f', Brings G (closeInstance b) f f' ∧ f'.Ready h D ∧ f.Closed [.owner] f' := by
  obtain ⟨n, hs⟩ := hf.sound
  cases hc : f.handle.closed with
  | false =>
    refine ⟨f.close, closeInstance_brings hb hf.server hc, ?_, ?_⟩
    · exact hf.of_clones ⟨rfl, rfl, rfl, rfl, rfl⟩ rfl (hs.close hc)
    · refine ⟨fun id hid => ⟨hid, by simp⟩, fun _ => ⟨rfl, fun hp => ?_⟩⟩
      simpa [Family.close] using hp
  | true =>
    by_cases hp : f.handle.terminatePending = true ∧ f.handle.liveClones = []
    · refine ⟨f.unkept, fun s hG => ?_, ?_, ?_⟩
      · rw [closeInstance, handle_bind, hc, if_pos rfl, hp.1, hp.2]
        exact terminate_brings hb hf.server s hG
      · exact hf.of_clones ⟨rfl, rfl, rfl, rfl, rfl⟩ rfl (hs.unkept hc hp.1 hp.2)
      · exact ⟨fun id hid => ⟨hid, by simp⟩, fun _ => ⟨hc, fun hp => by cases hp⟩⟩
    · refine ⟨f, fun s hG => ⟨s, ?_, hG⟩, hf, fun id hid => ⟨hid, by simp⟩,
        fun _ => ⟨hc, fun hp' hl => hp ⟨hp', hl⟩⟩⟩
      rw [closeInstance, handle_bind, hc, if_pos rfl, if_neg (by simpa using hp)]
      rfl

theorem Family.Closed.of_clone {f f' : Family ρ κ} {id : CloneId}
    (hl : ∀ i ∈ f'.handle.liveClones, i ∈ f.handle.liveClones ∧ i ≠ id) (hd : f.Done → f'.Done) :
    f.Closed [.clone id] f' where
  live i hi := by
    obtain ⟨hm, hne⟩ := hl i hi
    refine ⟨hm, fun he => ?_⟩
    cases List.mem_singleton.mp he
    exact hne rfl
  done h := by
    rcases h with h | h
    · exact hd h
    · cases List.mem_singleton.mp h

theorem Family.Sound.not_live (hs : f.Sound [] n) {id : CloneId}
    (hi : ∀ c, f.clones[id]? = some c → c.closed = true) : id ∉ f.handle.liveClones := by
  intro hm
  obtain ⟨c, hc, ho | hw⟩ := (hs.live id).mp hm
  · rw [hi c hc] at ho
    cases ho
  · cases hw

theorem Family.forget_live (f : Family ρ κ) (id : CloneId) :
    ∀ i ∈ (f.forget id).handle.liveClones, i ∈ f.handle.liveClones ∧ i ≠ id := by
  intro i hi
  obtain ⟨hm, hne⟩ := List.mem_filter.mp hi
  exact ⟨hm, by simpa using hne⟩

theorem closeClone_closed (hb : b.Forgives h D G) (hf : f.Ready h D) (id : CloneId) :
    ∃ f', Brings G (closeClone b id) f f' ∧ f'.Ready h D ∧ f.Closed [.clone id] f' := by
  obtain ⟨n, hs⟩ := hf.sound
  by_cases hi : ∀ c, f.clones[id]? = some c → c.closed = true
  · have hn := hs.not_live hi
    exact ⟨f, closeClone_idle hi, hf,
      .of_clone (fun i hm => ⟨hm, fun he => hn (he ▸ hm)⟩) fun hd => hd⟩
  · obtain ⟨c, hc, ho⟩ : ∃ c, f.clones[id]? = some c ∧ c.closed = false := by
      simpa using hi
    have hr : ((f.retire id c).forget id).Sound [] n := by
      simpa using (hs.retire hc ho).forget (List.mem_append_right _ List.mem_cons_self)
    have hserver : h.SameServer (f.retire id c).handle := hf.server
    have hdrop := hf.droppable c (List.mem_of_getElem? hc) ho
    have hlive := (f.retire id c).forget_live id
    by_cases hp : f.handle.terminatePending = true ∧
        ((f.retire id c).forget id).handle.liveClones = []
    · -- The container was kept for this clone alone.
      refine ⟨((f.retire id c).forget id).unkept,
        closeClone_brings hb hc ho hdrop (releaseClone_last hb hserver id hp.1 hp.2),
        hf.of_retired ⟨rfl, rfl, rfl, rfl, rfl⟩ rfl (hr.unkept (hs.closed hp.1) hp.1 hp.2),
        .of_clone hlive fun _ => ⟨hs.closed hp.1, fun hp' => by cases hp'⟩⟩
    · have hkept : f.handle.terminatePending = true →
          ((f.retire id c).forget id).handle.liveClones ≠ [] := fun hp' hl => hp ⟨hp', hl⟩
      exact ⟨(f.retire id c).forget id,
        closeClone_brings hb hc ho hdrop (releaseClone_kept id hkept),
        hf.of_retired ⟨rfl, rfl, rfl, rfl, rfl⟩ rfl hr,
        .of_clone hlive fun hd => ⟨hd.1, hkept⟩⟩

theorem closable_closed (hb : b.Forgives h D G) (hf : f.Ready h D) (x : Closable) :
    ∃ f', Brings G (x.close b) f f' ∧ f'.Ready h D ∧ f.Closed [x] f' := by
  cases x with
  | owner => exact closeInstance_closed hb hf
  | clone id => exact closeClone_closed hb hf id

theorem closeAll_closed (hb : b.Forgives h D G) (hf : f.Ready h D) (xs : List Closable) :
    ∃ f', Brings G (closeAll b xs) f f' ∧ f'.Ready h D ∧ f.Closed xs f' := by
  induction xs generalizing f with
  | nil =>
    refine ⟨f, .done f, hf, fun id hid => ⟨hid, by simp⟩, fun hd => ?_⟩
    exact hd.resolve_right (by simp)
  | cons x xs ih =>
    obtain ⟨f₁, hx, hf₁, hc₁⟩ := closable_closed hb hf x
    obtain ⟨f₂, hxs, hf₂, hc₂⟩ := ih hf₁
    exact ⟨f₂, hx.bind hxs, hf₂, hc₁.trans hc₂⟩

/-- Nothing of a family is open, live or pending. -/
structure Family.Over (f : Family ρ κ) : Prop where
  closed : f.handle.closed = true
  clones : ∀ c ∈ f.clones, c.closed = true
  liveClones : f.handle.liveClones = []
  terminatePending : f.handle.terminatePending = false

/-- When the instance and all live clones were closed, in any order, everything is over. -/
theorem Family.Closed.over {f f' : Family ρ κ} {xs : List Closable} (hc : f.Closed xs f')
    (hf : f'.Ready h D) (ho : .owner ∈ xs) (hl : ∀ id ∈ f.handle.liveClones, .clone id ∈ xs) :
    f'.Over := by
  have hlive : f'.handle.liveClones = [] := by
    rw [List.eq_nil_iff_forall_not_mem]
    intro id hid
    obtain ⟨hid', hn⟩ := hc.live id hid
    exact hn (hl id hid')
  obtain ⟨hcl, hp⟩ := hc.done (.inr ho)
  obtain ⟨n, hs⟩ := hf.sound
  refine ⟨hcl, fun c hm => ?_, hlive, ?_⟩
  · obtain ⟨id, hid⟩ := List.getElem?_of_mem hm
    exact hs.closed_of_live hlive hid
  · cases hpend : f'.handle.terminatePending with
    | false => rfl
    | true => exact absurd hlive (hp hpend)

end Order

/-- Between two operations, every family that is reached is ready. -/
theorem Moment.run_ready {b : Backing η ρ κ σ} {f : Family ρ κ} {s : σ} (hf : f.Fresh)
    (hb : RuntimeCloses b (fresh f s)) (xs : List Section) {D : ConnectionInfo → Prop}
    (hw : ((fresh f s).run b.recorded xs).waiting = [])
    (hd : ∀ c ∈ ((fresh f s).run b.recorded xs).family.clones, c.closed = false → D c.info) :
    ((fresh f s).run b.recorded xs).family.Ready f.handle D where
  server := (run_attached (fresh_attached hf s) xs).server
  droppable := hd
  sound := by
    have hm := (run_sound b hb (hf.sound s) xs).1
    have hs := hm.family
    rw [hw] at hs
    exact ⟨_, hs⟩

end Testbed
