import Testbed.Proofs.Instance.Soundness

/-!
# The lifetime of a container

The operations on an instance and its clones are cut where their locks are given up: closing a
clone removes its store in one section and releases it in another one, and any other section may
run between the two.  In every order of sections the container is destroyed at most once, and only
when all clones are closed.
-/

namespace Testbed

set_option autoImplicit false

open Act

variable {η ρ κ σ : Type}

/-! Recorded runtimes that always close. -/

theorem noted_keeps_all {N α : Type} {x : Act σ α} {note : Except Fault α → N} {P : N → Prop}
    (h : ∀ s, P (note (x s).1)) :
    Keeps (fun o : List N × σ => ∀ n ∈ o.1, P n) (x.noted note) := by
  refine .noted fun l s hs n hn => ?_
  rcases List.mem_append.mp hn with hn | hn
  · exact hs n hn
  · rw [List.mem_singleton.mp hn]
    exact h s

/-- The calls of a backing whose runtime always closes say so. -/
theorem Backing.recorded_keeps (b : Backing η ρ κ σ) (hb : ∀ s, (b.runtime.close s).1 = .ok ()) :
    b.recorded.Keeps fun o => ∀ c ∈ o.1, ∀ e, c ≠ .closeRuntime (.error e) where
  launchSpec _ _ := noted_keeps_all fun _ _ => nofun
  connectTo _ := noted_keeps_all fun _ _ => nofun
  probe _ := noted_keeps_all fun _ _ => nofun
  closeClient _ := noted_keeps_all fun _ _ => nofun
  setTemplate _ _ := noted_keeps_all fun _ _ => nofun
  createCopy _ _ := noted_keeps_all fun _ _ => nofun
  dropCopy _ := noted_keeps_all fun _ _ => nofun
  ping := noted_keeps_all fun _ _ => nofun
  launch _ := noted_keeps_all fun _ _ => nofun
  scheduleExpiry _ _ := noted_keeps_all fun _ _ => nofun
  endpoint _ _ := noted_keeps_all fun _ _ => nofun
  terminate _ := noted_keeps_all fun _ _ => nofun
  close := noted_keeps_all fun s e h => by
    rw [hb s] at h
    cases h
  sleep _ := fun _ h => h
  stamp := fun _ h => h
  write _ _ _ _ h := h

/-! Sections. -/

/-- What is done under one lock without giving it up. -/
inductive Section where
  | promote
  | clone
  | close
  /-- The first half of closing a clone. -/
  | retire (id : CloneId)
  /-- The second half of closing a clone. -/
  | release (id : CloneId)

/-- An instance between two sections, and what became of its clones. -/
structure Moment (ρ κ σ : Type) where
  family : Family ρ κ
  outside : σ
  /-- The clones that were handed out. -/
  handedOut : List CloneId := []
  /-- The clones whose first half of closing is done. -/
  retired : List CloneId := []
  /-- Those of them whose second half is still to be done. -/
  waiting : List CloneId := []

namespace Moment

def moved (m : Moment ρ κ σ) (s : Family ρ κ × σ) : Moment ρ κ σ :=
  { m with family := s.1, outside := s.2 }

/-- The moment after a section, however it ended.  The second half of closing a clone is done once
for each first half. -/
def after (b : Backing η ρ κ σ) (m : Moment ρ κ σ) : Section → Moment ρ κ σ
  | .promote => m.moved (promote b (m.family, m.outside)).2
  | .clone =>
    match cloneTemplate b (m.family, m.outside) with
    | (.ok id, s) => { m.moved s with handedOut := m.handedOut ++ [id] }
    | (.error _, s) => m.moved s
  | .close => m.moved (closeInstance b (m.family, m.outside)).2
  | .retire id =>
    match retireClone b id (m.family, m.outside) with
    | (.ok true, s) =>
      { m.moved s with retired := m.retired ++ [id], waiting := m.waiting ++ [id] }
    | (_, s) => m.moved s
  | .release id =>
    if id ∈ m.waiting then
      { m.moved (releaseClone b id (m.family, m.outside)).2 with
        waiting := m.waiting.filter (· != id) }
    else m

/-- What the requests for an instance keep is kept by every section that does not clone it. -/
theorem after_keeps_of_clone {b : Backing η ρ κ σ} {I : σ → Prop} (h : b.KeepsServing I)
    (m : Moment ρ κ σ) (x : Section) (hm : I m.outside)
    (hclone : x = .clone → I (cloneTemplate b (m.family, m.outside)).2.2) :
    I (m.after b x).outside := by
  cases x with
  | promote => exact promote_keeps h.toKeepsClosing (m.family, m.outside) hm
  | clone =>
    have hk := hclone rfl
    rcases hx : cloneTemplate b (m.family, m.outside) with ⟨e | id, s⟩ <;> rw [hx] at hk <;>
      simp only [after, hx] <;> exact hk
  | close => exact closeInstance_keeps h.toKeepsClosing (m.family, m.outside) hm
  | retire id =>
    have hk := retireClone_keeps h id (m.family, m.outside) hm
    rcases hx : retireClone b id (m.family, m.outside) with ⟨e | _ | _, s⟩ <;> rw [hx] at hk <;>
      simp only [after, hx] <;> exact hk
  | release id =>
    by_cases hw : id ∈ m.waiting
    · rw [after, if_pos hw]
      exact releaseClone_keeps h.toKeepsClosing id (m.family, m.outside) hm
    · rw [after, if_neg hw]
      exact hm

theorem after_clone (b : Backing η ρ κ σ) (m : Moment ρ κ σ) :
    ((m.after b .clone).family, (m.after b .clone).outside) =
      (cloneTemplate b (m.family, m.outside)).2 := by
  rcases hx : cloneTemplate b (m.family, m.outside) with ⟨e | id, s⟩ <;>
    simp only [after, hx, moved]

theorem after_keeps {b : Backing η ρ κ σ} {I : σ → Prop} (h : b.Keeps I) (m : Moment ρ κ σ)
    (x : Section) (hm : I m.outside) : I (m.after b x).outside :=
  after_keeps_of_clone h.serving m x hm fun _ => cloneTemplate_keeps h (m.family, m.outside) hm

end Moment

/-! Which clones are closed. -/

namespace Family

def HasClosed (f : Family ρ κ) (id : CloneId) : Prop :=
  ∃ c, f.clones[id]? = some c ∧ c.closed = true

instance (f : Family ρ κ) (id : CloneId) : Decidable (f.HasClosed id) :=
  decidable_of_iff (f.clones[id]?.any (·.closed) = true) (Option.any_eq_true _ _)

theorem hasClosed_addClone {f : Family ρ κ} {c : Clone κ} (ho : c.closed = false) (id : CloneId) :
    (f.addClone c).HasClosed id ↔ f.HasClosed id := by
  constructor
  · rintro ⟨d, hd, hdc⟩
    simp only [addClone, List.getElem?_append] at hd
    split at hd
    · exact ⟨d, hd, hdc⟩
    · have hd' := List.mem_of_getElem? hd
      rw [List.mem_singleton] at hd'
      rw [hd', ho] at hdc
      cases hdc
  · rintro ⟨d, hd, hdc⟩
    exact ⟨d, (List.getElem?_append_left (List.getElem?_eq_some_iff.mp hd).1).trans hd, hdc⟩

theorem hasClosed_retire {f : Family ρ κ} {i : CloneId} {c : Clone κ} (hc : f.clones[i]? = some c)
    (id : CloneId) : (f.retire i c).HasClosed id ↔ f.HasClosed id ∨ id = i := by
  have hlt := (List.getElem?_eq_some_iff.mp hc).1
  by_cases hi : i = id
  · subst hi
    simp [HasClosed, retire, hlt]
  · simp [HasClosed, retire, List.getElem?_set_ne hi, Ne.symm hi]

end Family

theorem dropStore_ok {s : Service η ρ κ σ} {c : Clone κ} {o o' : σ}
    (h : dropStore s c o = (.ok (), o')) :
    ∃ o₁, s.closeClient c.client o = (.ok (), o₁) ∧ s.dropCopy c.info o₁ = (.ok (), o') := by
  obtain ⟨⟨⟩, o₁, hc, hd⟩ := bind_ok (orRaise_ok h)
  exact ⟨o₁, hc, hd⟩

/-- An open clone that is closed by the first half of closing it has lost its store. -/
theorem Moment.after_retire {b : Backing η ρ κ σ} {m : Moment ρ κ σ} {id : CloneId} {c : Clone κ}
    (hc : m.family.clones[id]? = some c) (ho : c.closed = false)
    (hclosed : (m.after b (.retire id)).family.HasClosed id) :
    dropStore b.service c m.outside = (.ok (), (m.after b (.retire id)).outside) := by
  have hr := retireClone_open b hc ho m.outside
  rcases hd : dropStore b.service c m.outside with ⟨e | ⟨⟩, o⟩ <;> rw [hd] at hr
  · obtain ⟨d, hd', hdc⟩ := hclosed
    simp only [after, hr, moved] at hd'
    rw [hc] at hd'
    cases hd'
    rw [ho] at hdc
    cases hdc
  · simp only [after, hr, moved]

/-- Closing an open clone removes its store; what follows keeps what is kept by closing an
instance. -/
theorem closeClone_ok {b : Backing η ρ κ σ} {f f' : Family ρ κ} {o o' : σ} {id : CloneId}
    {c : Clone κ} (hc : f.clones[id]? = some c) (ho : c.closed = false)
    (h : closeClone b id (f, o) = (.ok (), (f', o'))) :
    ∃ o₁, dropStore b.service c o = (.ok (), o₁) ∧
      ∀ I : σ → Prop, b.KeepsClosing I → I o₁ → I o' := by
  obtain ⟨wasOpen, ⟨f₁, o₁⟩, hr, h⟩ := bind_ok h
  rw [retireClone_open b hc ho] at hr
  rcases hd : dropStore b.service c o with ⟨e | ⟨⟩, o₂⟩ <;> rw [hd] at hr
  · cases hr
  · cases hr
    refine ⟨_, rfl, fun I hI ho₁ => ?_⟩
    rw [if_pos rfl] at h
    exact (afterRetiring_keeps hI id).apply h ho₁

namespace Moment

/-- What is true of every moment that is reached. -/
structure Sound (m : Moment ρ κ (Recorded ρ κ σ)) : Prop where
  family : m.family.Sound m.waiting (ends m.outside.1)
  handedOut : m.handedOut = List.range m.family.clones.length
  retired : ∀ id, id ∈ m.retired ↔ m.family.HasClosed id
  smooth : Smooth m.family m.outside.1

/-- What a section with some calls does, and what it leaves alone. -/
structure Step (m m' : Moment ρ κ (Recorded ρ κ σ)) (calls : List (Call ρ κ)) : Prop where
  noted : m'.outside.1 = m.outside.1 ++ calls
  sound : m'.family.Sound m'.waiting (ends m.outside.1 + ends calls)
  handedOut : m'.handedOut = List.range m'.family.clones.length
  retired : ∀ id, id ∈ m'.retired ↔ m'.family.HasClosed id
  container : m'.family.handle.container = m.family.handle.container
  ownsRuntime : m'.family.handle.ownsRuntime = m.family.handle.ownsRuntime
  /-- A closed instance stays closed and hands out no clones. -/
  closed : m.family.handle.closed = true →
    m'.family.handle.closed = true ∧ m'.handedOut = m.handedOut
  /-- A container is destroyed only when no clone is live. -/
  terminates : ∀ c r, .terminate c r ∈ calls → c = m.family.handle.container ∧
    m'.family.handle.liveClones = [] ∧ m'.retired = m.retired

variable (b : Backing η ρ κ σ) {m : Moment ρ κ (Recorded ρ κ σ)}

theorem promote_step (h : m.Sound) : ∃ calls, m.Step (m.after b.recorded .promote) calls := by
  obtain ⟨r, f', calls, s', hx, t⟩ := promote_takes b m.family m.outside.1 m.outside.2
  obtain ⟨hf', -, ht⟩ := t.outcome
  have hs := t.sound h.family
  refine ⟨calls, ?_⟩
  simp only [after, hx]
  rcases hf' with rfl | ⟨-, rfl⟩
  · exact ⟨rfl, hs, h.handedOut, h.retired, rfl, rfl, fun hc => ⟨hc, rfl⟩,
      fun c r hm => absurd hm (ht c r)⟩
  · exact ⟨rfl, hs, h.handedOut, h.retired, rfl, rfl, fun hc => ⟨hc, rfl⟩,
      fun c r hm => absurd hm (ht c r)⟩

theorem clone_step (h : m.Sound) : ∃ calls, m.Step (m.after b.recorded .clone) calls := by
  obtain ⟨r, f', calls, s', hx, t⟩ := cloneTemplate_takes b m.family m.outside.1 m.outside.2
  have hs := t.sound h.family
  obtain ⟨⟨⟨e, rfl⟩, rfl⟩ | ⟨rfl, hc, -, c, ho, rfl⟩, -, ht⟩ := t.outcome
  · refine ⟨calls, ?_⟩
    simp only [after, hx]
    exact ⟨rfl, hs, h.handedOut, h.retired, rfl, rfl, fun hc => ⟨hc, rfl⟩,
      fun c r hm => absurd hm (ht c r)⟩
  · refine ⟨calls, ?_⟩
    simp only [after, hx]
    refine ⟨rfl, hs, ?_, fun id => ?_, rfl, rfl, fun hc' => ?_, fun c r hm => absurd hm (ht c r)⟩
    · simp only [h.handedOut, moved, Family.addClone, List.length_append, List.length_singleton,
        List.range_succ]
    · exact (h.retired id).trans (Family.hasClosed_addClone ho id).symm
    · rw [hc] at hc'
      cases hc'

theorem close_step (h : m.Sound) (hs : Smooth m.family (m.after b.recorded .close).outside.1) :
    ∃ calls, m.Step (m.after b.recorded .close) calls := by
  obtain ⟨r, f', calls, s', hx, t⟩ := closeInstance_takes b m.family m.outside.1 m.outside.2
  simp only [after, hx] at hs ⊢
  have hs' : Smooth m.family calls := fun ho e he => hs ho e (List.mem_append_right _ he)
  obtain ⟨hcl, hco, ho, hc⟩ := t.frame hs'
  refine ⟨calls, rfl, t.sound hs' h.family, ?_, fun id => ?_, hco, ho, fun h' => ⟨hc h', rfl⟩, ?_⟩
  · simp only [moved, hcl, h.handedOut]
  · simp only [moved, Family.HasClosed, hcl]
    exact h.retired id
  · intro c r hm
    refine ⟨(t.terminates hm).1, ?_⟩
    rcases t.outcome hs' with ⟨-, rfl, -⟩ | ⟨-, -, -, rfl, -⟩ | ⟨-, rfl | ⟨-, rfl⟩, -⟩ |
      ⟨-, rfl, -⟩ <;> exact ⟨(t.terminates hm).2, rfl⟩

theorem retire_step (h : m.Sound) (id : CloneId) :
    ∃ calls, m.Step (m.after b.recorded (.retire id)) calls := by
  obtain ⟨r, f', calls, s', hx, t⟩ := retireClone_takes b id m.family m.outside.1 m.outside.2
  obtain ⟨hf', hn, ht⟩ := t.outcome
  refine ⟨calls, ?_⟩
  rcases hf' with ⟨hr, rfl⟩ | ⟨rfl, c, hc, ho, rfl⟩
  · have hx' : m.after b.recorded (.retire id) = m.moved (m.family, (m.outside.1 ++ calls, s')) := by
      rcases r with e | _ | _ <;> simp only [after, hx]
      exact absurd rfl hr
    rw [hx']
    refine ⟨rfl, ?_, h.handedOut, h.retired, rfl, rfl, fun hc => ⟨hc, rfl⟩,
      fun c r hm => absurd hm (ht c r)⟩
    rw [hn]
    exact h.family
  · simp only [after, hx]
    refine ⟨rfl, ?_, ?_, fun i => ?_, rfl, rfl, fun hc => ⟨hc, rfl⟩,
      fun c r hm => absurd hm (ht c r)⟩
    · rw [hn]
      exact h.family.retire hc ho
    · simp only [moved, Family.retire, List.length_set, h.handedOut]
    · rw [List.mem_append, List.mem_singleton, h.retired i]
      exact (Family.hasClosed_retire hc i).symm

theorem release_step (h : m.Sound) (id : CloneId)
    (hs : Smooth m.family (m.after b.recorded (.release id)).outside.1) :
    ∃ calls, m.Step (m.after b.recorded (.release id)) calls := by
  by_cases hw : id ∈ m.waiting
  · obtain ⟨r, f', calls, s', hx, t⟩ := releaseClone_takes b id m.family m.outside.1 m.outside.2
    simp only [after, if_pos hw, hx] at hs ⊢
    have hs' : Smooth m.family calls := fun ho e he => hs ho e (List.mem_append_right _ he)
    obtain ⟨hcl, hco, ho, hc⟩ := t.frame hs'
    refine ⟨calls, rfl, t.sound hs' h.family hw, ?_, fun i => ?_, hco, ho,
      fun h' => ⟨hc.trans h', rfl⟩, ?_⟩
    · simp only [moved, hcl, h.handedOut]
    · simp only [moved, Family.HasClosed, hcl]
      exact h.retired i
    · intro c r hm
      refine ⟨(t.terminates hm).1, ?_⟩
      rcases t.outcome hs' with ⟨rfl, -⟩ | ⟨-, -, rfl, -⟩ <;>
        exact ⟨(t.terminates hm).2, rfl⟩
  · simp only [after, if_neg hw]
    exact ⟨[], by simp, h.family, h.handedOut, h.retired, rfl, rfl, fun hc => ⟨hc, rfl⟩, by simp⟩

/-- The own runtime of the instance, if it has one, always closes. -/
def RuntimeCloses (b : Backing η ρ κ σ) (m : Moment ρ κ (Recorded ρ κ σ)) : Prop :=
  m.family.handle.ownsRuntime = true → ∀ s, (b.runtime.close s).1 = .ok ()

theorem after_smooth (hb : RuntimeCloses b m) (h : m.Sound) (x : Section) :
    Smooth m.family (m.after b.recorded x).outside.1 := by
  intro ho e he
  have hI : ∀ c ∈ m.outside.1, ∀ e, c ≠ .closeRuntime (.error e) :=
    fun c hc e hce => h.smooth ho e (hce ▸ hc)
  exact after_keeps (b.recorded_keeps (hb ho)) m x hI _ he e rfl

theorem after_step (hb : RuntimeCloses b m) (h : m.Sound) (x : Section) :
    ∃ calls, m.Step (m.after b.recorded x) calls := by
  have hs := after_smooth b hb h x
  cases x with
  | promote => exact promote_step b h
  | clone => exact clone_step b h
  | close => exact close_step b h hs
  | retire id => exact retire_step b h id
  | release id => exact release_step b h id hs

theorem Step.sound_after (hb : RuntimeCloses b m) (h : m.Sound) {x : Section}
    {calls : List (Call ρ κ)} (hx : m.Step (m.after b.recorded x) calls) :
    (m.after b.recorded x).Sound where
  family := by
    rw [hx.noted, ends_append]
    exact hx.sound
  handedOut := hx.handedOut
  retired := hx.retired
  smooth ho := after_smooth b hb h x (hx.ownsRuntime ▸ ho)

def run (b : Backing η ρ κ σ) (m : Moment ρ κ σ) (xs : List Section) : Moment ρ κ σ :=
  xs.foldl (after b) m

theorem run_sound (hb : RuntimeCloses b m) (h : m.Sound) (xs : List Section) :
    (m.run b.recorded xs).Sound ∧ RuntimeCloses b (m.run b.recorded xs) ∧
      (m.run b.recorded xs).family.handle.container = m.family.handle.container ∧
      (m.family.handle.closed = true → (m.run b.recorded xs).handedOut = m.handedOut) := by
  induction xs generalizing m with
  | nil => exact ⟨h, hb, rfl, fun _ => rfl⟩
  | cons x xs ih =>
    obtain ⟨calls, hx⟩ := after_step b hb h x
    have hb' : RuntimeCloses b (m.after b.recorded x) := fun ho => hb (hx.ownsRuntime ▸ ho)
    obtain ⟨hs, hr, hc, hh⟩ := ih hb' (hx.sound_after b hb h)
    refine ⟨hs, hr, hc.trans hx.container, fun hcl => ?_⟩
    exact (hh (hx.closed hcl).1).trans (hx.closed hcl).2

/-- When no clone is live after a section, all clones that were handed out are closed. -/
theorem Step.retired_of_live {m' : Moment ρ κ (Recorded ρ κ σ)} {calls : List (Call ρ κ)}
    (h : m.Step m' calls) (hl : m'.family.handle.liveClones = []) {id : CloneId}
    (hid : id ∈ m'.handedOut) : id ∈ m'.retired := by
  rw [h.handedOut, List.mem_range] at hid
  have hc := List.getElem?_eq_getElem hid
  exact (h.retired id).mpr ⟨_, hc, h.sound.closed_of_live hl hc⟩

theorem Sound.live_of_retired (h : m.Sound) (hw : m.waiting = [])
    (hall : ∀ id ∈ m.handedOut, id ∈ m.retired) : m.family.handle.liveClones = [] := by
  rw [List.eq_nil_iff_forall_not_mem]
  intro id hid
  obtain ⟨c, hc, ho | hw'⟩ := (h.family.live id).mp hid
  · have hid' : id ∈ m.handedOut := by
      rw [h.handedOut]
      exact List.mem_range.mpr (List.getElem?_eq_some_iff.mp hc).1
    obtain ⟨d, hd, hdc⟩ := (h.retired id).mp (hall id hid')
    rw [hc, Option.some.injEq] at hd
    rw [hd, hdc] at ho
    cases ho
  · rw [hw] at hw'
    cases hw'

/-- Closing an instance again tries a termination that is still to be done. -/
theorem close_retries (hc : m.family.handle.closed = true)
    (hp : m.family.handle.terminatePending = true) (hl : m.family.handle.liveClones = []) :
    ∃ r rest, (m.after b.recorded .close).outside.1 =
      m.outside.1 ++ .terminate m.family.handle.container r :: rest := by
  obtain ⟨r, f', calls, s', hx, t⟩ := closeInstance_takes b m.family m.outside.1 m.outside.2
  have ht : Terminating m.family r f' calls := by
    cases t with
    | again _ h => exact absurd hl (h hp)
    | retried _ _ _ ht => exact ht
    | refused ho _ => simp [hc] at ho
    | failed ho _ _ => simp [hc] at ho
    | done ho _ _ _ => simp [hc] at ho
  obtain ⟨r', rest, rfl⟩ := ht.terminates.1
  refine ⟨r', rest, ?_⟩
  simp only [after, hx, moved]

/-- An instance that nothing was done to yet. -/
def fresh (f : Family ρ κ) (s : σ) : Moment ρ κ (Recorded ρ κ σ) :=
  { family := f, outside := ([], s) }

end Moment

/-- The family of an instance that was just started. -/
structure Family.Fresh (f : Family ρ κ) : Prop where
  closed : f.handle.closed = false
  terminatePending : f.handle.terminatePending = false
  liveClones : f.handle.liveClones = []
  clones : f.clones = []

theorem Family.Fresh.sound {f : Family ρ κ} (h : f.Fresh) (s : σ) : (Moment.fresh f s).Sound where
  family := .fresh h.closed h.terminatePending h.liveClones h.clones
  handedOut := by
    simp only [Moment.fresh, h.clones, List.length_nil, List.range_zero]
  retired id := by
    simp [Moment.fresh, HasClosed, h.clones]
  smooth _ _ he := by cases he

open Moment

/-- The lifetime of a container, in every order of sections and for every outcome of the calls.
The container is destroyed only when all clones that were handed out are closed, no clone is
handed out after the instance was closed, and the container is destroyed at most once.  When the
instance and all clones are closed and no clone is still to be released, the container is gone or
its termination failed; then it is tried again whenever the instance is closed again. -/
theorem container_lifetime (b : Backing η ρ κ σ) (f : Family ρ κ) (s : σ) (xs : List Section)
    (hf : f.Fresh) (hb : RuntimeCloses b (fresh f s)) :
    let m := (fresh f s).run b.recorded xs
    (∀ x, ∃ calls, (m.after b.recorded x).outside.1 = m.outside.1 ++ calls ∧
      ∀ c r, .terminate c r ∈ calls → c = f.handle.container ∧
        ∀ id ∈ (m.after b.recorded x).handedOut, id ∈ m.retired) ∧
    (m.family.handle.closed = true →
      ∀ ys, (m.run b.recorded ys).handedOut = m.handedOut) ∧
    ends m.outside.1 ≤ 1 ∧
    (m.waiting = [] → m.family.handle.closed = true → (∀ id ∈ m.handedOut, id ∈ m.retired) →
      (ends m.outside.1 = 1 ∧ m.family.handle.terminatePending = false) ∨
      (ends m.outside.1 = 0 ∧ m.family.handle.terminatePending = true ∧
        m.family.handle.liveClones = [] ∧
        ∃ r rest, (m.after b.recorded .close).outside.1 =
          m.outside.1 ++ .terminate f.handle.container r :: rest)) := by
  intro m
  obtain ⟨hm, hr, hco, -⟩ : m.Sound ∧ RuntimeCloses b m ∧
    m.family.handle.container = f.handle.container ∧ _ := run_sound b hb (hf.sound s) xs
  refine ⟨fun x => ?_, fun hc ys => (run_sound b hr hm ys).2.2.2 hc, ?_, fun hw hc hall => ?_⟩
  · obtain ⟨calls, hx⟩ := after_step b hr hm x
    refine ⟨calls, hx.noted, fun c r hcr => ?_⟩
    obtain ⟨hc, hl, hret⟩ := hx.terminates c r hcr
    exact ⟨hc.trans hco, fun id hid => hret ▸ hx.retired_of_live hl hid⟩
  · rw [hm.family.ended]
    split <;> decide
  · have hl := hm.live_of_retired hw hall
    have hn := hm.family.ended
    cases hp : m.family.handle.terminatePending with
    | false =>
      rw [if_pos ⟨hc, hp⟩] at hn
      exact .inl ⟨hn, rfl⟩
    | true =>
      rw [if_neg fun h => Bool.false_ne_true (h.2.symm.trans hp)] at hn
      refine .inr ⟨hn, rfl, hl, ?_⟩
      rw [← hco]
      exact close_retries b hc hp hl

/-- A backing that does whatever it is asked. -/
def Backing.willing : Backing Unit Unit Unit Unit where
  service := {
    (Service.abstract "store" : Service Unit Unit Unit Unit) with
    supportsTemplates := true
    connectTo _ := pure ()
    connectionInfo _ := .ok { host := "localhost", port := 5432 }
    setTemplate _ _ := pure ()
    createCopy _ _ := pure ()
    dropCopy _ := pure () }
  runtime := {
    ping := pure ()
    launch _ := pure ()
    scheduleExpiry _ _ := pure ()
    endpoint _ _ := pure "localhost:5432"
    terminate _ := pure ()
    close := pure () }
  around := {
    clock := { now := fun _ => .int 0, sleep := fun _ => pure () }
    date _ := .int 0
    stamp := pure 0
    diary := { write := fun _ _ _ s => s } }

def Family.template : Family Unit Unit where
  handle := { container := (), logicalName := "orders", ownsRuntime := true, isTemplate := true }

theorem Family.template_fresh : Family.template.Fresh := ⟨rfl, rfl, rfl, rfl⟩

/-- A template that is closed while its clone is being closed. -/
theorem container_lifetime_between_halves :
    ends ((fresh Family.template ()).run Backing.willing.recorded
      [.clone, .retire 0, .close, .release 0]).outside.1 = 1 := by
  have h := container_lifetime Backing.willing Family.template ()
    [.clone, .retire 0, .close, .release 0] Family.template_fresh fun _ _ => rfl
  rcases h.2.2.2 rfl rfl (fun id hid => hid) with ⟨hn, -⟩ | ⟨-, hp, -⟩
  · exact hn
  · cases hp

end Testbed
