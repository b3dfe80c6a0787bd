import Testbed.Proofs.Instance.Sections

/-!
# Closing a clone again

A clone can be closed any number of times, while other things are done to its family in between.
Closing fails and changes nothing until its store is removed.  The clone is then released at once,
and closing it again does nothing.
-/

namespace Testbed

set_option autoImplicit false

open Act Moment

variable {η ρ κ σ : Type}

/-- Whatever the calls that close a clone raise is an ordinary fault. -/
structure Backing.DropsOrdinarily (b : Backing η ρ κ σ) : Prop where
  closeClient : ∀ c s e, (b.service.closeClient c s).1 = .error e → e.isOrdinary = true
  dropCopy : ∀ info s e, (b.service.dropCopy info s).1 = .error e → e.isOrdinary = true
  terminate : ∀ c s e, (b.runtime.terminate c s).1 = .error e → e.isOrdinary = true

/-- Releasing the last live clone of a closed instance failed to destroy the container.  The clone
is forgotten, and the termination is still to be done. -/
structure LastReleased (id : CloneId) (f f' : Family ρ κ) (e : Fault) (calls : List (Call ρ κ)) :
    Prop where
  teardown : e.IsTeardown
  failed : ∃ d, e = wrapped f.handle.cannotTerminate d ∧
    calls = [.terminate f.handle.container (.error d)]
  closed : f.handle.closed = true
  last : ∀ i ∈ f.handle.liveClones, i = id
  forgotten : f'.handle.liveClones = []
  pending : f'.handle.terminatePending = true

/-- What one closing of a clone does.  `f.retire id c` is the family whose clone was closed. -/
inductive Reclosing (id : CloneId) (c : Clone κ) : Course ρ κ Unit
  | idle {f : Family ρ κ} : c.closed = true → Reclosing id c f (.ok ()) f []
  | refused {f : Family ρ κ} {e : Fault} {calls : List (Call ρ κ)} : c.closed = false →
      id ∈ f.handle.liveClones → Dropping c (.error e) calls → e.IsTeardown →
      Reclosing id c f (.error e) f calls
  | released {f f' : Family ρ κ} {r : Except Fault Unit} {calls later : List (Call ρ κ)} :
      c.closed = false → Dropping c (.ok ()) calls →
      Releasing id (f.retire id c) r f' later → f'.HasClosed id → id ∉ f'.handle.liveClones →
      (∀ e, r = .error e → LastReleased id f f' e later) →
      Reclosing id c f r f' (calls ++ later)

/-! One closing. -/

section Closing

variable {f f' : Family ρ κ} {id : CloneId} {c : Clone κ} {r : Except Fault Unit}
  {calls : List (Call ρ κ)}

theorem Releasing.clones_eq (h : Releasing id f r f' calls) : f'.clones = f.clones := by
  cases h with
  | kept _ => rfl
  | last _ _ ht => exact ht.still.clones

theorem Releasing.live_eq (h : Releasing id f r f' calls) :
    f'.handle.liveClones = f.handle.liveClones.filter (· != id) := by
  cases h with
  | kept _ => rfl
  | last _ _ ht => exact ht.still.live

theorem Releasing.calls_eq (h : Releasing id f r f' calls) {q : Call ρ κ} (hq : q ∈ calls) :
    (∃ p, q = .terminate f.handle.container p) ∨
      f.handle.ownsRuntime = true ∧ ∃ p, q = .closeRuntime p := by
  cases h with
  | kept _ => cases hq
  | last _ _ ht => exact ht.calls_eq hq

/-- Closing a closed clone does nothing; an open one is left as it is, or closed and released. -/
theorem ClosingClone.of_clone (h : ClosingClone id f r f' calls) (hc : f.clones[id]? = some c) :
    (c.closed = true ∧ r = .ok () ∧ f' = f ∧ calls = []) ∨
    (c.closed = false ∧ ∃ e, r = .error e ∧ f' = f ∧ Dropping c (.error e) calls) ∨
    (c.closed = false ∧ ∃ first later, calls = first ++ later ∧ Dropping c (.ok ()) first ∧
      Releasing id (f.retire id c) r f' later) := by
  cases h with
  | idle ht =>
    cases ht with
    | idle hall => exact .inl ⟨hall c hc, rfl, rfl, rfl⟩
  | failed ht =>
    cases ht with
    | failed hc' ho hd =>
      cases hc.symm.trans hc'
      exact .inr (.inl ⟨ho, _, rfl, rfl, hd⟩)
  | done ht hl =>
    cases ht with
    | done hc' ho hd =>
      cases hc.symm.trans hc'
      exact .inr (.inr ⟨ho, _, _, rfl, hd, hl⟩)

variable {b : Backing η ρ κ σ}

theorem Dropping.isTeardown {e : Fault} (h : Dropping c (.error e) calls)
    (ho : b.DropsOrdinarily) (ha : ∀ q ∈ calls, b.Answers q) : e.IsTeardown := by
  cases h with
  | clientFailed d =>
    obtain ⟨s, hs⟩ := ha _ List.mem_cons_self
    exact wrapped_isTeardown (ho.closeClient _ s d hs) ⟨_, rfl⟩
  | storeFailed d =>
    obtain ⟨s, hs⟩ := ha _ (List.mem_cons_of_mem _ List.mem_cons_self)
    exact wrapped_isTeardown (ho.dropCopy _ s d hs) ⟨_, rfl⟩

/-- A release that fails is that of the last live clone. -/
theorem Releasing.raised {e : Fault} {w : List CloneId} {n : Nat}
    (h : Releasing id (f.retire id c) (.error e) f' calls) (hf : f.Sound w n)
    (hb : f.handle.ownsRuntime = true → ∀ s, (b.runtime.close s).1 = .ok ())
    (ho : b.DropsOrdinarily) (ha : ∀ q ∈ calls, b.Answers q) : LastReleased id f f' e calls := by
  cases h with
  | last hp hl ht =>
    cases ht with
    | failed d =>
      obtain ⟨s, hs⟩ := ha _ List.mem_cons_self
      exact {
        teardown := wrapped_isTeardown (ho.terminate _ s d hs) ⟨_, rfl⟩
        failed := ⟨d, rfl, rfl⟩
        closed := hf.closed hp
        last := fun i hi => by
          have left := List.filter_eq_nil_iff.mp hl i hi
          simpa using left
        forgotten := hl
        pending := hp }
    | ownRuntime q how =>
      obtain ⟨s, hs⟩ := ha _ (List.mem_cons_of_mem _ List.mem_cons_self)
      rw [hb how s] at hs
      cases hs

end Closing

namespace Moment

variable {b : Backing η ρ κ σ} {m : Moment ρ κ (Recorded ρ κ σ)} {id : CloneId} {c : Clone κ}

theorem reclosing (hb : RuntimeCloses b m) (h : m.Sound) (ho : b.DropsOrdinarily)
    (hc : m.family.clones[id]? = some c) :
    ∃ r f' calls s', closeClone b.recorded id (m.family, m.outside) =
      (r, (f', (m.outside.1 ++ calls, s'))) ∧ Reclosing id c m.family r f' calls := by
  obtain ⟨r, f', calls, s', hx, t⟩ := closeClone_takes b id m.family m.outside.1 m.outside.2
  have ha := answered (b := b) (fun I hI => closeClone_keeps hI.serving id) hx
  refine ⟨r, f', calls, s', hx, ?_⟩
  obtain ⟨hcl, rfl, rfl, rfl⟩ | ⟨hop, e, rfl, rfl, hd⟩ | ⟨hop, first, later, rfl, hd, hl⟩ :=
    t.of_clone hc
  · exact .idle hcl
  · exact .refused hop ((h.family.live id).mpr ⟨c, hc, .inl hop⟩) hd (hd.isTeardown ho ha)
  · have closed : f'.HasClosed id := by
      unfold Family.HasClosed
      rw [hl.clones_eq]
      exact (Family.hasClosed_retire hc id).mpr (.inr rfl)
    have forgotten : id ∉ f'.handle.liveClones := by
      rw [hl.live_eq]
      simp
    refine .released hop hd hl closed forgotten ?_
    rintro e rfl
    exact hl.raised h.family hb ho fun q hq => ha q (List.mem_append_right _ hq)

/-! Closing again and again. -/

/-- The moment after a clone was closed, both halves in one go. -/
def closeOnce (b : Backing η ρ κ σ) (id : CloneId) (m : Moment ρ κ σ) : Moment ρ κ σ :=
  let after := (closeClone b id (m.family, m.outside)).2
  { m.moved after with
    retired := if after.1.HasClosed id ∧ ¬ m.family.HasClosed id then m.retired ++ [id]
      else m.retired }

theorem closeOnce_sound (hb : RuntimeCloses b m) (h : m.Sound) (id : CloneId) :
    (m.closeOnce b.recorded id).Sound ∧ RuntimeCloses b (m.closeOnce b.recorded id) := by
  -- an own runtime was closed without a fault, in this closing as well
  have smooth : Smooth m.family (m.closeOnce b.recorded id).outside.1 := by
    intro ho e he
    have hI : ∀ q ∈ m.outside.1, ∀ e, q ≠ .closeRuntime (.error e) :=
      fun q hq e hqe => h.smooth ho e (hqe ▸ hq)
    exact closeClone_keeps (b.recorded_keeps (hb ho)).serving id (m.family, m.outside) hI _ he e rfl
  obtain ⟨r, f', calls, s', hx, t⟩ := closeClone_takes b id m.family m.outside.1 m.outside.2
  simp only [closeOnce, hx] at smooth ⊢
  obtain ⟨rfl, hn, -⟩ | ⟨c, first, second, rfl, hn, -, hc, ho, t'⟩ := t.outcome
  · refine ⟨⟨?_, h.handedOut, fun i => ?_, smooth⟩, hb⟩
    · rw [moved, ends_append, hn]
      exact h.family
    · rw [if_neg fun hcl => hcl.2 hcl.1]
      exact h.retired i
  · have hs : Smooth (m.family.retire id c) second := fun how e he =>
      smooth how e (List.mem_append_right _ (List.mem_append_right _ he))
    obtain ⟨clones, -, owns, -⟩ := t'.frame hs
    have isOpen : ¬ m.family.HasClosed id := by
      rintro ⟨d, hd, hcl⟩
      cases hc.symm.trans hd
      rw [ho] at hcl
      cases hcl
    have notWaiting : id ∉ m.waiting := fun hw => isOpen (h.family.waiting_closed id hw)
    have hasClosed (i : CloneId) : f'.HasClosed i ↔ m.family.HasClosed i ∨ i = id := by
      unfold Family.HasClosed
      rw [clones]
      exact Family.hasClosed_retire hc i
    refine ⟨⟨?_, ?_, fun i => ?_, fun how => smooth (owns ▸ how)⟩, fun how => hb (owns ▸ how)⟩
    · have sound := t'.sound hs (h.family.retire hc ho) (List.mem_append_right _ List.mem_cons_self)
      have waiting : (m.waiting ++ [id]).filter (· != id) = m.waiting := by
        have kept : m.waiting.filter (· != id) = m.waiting := by
          refine List.filter_eq_self.mpr fun i hi => ?_
          rw [bne_iff_ne]
          rintro rfl
          exact notWaiting hi
        simp [List.filter_append, kept]
      rw [waiting] at sound
      rw [moved, ends_append, ends_append, hn, Nat.zero_add]
      exact sound
    · rw [moved, clones, Family.retire, List.length_set]
      exact h.handedOut
    · rw [if_pos ⟨(hasClosed id).mpr (.inr rfl), isOpen⟩, List.mem_append, List.mem_singleton,
        h.retired i]
      exact (hasClosed i).symm

/-- What is done next: a given clone is closed, or something else. -/
inductive Turn where
  | closing
  | other (x : Section)

def turn (b : Backing η ρ κ σ) (id : CloneId) (m : Moment ρ κ σ) : Turn → Moment ρ κ σ
  | .closing => m.closeOnce b id
  | .other x => m.after b x

def turns (b : Backing η ρ κ σ) (id : CloneId) (m : Moment ρ κ σ) (ts : List Turn) :
    Moment ρ κ σ := ts.foldl (turn b id) m

/-- How each closing of a clone ended, with the calls it made. -/
def closings (b : Backing η ρ κ (Recorded ρ κ σ)) (id : CloneId) :
    Moment ρ κ (Recorded ρ κ σ) → List Turn → List (Except Fault Unit × List (Call ρ κ))
  | _, [] => []
  | m, .closing :: ts =>
    ((closeClone b id (m.family, m.outside)).1,
      (m.closeOnce b id).outside.1.drop m.outside.1.length) :: closings b id (m.closeOnce b id) ts
  | m, .other x :: ts => closings b id (m.after b x) ts

/-- Only the first half of closing a clone changes it. -/
theorem Passing.clone_eq {x : Section} {f' : Family ρ κ} {calls : List (Call ρ κ)}
    (h : Passing b m x f' calls) (hx : x ≠ .retire id) (hc : m.family.clones[id]? = some c) :
    f'.clones[id]? = some c := by
  cases h with
  | promote t => rw [t.still.clones, hc]
  | clone t =>
    obtain ⟨-, rfl⟩ | ⟨-, -, -, d, -, rfl⟩ := t.outcome.1
    · exact hc
    · exact (List.getElem?_append_left (List.getElem?_eq_some_iff.mp hc).1).trans hc
  | close t => rw [t.still.clones, hc]
  | @retire i _ _ _ t =>
    obtain ⟨-, rfl⟩ | ⟨-, d, -, -, rfl⟩ := t.outcome.1
    · exact hc
    · have hi : i ≠ id := fun hi => hx (hi ▸ rfl)
      exact (List.getElem?_set_ne hi).trans hc
  | release _ t => rw [t.clones_eq, hc]
  | idle _ => exact hc

/-- A reached moment whose family has a given clone. -/
structure Hosts (b : Backing η ρ κ σ) (id : CloneId) (c : Clone κ)
    (m : Moment ρ κ (Recorded ρ κ σ)) : Prop where
  closes : RuntimeCloses b m
  sound : m.Sound
  clone : m.family.clones[id]? = some c

theorem Hosts.after (h : m.Hosts b id c) {x : Section} (hx : x ≠ .retire id) :
    (m.after b.recorded x).Hosts b id c := by
  obtain ⟨calls, hstep⟩ := after_step b h.closes h.sound x
  obtain ⟨calls', -, hpass, -⟩ := after_passes b m x
  exact {
    closes := fun how => h.closes (hstep.ownsRuntime ▸ how)
    sound := hstep.sound_after b h.closes h.sound
    clone := hpass.clone_eq hx h.clone }

/-- The closings of one clone.  Some are refused, then one may take effect, and those that follow
do nothing. -/
inductive Closings (c : Clone κ) : List (Except Fault Unit × List (Call ρ κ)) → Prop
  | none : Closings c []
  | idle {l : List (Except Fault Unit × List (Call ρ κ))} : c.closed = true →
      (∀ a ∈ l, a = (.ok (), [])) → Closings c l
  | refused {e : Fault} {calls : List (Call ρ κ)}
      {l : List (Except Fault Unit × List (Call ρ κ))} : c.closed = false →
      Dropping c (.error e) calls → e.IsTeardown → Closings c l →
      Closings c ((.error e, calls) :: l)
  | released {r : Except Fault Unit} {calls later : List (Call ρ κ)}
      {l : List (Except Fault Unit × List (Call ρ κ))} : c.closed = false →
      Dropping c (.ok ()) calls →
      (∀ q ∈ later, (∃ k p, q = .terminate k p) ∨ ∃ p, q = .closeRuntime p) →
      (∀ a ∈ l, a = (.ok (), [])) → Closings c ((r, calls ++ later) :: l)

/-- One closing: how it ends, the calls it makes and what becomes of the clone. -/
inductive ClosedOnce (c : Clone κ) :
    Except Fault Unit → List (Call ρ κ) → Clone κ → Prop
  | idle : c.closed = true → ClosedOnce c (.ok ()) [] c
  | refused {e : Fault} {calls : List (Call ρ κ)} : c.closed = false →
      Dropping c (.error e) calls → e.IsTeardown → ClosedOnce c (.error e) calls c
  | released {r : Except Fault Unit} {calls later : List (Call ρ κ)} : c.closed = false →
      Dropping c (.ok ()) calls →
      (∀ q ∈ later, (∃ k p, q = .terminate k p) ∨ ∃ p, q = .closeRuntime p) →
      ClosedOnce c r (calls ++ later) { c with closed := true }

theorem Hosts.closing (ho : b.DropsOrdinarily) (h : m.Hosts b id c) :
    ∃ r calls d, (m.closeOnce b.recorded id).Hosts b id d ∧ ClosedOnce c r calls d ∧
      ∀ ts, m.closings b.recorded id (.closing :: ts) =
        (r, calls) :: (m.closeOnce b.recorded id).closings b.recorded id ts := by
  obtain ⟨r, f', calls, s', hx, t⟩ := reclosing h.closes h.sound ho h.clone
  obtain ⟨sound, closes⟩ := closeOnce_sound h.closes h.sound id
  have family : (m.closeOnce b.recorded id).family = f' := by
    simp only [closeOnce, hx, moved]
  have listed : ∀ ts, m.closings b.recorded id (.closing :: ts) =
      (r, calls) :: (m.closeOnce b.recorded id).closings b.recorded id ts := by
    intro ts
    simp only [closings, closeOnce, hx, moved, List.drop_left]
  have hosts {d : Clone κ} (hd : f'.clones[id]? = some d) :
      (m.closeOnce b.recorded id).Hosts b id d := ⟨closes, sound, family ▸ hd⟩
  cases t with
  | idle hcl => exact ⟨_, _, c, hosts h.clone, .idle hcl, listed⟩
  | refused hop _ hd he => exact ⟨_, _, c, hosts h.clone, .refused hop hd he, listed⟩
  | released hop hd hl _ _ _ =>
    have closed : f'.clones[id]? = some { c with closed := true } := by
      rw [hl.clones_eq]
      exact List.getElem?_set_self (List.getElem?_eq_some_iff.mp h.clone).1
    refine ⟨_, _, _, hosts closed, .released hop hd (fun q hq => ?_), listed⟩
    rcases hl.calls_eq hq with ⟨p, rfl⟩ | ⟨-, p, rfl⟩
    · exact .inl ⟨_, p, rfl⟩
    · exact .inr ⟨p, rfl⟩

section Turns

variable {ts : List Turn}

/-- Closing a closed clone does nothing, whatever is done in between. -/
theorem closings_of_closed (ho : b.DropsOrdinarily) (h : m.Hosts b id c) (hcl : c.closed = true)
    (hts : ∀ x, .other x ∈ ts → x ≠ .retire id) :
    ∀ a ∈ m.closings b.recorded id ts, a = (.ok (), []) := by
  induction ts generalizing m with
  | nil => exact fun a ha => by cases ha
  | cons t ts ih =>
    have rest : ∀ x, .other x ∈ ts → x ≠ .retire id := fun x hx => hts x (List.mem_cons_of_mem _ hx)
    cases t with
    | other x => exact ih (h.after (hts x List.mem_cons_self)) rest
    | closing =>
      obtain ⟨r, calls, d, next, t, listed⟩ := h.closing ho
      cases t with
      | idle _ =>
        rw [listed]
        exact List.forall_mem_cons.mpr ⟨rfl, ih next rest⟩
      | refused hop _ _ => simp [hcl] at hop
      | released hop _ _ => simp [hcl] at hop

theorem closings_of_clone (ho : b.DropsOrdinarily) (h : m.Hosts b id c)
    (hts : ∀ x, .other x ∈ ts → x ≠ .retire id) : Closings c (m.closings b.recorded id ts) := by
  induction ts generalizing m with
  | nil => exact .none
  | cons t ts ih =>
    have rest : ∀ x, .other x ∈ ts → x ≠ .retire id := fun x hx => hts x (List.mem_cons_of_mem _ hx)
    cases t with
    | other x => exact ih (h.after (hts x List.mem_cons_self)) rest
    | closing =>
      obtain ⟨r, calls, d, next, t, listed⟩ := h.closing ho
      cases t with
      | idle hcl => exact .idle hcl (closings_of_closed ho h hcl hts)
      | refused hop hd he =>
        rw [listed]
        exact .refused hop hd he (ih next rest)
      | released hop hd hl =>
        rw [listed]
        exact .released hop hd hl (closings_of_closed ho next rfl rest)

theorem turns_hosts (ho : b.DropsOrdinarily) (h : m.Hosts b id c)
    (hts : ∀ x, .other x ∈ ts → x ≠ .retire id) :
    ∃ d, (m.turns b.recorded id ts).Hosts b id d := by
  induction ts generalizing m c with
  | nil => exact ⟨c, h⟩
  | cons t ts ih =>
    have rest : ∀ x, .other x ∈ ts → x ≠ .retire id := fun x hx => hts x (List.mem_cons_of_mem _ hx)
    cases t with
    | other x => exact ih (h.after (hts x List.mem_cons_self)) rest
    | closing =>
      obtain ⟨-, -, d, next, -, -⟩ := h.closing ho
      exact ih next rest

end Turns

end Moment

/-- A call that removed the store of a clone. -/
def Call.isDrop : Call ρ κ → Bool
  | .dropCopy _ (.ok _) => true
  | _ => false

/-- The store of a clone is removed at most once. -/
theorem Moment.Closings.dropped {c : Clone κ}
    {l : List (Except Fault Unit × List (Call ρ κ))} (h : Closings c l) :
    (l.flatMap Prod.snd).countP Call.isDrop ≤ 1 := by
  have idle {l : List (Except Fault Unit × List (Call ρ κ))} (hl : ∀ a ∈ l, a = (.ok (), [])) :
      l.flatMap Prod.snd = [] := by
    rw [List.flatMap_eq_nil_iff]
    intro a ha
    rw [hl a ha]
  induction h with
  | none => exact Nat.zero_le 1
  | idle _ hl =>
    rw [idle hl]
    exact Nat.zero_le 1
  | refused _ hd _ _ ih =>
    rw [List.flatMap_cons, List.countP_append]
    cases hd <;> simpa [Call.isDrop] using ih
  | @released _ calls later _ _ hd hlater hl =>
    have none : later.countP Call.isDrop = 0 := by
      rw [List.countP_eq_zero]
      intro q hq
      rcases hlater q hq with ⟨k, p, rfl⟩ | ⟨p, rfl⟩ <;> exact Bool.false_ne_true
    rw [List.flatMap_cons, idle hl, List.append_nil, List.countP_append, none]
    cases hd
    exact Nat.le_refl 1

/-- Once the store of a clone is removed, the clone is released. -/
theorem closeClone_of_dropped {b : Backing η ρ κ σ} {f : Family ρ κ} {id : CloneId} {c : Clone κ}
    {o o' : σ} (hc : f.clones[id]? = some c) (ho : c.closed = false)
    (hd : dropStore b.service c o = (.ok (), o')) :
    closeClone b id (f, o) = releaseClone b id (f.retire id c,
      b.around.diary.write .debug .templates
        s!"Closed {({ c with closed := true } : Clone κ).label}" o') := by
  have retired := retireClone_open b hc ho o
  have there : (f.retire id c).clones[id]? = some { c with closed := true } :=
    List.getElem?_set_self (List.getElem?_eq_some_iff.mp hc).1
  rw [hd] at retired
  rw [closeClone, bind_of_ok retired, if_pos rfl, FamilyAct.clone?_bind, there]
  rfl

/-- As long as the store of a clone is not removed, nothing else is done. -/
theorem closeClone_of_refused {b : Backing η ρ κ σ} {f : Family ρ κ} {id : CloneId} {c : Clone κ}
    {o o' : σ} {e : Fault} (hc : f.clones[id]? = some c) (ho : c.closed = false)
    (hd : dropStore b.service c o = (.error e, o')) :
    closeClone b id (f, o) = (.error e, (f, o')) := by
  have retired := retireClone_open b hc ho o
  rw [hd] at retired
  exact bind_of_error retired

/-- Closing a clone leaves the flags and the client of its template alone. -/
theorem Reclosing.spares {id : CloneId} {c : Clone κ} {f f' : Family ρ κ} {r : Except Fault Unit}
    {calls : List (Call ρ κ)} (h : Reclosing id c f r f' calls) :
    (∀ hd flag q, .setTemplate hd flag q ∉ calls) ∧ f'.handle.closed = f.handle.closed ∧
      f'.handle.isTemplate = f.handle.isTemplate ∧ f'.handle.client = f.handle.client := by
  have dropping {q : Except Fault Unit} {l : List (Call ρ κ)} (hd : Dropping c q l)
      (h : Handle ρ κ) (flag : Bool) (p : Except Fault Unit) : .setTemplate h flag p ∉ l := by
    cases hd <;> simp
  cases h with
  | idle _ => exact ⟨by simp, rfl, rfl, rfl⟩
  | refused _ _ hd _ => exact ⟨dropping hd, rfl, rfl, rfl⟩
  | released _ hd hl _ _ _ =>
    refine ⟨fun h flag p hq => ?_, ?_⟩
    · rcases List.mem_append.mp hq with hq | hq
      · exact dropping hd h flag p hq
      · obtain ⟨_, hq⟩ | ⟨-, _, hq⟩ := hl.calls_eq hq <;> cases hq
    · cases hl with
      | kept _ => exact ⟨rfl, rfl, rfl⟩
      | last _ _ ht => cases ht <;> exact ⟨rfl, rfl, rfl⟩

/-- Closing a clone takes effect once and can be retried, in every state of its template, for every
outcome of the calls and whatever is done in between.  Its store is removed at most once, and then
the clone is released at once; before, a closing that fails changes nothing, and afterwards a
closing does nothing.  Only the release can fail after the store was removed: that is the failed
termination of a closed template whose last live clone it was. -/
theorem clone_closed_once (b : Backing η ρ κ σ) (f : Family ρ κ) (s : σ) (xs : List Section)
    (id : CloneId) (ts : List Turn) (hf : f.Fresh) (hb : RuntimeCloses b (fresh f s))
    (ho : b.DropsOrdinarily) (hid : id ∈ ((fresh f s).run b.recorded xs).handedOut)
    (hts : ∀ x, .other x ∈ ts → x ≠ .retire id) :
    let m := (fresh f s).run b.recorded xs
    let l := m.turns b.recorded id ts
    (∃ c, m.family.clones[id]? = some c ∧ Closings c (m.closings b.recorded id ts)) ∧
    ((m.closings b.recorded id ts).flatMap Prod.snd).countP Call.isDrop ≤ 1 ∧
    ∃ c r f' calls s', l.family.clones[id]? = some c ∧
      closeClone b.recorded id (l.family, l.outside) = (r, (f', (l.outside.1 ++ calls, s'))) ∧
      Reclosing id c l.family r f' calls ∧
      (c.closed = false → ∀ o,
        (dropStore b.recorded.service c l.outside = (.ok (), o) →
          closeClone b.recorded id (l.family, l.outside) =
            releaseClone b.recorded id (l.family.retire id c,
              b.recorded.around.diary.write .debug .templates
                s!"Closed {({ c with closed := true } : Clone κ).label}" o)) ∧
        ∀ e, dropStore b.recorded.service c l.outside = (.error e, o) →
          closeClone b.recorded id (l.family, l.outside) = (.error e, (l.family, o))) ∧
      (∀ hd flag q, .setTemplate hd flag q ∉ calls) ∧
      f'.handle.closed = l.family.handle.closed ∧
      f'.handle.isTemplate = l.family.handle.isTemplate ∧
      f'.handle.client = l.family.handle.client := by
  intro m l
  obtain ⟨hm, hr, -, -⟩ : m.Sound ∧ RuntimeCloses b m ∧ _ := run_sound b hb (hf.sound s) xs
  have made : id < m.family.clones.length := by
    rw [← List.mem_range, ← hm.handedOut]
    exact hid
  have hosts : m.Hosts b id m.family.clones[id] := ⟨hr, hm, List.getElem?_eq_getElem made⟩
  have closings := closings_of_clone ho hosts hts
  refine ⟨⟨_, hosts.clone, closings⟩, closings.dropped, ?_⟩
  obtain ⟨c, hl⟩ := turns_hosts ho hosts hts
  obtain ⟨r, f', calls, s', hx, t⟩ := reclosing hl.closes hl.sound ho hl.clone
  exact ⟨c, r, f', calls, s', hl.clone, hx, t,
    fun hop o => ⟨closeClone_of_dropped hl.clone hop, fun e => closeClone_of_refused hl.clone hop⟩,
    t.spares⟩

/-- A clone that outlived its template, whose container is not destroyed. -/
theorem clone_closed_once_of_stuck :
    let l := (fresh Family.template ()).run Backing.stuck.recorded [.clone, .close]
    ∃ e f' calls s', closeClone Backing.stuck.recorded 0 (l.family, l.outside) =
        (.error e, (f', (l.outside.1 ++ calls, s'))) ∧
      f'.HasClosed 0 ∧ e.IsTeardown ∧ f'.handle.terminatePending = true := by
  have ordinary : Backing.stuck.DropsOrdinarily := {
    closeClient := fun _ _ _ h => by cases h
    dropCopy := fun _ _ _ h => by cases h
    terminate := fun _ _ _ h => by
      cases h
      rfl }
  obtain ⟨-, -, c, r, f', calls, s', hc, hx, t, -⟩ := clone_closed_once Backing.stuck
    Family.template () [.clone] 0 [.other .close] Family.template_fresh (fun _ _ => rfl) ordinary
    (List.mem_singleton_self 0) (fun x hx => by
      cases List.mem_singleton.mp hx
      exact nofun)
  cases r with
  | ok _ => cases hx
  | error e =>
    cases t with
    | refused _ _ _ _ => cases congrArg (fun p => p.2.1.clones.map Clone.closed) hx
    | released _ _ _ closed _ raised =>
      obtain ⟨teardown, -, -, -, -, pending⟩ := raised e rfl
      exact ⟨e, f', _, s', hx, closed, teardown, pending⟩

end Testbed
