import Testbed.Proofs.Instance.Lifetime

/-!
# The handle invariant

Between whole operations no clone waits to be released.  The flags of the handle, the live clones
and the calls of the runtime then say the same about the state of an instance, whichever
operations were done before and however their calls ended.
-/

namespace Testbed

set_option autoImplicit false

open Act Moment

variable {η ρ κ σ : Type}

/-- An operation on an instance or one of its clones. -/
inductive Operation where
  | promote
  | clone
  | close
  | closeClone (id : CloneId)

namespace Moment

def perform (b : Backing η ρ κ σ) (m : Moment ρ κ σ) : Operation → Moment ρ κ σ
  | .promote => m.after b .promote
  | .clone => m.after b .clone
  | .close => m.after b .close
  | .closeClone id => m.moved (closeClone b id (m.family, m.outside)).2

theorem perform_keeps {b : Backing η ρ κ σ} {I : σ → Prop} (h : b.Keeps I) (m : Moment ρ κ σ)
    (x : Operation) (hm : I m.outside) : I (m.perform b x).outside := by
  cases x with
  | promote => exact after_keeps h m .promote hm
  | clone => exact after_keeps h m .clone hm
  | close => exact after_keeps h m .close hm
  | closeClone id => exact closeClone_keeps h.serving id (m.family, m.outside) hm

/-- What is true between operations of an instance with a given container. -/
structure Settled (m : Moment ρ κ (Recorded ρ κ σ)) (c : ρ) : Prop where
  family : m.family.Sound [] (ends m.outside.1)
  handedOut : m.handedOut = List.range m.family.clones.length
  container : m.family.handle.container = c
  terminates : ∀ d r, .terminate d r ∈ m.outside.1 → d = c
  smooth : Smooth m.family m.outside.1

variable (b : Backing η ρ κ σ) {m : Moment ρ κ (Recorded ρ κ σ)} {c : ρ}

theorem perform_smooth (hb : RuntimeCloses b m) (h : m.Settled c) (x : Operation) :
    Smooth m.family (m.perform b.recorded x).outside.1 := by
  intro ho e he
  have hI : ∀ c ∈ m.outside.1, ∀ e, c ≠ .closeRuntime (.error e) :=
    fun c hc e hce => h.smooth ho e (hce ▸ hc)
  exact perform_keeps (b.recorded_keeps (hb ho)) m x hI _ he e rfl

/-- It is enough to know the new family, the new calls and the new clones. -/
theorem Settled.next (hb : RuntimeCloses b m) (h : m.Settled c)
    {m' : Moment ρ κ (Recorded ρ κ σ)} {calls : List (Call ρ κ)}
    (hn : m'.outside.1 = m.outside.1 ++ calls) (hs : Smooth m.family m'.outside.1)
    (hf : m'.family.Sound [] (ends m.outside.1 + ends calls))
    (hh : m'.handedOut = List.range m'.family.clones.length)
    (hc : m'.family.handle.container = m.family.handle.container)
    (ho : m'.family.handle.ownsRuntime = m.family.handle.ownsRuntime)
    (ht : ∀ d r, .terminate d r ∈ calls → d = m.family.handle.container) :
    m'.Settled c ∧ RuntimeCloses b m' := by
  refine ⟨⟨?_, hh, hc.trans h.container, fun d r hm => ?_, fun ho' => hs (ho ▸ ho')⟩,
    fun ho' => hb (ho ▸ ho')⟩
  · rw [hn, ends_append]
    exact hf
  · rw [hn, List.mem_append] at hm
    rcases hm with hm | hm
    · exact h.terminates d r hm
    · exact (ht d r hm).trans h.container

theorem perform_settled (hb : RuntimeCloses b m) (h : m.Settled c) (x : Operation) :
    (m.perform b.recorded x).Settled c ∧ RuntimeCloses b (m.perform b.recorded x) := by
  have hs := perform_smooth b hb h x
  cases x with
  | promote =>
    obtain ⟨r, f', calls, s', hx, t⟩ := promote_takes b m.family m.outside.1 m.outside.2
    simp only [perform, after, hx] at hs ⊢
    obtain ⟨hf', -, ht⟩ := t.outcome
    have hf := t.sound h.family
    rcases hf' with rfl | ⟨-, rfl⟩
    · exact h.next b hb rfl hs hf h.handedOut rfl rfl fun d r hm => absurd hm (ht d r)
    · exact h.next b hb rfl hs hf h.handedOut rfl rfl fun d r hm => absurd hm (ht d r)
  | clone =>
    obtain ⟨r, f', calls, s', hx, t⟩ := cloneTemplate_takes b m.family m.outside.1 m.outside.2
    have hf := t.sound h.family
    obtain ⟨⟨⟨e, rfl⟩, rfl⟩ | ⟨rfl, -, -, k, -, rfl⟩, -, ht⟩ := t.outcome
    · simp only [perform, after, hx] at hs ⊢
      exact h.next b hb rfl hs hf h.handedOut rfl rfl fun d r hm => absurd hm (ht d r)
    · simp only [perform, after, hx] at hs ⊢
      refine h.next b hb rfl hs hf ?_ rfl rfl fun d r hm => absurd hm (ht d r)
      simp only [h.handedOut, moved, Family.addClone, List.length_append, List.length_singleton,
        List.range_succ]
  | close =>
    obtain ⟨r, f', calls, s', hx, t⟩ := closeInstance_takes b m.family m.outside.1 m.outside.2
    simp only [perform, after, hx] at hs ⊢
    have hs' : Smooth m.family calls := fun ho e he => hs ho e (List.mem_append_right _ he)
    obtain ⟨hcl, hco, ho, -⟩ := t.frame hs'
    refine h.next b hb rfl hs (t.sound hs' h.family) ?_ hco ho fun d r hm => (t.terminates hm).1
    simp only [moved, hcl, h.handedOut]
  | closeClone id =>
    obtain ⟨r, f', calls, s', hx, t⟩ := closeClone_takes b id m.family m.outside.1 m.outside.2
    simp only [perform, hx] at hs ⊢
    have hf := t.sound (fun ho e he => hs ho e (List.mem_append_right _ he)) h.family
    obtain ⟨rfl, -, ht⟩ | ⟨k, first, second, rfl, -, ht, -, -, t'⟩ := t.outcome
    · exact h.next b hb rfl hs hf h.handedOut rfl rfl fun d r hm => absurd hm (ht d r)
    · have hs' : Smooth (m.family.retire id k) second := fun ho e he =>
        hs ho e (List.mem_append_right _ (List.mem_append_right _ he))
      obtain ⟨hcl, hco, how, -⟩ := t'.frame hs'
      refine h.next b hb rfl hs hf ?_ hco how fun d r hm => ?_
      · simp only [moved, hcl, Family.retire, List.length_set, h.handedOut]
      · rw [List.mem_append] at hm
        exact (t'.terminates (hm.resolve_left (ht d r))).1

theorem foldl_settled (hb : RuntimeCloses b m) (h : m.Settled c) (xs : List Operation) :
    (xs.foldl (perform b.recorded) m).Settled c := by
  induction xs generalizing m with
  | nil => exact h
  | cons x xs ih =>
    obtain ⟨h', hb'⟩ := perform_settled b hb h x
    exact ih hb' h'

end Moment

theorem ends_ne_zero {calls : List (Call ρ κ)} :
    ends calls ≠ 0 ↔ ∃ c, .terminate c (.ok ()) ∈ calls := by
  rw [← Nat.pos_iff_ne_zero, ends, List.countP_pos_iff]
  constructor
  · rintro ⟨c, hc, he⟩
    cases c with
    | terminate c r =>
      cases r with
      | ok u => exact ⟨c, hc⟩
      | error e => cases he
    | _ => cases he
  · rintro ⟨c, hc⟩
    exact ⟨_, hc, rfl⟩

/-- The invariant of handles, after every sequence of operations and for every outcome of the
calls. -/
theorem handle_invariant (b : Backing η ρ κ σ) (f : Family ρ κ) (s : σ) (xs : List Operation)
    (hf : f.Fresh) (hb : RuntimeCloses b (fresh f s)) :
    let m := xs.foldl (perform b.recorded) (fresh f s)
    let h := m.family.handle
    (h.closed = true → h.isTemplate = false) ∧
    (h.closed = false → h.liveClones ≠ [] → h.isTemplate = true) ∧
    (h.closed = true → h.liveClones ≠ [] → h.terminatePending = true) ∧
    (h.terminatePending = true → h.closed = true) ∧
    (.terminate f.handle.container (.ok ()) ∈ m.outside.1 ↔
      h.closed = true ∧ h.terminatePending = false) ∧
    (∀ id ∈ m.handedOut, ∃ c, m.family.clones[id]? = some c ∧
      (id ∈ h.liveClones ↔ c.closed = false)) := by
  intro m h
  have hm : m.Settled f.handle.container := by
    refine foldl_settled b hb ⟨(hf.sound s).family, (hf.sound s).handedOut, rfl, ?_, ?_⟩ xs
    · intro d r hd
      cases hd
    · intro _ e he
      cases he
  refine ⟨hm.family.unmarked, hm.family.marked, hm.family.kept, hm.family.closed, ?_, ?_⟩
  · have ended : .terminate f.handle.container (.ok ()) ∈ m.outside.1 ↔ ends m.outside.1 ≠ 0 := by
      rw [ends_ne_zero]
      refine ⟨fun h => ⟨_, h⟩, fun ⟨c, hc⟩ => ?_⟩
      rw [← hm.terminates c _ hc]
      exact hc
    rw [ended, hm.family.ended]
    by_cases hc : m.family.handle.closed = true ∧ m.family.handle.terminatePending = false
    · rw [if_pos hc]
      exact ⟨fun _ => hc, fun _ => Nat.one_ne_zero⟩
    · rw [if_neg hc]
      exact ⟨fun hn => absurd rfl hn, fun hc' => absurd hc' hc⟩
  · intro id hid
    rw [hm.handedOut, List.mem_range] at hid
    have hc := List.getElem?_eq_getElem hid
    refine ⟨_, hc, (hm.family.live id).trans ⟨?_, fun ho => ⟨_, hc, .inl ho⟩⟩⟩
    rintro ⟨d, hd, ho | hw⟩
    · rw [hc, Option.some.injEq] at hd
      rw [hd]
      exact ho
    · cases hw

/-- A clone that outlives its template. -/
theorem handle_invariant_of_outliving :
    let m := [Operation.clone, .close].foldl (perform Backing.willing.recorded)
      (fresh Family.template ())
    0 ∈ m.family.handle.liveClones ∧ m.family.handle.terminatePending = true := by
  have h := handle_invariant Backing.willing Family.template () [.clone, .close]
    Family.template_fresh fun _ _ => rfl
  obtain ⟨c, hc, hl⟩ := h.2.2.2.2.2 0 (by exact List.mem_singleton_self 0)
  have hlive := hl.mpr (by cases hc; rfl)
  exact ⟨hlive, h.2.2.1 rfl (List.ne_nil_of_mem hlive)⟩

end Testbed
