import Testbed.Proofs.Container.Watch
import Testbed.Proofs.Start.BringUp

/-!
# Starts that fail

Once the container of an instance was launched, a start that fails goes through one teardown.  The
teardown destroys the container and closes what was opened, and the fault that leaves the start is
that of the step that failed.
-/

namespace Testbed

set_option autoImplicit false

open FamilyAct Act

variable {η ρ κ σ τ α : Type}

/-! The teardown. -/

def Call.fault? : Call ρ κ → Option Fault
  | .ping (.error e) | .launch _ (.error e) | .scheduleExpiry _ _ (.error e)
  | .endpoint _ _ (.error e) | .terminate _ (.error e) | .closeRuntime (.error e)
  | .launchSpec _ (.error e) | .connect _ (.error e) | .probe _ (.error e)
  | .closeClient _ (.error e) | .setTemplate _ _ (.error e) | .createCopy _ _ (.error e)
  | .dropCopy _ (.error e) => some e
  | _ => none

/-- An ordinary fault of a teardown. -/
def Fault.IsTeardown (e : Fault) : Prop := e.isOrdinary = true ∧ ∃ text, e.head = .teardown text

/-- Destroying an instance that was started in part: teardown faults are only reported. -/
inductive Discarding : Course ρ κ Unit
  | closed {f f' : Family ρ κ} {calls : List (Call ρ κ)} : Closing f (.ok ()) f' calls →
      Discarding f (.ok ()) f' calls
  | reported {f f' : Family ρ κ} {calls : List (Call ρ κ)} {e : Fault} :
      Closing f (.error e) f' calls → e.IsTeardown → Discarding f (.ok ()) f' calls
  | failed {f f' : Family ρ κ} {calls : List (Call ρ κ)} {e : Fault} :
      Closing f (.error e) f' calls → ¬ e.IsTeardown → Discarding f (.error e) f' calls

/-- An ordinary fault of closing is reported when it is a teardown fault. -/
theorem discard_of_ordinary {b : Backing η ρ κ σ} {s s' : Family ρ κ × σ} {e : Fault}
    (h : closeInstance b s = (.error e, s')) (ho : e.isOrdinary = true) :
    (e.IsTeardown ∧ discard b s =
      warn b .provisioner s!"Unable to destroy partially started instance: {e.message}" s') ∨
    (¬ e.IsTeardown ∧ discard b s = (.error e, s')) := by
  rw [discard, bind_of_ok (attempt_of_ordinary h ho)]
  unfold Fault.IsTeardown
  dsimp only
  cases hh : e.head with
  | teardown text => exact .inl ⟨⟨ho, text, rfl⟩, rfl⟩
  | _ =>
    refine .inr ⟨?_, rfl⟩
    rintro ⟨-, text, ht⟩
    cases ht

theorem discard_takes (b : Backing η ρ κ σ) : Takes (discard b.recorded) Discarding := by
  intro f l s
  obtain ⟨r, f', calls, s', h, t⟩ := closeInstance_takes b f l s
  rcases r with e | ⟨⟩
  · cases ho : e.isOrdinary with
    | false =>
      exact ⟨.error e, f', calls, s', bind_of_error (attempt_of_interruption h ho),
        .failed t fun ht => by simp [ht.1] at ho⟩
    | true =>
      rcases discard_of_ordinary h ho with ⟨ht, hd⟩ | ⟨hn, hd⟩
      · exact ⟨.ok (), f', calls, _, hd, .reported t ht⟩
      · exact ⟨.error e, f', calls, s', hd, .failed t hn⟩
  · exact ⟨.ok (), f', calls, s', bind_of_ok (attempt_of_ok h), .closed t⟩

section Teardown

variable {f f' : Family ρ κ} {calls : List (Call ρ κ)}

theorem wrapped_isTeardown {wrap : Fault → Incident} {e : Fault} (ho : e.isOrdinary = true)
    (hw : ∃ text, wrap e = .teardown text) : (wrapped wrap e).IsTeardown := by
  obtain ⟨text, hw⟩ := hw
  rw [wrapped, if_pos ho, hw]
  exact ⟨rfl, text, rfl⟩

theorem Terminating.isTeardown {e : Fault} (h : Terminating f (.error e) f' calls)
    (ho : ∀ c ∈ calls, ∀ d, c.fault? = some d → d.isOrdinary = true)
    (hr : ∀ d, .closeRuntime (.error d) ∉ calls) : e.IsTeardown := by
  cases h with
  | failed e => exact wrapped_isTeardown (ho _ List.mem_cons_self e rfl) ⟨_, rfl⟩
  | ownRuntime r _ => exact absurd (by simp) (hr e)

/-- When only ordinary faults come up and the runtime closes, closing fails with a teardown fault
or not at all. -/
theorem Closing.isTeardown {e : Fault} (h : Closing f (.error e) f' calls)
    (ho : ∀ c ∈ calls, ∀ d, c.fault? = some d → d.isOrdinary = true)
    (hr : ∀ d, .closeRuntime (.error d) ∉ calls) : e.IsTeardown := by
  cases h with
  | retried _ _ _ ht => exact ht.isTeardown ho hr
  | refused _ hrev =>
    cases hrev with
    | failed e _ _ => exact wrapped_isTeardown (ho _ List.mem_cons_self e rfl) ⟨_, rfl⟩
  | failed _ _ he =>
    cases he with
    | ended _ ht =>
      exact ht.isTeardown (fun c hc => ho c (List.mem_append_right _ hc))
        fun d hd => hr d (List.mem_append_right _ hd)
  | done _ _ _ hd =>
    cases hd with
    | interrupted e _ hi =>
      rw [ho _ (List.mem_append_right _ List.mem_cons_self) e rfl] at hi
      cases hi

theorem Discarding.eq_ok {r : Except Fault Unit} (h : Discarding f r f' calls)
    (ho : ∀ c ∈ calls, ∀ d, c.fault? = some d → d.isOrdinary = true)
    (hr : ∀ d, .closeRuntime (.error d) ∉ calls) : r = .ok () := by
  cases h with
  | closed _ => rfl
  | reported _ _ => rfl
  | failed hc hn => exact absurd (hc.isTeardown ho hr) hn

theorem Terminating.clean {r : Except Fault Unit} (h : Terminating f r f' calls)
    (ht : ∀ c e, .terminate c (.error e) ∉ calls) (hr : ∀ e, .closeRuntime (.error e) ∉ calls) :
    r = .ok () ∧ .terminate f.handle.container (.ok ()) ∈ calls ∧
      f'.handle.client = f.handle.client ∧
      (f.handle.ownsRuntime = true → .closeRuntime (.ok ()) ∈ calls) := by
  cases h with
  | failed e => exact absurd List.mem_cons_self (ht _ e)
  | done ho => exact ⟨rfl, List.mem_cons_self, rfl, fun ho' => by simp [ho] at ho'⟩
  | ownRuntime r _ =>
    cases r with
    | ok _ => exact ⟨rfl, List.mem_cons_self, rfl, fun _ => by simp⟩
    | error e => exact absurd (by simp) (hr e)

theorem Dismissing.passes {r : Except Fault Unit} (h : Dismissing f r f' calls) :
    (f.handle.client.toList : Multiset κ) ≤ passed calls := by
  cases h with
  | absent hc => simp [hc]
  | closed r hc _ => simp [hc, Call.passed?]
  | interrupted e hc _ => simp [hc, Call.passed?]

/-- Closing an open instance without live clones, when the server lets its template flag be taken
back and its container be destroyed. -/
theorem Closing.clean {r : Except Fault Unit} (h : Closing f r f' calls)
    (hc : f.handle.closed = false) (hl : f.handle.liveClones = [])
    (hs : ∀ hd flag e, .setTemplate hd flag (.error e) ∉ calls)
    (ht : ∀ c e, .terminate c (.error e) ∉ calls) (hr : ∀ e, .closeRuntime (.error e) ∉ calls) :
    .terminate f.handle.container (.ok ()) ∈ calls ∧
      (f.handle.client.toList : Multiset κ) ≤ passed calls ∧
      (f.handle.ownsRuntime = true → .closeRuntime (.ok ()) ∈ calls) := by
  cases h with
  | again hc' _ => simp [hc] at hc'
  | retried hc' _ _ _ => simp [hc] at hc'
  | refused _ hrev =>
    cases hrev with
    | failed e _ _ => exact absurd List.mem_cons_self (hs _ _ e)
  | failed _ hrev he =>
    cases he with
    | ended _ hte =>
      have hok := (hte.clean (fun c e hm => ht c e (List.mem_append_right _ hm))
        fun e hm => hr e (List.mem_append_right _ hm)).1
      cases hok
  | done _ hrev he hd =>
    rcases hrev.outcome.1 with ⟨e, hr', -⟩ | ⟨-, rfl⟩
    · cases hr'
    cases he with
    | kept hl' => exact absurd hl hl'
    | ended _ hte =>
      obtain ⟨-, hm, hcl, how⟩ := hte.clean (fun c e hm => ht c e (by simp [hm]))
        fun e hm => hr e (by simp [hm])
      have hp := hd.passes
      rw [Family.onHandle_handle, hcl] at hp
      refine ⟨?_, ?_, fun ho => ?_⟩
      · exact List.mem_append_left _ (List.mem_append_right _ hm)
      · rw [passed_append]
        exact hp.trans (Multiset.le_add_left _ _)
      · exact List.mem_append_left _ (List.mem_append_right _ (how ho))

theorem Terminating.opened_eq {r : Except Fault Unit} (h : Terminating f r f' calls) :
    opened calls = 0 := by
  cases h <;> rfl

theorem Reverting.opened_eq {r : Except Fault Unit} (h : Reverting f r f' calls) :
    opened calls = 0 := by
  cases h <;> rfl

theorem Ending.opened_eq {r : Except Fault Unit} (h : Ending f r f' calls) :
    opened calls = 0 := by
  cases h with
  | kept _ => rfl
  | ended _ ht => exact ht.opened_eq

theorem Dismissing.opened_eq {r : Except Fault Unit} (h : Dismissing f r f' calls) :
    opened calls = 0 := by
  cases h <;> rfl

theorem Closing.opened_eq {r : Except Fault Unit} (h : Closing f r f' calls) :
    opened calls = 0 := by
  cases h with
  | again _ _ => rfl
  | retried _ _ _ ht => exact ht.opened_eq
  | refused _ hr => exact hr.opened_eq
  | failed _ hr he => rw [opened_append, hr.opened_eq, he.opened_eq, add_zero]
  | done _ hr he hd =>
    rw [opened_append, opened_append, hr.opened_eq, he.opened_eq, hd.opened_eq, add_zero, add_zero]

theorem Discarding.closing {r : Except Fault Unit} (h : Discarding f r f' calls) :
    ∃ q, Closing f q f' calls := by
  cases h with
  | closed h => exact ⟨_, h⟩
  | reported h _ => exact ⟨_, h⟩
  | failed h _ => exact ⟨_, h⟩

/-- After the teardown, every client that was opened for the instance was passed on. -/
theorem Discarding.clean {hd : Handle ρ κ} {l : List (Call ρ κ)} {r : Except Fault Unit}
    (h : Discarding f r f' calls) (hf : f.Tracked hd l) (hc : f.handle.closed = false)
    (hclones : ∀ c ∈ f.clones, c.closed = true)
    (hs : ∀ hd flag e, .setTemplate hd flag (.error e) ∉ calls)
    (ht : ∀ c e, .terminate c (.error e) ∉ calls) (hr : ∀ e, .closeRuntime (.error e) ∉ calls) :
    .terminate hd.container (.ok ()) ∈ calls ∧ opened (l ++ calls) ≤ passed (l ++ calls) ∧
      (hd.ownsRuntime = true → .closeRuntime (.ok ()) ∈ calls) := by
  obtain ⟨q, hcl⟩ := h.closing
  have hl : f.handle.liveClones = [] := by
    rw [List.eq_nil_iff_forall_not_mem]
    intro id hid
    obtain ⟨c, hc, ho⟩ := hf.live id hid
    rw [hclones c (List.mem_of_getElem? hc)] at ho
    cases ho
  obtain ⟨hm, hp, how⟩ := hcl.clean hc hl hs ht hr
  rw [hf.container] at hm
  rw [hf.ownsRuntime] at how
  refine ⟨hm, ?_, how⟩
  rw [opened_append, passed_append, hcl.opened_eq, add_zero]
  have hclients := hf.clients
  rw [Family.held_of_closed hclones] at hclients
  exact hclients.trans (add_le_add_right hp _)

end Teardown

/-! The timer of a destroyed container. -/

namespace Host

variable {h : Host τ} {number : Nat} {first : List (Call Container κ)}

/-- No timer runs for a container whose removal was asked for after some earlier calls. -/
def Stopped (first : List (Call Container κ)) (number : Nat)
    (o : Recorded Container κ (Watch × τ)) : Prop :=
  ∃ l, o.1 = first ++ l ∧ o.2.1.board.WellFormed ∧
    ∀ c r, .terminate c r ∈ l → ¬ o.2.1.board.Armed (number, c.id)

theorem noted_stopped (x : Act τ α) {note : Except Fault α → Call Container κ}
    (hn : ∀ q c r, note q ≠ .terminate c r) :
    Keeps (Stopped first number) ((Act.outside x : Act (Watch × τ) α).noted note) := by
  refine .noted fun m s => ?_
  rintro ⟨l, rfl, hw, hl⟩
  refine ⟨l ++ [note (x s.2).1], List.append_assoc _ _ _, hw, fun c r hm => ?_⟩
  rcases List.mem_append.mp hm with hm | hm
  · exact hl c r hm
  · exact absurd (List.mem_singleton.mp hm).symm (hn _ c r)

theorem terminate_stopped (c : Container) :
    Keeps (Stopped (κ := κ) first number) ((h.runtime number).recorded.terminate c) := by
  refine .noted fun m s => ?_
  rintro ⟨l, rfl, hw, hl⟩
  have hb : ((h.runtime number).terminate c s).2.1.board = s.1.board.cancel (number, c.id) :=
    terminate_board s
  obtain ⟨hw', ha⟩ := hw.cancel (number, c.id)
  refine ⟨l ++ [.terminate c ((h.runtime number).terminate c s).1], List.append_assoc _ _ _,
    ?_, fun d r hm hd => ?_⟩
  · rw [← hb] at hw'
    exact hw'
  · dsimp only at hd
    rw [hb, ha] at hd
    rcases List.mem_append.mp hm with hm | hm
    · exact hl d r hm hd.2
    · cases List.mem_singleton.mp hm
      exact hd.1 rfl

theorem backing_stopped (s : Service η Container κ τ) :
    (h.backing number s).recorded.KeepsClosing (Stopped first number) where
  closeClient _ := noted_stopped _ fun _ _ _ => nofun
  setTemplate _ _ := noted_stopped _ fun _ _ _ => nofun
  terminate := terminate_stopped
  close := noted_stopped _ fun _ _ _ => nofun
  write _ _ _ _ hs := hs

end Host

end Testbed
