import Mathlib.Data.List.Nodup
import Testbed.Proofs.Container.Safeguard

/-!
# Expiry timers and their table

The expiry of a container is scheduled, withdrawn, ended by a removal, or its timer goes off: in
any order, on any number of containers.  The table and the running timers agree throughout.
-/

namespace Testbed

set_option autoImplicit false

open Act

variable {τ : Type}

namespace ExpiryBoard

variable {b : ExpiryBoard} {j k : ContainerKey}

/-- No container has two entries in the table or two running timers. -/
structure Single (b : ExpiryBoard) : Prop where
  entries : (b.table.map (·.1)).Nodup
  timers : (b.armed.map (·.key)).Nodup

/-- A container has the same entry and the same running timers on two boards. -/
structure SameFor (k : ContainerKey) (b b' : ExpiryBoard) : Prop where
  entry : b'.registered? k = b.registered? k
  timers : b'.armed.filter (·.key == k) = b.armed.filter (·.key == k)

theorem cancel_nextSerial (b : ExpiryBoard) (k : ContainerKey) :
    (b.cancel k).nextSerial = b.nextSerial := by
  unfold cancel
  cases b.registered? k <;> rfl

theorem cancel_armed_sublist (b : ExpiryBoard) (k : ContainerKey) :
    (b.cancel k).armed.Sublist b.armed := by
  unfold cancel
  cases b.registered? k with
  | none => exact List.Sublist.refl _
  | some n => exact List.filter_sublist

theorem registered?_cancel_of_ne (b : ExpiryBoard) (h : j ≠ k) :
    (b.cancel k).registered? j = b.registered? j := by
  unfold cancel
  have hj := registered?_unregister_of_ne (b := b) h
  cases b.registered? k <;> exact hj

theorem register_armed (b : ExpiryBoard) (k : ContainerKey) :
    (b.register k).armed = (b.cancel k).armed := by
  rw [register_eq]
  rfl

theorem register_nextSerial (b : ExpiryBoard) (k : ContainerKey) :
    (b.register k).nextSerial = b.nextSerial + 1 := by
  rw [register_eq]
  exact congrArg (· + 1) (cancel_nextSerial b k)

theorem newest_register (b : ExpiryBoard) (k : ContainerKey) :
    (b.register k).newest = b.nextSerial := by
  rw [newest, register_nextSerial]
  exact Nat.add_sub_cancel _ _

theorem registered?_register_of_ne (b : ExpiryBoard) (h : j ≠ k) :
    (b.register k).registered? j = b.registered? j := by
  rw [register_eq, registered?_enter (registered?_cancel b k), if_neg h]
  exact registered?_cancel_of_ne b h

/-- A timer that goes off withdraws its own expiry. -/
theorem WellFormed.unregister_stop (h : b.WellFormed) {a : Alarm} (ha : a ∈ b.armed) :
    (b.stop a.serial).unregister a.key = b.cancel a.key := by
  unfold ExpiryBoard.cancel
  rw [h.registered a ha]
  rfl

theorem not_mem_entries (h : b.registered? k = none) : k ∉ b.table.map (·.1) := by
  intro hk
  obtain ⟨e, he, rfl⟩ := List.mem_map.mp hk
  have hne := List.lookup_eq_none_iff.mp h e he
  simp at hne

theorem Single.cancel (h : b.Single) (k : ContainerKey) : (b.cancel k).Single where
  entries := by
    unfold ExpiryBoard.cancel
    rw [stop?_table]
    exact h.entries.sublist (List.filter_sublist.map _)
  timers := h.timers.sublist ((cancel_armed_sublist b k).map _)

theorem Single.register (h : b.Single) (k : ContainerKey) : (b.register k).Single := by
  have hc := h.cancel k
  rw [register_eq]
  refine ⟨?_, hc.timers⟩
  have hk := not_mem_entries (registered?_cancel b k)
  simp only [enter, List.map_append, List.map_cons, List.map_nil]
  rw [← List.concat_eq_append]
  exact hc.entries.concat hk

theorem Single.arm (h : b.Single) {a : Alarm} (ha : ¬ b.Armed a.key) : (b.arm a).Single := by
  refine ⟨h.entries, ?_⟩
  simp only [ExpiryBoard.arm, List.map_append, List.map_cons, List.map_nil]
  rw [← List.concat_eq_append]
  refine h.timers.concat fun hm => ha ?_
  obtain ⟨x, hx, hk⟩ := List.mem_map.mp hm
  exact ⟨x, hx, hk⟩

theorem SameFor.refl (k : ContainerKey) (b : ExpiryBoard) : SameFor k b b := ⟨rfl, rfl⟩

theorem WellFormed.sameFor_cancel (h : b.WellFormed) (hk : k ≠ j) : SameFor k b (b.cancel j) := by
  refine ⟨registered?_cancel_of_ne b hk, ?_⟩
  unfold ExpiryBoard.cancel
  cases hj : b.registered? j with
  | none => rfl
  | some n =>
    change (b.armed.filter (·.serial != n)).filter (·.key == k) = _
    rw [List.filter_filter]
    refine List.filter_congr fun a ha => ?_
    by_cases hak : a.key = k
    · have hn : a.serial ≠ n := by
        rintro rfl
        exact hk (hak ▸ h.unique _ _ _ (h.registered a ha) hj)
      simp [hak, hn]
    · simp [hak]

theorem WellFormed.sameFor_register (h : b.WellFormed) (hk : k ≠ j) :
    SameFor k b (b.register j) := by
  refine ⟨registered?_register_of_ne b hk, ?_⟩
  rw [register_armed]
  exact (h.sameFor_cancel hk).timers

theorem SameFor.arm {b' : ExpiryBoard} (h : SameFor k b b') {a : Alarm} (ha : a.key ≠ k) :
    SameFor k b (b'.arm a) := by
  refine ⟨h.entry, ?_⟩
  have hk : (a.key == k) = false := beq_eq_false_iff_ne.mpr ha
  change (b'.armed ++ [a]).filter (·.key == k) = _
  rw [List.filter_append, h.timers]
  simp [hk]

/-- A timer with this number was made, and is not running. -/
structure Spent (n : Nat) (b : ExpiryBoard) : Prop where
  made : n < b.nextSerial
  still : ∀ a ∈ b.armed, a.serial ≠ n

theorem Spent.cancel {n : Nat} (h : b.Spent n) (k : ContainerKey) : (b.cancel k).Spent n where
  made := by rw [cancel_nextSerial]; exact h.made
  still a ha := h.still a ((cancel_armed_sublist b k).subset ha)

theorem Spent.register {n : Nat} (h : (b.cancel k).Spent n) : (b.register k).Spent n where
  made := by
    have made := h.made
    rw [cancel_nextSerial] at made
    rw [register_nextSerial]
    exact Nat.lt_succ_of_lt made
  still a ha := h.still a (by rw [← register_armed]; exact ha)

theorem Spent.arm {n : Nat} (h : b.Spent n) {a : Alarm} (ha : a.serial ≠ n) :
    (b.arm a).Spent n := by
  refine ⟨h.made, fun x hx => ?_⟩
  rcases List.mem_append.mp hx with hx | hx
  · exact h.still x hx
  · rw [List.mem_singleton.mp hx]
    exact ha

theorem WellFormed.spent_cancel (h : b.WellFormed) {a : Alarm} (ha : a ∈ b.armed) :
    (b.cancel a.key).Spent a.serial := by
  have hreg := h.registered a ha
  refine ⟨?_, fun x hx => ?_⟩
  · rw [cancel_nextSerial]
    exact h.serial _ _ hreg
  · unfold ExpiryBoard.cancel at hx
    rw [hreg] at hx
    exact bne_iff_ne.mp (List.mem_filter.mp hx).2

end ExpiryBoard

/-! What is done with expiries. -/

/-- An expiry is scheduled or withdrawn, a container is terminated, or a running timer, found by
its number, goes off. -/
inductive TimerMove where
  | schedule (number : Nat) (c : Container) (seconds : Num)
  | cancel (number : Nat) (c : Container)
  | terminate (number : Nat) (c : Container)
  | fire (serial : Nat)

namespace TimerMove

def Schedules (key : ContainerKey) : TimerMove → Prop
  | .schedule number c _ => (number, c.id) = key
  | _ => False

def Withdraws (key : ContainerKey) : TimerMove → Prop
  | .cancel number c | .terminate number c => (number, c.id) = key
  | _ => False

def target? (b : ExpiryBoard) : TimerMove → Option ContainerKey
  | .schedule number c _ | .cancel number c | .terminate number c => some (number, c.id)
  | .fire serial => (b.armed.find? (·.serial == serial)).map (·.key)

end TimerMove

/-- The running timer with this number goes off, if there is one. -/
def Host.ringNumber (h : Host τ) (serial : Nat) : Act (Watch × τ) Unit := fun s =>
  match s.1.board.armed.find? (·.serial == serial) with
  | none => (.ok (), s)
  | some a => h.ring a s

/-- Makes a move; its fault is up to whoever made it. -/
def Host.makes (h : Host τ) : TimerMove → Act (Watch × τ) Unit
  | .schedule number c seconds => (h.runtime number).scheduleExpiry c seconds
  | .cancel number c => (h.engine number).cancelExpiry c
  | .terminate number c => (h.engine number).terminate c
  | .fire serial => h.ringNumber serial

def Host.afterMoves (h : Host τ) (moves : List TimerMove) (s : Watch × τ) : Watch × τ :=
  moves.foldl (fun s m => (h.makes m s).2) s

/-- All that a move can do. -/
inductive Watch.Changes (w : Watch) : TimerMove → Watch → Prop
  | scheduled {number : Nat} {c : Container} {seconds : Num} (a : Alarm)
      (key : a.key = (number, c.id)) (serial : a.serial = w.board.nextSerial) :
      Changes w (.schedule number c seconds)
        { w.noting (.scheduled (number, c.id) true) with
          board := (w.board.register (number, c.id)).arm a }
  | unstarted {number : Nat} {c : Container} {seconds : Num} :
      Changes w (.schedule number c seconds)
        { w.noting (.scheduled (number, c.id) false) with
          board := w.board.register (number, c.id) }
  | cancelled {number : Nat} {c : Container} :
      Changes w (.cancel number c) { w with board := w.board.cancel (number, c.id) }
  | terminated {number : Nat} {c : Container} (outcome : RemovalEnd) :
      Changes w (.terminate number c)
        { w.noting (.removal (number, c.id) outcome) with
          board := w.board.cancel (number, c.id) }
  | fired {serial : Nat} {a : Alarm}
      (found : w.board.armed.find? (·.serial == serial) = some a) (outcome : RemovalEnd) :
      Changes w (.fire serial)
        { (w.noting (.rang a.key)).noting (.removal a.key outcome) with
          board := w.board.cancel a.key }
  | silent {serial : Nat} (none_found : w.board.armed.find? (·.serial == serial) = none) :
      Changes w (.fire serial) w

namespace Host

variable {h : Host τ} {number : Nat} {c : Container}

theorem ring_tried (h : Host τ) {s : Watch × τ} (hs : s.1.board.WellFormed) {a : Alarm}
    (ha : a ∈ s.1.board.armed) :
    Tried a.key { s.1.noting (.rang a.key) with board := s.1.board.cancel a.key }
      (h.ring a s).2 := by
  have hkey : (a.key.1, (h.containerOf s.2 a).id) = a.key := by rw [h.containerOf_id]
  have expired := expire_tried h (fun n => Act.outside (h.around.clock.sleep n)) a.key.1
    (h.containerOf s.2 a) (s.1.rung a, s.2)
  rw [hkey] at expired
  rw [← hs.unregister_stop ha]
  exact expired

theorem makes_changes (m : TimerMove) {s : Watch × τ} (hs : s.1.board.WellFormed) :
    s.1.Changes m (h.makes m s).2.1 := by
  cases m with
  | schedule number c seconds =>
    obtain ⟨r, t', b, hx, hb⟩ := scheduleExpiry_board (h := h) number c seconds s.1 s.2
    change s.1.Changes _ (Act.watched ((h.engine number).scheduleExpiry c seconds) _ (s.1, s.2)).2.1
    unfold Act.watched
    rw [hx]
    rcases hb with ⟨⟨e, rfl⟩, rfl⟩ | ⟨rfl, a, hk, hn, rfl⟩
    · exact .unstarted
    · rw [ExpiryBoard.newest_register] at hn
      exact .scheduled a hk hn
  | cancel number c => exact .cancelled
  | terminate number c =>
    obtain ⟨outcome, ho⟩ := terminate_tried h h.pass number c s
    change s.1.Changes _ ((h.engineWith h.pass number).terminate c s).2.1
    rw [ho]
    exact .terminated outcome
  | fire serial =>
    change s.1.Changes _ (h.ringNumber serial s).2.1
    unfold ringNumber
    cases hf : s.1.board.armed.find? (·.serial == serial) with
    | none => exact .silent hf
    | some a =>
      obtain ⟨outcome, ho⟩ := ring_tried h hs (List.mem_of_find?_eq_some hf)
      dsimp only
      rw [ho]
      exact .fired hf outcome

end Host

/-! What every move preserves. -/

namespace Watch

open ExpiryBoard

variable {w w' : Watch} {m : TimerMove} {key : ContainerKey}

/-- The table holds the running timers, each for its own container, and no others unless a timer
could not be started. -/
structure Agrees (w : Watch) : Prop where
  board : w.board.WellFormed
  single : w.board.Single
  started : ∀ k n, w.board.registered? k = some n →
    (∃ a ∈ w.board.armed, a.key = k ∧ a.serial = n) ∨ .scheduled k false ∈ w.history

theorem agrees_empty : Agrees {} where
  board := wellFormed_empty
  single := ⟨List.nodup_nil, List.nodup_nil⟩
  started k n h := by cases h

theorem mem_noting {o p : Occurrence} (h : o ∈ w.history) : o ∈ (w.noting p).history :=
  List.mem_append_left _ h

/-- Of the timers registered after a withdrawal, each was registered before and is as it was. -/
theorem Agrees.started_cancel (h : w.Agrees) {j k : ContainerKey} {n : Nat}
    (hn : (w.board.cancel j).registered? k = some n) :
    (∃ a ∈ (w.board.cancel j).armed, a.key = k ∧ a.serial = n) ∨
      .scheduled k false ∈ w.history := by
  have hkj : k ≠ j := by
    rintro rfl
    rw [registered?_cancel] at hn
    cases hn
  rw [registered?_cancel_of_ne _ hkj] at hn
  rcases h.started k n hn with ⟨a, ha, hk, hs⟩ | hf
  · have hsame := (h.board.sameFor_cancel hkj).timers
    have hmem : a ∈ w.board.armed.filter (·.key == k) :=
      List.mem_filter.mpr ⟨ha, beq_iff_eq.mpr hk⟩
    rw [← hsame] at hmem
    exact .inl ⟨a, (List.mem_filter.mp hmem).1, hk, hs⟩
  · exact .inr hf

theorem Agrees.cancel (h : w.Agrees) (k : ContainerKey) :
    Agrees { w with board := w.board.cancel k } where
  board := (h.board.cancel k).1
  single := h.single.cancel k
  started _ _ hn := h.started_cancel hn

theorem Agrees.noting (h : w.Agrees) (o : Occurrence) : (w.noting o).Agrees where
  board := h.board
  single := h.single
  started k n hn := (h.started k n hn).imp_right mem_noting

theorem Agrees.scheduled (h : w.Agrees) {a : Alarm} (hk : a.key = key)
    (hs : a.serial = w.board.nextSerial) :
    Agrees { w.noting (.scheduled key true) with board := (w.board.register key).arm a } := by
  obtain ⟨hb, ha⟩ := h.board.register key
  have hreg : (w.board.register key).registered? key = some a.serial := by
    rw [hs, registered?_register, newest_register]
  have hnot : ¬ (w.board.register key).Armed a.key := fun harmed => ((ha _).mp harmed).1 hk
  refine ⟨(hb.arm (by rw [hk]; exact hreg)).1, (h.single.register key).arm hnot, fun k n hn => ?_⟩
  change (w.board.register key).registered? k = some n at hn
  by_cases hkk : k = key
  · rw [hkk, hreg] at hn
    exact .inl ⟨a, List.mem_append_right _ (List.mem_singleton_self a), hk.trans hkk.symm,
      Option.some.inj hn⟩
  · have hc : (w.board.cancel key).registered? k = some n := by
      rw [registered?_cancel_of_ne _ hkk, ← registered?_register_of_ne _ hkk]
      exact hn
    rcases h.started_cancel hc with ⟨x, hx, hxk, hxn⟩ | hf
    · rw [← register_armed] at hx
      exact .inl ⟨x, List.mem_append_left _ hx, hxk, hxn⟩
    · exact .inr (mem_noting hf)

theorem Agrees.unstarted (h : w.Agrees) (key : ContainerKey) :
    Agrees { w.noting (.scheduled key false) with board := w.board.register key } := by
  refine ⟨(h.board.register key).1, h.single.register key, fun k n hn => ?_⟩
  by_cases hkk : k = key
  · subst hkk
    exact .inr (List.mem_append_right _ (List.mem_singleton_self _))
  · have hc : (w.board.cancel key).registered? k = some n := by
      rw [registered?_cancel_of_ne _ hkk, ← registered?_register_of_ne _ hkk]
      exact hn
    rcases h.started_cancel hc with ⟨x, hx, hxk, hxn⟩ | hf
    · rw [← register_armed] at hx
      exact .inl ⟨x, hx, hxk, hxn⟩
    · exact .inr (mem_noting hf)

theorem Changes.agrees (hc : w.Changes m w') (h : w.Agrees) : w'.Agrees := by
  cases hc with
  | scheduled a key serial => exact h.scheduled key serial
  | unstarted => exact h.unstarted _
  | cancelled => exact h.cancel _
  | terminated outcome => exact (h.cancel _).noting _
  | fired found outcome => exact ((h.cancel _).noting _).noting _
  | silent none_found => exact h

/-- A move leaves the timers of all containers but its own alone. -/
theorem Changes.sameFor (hc : w.Changes m w') (h : w.Agrees)
    (ht : m.target? w.board ≠ some key) : SameFor key w.board w'.board := by
  cases hc with
  | scheduled a hk serial =>
    have hne : key ≠ a.key := fun he => ht (congrArg some (hk.symm.trans he.symm))
    exact (h.board.sameFor_register (hk ▸ hne)).arm hne.symm
  | unstarted => exact h.board.sameFor_register fun he => ht (congrArg some he.symm)
  | cancelled => exact h.board.sameFor_cancel fun he => ht (congrArg some he.symm)
  | terminated outcome => exact h.board.sameFor_cancel fun he => ht (congrArg some he.symm)
  | @fired serial a found outcome =>
    refine h.board.sameFor_cancel fun he => ht ?_
    simp only [TimerMove.target?, found, Option.map_some, he]
  | silent none_found => exact .refl _ _

theorem Changes.spent {n : Nat} (hc : w.Changes m w') (h : w.board.Spent n) :
    w'.board.Spent n := by
  cases hc with
  | scheduled a key serial =>
    refine (h.cancel _).register.arm ?_
    rw [serial]
    exact Nat.ne_of_gt h.made
  | unstarted => exact (h.cancel _).register
  | cancelled => exact h.cancel _
  | terminated outcome => exact h.cancel _
  | fired found outcome => exact h.cancel _
  | silent none_found => exact h

/-- Every move that concerns a container takes the timer away that is running for it. -/
theorem Changes.spends (hc : w.Changes m w') (h : w.Agrees) {a : Alarm}
    (ha : a ∈ w.board.armed) (ht : m.target? w.board = some a.key) : w'.board.Spent a.serial := by
  have hspent : ∀ k, some k = some a.key → (w.board.cancel k).Spent a.serial := by
    intro k hk
    rw [Option.some.inj hk]
    exact h.board.spent_cancel ha
  cases hc with
  | scheduled x key serial =>
    refine (hspent _ ht).register.arm ?_
    rw [serial]
    exact Nat.ne_of_gt (h.board.serial _ _ (h.board.registered a ha))
  | unstarted => exact (hspent _ ht).register
  | cancelled => exact hspent _ ht
  | terminated outcome => exact hspent _ ht
  | fired found outcome =>
    simp only [TimerMove.target?, found, Option.map_some] at ht
    exact hspent _ ht
  | silent none_found => simp [TimerMove.target?, none_found] at ht

/-- Without a new schedule, the table can only lose the entry of a container, and no timer goes off
for a container that has none. -/
theorem Changes.quiet (hc : w.Changes m w') (h : w.Agrees) (hm : ¬ m.Schedules key) :
    (w'.board.registered? key = w.board.registered? key ∨ w'.board.registered? key = none) ∧
      ∃ new, w'.history = w.history ++ new ∧
        (w.board.registered? key = none → .rang key ∉ new) := by
  have cancelled : ∀ k, (w.board.cancel k).registered? key = w.board.registered? key ∨
      (w.board.cancel k).registered? key = none := by
    intro k
    by_cases hk : key = k
    · exact .inr (hk ▸ registered?_cancel w.board key)
    · exact .inl (registered?_cancel_of_ne _ hk)
  have register : ∀ {k}, k ≠ key →
      (w.board.register k).registered? key = w.board.registered? key :=
    fun hk => registered?_register_of_ne _ hk.symm
  cases hc with
  | scheduled a k serial => exact ⟨.inl (register hm), [_], rfl, by simp⟩
  | unstarted => exact ⟨.inl (register hm), [_], rfl, by simp⟩
  | cancelled => exact ⟨cancelled _, [], (List.append_nil _).symm, by simp⟩
  | terminated outcome => exact ⟨cancelled _, [_], rfl, by simp⟩
  | @fired serial a found outcome =>
    refine ⟨cancelled _, [.rang a.key, .removal a.key outcome], by simp [noting], ?_⟩
    intro hn hr
    have hk : a.key = key := by simpa [eq_comm] using hr
    have hreg := h.board.registered a (List.mem_of_find?_eq_some found)
    rw [hk, hn] at hreg
    cases hreg
  | silent none_found => exact ⟨.inl rfl, [], (List.append_nil _).symm, by simp⟩

theorem Changes.withdrawn (hc : w.Changes m w') (hm : m.Withdraws key) :
    w'.board.registered? key = none ∧ ∃ new, w'.history = w.history ++ new ∧ .rang key ∉ new := by
  cases hc with
  | cancelled => exact ⟨hm ▸ registered?_cancel _ _, [], (List.append_nil _).symm, by simp⟩
  | terminated outcome => exact ⟨hm ▸ registered?_cancel _ _, [_], rfl, by simp⟩
  | _ => cases hm

/-- Scheduling makes the newest timer, and runs it unless it cannot be started. -/
theorem Changes.schedules {number : Nat} {c : Container} {seconds : Num}
    (hc : w.Changes (.schedule number c seconds) w') :
    w'.board.registered? (number, c.id) = some w.board.nextSerial ∧
      ∃ done, w'.history = w.history ++ [.scheduled (number, c.id) done] ∧
        (done = true → w'.board.Armed (number, c.id)) := by
  have hn : (w.board.register (number, c.id)).registered? (number, c.id) =
      some w.board.nextSerial := by
    rw [registered?_register, newest_register]
  cases hc with
  | scheduled a hk serial =>
    exact ⟨hn, true, rfl, fun _ => ⟨a, List.mem_append_right _ (List.mem_singleton_self a), hk⟩⟩
  | unstarted => exact ⟨hn, false, rfl, fun hf => by cases hf⟩

end Watch

/-! Runs of moves. -/

namespace Host

open Watch ExpiryBoard

variable {h : Host τ} {key : ContainerKey} {s : Watch × τ}

theorem afterMoves_agrees (moves : List TimerMove) (hs : s.1.Agrees) :
    (h.afterMoves moves s).1.Agrees := by
  induction moves generalizing s with
  | nil => exact hs
  | cons m moves ih => exact ih ((makes_changes m hs.board).agrees hs)

theorem afterMoves_spent {n : Nat} (moves : List TimerMove) (hs : s.1.Agrees)
    (hn : s.1.board.Spent n) : (h.afterMoves moves s).1.board.Spent n := by
  induction moves generalizing s with
  | nil => exact hn
  | cons m moves ih =>
    have hc := makes_changes (h := h) m hs.board
    exact ih (hc.agrees hs) (hc.spent hn)

theorem afterMoves_quiet (moves : List TimerMove) (hs : s.1.Agrees)
    (hm : ∀ m ∈ moves, ¬ m.Schedules key) :
    ((h.afterMoves moves s).1.board.registered? key = s.1.board.registered? key ∨
        (h.afterMoves moves s).1.board.registered? key = none) ∧
      ∃ new, (h.afterMoves moves s).1.history = s.1.history ++ new ∧
        (s.1.board.registered? key = none → .rang key ∉ new) := by
  induction moves generalizing s with
  | nil => exact ⟨.inl rfl, [], (List.append_nil _).symm, fun _ => List.not_mem_nil⟩
  | cons m moves ih =>
    have hc := makes_changes (h := h) m hs.board
    obtain ⟨hreg, new, hnew, hrang⟩ := hc.quiet hs (hm m List.mem_cons_self)
    obtain ⟨hreg', new', hnew', hrang'⟩ :=
      ih (hc.agrees hs) fun m' hm' => hm m' (List.mem_cons_of_mem _ hm')
    refine ⟨?_, new ++ new', ?_, fun hnone => ?_⟩
    · rcases hreg' with he | he
      · rcases hreg with hr | hr
        · exact .inl (he.trans hr)
        · exact .inr (he.trans hr)
      · exact .inr he
    · rw [← List.append_assoc, ← hnew]
      exact hnew'
    -- an entry can only be lost, so a container without a timer has none after the first move
    · have hnone' : (h.makes m s).2.1.board.registered? key = none :=
        hreg.elim (fun hr => hr.trans hnone) id
      rw [List.mem_append]
      exact fun hr => hr.elim (hrang hnone) (hrang' hnone')

/-- From here to there no timer went off for a container, and none is running for it. -/
structure Silent (key : ContainerKey) (w w' : Watch) : Prop where
  unarmed : ¬ w'.board.Armed key
  unrung : ∃ new, w'.history = w.history ++ new ∧ .rang key ∉ new

theorem silent_of_withdraws {m : TimerMove} {later : List TimerMove} (hs : s.1.Agrees)
    (hw : m.Withdraws key) (hl : ∀ m ∈ later, ¬ m.Schedules key) :
    Silent key s.1 (h.afterMoves (m :: later) s).1 := by
  have hc := makes_changes (h := h) m hs.board
  obtain ⟨hnone, new, hnew, hrang⟩ := hc.withdrawn hw
  obtain ⟨hreg, new', hnew', hrang'⟩ := afterMoves_quiet (h := h) later (hc.agrees hs) hl
  have hagrees := afterMoves_agrees (h := h) later (hc.agrees hs)
  refine ⟨hagrees.board.not_armed (hreg.elim (fun hr => hr.trans hnone) id), new ++ new', ?_, ?_⟩
  · rw [← List.append_assoc, ← hnew]
    exact hnew'
  · rw [List.mem_append]
    exact fun hr => hr.elim hrang (hrang' hnone)

theorem newest_of_schedule {number : Nat} {c : Container} {seconds : Num}
    {later : List TimerMove} (hs : s.1.Agrees)
    (hl : ∀ m ∈ later, ¬ m.Schedules (number, c.id)) {a : Alarm}
    (ha : a ∈ (h.afterMoves (.schedule number c seconds :: later) s).1.board.armed)
    (hk : a.key = (number, c.id)) : a.serial = s.1.board.nextSerial := by
  have hc := makes_changes (h := h) (.schedule number c seconds) hs.board
  have hreg := hc.schedules.1
  have hagrees := afterMoves_agrees (h := h) later (hc.agrees hs)
  have harmed := hagrees.board.registered a ha
  rw [hk] at harmed
  -- the running timer is the registered one, and that is the newest or gone
  rcases (afterMoves_quiet (h := h) later (hc.agrees hs) hl).1 with he | he
  · exact Option.some.inj (harmed.symm.trans (he.trans hreg))
  · cases harmed.symm.trans he

end Host

open Host in
/-- In every state that scheduling, withdrawing, terminating and firing reach, on any number of
containers and with any outcome of every removal: each running timer is the one registered for its
container, each registered timer is running unless it could not be started, and no container has
two of either.  After a withdrawal or a termination nothing goes off for the container until it is
scheduled again; after a new schedule no earlier timer of it ever runs, and only the newest one can
go off; and a move leaves the timers of all other containers alone. -/
theorem timers_match_table (h : Host τ) (t : τ) (moves : List TimerMove) :
    let s := h.afterMoves moves ({}, t)
    let b := s.1.board
    ((∀ a ∈ b.armed, b.registered? a.key = some a.serial) ∧
      (∀ key n, b.registered? key = some n →
        (∃ a ∈ b.armed, a.key = key ∧ a.serial = n) ∨ .scheduled key false ∈ s.1.history) ∧
      (b.table.map (·.1)).Nodup ∧ (b.armed.map (·.key)).Nodup) ∧
    (∀ m key, m.Withdraws key → ∀ later : List TimerMove, (∀ m ∈ later, ¬ m.Schedules key) →
      Silent key s.1 (h.afterMoves (m :: later) s).1) ∧
    (∀ number c seconds,
      let key := (number, c.id)
      let s' := (h.makes (.schedule number c seconds) s).2
      (∃ done, s'.1.history = s.1.history ++ [.scheduled key done] ∧
        (done = true → s'.1.board.Armed key)) ∧
      ∀ later,
        (∀ old ∈ b.armed, old.key = key →
          ∀ a ∈ (h.afterMoves later s').1.board.armed, a.serial ≠ old.serial) ∧
        ((∀ m ∈ later, ¬ m.Schedules key) →
          ∀ a ∈ (h.afterMoves later s').1.board.armed, a.key = key →
            a.serial = b.nextSerial)) ∧
    ∀ m key, m.target? b ≠ some key → b.SameFor key (h.makes m s).2.1.board := by
  intro s b
  have hs : s.1.Agrees := afterMoves_agrees moves Watch.agrees_empty
  refine ⟨⟨hs.board.registered, hs.started, hs.single.entries, hs.single.timers⟩, ?_, ?_, ?_⟩
  · intro m key hw later hl
    exact silent_of_withdraws hs hw hl
  · intro number c seconds key s'
    have hc := makes_changes (h := h) (.schedule number c seconds) hs.board
    refine ⟨hc.schedules.2, fun later => ⟨?_, ?_⟩⟩
    · intro old ho hk a ha
      have hspent := hc.spends hs ho (congrArg some hk.symm)
      exact (afterMoves_spent later (hc.agrees hs) hspent).still a ha
    · intro hl a ha hk
      exact newest_of_schedule hs hl ha hk
  · intro m key ht
    exact (makes_changes m hs.board).sameFor hs ht

/-- Two containers, one of them scheduled twice; the timer of the other one has gone off. -/
def TimerMove.two : List TimerMove :=
  [.schedule 0 { id := "orders", name := "orders" } (.real 30),
    .schedule 0 { id := "bills", name := "bills" } (.real 60),
    .schedule 0 { id := "orders", name := "orders" } (.real 5),
    .fire 1]

/-- On a host that removes nothing, the newest timer is left, and is not left by a termination. -/
theorem timers_of_two_containers :
    let s := Host.stubborn.afterMoves TimerMove.two ({}, ())
    s.1.board.table = [((0, "orders"), 2)] ∧
      s.1.board.armed.map (fun a => (a.key, a.serial)) = [((0, "orders"), 2)] ∧
      Host.Silent (0, "orders") s.1 (Host.stubborn.afterMoves
        [.terminate 0 { id := "orders", name := "orders" }, .fire 2] s).1 := by
  intro s
  have hmatch := timers_match_table Host.stubborn () TimerMove.two
  refine ⟨by decide +kernel, by decide +kernel, ?_⟩
  exact hmatch.2.1 (.terminate 0 { id := "orders", name := "orders" }) (0, "orders") rfl
    [.fire 2] (by simp [TimerMove.Schedules])

end Testbed
