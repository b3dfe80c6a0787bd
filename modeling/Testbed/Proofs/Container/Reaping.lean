import Testbed.Container.Reap
import Testbed.Proofs.Container.Watch
import Testbed.Proofs.Number.Order
import Testbed.Proofs.Projection

/-!
# Reaping is exact

All requests to a daemon are recorded.  Reaping asks for the list of containers and then for the
removal of those whose time has passed, each once and in the order of the list, until one of them
cannot be removed.
-/

namespace Testbed

set_option autoImplicit false

open Act

variable {σ α : Type}

/-- One request to a daemon, with how it ended. -/
inductive DaemonRequest where
  | ping (result : Except Fault Unit)
  | run (spec : LaunchSpec) (result : Except Fault Container)
  | inspect (container : Container) (result : Except Fault Value)
  | remove (container : Container) (result : Except Fault Unit)
  | list (result : Except Fault (List Container))
  | close (result : Except Fault Unit)

def Daemon.recorded (d : Daemon σ) : Daemon (List DaemonRequest × σ) where
  ping := d.ping.noted .ping
  run spec := (d.run spec).noted (.run spec)
  inspect c := (d.inspect c).noted (.inspect c)
  remove c := (d.remove c).noted (.remove c)
  list := d.list.noted .list
  close := d.close.noted .close

def Engine.recorded (e : Engine σ) : Engine (List DaemonRequest × σ) where
  number := e.number
  hostname := e.hostname
  daemon := e.daemon.recorded
  board := {
    get := fun s => e.board.get s.2
    set := fun b s => (s.1, e.board.set b s.2)
    get_set := fun b s => e.board.get_set b s.2
    set_set := fun a b s => by rw [e.board.set_set] }
  startTimer seconds := Act.outside (e.startTimer seconds)
  around := e.around.beside

/-- A container is expired when its label can be read as a time that is not later than now. -/
def Container.isExpired (now : Num) (c : Container) : Bool :=
  match Entries.get? Settings.expiresAtLabel c.labels with
  | none => false
  | some text =>
    !text.isEmpty && (Parse.float? text).any fun t => Num.atMost (.real t) now

/-- A label that says nothing, nothing that can be read as a time, or a time that has not come. -/
inductive Container.Spared (now : Num) (c : Container) : Prop
  | unlabelled : Entries.get? Settings.expiresAtLabel c.labels = none → Spared now c
  | empty : Entries.get? Settings.expiresAtLabel c.labels = some "" → Spared now c
  | malformed {text : String} : Entries.get? Settings.expiresAtLabel c.labels = some text →
      Parse.float? text = none → Spared now c
  | undefined {text : String} {t : Float} :
      Entries.get? Settings.expiresAtLabel c.labels = some text →
      Parse.float? text = some t → t.isNaN = true → Spared now c
  | future {text : String} {t : Float} :
      Entries.get? Settings.expiresAtLabel c.labels = some text →
      Parse.float? text = some t → Num.below now (.real t) = true → Spared now c

theorem Container.Spared.not_expired {now : Num} {c : Container} (h : c.Spared now) :
    c.isExpired now = false := by
  rw [isExpired]
  cases h with
  | unlabelled h => rw [h]
  | empty h =>
    rw [h]
    rfl
  | malformed h hf =>
    simp only [h, hf, Option.any_none, Bool.and_false]
  | undefined h hf hn =>
    simp only [h, hf, Option.any_some, Num.atMost_of_isNaN (a := .real _) (.inl hn), Bool.and_false]
  | future h hf hn =>
    simp only [h, hf, Option.any_some, Num.atMost_of_below hn, Bool.and_false]

namespace Engine

/-- How the expired containers of a list are removed, up to one that stays for another reason than
being gone or going. -/
inductive Reaps (now : Num) : List Container → List (Container × Except Fault Unit) →
    Except Fault (List String) → Prop
  | done : Reaps now [] [] (.ok [])
  | spared {c : Container} {rest : List Container} {removals : List (Container × Except Fault Unit)}
      {result : Except Fault (List String)} : c.isExpired now = false →
      Reaps now rest removals result → Reaps now (c :: rest) removals result
  | removed {c : Container} {rest : List Container}
      {removals : List (Container × Except Fault Unit)} {result : Except Fault (List String)} :
      c.isExpired now = true → Reaps now rest removals result →
      Reaps now (c :: rest) ((c, .ok ()) :: removals) (result.map (c.name :: ·))
  | passed {c : Container} {f : Fault} {rest : List Container}
      {removals : List (Container × Except Fault Unit)} {result : Except Fault (List String)} :
      c.isExpired now = true → RemovalEnd.of (.error f) ≠ .failed → Reaps now rest removals result →
      Reaps now (c :: rest) ((c, .error f) :: removals) result
  | stopped {c : Container} {f : Fault} {rest : List Container} : c.isExpired now = true →
      RemovalEnd.of (.error f) = .failed → Reaps now (c :: rest) [(c, .error f)] (.error f)

section Reaps

variable {now : Num} {containers : List Container} {result : Except Fault (List String)}
  {removals : List (Container × Except Fault Unit)}

theorem Reaps.attempted (h : Reaps now containers removals result) :
    removals.map (·.1) <+: containers.filter (·.isExpired now) := by
  induction h with
  | done => exact List.prefix_rfl
  | spared hc _ ih => rwa [List.filter_cons_of_neg (by simp [hc])]
  | removed hc _ ih | passed hc _ _ ih =>
    rw [List.filter_cons_of_pos hc]
    exact (List.prefix_cons_inj _).mpr ih
  | stopped hc _ =>
    rw [List.filter_cons_of_pos hc]
    exact (List.prefix_cons_inj _).mpr (List.nil_prefix)

theorem removed_ne (f : Fault) : RemovalEnd.of (.error f) ≠ .removed := by
  simp only [RemovalEnd.of]
  split
  · simp
  · split <;> simp

theorem Reaps.finished (h : Reaps now containers removals result)
    (hall : ∀ x ∈ removals, RemovalEnd.of x.2 ≠ .failed) :
    removals.map (·.1) = containers.filter (·.isExpired now) ∧
      result = .ok ((removals.filter (RemovalEnd.of ·.2 = .removed)).map (·.1.name)) := by
  induction h with
  | done => exact ⟨rfl, rfl⟩
  | spared hc _ ih =>
    rw [List.filter_cons_of_neg (by simp [hc])]
    exact ih hall
  | removed hc _ ih =>
    obtain ⟨hmap, hresult⟩ := ih fun x hx => hall x (List.mem_cons_of_mem _ hx)
    rw [List.filter_cons_of_pos hc, List.map_cons, hmap, hresult]
    exact ⟨rfl, rfl⟩
  | @passed c f _ _ _ hc _ _ ih =>
    obtain ⟨hmap, hresult⟩ := ih fun x hx => hall x (List.mem_cons_of_mem _ hx)
    rw [List.filter_cons_of_pos hc, List.map_cons, hmap, hresult,
      List.filter_cons_of_neg (by simpa using removed_ne f)]
    exact ⟨rfl, rfl⟩
  | stopped _ hf => exact absurd hf (hall _ List.mem_cons_self)

theorem Reaps.halted (h : Reaps now containers removals result) {c : Container} {f : Fault}
    (hm : (c, .error f) ∈ removals) (hf : RemovalEnd.of (.error f) = .failed) :
    result = .error f ∧ ∃ before, removals = before ++ [(c, .error f)] := by
  induction h with
  | done => cases hm
  | spared _ _ ih => exact ih hm
  | removed _ _ ih =>
    obtain ⟨rfl, before, rfl⟩ := ih ((List.mem_cons.mp hm).resolve_left (by simp))
    exact ⟨rfl, _ :: before, rfl⟩
  | passed _ hpassed _ ih =>
    rcases List.mem_cons.mp hm with heq | hm
    · cases heq
      exact absurd hf hpassed
    · obtain ⟨rfl, before, rfl⟩ := ih hm
      exact ⟨rfl, _ :: before, rfl⟩
  | stopped =>
    cases List.mem_singleton.mp hm
    exact ⟨rfl, [], rfl⟩

end Reaps

variable {now : Num} {c : Container}

theorem isOrdinary_of_passed {f : Fault} (h : RemovalEnd.of (.error f) ≠ .failed) :
    f.isOrdinary = true := by
  obtain ⟨head, causes, back⟩ := f
  cases head with
  | daemon kind detail response explanation => rfl
  | _ => exact absurd rfl h

theorem remove_of_ok {e : Engine σ} {s t : σ} (h : e.daemon.remove c s = (.ok (), t)) :
    e.remove c s = (.ok .removed, t) := bind_of_ok (attempt_of_ok h)

/-- A removal that fails is passed over only when the container is gone or going. -/
theorem remove_of_error {e : Engine σ} {s t : σ} {f : Fault}
    (h : e.daemon.remove c s = (.error f, t)) : e.remove c s =
      (if RemovalEnd.of (.error f) = .failed then .error f
        else if RemovalEnd.of (.error f) = .gone then .ok .gone else .ok .inProgress, t) := by
  cases ho : f.isOrdinary with
  | false =>
    have hf : RemovalEnd.of (.error f) = .failed := by
      by_contra hf
      cases ho.symm.trans (isOrdinary_of_passed hf)
    rw [if_pos hf]
    exact bind_of_error (attempt_of_interruption h ho)
  | true =>
    refine (bind_of_ok (attempt_of_ordinary h ho)).trans ?_
    simp only [RemovalEnd.of]
    by_cases hg : f.isContainerGone = true
    · simp [hg]
    · by_cases hp : (f.isDaemonReply && f.isRemovalInProgress) = true
      · simp [hg, hp]
      · simp [hg, hp, Act.fail]

theorem reapOne_spared (e : Engine σ) (h : c.isExpired now = false) (l : List DaemonRequest)
    (s : σ) : ∃ t, e.recorded.reapOne now c (l, s) = (.ok false, (l, t)) := by
  unfold Container.isExpired at h
  unfold reapOne expiryMark
  cases ht : Entries.get? Settings.expiresAtLabel c.labels with
  | none => exact ⟨s, rfl⟩
  | some text =>
    rw [ht] at h
    dsimp only
    split
    · exact ⟨s, rfl⟩
    · next hne =>
      cases hf : Parse.float? text with
      | none => exact ⟨_, rfl⟩
      | some t =>
        have hlate : Num.atMost (.real t) now = false := by simpa [hne, hf] using h
        dsimp only
        rw [hlate]
        exact ⟨s, rfl⟩

/-- The removal of an expired container is tried, and its outcome decides how the run goes on. -/
theorem reapOne_expired (e : Engine σ) (h : c.isExpired now = true) (l : List DaemonRequest)
    (s : σ) : ∃ r t, e.recorded.reapOne now c (l, s) =
      (if RemovalEnd.of r = .failed then r.map fun _ => false
        else .ok (RemovalEnd.of r = .removed), (l ++ [.remove c r], t)) := by
  have hmark : ∃ t, expiryMark c = .time t ∧ Num.atMost (.real t) now = true := by
    unfold Container.isExpired at h
    unfold expiryMark
    cases ht : Entries.get? Settings.expiresAtLabel c.labels with
    | none =>
      rw [ht] at h
      cases h
    | some text =>
      rw [ht] at h
      obtain ⟨hne, hany⟩ := Bool.and_eq_true_iff.mp h
      obtain ⟨t, hf, hle⟩ := (Option.any_eq_true _ _).mp hany
      have hempty : text.isEmpty = false := by simpa using hne
      exact ⟨t, by simp only [hempty, hf, Bool.false_eq_true, if_false], hle⟩
  obtain ⟨t, hmark, hle⟩ := hmark
  unfold reapOne
  rw [hmark]
  dsimp only
  rw [if_pos hle]
  rcases hr : e.daemon.remove c s with ⟨r, u⟩
  have hnoted : e.recorded.daemon.remove c (l, s) = (r, (l ++ [.remove c r], u)) :=
    noted_of_eq _ l hr
  refine ⟨r, ?_⟩
  cases r with
  | ok a => exact ⟨_, bind_of_ok (remove_of_ok hnoted)⟩
  | error f =>
    have hstays : RemovalEnd.of (.error f) ≠ .removed := removed_ne f
    have hremove := remove_of_error hnoted
    by_cases hf : RemovalEnd.of (.error f) = .failed
    · rw [if_pos hf] at hremove ⊢
      exact ⟨u, bind_of_error hremove⟩
    · rw [if_neg hf] at hremove ⊢
      rw [decide_eq_false hstays]
      split at hremove
      · exact ⟨u, bind_of_ok hremove⟩
      · exact ⟨_, bind_of_ok hremove⟩

/-- What is reaped from a list follows from what is done with its first container and from what is
reaped from the rest. -/
theorem reapAll_cons {e : Engine σ} {rest : List Container} {o o' o'' : List DaemonRequest × σ}
    {removed : Bool} {result : Except Fault (List String)}
    (hone : e.recorded.reapOne now c o = (.ok removed, o'))
    (hrest : e.recorded.reapAll now rest o' = (result, o'')) :
    e.recorded.reapAll now (c :: rest) o =
      (if removed then result.map (c.name :: ·) else result, o'') := by
  rw [reapAll, bind_of_ok hone]
  cases result with
  | error f =>
    rw [bind_of_error hrest]
    cases removed <;> rfl
  | ok names =>
    rw [bind_of_ok hrest]
    cases removed <;> rfl

theorem reapAll_reaps (e : Engine σ) (now : Num) (containers : List Container)
    (l : List DaemonRequest) (s : σ) : ∃ result removals t,
      e.recorded.reapAll now containers (l, s) =
        (result, (l ++ removals.map fun x => .remove x.1 x.2, t)) ∧
      Reaps now containers removals result := by
  induction containers generalizing l s with
  | nil => exact ⟨.ok [], [], s, by rw [List.map_nil, List.append_nil]; rfl, .done⟩
  | cons c rest ih =>
    cases hc : c.isExpired now with
    | false =>
      obtain ⟨t, hone⟩ := reapOne_spared e hc l s
      obtain ⟨result, removals, u, hrest, hreaps⟩ := ih l t
      exact ⟨result, removals, u, reapAll_cons hone hrest, .spared hc hreaps⟩
    | true =>
      obtain ⟨r, t, hone⟩ := reapOne_expired e hc l s
      obtain ⟨result, removals, u, hrest, hreaps⟩ := ih (l ++ [.remove c r]) t
      rw [List.append_assoc] at hrest
      cases r with
      | ok a =>
        exact ⟨result.map (c.name :: ·), (c, .ok a) :: removals, u, reapAll_cons hone hrest,
          .removed hc hreaps⟩
      | error f =>
        by_cases hf : RemovalEnd.of (.error f) = .failed
        · rw [if_pos hf] at hone
          exact ⟨.error f, [(c, .error f)], t, bind_of_error hone, .stopped hc hf⟩
        · rw [if_neg hf, decide_eq_false (removed_ne f)] at hone
          exact ⟨result, (c, .error f) :: removals, u, reapAll_cons hone hrest,
            .passed hc hf hreaps⟩

/-! What is recorded does not change what is done. -/

theorem write_maps (e : Engine σ) (level : Level) (topic : Topic) (text : String) :
    Act.Maps Prod.snd (Act.update (e.recorded.around.diary.write level topic text))
      (Act.update (e.around.diary.write level topic text)) := fun _ => rfl

theorem remove_maps (e : Engine σ) (c : Container) :
    Act.Maps Prod.snd (e.recorded.remove c) (e.remove c) := by
  refine .bind (noted_unnoted _ _).attempt fun r => ?_
  cases r with
  | ok _ => exact .pure _
  | error f => exact .ite (.pure _) (.ite (.pure _) (.fail _))

theorem reapOne_maps (e : Engine σ) (now : Num) (c : Container) :
    Act.Maps Prod.snd (e.recorded.reapOne now c) (e.reapOne now c) := by
  unfold reapOne
  cases expiryMark c with
  | absent => exact .pure _
  | malformed text => exact .bind (write_maps e _ _ _) fun _ => .pure _
  | time t =>
    refine .ite (.bind (remove_maps e c) fun r => ?_) (.pure _)
    cases r with
    | removed => exact .bind (write_maps e _ _ _) fun _ => .pure _
    | gone => exact .pure _
    | inProgress => exact .bind (write_maps e _ _ _) fun _ => .pure _

theorem reapAll_maps (e : Engine σ) (now : Num) (containers : List Container) :
    Act.Maps Prod.snd (e.recorded.reapAll now containers) (e.reapAll now containers) := by
  induction containers with
  | nil => exact .pure _
  | cons c rest ih => exact .bind (reapOne_maps e now c) fun _ => .bind ih fun _ => .pure _

theorem reapExpired_maps (e : Engine σ) (now : Option Num) :
    Act.Maps Prod.snd (e.recorded.reapExpired now) (e.reapExpired now) :=
  .bind (.read fun _ => rfl) fun _ => .bind (noted_unnoted _ _) fun _ => reapAll_maps e _ _

/-- Of the containers that are listed, reaping removes those whose time has passed and no others,
each once and in order, until a removal fails for another reason than that the container is gone or
going.  It tells the names of those that it removed. -/
theorem reap_exact (e : Engine σ) (now : Option Num) {s s₁ : σ} {containers : List Container}
    (hlist : e.daemon.list s = (.ok containers, s₁)) : ∃ result removals t,
      e.reapExpired now s = (result, t) ∧
      e.recorded.reapExpired now ([], s) =
        (result, (.list (.ok containers) :: removals.map fun x => .remove x.1 x.2, t)) ∧
      removals.map (·.1) <+: containers.filter (·.isExpired (now.getD (e.around.date s))) ∧
      (∀ c : Container, c.Spared (now.getD (e.around.date s)) → c ∉ removals.map (·.1)) ∧
      ((∀ x ∈ removals, RemovalEnd.of x.2 ≠ .failed) →
        removals.map (·.1) = containers.filter (·.isExpired (now.getD (e.around.date s))) ∧
        result = .ok ((removals.filter (RemovalEnd.of ·.2 = .removed)).map (·.1.name))) ∧
      (∀ c f, (c, .error f) ∈ removals → RemovalEnd.of (.error f) = .failed →
        result = .error f ∧ ∃ before, removals = before ++ [(c, .error f)]) := by
  obtain ⟨result, removals, t, hrun, hreaps⟩ :=
    reapAll_reaps e (now.getD (e.around.date s)) containers [.list (.ok containers)] s₁
  have hnoted : e.recorded.daemon.list ([], s) = (.ok containers, ([.list (.ok containers)], s₁)) :=
    noted_of_eq _ [] hlist
  have hrecorded : e.recorded.reapExpired now ([], s) =
      (result, (.list (.ok containers) :: removals.map fun x => .remove x.1 x.2, t)) :=
    (bind_of_ok hnoted).trans hrun
  have hplain := reapExpired_maps e now ([], s)
  rw [hrecorded] at hplain
  refine ⟨result, removals, t, hplain, hrecorded, hreaps.attempted, fun c hc hm => ?_,
    hreaps.finished, fun c f hm hf => hreaps.halted hm hf⟩
  have hexpired := (List.mem_filter.mp (hreaps.attempted.subset hm)).2
  cases hc.not_expired.symm.trans hexpired

/-! A daemon with containers of earlier runs, not all of which it can remove. -/

namespace Leftovers

def container (name : String) (marks : List String) : Container :=
  { id := name, name, labels := marks.map (Settings.expiresAtLabel, ·) }

def containers : List Container :=
  [container "past" ["10.5"], container "plain" [], container "blank" [""],
    container "torn" ["soon"], container "undefined" ["nan"], container "future" ["1e3"],
    container "gone" [" 7 "], container "going" ["-inf"], container "stuck" ["42"],
    container "last" ["1"]]

def removal (name : String) : Except Fault Unit :=
  if name = "gone" then .error (Fault.of (.daemon .notFound "No such container" none none))
  else if name = "going" then
    .error (Fault.of (.daemon .api "" (some { status := 409 }) (some "removal in progress")))
  else if name = "stuck" then
    .error (Fault.of (.daemon .api "" (some { status := 500 }) (some "device busy")))
  else .ok ()

def engine : Engine ExpiryBoard where
  number := 0
  hostname := "localhost"
  daemon := {
    ping := pure ()
    run _ := pure default
    inspect _ := pure .null
    remove c := Act.ofExcept (removal c.name)
    list := pure containers
    close := pure () }
  board := { get := id, set := fun board _ => board }
  startTimer _ := pure 0
  around := {
    clock := { now := fun _ => .int 0, sleep := fun _ => pure () }
    date _ := .int 100
    stamp := pure 0
    diary := { write := fun _ _ _ s => s } }

end Leftovers

theorem reap_exact_of_leftovers : ∃ f, ∃ removals : List (Container × Except Fault Unit), ∃ t,
    Leftovers.engine.reapExpired none {} = (.error f, t) ∧
    Leftovers.engine.recorded.reapExpired none ([], {}) = (.error f,
      (.list (.ok Leftovers.containers) :: removals.map fun x => .remove x.1 x.2, t)) ∧
    removals.map (·.1.name) = ["past", "gone", "going", "stuck"] ∧
    RemovalEnd.of (.error f) = .failed := by
  obtain ⟨result, removals, t, hplain, hrecorded, -, -, hall, hstop⟩ :=
    reap_exact Leftovers.engine none
      (rfl : Leftovers.engine.daemon.list {} = (.ok Leftovers.containers, {}))
  have hnames : (Leftovers.engine.recorded.reapExpired none ([], {})).2.1.filterMap
      (fun | .remove c _ => some c.name | _ => none) = ["past", "gone", "going", "stuck"] := by
    decide +kernel
  rw [hrecorded, List.filterMap_cons_none rfl, List.filterMap_map] at hnames
  have hnames : removals.map (·.1.name) = ["past", "gone", "going", "stuck"] :=
    (List.filterMap_eq_map ▸ hnames :)
  have hfailed : ∃ x ∈ removals, RemovalEnd.of x.2 = .failed := by
    by_contra hnone
    obtain ⟨hmap, -⟩ := hall fun x hx hf => hnone ⟨x, hx, hf⟩
    have hnames := (congrArg (List.map Container.name) hmap).symm.trans
      ((List.map_map ..).trans hnames)
    exact absurd hnames (by decide +kernel)
  obtain ⟨⟨c, r⟩, hm, hf⟩ := hfailed
  cases r with
  | ok _ => cases hf
  | error f =>
    obtain ⟨rfl, -⟩ := hstop c f hm hf
    exact ⟨f, removals, t, hplain, hrecorded, hnames, hf⟩

end Engine

end Testbed
