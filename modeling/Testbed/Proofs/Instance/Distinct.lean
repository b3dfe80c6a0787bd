import Mathlib.Data.List.Nodup
import Testbed.Proofs.Hooks
import Testbed.Proofs.Instance.Copies
import Testbed.Proofs.Names
import Testbed.Proofs.Postgres.Dropped
import Testbed.Search.Node

/-!
# Names are given once

Containers and copies of stores are made under unique names.  However instances are started and
cloned, one after the other or one within the other, no two of these names are the same: each
carries a number of its own, which can be read back from it.
-/

namespace Testbed

set_option autoImplicit false

open Act FamilyAct

variable {η ρ κ σ N α : Type}

/-! Readings of the clock that names are made with. -/

/-- A state with the readings of the clock so far. -/
abbrev Stamped (σ : Type) := List (Except Fault Int) × σ

/-- The surroundings with a clock whose readings are noted. -/
def Surroundings.stamped (a : Surroundings σ) : Surroundings (Stamped σ) :=
  { (a.beside : Surroundings (Stamped σ)) with stamp := a.stamp.noted id }

/-- The numbers among the readings of a clock. -/
def numbers (readings : List (Except Fault Int)) : List Int := readings.filterMap Except.toOption

theorem numbers_concat (l : List (Except Fault Int)) (n : Int) :
    numbers (l ++ [.ok n]) = numbers l ++ [n] := by
  rw [numbers, List.filterMap_append]
  rfl

theorem numbers_failed (l : List (Except Fault Int)) (e : Fault) :
    numbers (l ++ [.error e]) = numbers l := by
  rw [numbers, List.filterMap_append]
  exact List.append_nil _

/-- Names that were made from some of the numbers, from each at most once. -/
def MadeFrom (numbers : List Int) (names : List String) : Prop :=
  ∃ given : List (String × Int), names = given.map (fun g => uniqueName g.1 g.2) ∧
    (given.map Prod.snd).Sublist numbers

namespace MadeFrom

variable {l : List Int} {names : List String}

theorem nil (l : List Int) : MadeFrom l [] := ⟨[], rfl, List.nil_sublist l⟩

theorem concat (h : MadeFrom l names) (start : String) (n : Int) :
    MadeFrom (l ++ [n]) (names ++ [uniqueName start n]) := by
  obtain ⟨given, rfl, hl⟩ := h
  refine ⟨given ++ [(start, n)], by simp, ?_⟩
  rw [List.map_append]
  exact hl.append (.refl _)

theorem init {name : String} (h : MadeFrom l (names ++ [name])) : MadeFrom l names := by
  obtain ⟨given, hnames, hl⟩ := h
  obtain ⟨init, last, rfl, rfl, -⟩ := List.map_eq_append_iff.mp hnames.symm
  refine ⟨init, rfl, .trans ?_ hl⟩
  rw [List.map_append]
  exact List.sublist_append_left _ _

theorem nodup (h : MadeFrom l names) (hl : l.Pairwise (· < ·)) : names.Nodup := by
  obtain ⟨given, rfl, hsub⟩ := h
  have distinct : (given.map Prod.snd).Nodup := (hl.sublist hsub).imp Int.ne_of_lt
  refine (distinct.of_map _).map fun g g' hg => ?_
  obtain ⟨hs, hn⟩ := uniqueName_inj.mp hg
  exact Prod.ext hs hn

end MadeFrom

section NewNames

variable {a : Surroundings σ} {start name : String} {e : Fault} {o o' : Stamped σ}

theorem newName_numbers (h : a.stamped.newName start o = (.ok name, o')) :
    ∃ n, name = uniqueName start n ∧ numbers o'.1 = numbers o.1 ++ [n] := by
  obtain ⟨n, o₁, hn, h⟩ := bind_ok h
  cases h
  refine ⟨n, rfl, ?_⟩
  rw [noted_list hn]
  exact numbers_concat _ n

theorem newName_no_number (h : a.stamped.newName start o = (.error e, o')) :
    numbers o'.1 = numbers o.1 := by
  rcases hn : a.stamped.stamp o with ⟨d | n, o₁⟩
  · cases (bind_of_error hn).symm.trans h
    rw [noted_list hn]
    exact numbers_failed _ _
  · cases (bind_of_ok hn).symm.trans h

/-- Names made one after the other. -/
def Surroundings.newNames (a : Surroundings σ) : List String → Act σ (List String)
  | [] => pure []
  | start :: rest => do
    let name ← a.newName start
    let names ← a.newNames rest
    pure (name :: names)

theorem newNames_madeFrom {starts names before : List String}
    (h : a.stamped.newNames starts o = (.ok names, o')) (ho : MadeFrom (numbers o.1) before) :
    MadeFrom (numbers o'.1) (before ++ names) := by
  induction starts generalizing before names o with
  | nil =>
    cases h
    rw [List.append_nil]
    exact ho
  | cons start rest ih =>
    obtain ⟨name, o₁, hname, h⟩ := bind_ok h
    obtain ⟨names, o₂, hnames, h⟩ := bind_ok h
    cases h
    obtain ⟨n, rfl, hn⟩ := newName_numbers hname
    rw [List.append_cons]
    refine ih hnames ?_
    rw [hn]
    exact ho.concat start n

end NewNames

/-! Names that containers and copies were asked for under. -/

/-- The name of the container or the copy that a call asks for. -/
def Call.named? : Call ρ κ → Option String
  | .launch spec _ => some spec.name
  | .createCopy _ name _ => some name
  | _ => none

def namesOf (calls : List (Call ρ κ)) : List String := calls.filterMap Call.named?

theorem namesOf_concat (calls : List (Call ρ κ)) (c : Call ρ κ) :
    namesOf (calls ++ [c]) = namesOf calls ++ c.named?.toList := by
  rw [namesOf, List.filterMap_append]
  cases hc : c.named? <;> simp [hc, namesOf]

/-- No copy was asked for under the name that its own was made from. -/
def CopiesApart (calls : List (Call ρ κ)) : Prop :=
  ∀ h name r, .createCopy h name r ∈ calls → name ≠ h.logicalName

/-- All names that were asked for and those that still will be were made from numbers of their
own. -/
structure Owes (pending : List String) (o : Recorded ρ κ (Stamped σ)) : Prop where
  made : MadeFrom (numbers o.2.1) (namesOf o.1 ++ pending)
  apart : CopiesApart o.1

namespace Owes

variable {calls : List (Call ρ κ)} {readings : List (Except Fault Int)} {s s' : σ}
  {pending : List String} {name : String} {c : Call ρ κ}

/-- A name need not be used. -/
theorem forget {o : Recorded ρ κ (Stamped σ)} (h : Owes [name] o) : Owes [] o where
  made := by
    rw [List.append_nil]
    exact h.made.init
  apart := h.apart

theorem concat_apart (h : CopiesApart calls)
    (hc : ∀ hd n r, c = .createCopy hd n r → n ≠ hd.logicalName) : CopiesApart (calls ++ [c]) := by
  intro hd n r hm
  rcases List.mem_append.mp hm with hm | hm
  · exact h hd n r hm
  · exact hc hd n r (List.mem_singleton.mp hm).symm

theorem unnamed (h : Owes pending (calls, readings, s)) (hc : c.named? = none) :
    Owes pending (calls ++ [c], readings, s') where
  made := by
    rw [namesOf_concat, hc, Option.toList_none, List.append_nil]
    exact h.made
  apart := concat_apart h.apart fun hd n r he => by
    rw [he] at hc
    cases hc

theorem paid (h : Owes [name] (calls, readings, s)) (hc : c.named? = some name)
    (ha : ∀ hd n r, c = .createCopy hd n r → n ≠ hd.logicalName) :
    Owes [] (calls ++ [c], readings, s') where
  made := by
    rw [namesOf_concat, hc, List.append_nil]
    exact h.made
  apart := concat_apart h.apart ha

end Owes

/-- What stands behind an instance, with its calls recorded and the readings of the clock noted. -/
def Backing.stamped (b : Backing η ρ κ σ) : Backing η ρ κ (Recorded ρ κ (Stamped σ)) :=
  (⟨b.service.beside, b.runtime.beside, b.around.stamped⟩ : Backing η ρ κ (Stamped σ)).recorded

section Operations

variable {b : Backing η ρ κ σ} {a : Surroundings σ} {pending : List String}

theorem unnamed_owes (x : Act σ α) {note : Except Fault α → Call ρ κ}
    (hn : ∀ r, (note r).named? = none) :
    Keeps (Owes pending) ((Act.outside x : Act (Stamped σ) α).noted note) :=
  .noted fun _ _ hs => hs.unnamed (hn _)

theorem outside_owes (x : Act σ α) :
    Keeps (Owes pending : Recorded ρ κ (Stamped σ) → Prop) (Act.outside (Act.outside x)) :=
  fun _ hs => ⟨hs.made, hs.apart⟩

theorem newName_owes_ok {start name : String} {o o' : Recorded ρ κ (Stamped σ)}
    (h : (a.stamped.beside : Surroundings (Recorded ρ κ (Stamped σ))).newName start o =
      (.ok name, o')) (ho : Owes [] o) : Owes [name] o' ∧ name ≠ start := by
  rcases hn : a.stamped.newName start o.2 with ⟨r, t⟩
  cases (newName_beside _ _ o.1 hn).symm.trans h
  obtain ⟨n, rfl, hnumbers⟩ := newName_numbers hn
  refine ⟨⟨?_, ho.apart⟩, uniqueName_ne start n⟩
  have made := ho.made
  rw [List.append_nil] at made
  rw [hnumbers]
  exact made.concat start n

theorem newName_owes_error {start : String} {e : Fault} {o o' : Recorded ρ κ (Stamped σ)}
    (h : (a.stamped.beside : Surroundings (Recorded ρ κ (Stamped σ))).newName start o =
      (.error e, o')) (ho : Owes [] o) : Owes [] o' := by
  rcases hn : a.stamped.newName start o.2 with ⟨r, t⟩
  cases (newName_beside _ _ o.1 hn).symm.trans h
  refine ⟨?_, ho.apart⟩
  rw [newName_no_number hn]
  exact ho.made

/-- A name that is made on its own is used for nothing. -/
theorem newName_keeps_owes (start : String) :
    Keeps (Owes [] : Recorded ρ κ (Stamped σ) → Prop) (a.stamped.beside.newName start) := by
  intro o ho
  rcases hn : a.stamped.beside.newName start o with ⟨e | name, o'⟩
  · exact newName_owes_error hn ho
  · exact (newName_owes_ok hn ho).1.forget

theorem readying_owes (b : Backing η ρ κ σ) : b.stamped.KeepsReadying (Owes pending) where
  closeClient _ := unnamed_owes _ fun _ => rfl
  setTemplate _ _ := unnamed_owes _ fun _ => rfl
  terminate _ := unnamed_owes _ fun _ => rfl
  close := unnamed_owes _ fun _ => rfl
  write _ _ _ _ hs := ⟨hs.made, hs.apart⟩
  connectTo _ := unnamed_owes _ fun _ => rfl
  dropCopy _ := unnamed_owes _ fun _ => rfl
  probe _ := unnamed_owes _ fun _ => rfl
  scheduleExpiry _ _ := unnamed_owes _ fun _ => rfl
  endpoint _ _ := unnamed_owes _ fun _ => rfl
  sleep _ := outside_owes _

theorem cloneTemplate_owes (b : Backing η ρ κ σ) :
    Keeps (Owes [] ∘ Prod.snd) (cloneTemplate b.stamped) := by
  rintro ⟨f, o⟩ ho
  have copied (name : String) (t : Recorded ρ κ (Stamped σ))
      (hn : b.stamped.around.newName f.handle.logicalName o = (.ok name, t)) :
      Owes [] (b.stamped.service.createCopy f.handle name t).2 := by
    obtain ⟨owes, apart⟩ := newName_owes_ok hn ho
    refine owes.paid rfl fun hd n r he => ?_
    cases he
    exact apart
  rcases cloneTemplate_leads (K := Owes []) (readying_owes b).toKeepsServing (f := f) (s := o)
    (fun e t hn => newName_owes_error hn ho) copied with ⟨e, h⟩ | h
  · rw [h]
    exact ho
  · exact h

/-! Launches. -/

/-- What a service has launched carries the name that it was given. -/
def Service.LaunchesAs (s : Service η ρ κ σ) : Prop :=
  ∀ name o t spec t', s.launchSpec name o t = (.ok spec, t') → spec.name = name

/-- A specification is due to be launched under the name that was made for it. -/
theorem labelledSpec_owes {o : StartOptions η} {logicalName : String}
    {t t' : Recorded ρ κ (Stamped σ)} {r : Except Fault LaunchSpec} (hs : b.service.LaunchesAs)
    (h : labelledSpec b.stamped.around b.stamped.service o logicalName t = (r, t'))
    (ht : Owes [] t) : Owes (r.toOption.map LaunchSpec.name).toList t' := by
  rcases hn : b.stamped.around.newName logicalName t with ⟨e | name, t₁⟩
  · cases (bind_of_error hn).symm.trans h
    exact newName_owes_error hn ht
  have owes := (newName_owes_ok hn ht).1
  replace h := (bind_of_ok hn).symm.trans h
  rcases hx : b.service.launchSpec name o t₁.2.2 with ⟨q, t₂⟩
  have hspec : b.stamped.service.launchSpec name o t₁ =
      (q, (t₁.1 ++ [.launchSpec name q], t₁.2.1, t₂)) :=
    noted_of_eq _ _ (outside_of_eq _ hx)
  rcases q with e | spec
  · cases (bind_of_error hspec).symm.trans h
    exact (owes.unnamed rfl).forget
  obtain rfl := hs _ _ _ _ _ hx
  replace h := (bind_of_ok hspec).symm.trans h
  rw [read_bind] at h
  cases he : numScale.later (b.stamped.around.date
      (t₁.1 ++ [.launchSpec spec.name (.ok spec)], t₁.2.1, t₂)) o.timeout with
  | error e =>
    rw [he] at h
    cases h
    exact (owes.unnamed rfl).forget
  | ok expiry =>
    rw [he] at h
    cases h
    exact owes.unnamed rfl

theorem launchContainer_owes (hs : b.service.LaunchesAs) (o : StartOptions η)
    (logicalName : String) : Keeps (Owes []) (launchContainer b.stamped o logicalName) := by
  intro t ht
  rcases hl : labelledSpec b.stamped.around b.stamped.service o logicalName t with ⟨r, t₁⟩
  rcases r with e | spec
  · rw [launchContainer, bind_of_error hl]
    exact labelledSpec_owes hs hl ht
  · have owes : Owes [spec.name] t₁ := labelledSpec_owes hs hl ht
    rcases hx : b.runtime.launch spec t₁.2.2 with ⟨q, t₂⟩
    have hlaunch : b.stamped.runtime.launch spec t₁ =
        (q, (t₁.1 ++ [.launch spec q], t₁.2.1, t₂)) := noted_of_eq _ _ (outside_of_eq _ hx)
    have paid : Owes [] (t₁.1 ++ [.launch spec q], t₁.2.1, t₂) :=
      owes.paid rfl fun _ _ _ he => nomatch he
    rw [launchContainer, bind_of_ok hl, orRaise_apply, hlaunch]
    cases q <;> exact paid

theorem launchStep_owes (hs : b.service.LaunchesAs) (o : StartOptions η) (logicalName : String)
    (owned : Bool) : Keeps (Owes []) (launchStep b.stamped o logicalName owned) := by
  refine .onFault (.bind (unnamed_owes _ fun _ => rfl) fun _ => ?_) (.ite ?_ (.pure _))
  · exact launchContainer_owes hs o logicalName
  · exact (readying_owes b).close

end Operations

/-! Runs. -/

/-- A runtime whose calls are recorded. -/
def Runtime.stamped (r : Runtime ρ σ) : Runtime ρ (Recorded ρ κ (Stamped σ)) :=
  (r.beside : Runtime ρ (Stamped σ)).recorded

/-- A service whose calls are recorded. -/
def Service.stamped (s : Service η ρ κ σ) : Service η ρ κ (Recorded ρ κ (Stamped σ)) :=
  (s.beside : Service η ρ κ (Stamped σ)).recorded

/-- Starts in given surroundings, whose calls are recorded. -/
structure Provisioner.Stamps (p : Provisioner η ρ κ (Recorded ρ κ (Stamped σ)))
    (a : Surroundings σ) (new : Act σ (Runtime ρ σ)) : Prop where
  around : p.around = a.stamped.beside
  newRuntime : p.newRuntime = do
    let r ← Act.outside (Act.outside new)
    pure r.stamped

/-- What can be done in a run.  Instances of any services are started, used and closed on any
runtimes, names are made, and there is the rest of the world, in any order and one within the
other. -/
inductive Undertaking (η : Type) (a : Surroundings σ) :
    {α : Type} → EstateAct ρ κ (Recorded ρ κ (Stamped σ)) α → Prop
  | pure {α : Type} (x : α) : Undertaking η a (Pure.pure x)
  | fail {α : Type} (e : Fault) : Undertaking η a (Act.fail e : EstateAct _ _ _ α)
  | around {α : Type} (x : Act σ α) :
      Undertaking η a (Estate.around (Act.outside (Act.outside x)))
  | look {α : Type} (id : InstanceId) (f : Family ρ κ → α) :
      Undertaking η a (Estate.onFamily id (Act.read fun s => f s.1))
  | name (start : String) : Undertaking η a (Estate.around (a.stamped.beside.newName start))
  | promote (s : Service η ρ κ σ) (r : Runtime ρ σ) (id : InstanceId) :
      Undertaking η a (Estate.onFamily id (Testbed.promote (Backing.stamped ⟨s, r, a⟩)))
  | clone (s : Service η ρ κ σ) (r : Runtime ρ σ) (id : InstanceId) :
      Undertaking η a (Estate.onFamily id (cloneTemplate (Backing.stamped ⟨s, r, a⟩)))
  | close (s : Service η ρ κ σ) (r : Runtime ρ σ) (id : InstanceId) :
      Undertaking η a (Estate.onFamily id (closeInstance (Backing.stamped ⟨s, r, a⟩)))
  | closeClone (s : Service η ρ κ σ) (r : Runtime ρ σ) (id : InstanceId) (c : CloneId) :
      Undertaking η a (Estate.onFamily id (Testbed.closeClone (Backing.stamped ⟨s, r, a⟩) c))
  | start {p : Provisioner η ρ κ (Recorded ρ κ (Stamped σ))} {new : Act σ (Runtime ρ σ)}
      {s : Service η ρ κ σ} (o : StartOptions η) (runtime : Option (Runtime ρ σ))
      {register : Option (InstanceId → EstateAct ρ κ (Recorded ρ κ (Stamped σ)) Unit)} :
      p.Stamps a new → s.LaunchesAs →
      (∀ r hook id, Undertaking η a (p.runHook (Backing.stamped ⟨s, r, a⟩) hook id)) →
      (∀ f ∈ register, ∀ id, Undertaking η a (f id)) →
      Undertaking η a (Testbed.start p s.stamped o (runtime.map Runtime.stamped) register)
  | bind {α β : Type} {x : EstateAct ρ κ (Recorded ρ κ (Stamped σ)) α}
      {f : α → EstateAct ρ κ (Recorded ρ κ (Stamped σ)) β} : Undertaking η a x →
      (∀ y, Undertaking η a (f y)) → Undertaking η a (x >>= f)
  | caught {α : Type} {x : EstateAct ρ κ (Recorded ρ κ (Stamped σ)) α} : Undertaking η a x →
      Undertaking η a (Act.caught x)

theorem Undertaking.owes {a : Surroundings σ} {x : EstateAct ρ κ (Recorded ρ κ (Stamped σ)) α}
    (h : Undertaking η a x) : Keeps (Owes [] ∘ Estate.outside) x := by
  induction h with
  | pure x => exact .pure x
  | fail e => exact .fail e
  | around x => exact around_keeps (outside_owes x)
  | look id f => exact onFamily_keeps (.read _) id
  | name start => exact around_keeps (newName_keeps_owes start)
  | promote s r id =>
    exact onFamily_keeps (promote_keeps (readying_owes ⟨s, r, a⟩).toKeepsClosing) id
  | clone s r id => exact onFamily_keeps (cloneTemplate_owes ⟨s, r, a⟩) id
  | close s r id =>
    exact onFamily_keeps (closeInstance_keeps (readying_owes ⟨s, r, a⟩).toKeepsClosing) id
  | closeClone s r id c =>
    exact onFamily_keeps (closeClone_keeps (readying_owes ⟨s, r, a⟩).toKeepsServing c) id
  | @start p new s o runtime register hp hs _ _ hh hr =>
    have used {u : Runtime ρ (Recorded ρ κ (Stamped σ))}
        (hu : p.Uses (runtime.map Runtime.stamped) u) : ∃ r : Runtime ρ σ, u = r.stamped := by
      rcases hu with hu | ⟨-, t, t', hnew⟩
      · obtain ⟨r, -, rfl⟩ := Option.map_eq_some_iff.mp hu
        exact ⟨r, rfl⟩
      · rw [hp.newRuntime] at hnew
        obtain ⟨r, t₁, -, hnew⟩ := bind_ok hnew
        cases hnew
        exact ⟨r, rfl⟩
    refine start_keeps_of_used (fun _ => ?_) ?_ ?_ ?_ hr
    · rw [hp.newRuntime]
      exact .bind (outside_owes new) fun _ => .pure _
    all_goals
      intro u hu
      obtain ⟨r, rfl⟩ := used hu
      rw [hp.around]
    · exact fun logicalName => launchStep_owes (b := ⟨s, r, a⟩) hs o logicalName _
    · exact readying_owes ⟨s, r, a⟩
    · exact fun hook _ id => hh r hook id
  | bind _ _ hx hf => exact .bind hx hf
  | caught _ hx => exact hx

/-- When every reading of the clock is larger than the one before, names are given once.  Names
made one after the other are pairwise different, and so are the names under which a run asks for
containers and for copies of stores, whatever instances it starts and clones.  A copy is never
named like the instance that it was made from. -/
theorem names_distinct (η : Type) {ρ κ σ : Type} (a : Surroundings σ) :
    (∀ starts names s o, a.stamped.newNames starts ([], s) = (.ok names, o) →
      (numbers o.1).Pairwise (· < ·) → names.Nodup) ∧
    (∀ start n, uniqueName start n ≠ start) ∧
    ∀ {α : Type} (x : EstateAct ρ κ (Recorded ρ κ (Stamped σ)) α), Undertaking η a x →
      ∀ families s o, (x { families, outside := ([], [], s) }).2.outside = o →
        (numbers o.2.1).Pairwise (· < ·) → (namesOf o.1).Nodup ∧ CopiesApart o.1 := by
  refine ⟨fun starts names s o h ho => ?_, uniqueName_ne, ?_⟩
  · exact (newNames_madeFrom h (.nil _)).nodup ho
  · intro α x hx families s o h ho
    have owes := hx.owes { families, outside := ([], [], s) } ⟨.nil _, fun _ _ _ hm => nomatch hm⟩
    rw [Function.comp_apply, h] at owes
    have made := owes.made
    rw [List.append_nil] at made
    exact ⟨made.nodup ho, owes.apart⟩

/-! The services of the library launch under the names that they are given. -/

theorem Postgres.service_launchesAs (a : SqlAccess κ σ) (timeout : Int) (image : String) :
    (Postgres.service a timeout image : Service η ρ κ σ).LaunchesAs := by
  rintro name o t spec t' ⟨⟩
  rfl

theorem Search.service_launchesAs (a : NodeAccess σ) (n : NodeSetup) (timeout : Num)
    (wrap : NodeClient → κ) (unwrap : κ → Option NodeClient) :
    (Search.service a n timeout wrap unwrap : Service η ρ κ σ).LaunchesAs := by
  rintro name o t spec t' ⟨⟩
  rfl

namespace Postgres.Shelf

/-- Starts whose hook makes a template of the new instance and clones it. -/
def cloning : Provisioner Unit Unit Unit (Recorded Unit Unit (Stamped Shelf)) where
  around := around.stamped.beside
  newRuntime := do
    let r ← Act.outside (Act.outside (pure runtime))
    pure r.stamped
  runHook b _ id := do
    Estate.onFamily id (promote b)
    let _ ← Estate.onFamily id (cloneTemplate b)
  hookLabel _ := ""
  pollInterval := .int 1
  maxBackoff := .int 1
  furtherProbes := 10

/-- Starts an instance and clones it once. -/
def startCloned (logicalName : String) :
    EstateAct Unit Unit (Recorded Unit Unit (Stamped Shelf)) InstanceId :=
  start cloning (service access 8 "postgres").stamped
    { timeout := .int 30, logicalName := some logicalName, hooks := [()] } none none

theorem startCloned_undertaking (logicalName : String) :
    Undertaking Unit around (startCloned logicalName) :=
  have cloned (r : Runtime Unit Shelf) (hook : Unit) (id : InstanceId) :
      Undertaking Unit around (cloning.runHook
        (Backing.stamped ⟨service access 8 "postgres", r, around⟩) hook id) :=
    .bind (.promote _ _ _) fun _ => .bind (.clone _ _ _) fun _ => .pure _
  have stamps : cloning.Stamps around (pure runtime) := ⟨rfl, rfl⟩
  .start _ none stamps (service_launchesAs access 8 "postgres") cloned
    fun _ hf => nomatch hf

/-- Two instances, of which the second is called what a copy of the first could be called. -/
def twice : EstateAct Unit Unit (Recorded Unit Unit (Stamped Shelf)) InstanceId := do
  let _ ← startCloned "orders"
  startCloned "orders_000000002"

def afterTwice : Estate Unit Unit (Recorded Unit Unit (Stamped Shelf)) :=
  (twice { families := [], outside := ([], [], { databases := [], patience := 4 }) }).2

end Postgres.Shelf

open Postgres in
/-- Three names made in a row, and four in a run of two instances and their clones. -/
theorem names_distinct_of_twice :
    [uniqueName "db" 1, uniqueName "db_000000001" 2, uniqueName "db" 3].Nodup ∧
    namesOf Shelf.afterTwice.outside.1 = ["orders_000000001", "orders_000000002",
      "orders_000000002_000000003", "orders_000000002_000000004"] ∧
    (namesOf Shelf.afterTwice.outside.1).Nodup ∧ CopiesApart Shelf.afterTwice.outside.1 := by
  obtain ⟨inRow, -, inRun⟩ := names_distinct Unit (ρ := Unit) (κ := Unit) Shelf.around
  have ran : numbers Shelf.afterTwice.outside.2.1 = [1, 2, 3, 4] ∧
      namesOf Shelf.afterTwice.outside.1 = ["orders_000000001", "orders_000000002",
        "orders_000000002_000000003", "orders_000000002_000000004"] := by decide +kernel
  have increasing : (numbers Shelf.afterTwice.outside.2.1).Pairwise (· < ·) := by
    rw [ran.1]
    decide
  have run : Undertaking Unit Shelf.around Shelf.twice :=
    .bind (Shelf.startCloned_undertaking _) fun _ => Shelf.startCloned_undertaking _
  refine ⟨?_, ran.2, ?_⟩
  · exact inRow ["db", "db_000000001", "db"] _ { databases := [], patience := 0 }
      ([.ok 1, .ok 2, .ok 3], { databases := [], patience := 0, count := 3 }) rfl (by decide)
  · exact inRun Shelf.twice run [] { databases := [], patience := 4 } Shelf.afterTwice.outside
      (by rw [Shelf.afterTwice]) increasing

end Testbed
