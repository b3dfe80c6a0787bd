import Testbed.Proofs.Postgres.Requests
import Testbed.Proofs.Postgres.Vanished

/-!
# Databases of closed clones

Closing a clone drops its database.  The drop passes over some faults, which say that the server
could not be reached.  When there is no such fault, the database is gone once the clone is closed,
and since names are given only once it is gone for good.
-/

namespace Testbed.Postgres

set_option autoImplicit false

open Act

variable {η ρ κ σ N α : Type}

/-! Servers with databases. -/

def Statement.Creates (name : String) : Statement → Prop
  | .createDatabase n | .copyDatabase n _ => n = name
  | _ => False

/-- A property that is kept by whatever is done for an instance, unless it makes a database of a
forbidden name. -/
structure Keeping (a : SqlAccess κ σ) (r : Runtime ρ σ) (w : Surroundings σ)
    (forbidden : String → Prop) (I : σ → Prop) : Prop where
  connect : ∀ settings, Keeps I (a.connect settings)
  autocommit : ∀ c, Keeps I (a.autocommit c)
  execute : ∀ c x, (∀ name, x.Creates name → ¬ forbidden name) → Keeps I (a.execute c x)
  closeConnection : ∀ c, Keeps I (a.close c)
  noted : ∀ level topic text s, I s → I (a.diary.write level topic text s)
  terminate : ∀ c, Keeps I (r.terminate c)
  closeRuntime : Keeps I r.close
  stamp : Keeps I w.stamp
  written : ∀ level topic text s, I s → I (w.diary.write level topic text s)

/-- What is known of a server and of the numbers in names.  `Lacks` says of a state that there is no
database of a name, and `last` is the largest number so far.  Only a statement that makes a database
brings it about, a database that was dropped is not there any more, nor is one that a drop found to
be missing, and every number is larger than the numbers before it. -/
structure Serves (a : SqlAccess κ σ) (r : Runtime ρ σ) (w : Surroundings σ)
    (Lacks : String → σ → Prop) (last : σ → Int) : Prop where
  lacks : ∀ name, Keeping a r w (· = name) (Lacks name)
  dropped : ∀ name c s t s', a.execute c (.dropDatabase name) s = (.ok t, s') → Lacks name s'
  missing : ∀ name c s f s', a.execute c (.dropDatabase name) s = (.error f, s') →
    isSqlFault f = true → Subject.isDatabaseMissing (.fault f) = true → Lacks name s'
  counted : ∀ k, Keeping a r w (fun _ => False) (fun s => k ≤ last s)
  stamped : ∀ s n s', w.stamp s = (.ok n, s') → last s < n ∧ n ≤ last s'

def server (a : SqlAccess κ σ) (timeout : Int) (image : String) (r : Runtime ρ σ)
    (w : Surroundings σ) : Backing η ρ κ σ := ⟨service a timeout image, r, w⟩

section Keeping

variable {a : SqlAccess κ σ} {r : Runtime ρ σ} {w : Surroundings σ} {forbidden : String → Prop}
  {I J : σ → Prop}

theorem Keeping.mono (h : Keeping a r w forbidden I) {forbidden' : String → Prop}
    (hf : ∀ name, forbidden name → forbidden' name) : Keeping a r w forbidden' I :=
  { h with execute := fun c x hx => h.execute c x fun name hn hfn => hx name hn (hf name hfn) }

theorem Keeping.and (h : Keeping a r w forbidden I) (h' : Keeping a r w forbidden J) :
    Keeping a r w forbidden (fun s => I s ∧ J s) where
  connect settings s hs := ⟨h.connect settings s hs.1, h'.connect settings s hs.2⟩
  autocommit c s hs := ⟨h.autocommit c s hs.1, h'.autocommit c s hs.2⟩
  execute c x hx s hs := ⟨h.execute c x hx s hs.1, h'.execute c x hx s hs.2⟩
  closeConnection c s hs := ⟨h.closeConnection c s hs.1, h'.closeConnection c s hs.2⟩
  noted _ _ _ s hs := ⟨h.noted _ _ _ s hs.1, h'.noted _ _ _ s hs.2⟩
  terminate c s hs := ⟨h.terminate c s hs.1, h'.terminate c s hs.2⟩
  closeRuntime s hs := ⟨h.closeRuntime s hs.1, h'.closeRuntime s hs.2⟩
  stamp s hs := ⟨h.stamp s hs.1, h'.stamp s hs.2⟩
  written _ _ _ s hs := ⟨h.written _ _ _ s hs.1, h'.written _ _ _ s hs.2⟩

theorem Keeping.recorded (h : Keeping a r w forbidden I) :
    Keeping a.recorded r.beside w.beside forbidden (I ∘ Prod.snd) where
  connect settings := noted_keeps (h.connect settings) _
  autocommit c := noted_keeps (h.autocommit c) _
  execute c x hx := noted_keeps (h.execute c x hx) _
  closeConnection c := noted_keeps (h.closeConnection c) _
  noted _ _ _ s hs := h.noted _ _ _ s.2 hs
  terminate c := .outside (h.terminate c)
  closeRuntime := .outside h.closeRuntime
  stamp := .outside h.stamp
  written _ _ _ s hs := h.written _ _ _ s.2 hs

theorem noted_prefix {x : Act σ α} {note : Except Fault α → N} (l : List N) :
    Keeps (fun o : List N × σ => l <+: o.1) (x.noted note) :=
  .noted fun l' _ hl => hl.trans (List.prefix_append l' _)

/-- Requests are only added to those that were made. -/
theorem Keeping.requests (a : SqlAccess κ σ) (r : Runtime ρ σ) (w : Surroundings σ)
    (l : List (Request κ)) :
    Keeping a.recorded r.beside w.beside (fun _ => False) (fun o => l <+: o.1) where
  connect _ := noted_prefix l
  autocommit _ := noted_prefix l
  execute _ _ _ := noted_prefix l
  closeConnection _ := noted_prefix l
  noted _ _ _ _ hs := hs
  terminate _ _ hs := hs
  closeRuntime _ hs := hs
  stamp _ hs := hs
  written _ _ _ _ hs := hs

theorem Serves.recorded {Lacks : String → σ → Prop} {last : σ → Int}
    (h : Serves a r w Lacks last) :
    Serves a.recorded r.beside w.beside (fun name o => Lacks name o.2) (fun o => last o.2) where
  lacks name := (h.lacks name).recorded
  dropped name c o t o' hx := h.dropped name c o.2 t o'.2 (noted_result hx)
  missing name c o f o' hx := h.missing name c o.2 f o'.2 (noted_result hx)
  counted k := (h.counted k).recorded
  stamped o n o' hx := h.stamped o.2 n o'.2 (outside_result hx)

namespace Keeping

variable (h : Keeping a r w forbidden I)
include h

theorem openChecked (settings : Dsn.Settings) (timeout : Option Int) :
    Keeps I (a.openChecked settings timeout) := by
  refine .bind (h.connect _) fun c => .bind (h.autocommit c) fun _ => ?_
  have pinged : Keeps I (a.ping c) :=
    .bind (h.execute c .ping fun _ => False.elim) fun _ => .pure ()
  refine .bind pinged.attempt fun answered => ?_
  cases answered with
  | ok _ => exact .pure c
  | error e => exact .first (h.closeConnection c) fun _ => .fail e

theorem withMaintenance {body : κ → Act σ α} (timeout : Int) (dsn : String)
    (hb : ∀ c, Keeps I (body c)) : Keeps I (a.withMaintenance timeout dsn body) := by
  refine .bind (.ofExcept _) fun settings => .bind (h.openChecked _ _) fun c => ?_
  exact .bind (.onFault (hb c) (h.closeConnection c)) fun _ =>
    .bind (h.closeConnection c) fun _ => .pure _

theorem dropIfExists (timeout : Int) (dsn : String) : Keeps I (a.dropIfExists timeout dsn) := by
  refine .bind (.ofExcept _) fun name => ?_
  refine .bind (h.withMaintenance timeout dsn fun c => ?_) fun dropped => ?_
  · refine .bind (h.execute c _ fun _ => False.elim).attempt fun answered => ?_
    cases answered with
    | ok _ => exact .pure true
    | error e => exact .ite (.pure false) (.fail e)
  · exact .first (.update fun s => h.noted _ _ _ s) fun _ => .pure dropped

theorem dropCopy (timeout : Int) (info : ConnectionInfo) :
    Keeps I (dropCopy a timeout info) := by
  refine .bind (h.dropIfExists timeout info.dsn).attempt fun answered => ?_
  cases answered with
  | ok _ => exact .pure ()
  | error e => exact .ite (.update fun s => h.noted _ _ _ s) (.fail e)

theorem onClient (hd : Handle ρ κ) (x : Statement)
    (hx : ∀ name, x.Creates name → ¬ forbidden name) : Keeps I (onClient a hd x) := by
  unfold Postgres.onClient
  cases hd.client with
  | none => exact .fail _
  | some c => exact .bind (h.execute c x hx) fun _ => .pure ()

/-- Only making a clone makes a database. -/
theorem serving (timeout : Int) (image : String) :
    (server a timeout image r w : Backing η ρ κ σ).KeepsServing I where
  closeClient := h.closeConnection
  setTemplate hd _ := h.onClient hd _ fun _ => False.elim
  terminate := h.terminate
  close := h.closeRuntime
  write := h.written
  connectTo _ := .bind (.ofExcept _) fun settings => h.openChecked settings _
  dropCopy := h.dropCopy timeout

end Keeping

end Keeping

/-! The drop of a database. -/

section Drop

variable {a : SqlAccess κ σ} {r : Runtime ρ σ} {w : Surroundings σ}
  {Lacks : String → σ → Prop} {last : σ → Int}

/-- A database is not there once it was dropped, or once a drop found it to be missing. -/
theorem executeUnless_lacks (hs : Serves a r w Lacks last) {name : String} {c : κ} {d : Bool}
    {s s' : σ}
    (h : a.executeUnless c (.dropDatabase name) Subject.isDatabaseMissing s = (.ok d, s')) :
    Lacks name s' := by
  obtain ⟨answered, t, hx, h⟩ := bind_ok h
  have hx := attempt_ok hx
  cases answered with
  | ok rows =>
    cases h
    exact hs.dropped name c s rows _ hx
  | error e =>
    dsimp only at h
    split at h
    · next hm =>
      cases h
      rw [Bool.and_eq_true] at hm
      exact hs.missing name c s e _ hx hm.1 hm.2
    · cases h

theorem dropIfExists_lacks (hs : Serves a r w Lacks last) {timeout : Int} {dsn name : String}
    {d : Bool} {s s' : σ} (hn : databaseName dsn = .ok name)
    (h : a.dropIfExists timeout dsn s = (.ok d, s')) : Lacks name s' := by
  have keeping := hs.lacks name
  obtain ⟨name', s₁, hname, h⟩ := bind_ok h
  obtain ⟨hname, rfl⟩ := ofExcept_ok hname
  rw [hn] at hname
  cases hname
  obtain ⟨dropped, s₂, hmaintained, h⟩ := bind_ok h
  have lacks : Lacks name s₂ := by
    obtain ⟨settings, t, -, hm⟩ := bind_ok hmaintained
    obtain ⟨c, t₁, -, hm⟩ := bind_ok hm
    obtain ⟨d', t₂, hbody, hm⟩ := bind_ok hm
    obtain ⟨⟨⟩, t₃, hclosed, hm⟩ := bind_ok hm
    cases hm
    exact (keeping.closeConnection c).apply hclosed (executeUnless_lacks hs (onFault_ok hbody))
  cases dropped with
  | true =>
    cases h
    exact keeping.noted _ _ _ s₂ lacks
  | false =>
    cases h
    exact lacks

/-- None of some requests failed with a fault that the drop of a clone passes over. -/
def Calm (requests : List (Request κ)) : Prop :=
  ∀ q ∈ requests, ∀ f ∈ q.fault?, forgiven f = false

instance (requests : List (Request κ)) : Decidable (Calm requests) :=
  inferInstanceAs (Decidable (∀ q ∈ requests, ∀ f ∈ q.fault?, forgiven f = false))

theorem Calm.of_subset {l l' : List (Request κ)} (h : Calm l') (hl : l ⊆ l') : Calm l :=
  fun q hq => h q (hl hq)

theorem Calm.of_append {l l' requests : List (Request κ)} (h : Calm l') (hl : l' = l ++ requests) :
    Calm requests := h.of_subset (hl ▸ List.subset_append_right l requests)

/-- A drop that returns has dropped the database, unless it passed over a fault. -/
theorem dropCopy_lacks (hs : Serves a r w Lacks last) {timeout : Int} {info : ConnectionInfo}
    {name : String} {o o' : Logged κ σ} (hn : databaseName info.dsn = .ok name)
    (h : dropCopy a.recorded timeout info o = (.ok (), o')) :
    ∃ requests, o'.1 = o.1 ++ requests ∧ (Calm requests → Lacks name o'.2) := by
  have blames : Blames (fun _ => False) (a.recorded.dropIfExists timeout info.dsn) :=
    dropIfExists_blames a timeout info.dsn
  obtain ⟨result, requests, t, hd, blame⟩ := blames o.1 o.2
  rw [dropCopy] at h
  obtain ⟨answered, t', ha, h⟩ := bind_ok h
  have hd' := attempt_ok ha
  rw [hd] at hd'
  cases hd'
  cases result with
  | ok d =>
    cases h
    exact ⟨requests, rfl, fun _ => dropIfExists_lacks hs.recorded hn hd⟩
  | error e =>
    dsimp only at h
    split at h
    · next hf =>
      cases h
      refine ⟨requests, rfl, fun calm => ?_⟩
      -- the fault that was passed over is that of a request
      have operational : isOperational e = true := by
        rw [Bool.and_eq_true] at hf
        exact hf.1
      rcases blame e rfl operational with hk | ⟨q, hq, hqf⟩
      · exact hk.elim
      · have passed := calm q hq e hqf
        rw [forgiven, hf] at passed
        cases passed
    · cases h

end Drop

/-! Clones of a server. -/

section Clones

variable {a : SqlAccess κ σ} {r : Runtime ρ σ} {w : Surroundings σ} {timeout : Int}
  {image : String} {forbidden : String → Prop} {I : σ → Prop} {Lacks : String → σ → Prop}
  {last : σ → Int} {b : Backing η ρ κ σ} {m : Moment ρ κ (Recorded ρ κ σ)}

open Moment

/-- A clone is given a name, and from then on only a database of that name is made. -/
theorem cloneTemplate_keeping (hb : b = server a timeout image r w)
    (hk : Keeping a r w forbidden I) {f : Family ρ κ} {s : Recorded ρ κ σ}
    (hnew : ∀ named o, b.recorded.around.newName f.handle.logicalName s = (named, o) →
      I o.2 ∧ ∀ name, named = .ok name → ¬ forbidden name) :
    (∃ e, cloneTemplate b.recorded (f, s) = (.error e, (f, s))) ∨
      I (cloneTemplate b.recorded (f, s)).2.2.2 := by
  subst hb
  have serving : (server a timeout image r w : Backing η ρ κ σ).KeepsServing I :=
    hk.serving timeout image
  refine cloneTemplate_leads serving.recorded (fun e o hn => (hnew _ o hn).1) fun name o hn => ?_
  have copying : Keeps I (onClient a f.handle (.copyDatabase name f.handle.logicalName)) :=
    hk.onClient _ _ fun _ he => he ▸ (hnew _ o hn).2 name rfl
  exact noted_keeps copying _ o (hnew _ o hn).1

/-- What is kept unless a database of a forbidden name is made is kept by every section that gives
no such name. -/
theorem after_keeping (hb : b = server a timeout image r w) (hk : Keeping a r w forbidden I)
    (x : Section) (hm : I m.outside.2)
    (hnew : ∀ name o, b.recorded.around.newName m.family.handle.logicalName m.outside =
      (.ok name, o) → ¬ forbidden name) : I (m.after b.recorded x).outside.2 := by
  have serving : b.KeepsServing I := hb ▸ hk.serving timeout image
  have naming : Keeps (I ∘ Prod.snd) (b.recorded.around.newName m.family.handle.logicalName) := by
    subst hb
    exact .bind (.outside hk.stamp) fun _ => .pure _
  refine after_keeps_of_clone serving.recorded m x hm fun _ => ?_
  have made := cloneTemplate_keeping hb hk fun named o hn =>
    ⟨naming.apply hn hm, fun name he => hnew name o (he ▸ hn)⟩
  rcases made with ⟨e, he⟩ | made
  · rw [he]
    exact hm
  · exact made

/-- A new name carries a number that is larger than all numbers before it. -/
theorem newName_numbered (hb : b = server a timeout image r w) (hs : Serves a r w Lacks last)
    {start name : String} {o o' : Recorded ρ κ σ}
    (hn : b.recorded.around.newName start o = (.ok name, o')) :
    ∃ n, name = uniqueName start n ∧ last o.2 < n ∧ n ≤ last o'.2 := by
  subst hb
  obtain ⟨n, t, hstamp, hn⟩ := bind_ok hn
  cases hn
  exact ⟨n, rfl, hs.stamped o.2 n _ (outside_result hstamp)⟩

/-- A database of a name with a number that was given before is not made any more. -/
theorem after_lacks (hb : b = server a timeout image r w) (hs : Serves a r w Lacks last) {n : Int}
    (x : Section)
    (hm : Lacks (uniqueName m.family.handle.logicalName n) m.outside.2 ∧ n ≤ last m.outside.2) :
    Lacks (uniqueName m.family.handle.logicalName n) (m.after b.recorded x).outside.2 ∧
      n ≤ last (m.after b.recorded x).outside.2 := by
  have both := (hs.lacks (uniqueName m.family.handle.logicalName n)).and
    ((hs.counted n).mono nofun)
  refine after_keeping hb both x hm fun name o hn he => ?_
  obtain ⟨k, rfl, hk, -⟩ := newName_numbered hb hs hn
  have := uniqueName_injective _ he
  omega

theorem run_lacks (hb : b = server a timeout image r w) (hs : Serves a r w Lacks last) {n : Int}
    (xs : List Section)
    (hm : Lacks (uniqueName m.family.handle.logicalName n) m.outside.2 ∧ n ≤ last m.outside.2) :
    Lacks (uniqueName m.family.handle.logicalName n) (m.run b.recorded xs).outside.2 := by
  induction xs generalizing m with
  | nil => exact hm.1
  | cons x xs ih =>
    -- the statement speaks of the name of the instance, which a section leaves as it is
    have same := (after_server (b := b) (m := m) x).1.logicalName
    have after := ih (m := m.after b.recorded x)
    rw [same] at after
    exact after (after_lacks hb hs x hm)

def Numbered (last : σ → Int) (m : Moment ρ κ (Recorded ρ κ σ)) : Prop :=
  ∀ c ∈ m.family.clones, ∃ n, c.info.database = uniqueName m.family.handle.logicalName n ∧
    n ≤ last m.outside.2

theorem after_numbered (hb : b = server a timeout image r w) (hs : Serves a r w Lacks last)
    (x : Section) (hm : Numbered last m) : Numbered last (m.after b.recorded x) := by
  obtain ⟨same, clones⟩ := after_server (b := b) (m := m) x
  intro d hd
  rw [same.logicalName]
  have old (c : Clone κ) (hc : c ∈ m.family.clones) (he : d.info = c.info) :
      ∃ n, d.info.database = uniqueName m.family.handle.logicalName n ∧
        n ≤ last (m.after b.recorded x).outside.2 := by
    obtain ⟨n, hn, hle⟩ := hm c hc
    rw [he]
    exact ⟨n, hn, after_keeping hb (hs.counted n) x hle nofun⟩
  rcases clones d hd with ⟨c, hc, he⟩ | new
  · exact old c hc he
  · obtain ⟨t, hnamed⟩ := new.named
    obtain ⟨n, hname, -, hle⟩ := newName_numbered hb hs hnamed
    cases new.made
    have after := after_clone b.recorded m
    have made := cloneTemplate_keeping hb (hs.counted n) fun named o hn => by
      cases hn.symm.trans hnamed
      exact ⟨hle, nofun⟩
    rcases made with ⟨e, he⟩ | made
    -- a section that failed before the name was given has made no clone
    · rw [he] at after
      exact old d ((Prod.mk.inj after).1 ▸ hd) rfl
    · rw [← after] at made
      exact ⟨n, hname, made⟩

theorem run_numbered (hb : b = server a timeout image r w) (hs : Serves a r w Lacks last)
    (xs : List Section) (hm : Numbered last m) : Numbered last (m.run b.recorded xs) := by
  induction xs generalizing m with
  | nil => exact hm
  | cons x xs ih => exact ih (after_numbered hb hs x hm)

/-! What closing a clone drops. -/

theorem service_dropCopy (a : SqlAccess κ σ) (timeout : Int) (image : String)
    (info : ConnectionInfo) :
    (service a timeout image : Service η ρ κ σ).dropCopy info = dropCopy a timeout info := rfl

/-- Removing the store of a clone drops its database, unless that passes over a fault. -/
theorem dropStore_lacks (hs : Serves a r w Lacks last) {c : Clone κ} {name : String}
    {o o' : Recorded ρ κ (Logged κ σ)} (hn : databaseName c.info.dsn = .ok name)
    (hd : dropStore (service a.recorded timeout image : Service η ρ κ (Logged κ σ)).recorded c o =
      (.ok (), o')) :
    ∃ requests, o'.2.1 = o.2.1 ++ requests ∧ (Calm requests → Lacks name o'.2.2) := by
  obtain ⟨o₁, hclose, hdrop⟩ := dropStore_ok hd
  have closed : a.recorded.close c.client o.2 = (.ok (), o₁.2) := noted_result hclose
  have noted : o₁.2.1 = o.2.1 ++ [.close c.client (.ok ())] := noted_list closed
  have dropped : (service a.recorded timeout image : Service η ρ κ (Logged κ σ)).dropCopy c.info
      o₁.2 = (.ok (), o'.2) := noted_result hdrop
  rw [service_dropCopy] at dropped
  obtain ⟨requests, hr, lacks⟩ := dropCopy_lacks hs hn dropped
  refine ⟨.close c.client (.ok ()) :: requests, ?_, fun calm => lacks (calm.of_subset ?_)⟩
  · rw [hr, noted, List.append_assoc]
    rfl
  · exact List.subset_cons_self _ _

/-! Connection strings of clones. -/

theorem uniqueName_verbatim {host name : String} (hv : Dsn.Verbatim host name) (n : Int) :
    Dsn.Verbatim host (uniqueName name n) where
  toPlain := uniqueName_plain hv.toPlain n
  host_unslashed := hv.host_unslashed
  name_unescaped := not_mem_uniqueName hv.name_unescaped (by decide) (by decide) (by decide) n

theorem copied_names (hb : b.service = service a timeout image) {h : Handle ρ κ}
    (hv : Dsn.Verbatim h.host h.logicalName) {info : ConnectionInfo} (hc : b.Copied h info) :
    databaseName info.dsn = .ok info.database := by
  obtain ⟨port, n, settings, -, rfl, hread⟩ := copied_reads hb hc
  have names : settings.value "dbname" = uniqueName h.logicalName n :=
    Dsn.serverInfo_names (uniqueName_verbatim hv n) (uniqueName_ne_empty _ n)
      (parse_of_settingsOf hread)
  have named := databaseName_of_settings hread (names ▸ uniqueName_ne_empty _ n)
  rw [names] at named
  exact named

end Clones

open Moment

/-- Closing a clone that is open in any state of an instance: when it returns, and when its first
half is done, the database of the clone is gone, provided that no request on the way failed with a
fault that the drop passes over.  What is gone then is gone for good. -/
theorem closed_clone_dropped {a : SqlAccess κ σ} {r : Runtime ρ σ} {w : Surroundings σ}
    {Lacks : String → σ → Prop} {last : σ → Int} (hs : Serves a r w Lacks last) (timeout : Int)
    (image : String) (f : Family ρ κ) (s : σ) (xs : List Section) (hf : f.Fresh)
    (hv : Dsn.Verbatim f.handle.host f.handle.logicalName) :
    let b : Backing η ρ κ (Logged κ σ) := server a.recorded timeout image r.beside w.beside
    let m := (fresh f ([], s)).run b.recorded xs
    ∀ id c, m.family.clones[id]? = some c → c.closed = false →
      (∀ f' o, closeClone b.recorded id (m.family, m.outside) = (.ok (), (f', o)) →
        ∃ requests, o.2.1 = m.outside.2.1 ++ requests ∧
          (Calm requests → Lacks c.info.database o.2.2)) ∧
      let m' := m.after b.recorded (.retire id)
      m'.family.HasClosed id →
        ∃ requests, m'.outside.2.1 = m.outside.2.1 ++ requests ∧
          (Calm requests →
            ∀ ys, Lacks c.info.database (m'.run b.recorded ys).outside.2.2) := by
  intro b m id c hc ho
  have numbered : Numbered (fun o => last o.2) m := by
    refine run_numbered rfl hs.recorded xs fun c hc => ?_
    have hc : c ∈ f.clones := hc
    rw [hf.clones] at hc
    cases hc
  have named : databaseName c.info.dsn = .ok c.info.database :=
    copied_names rfl hv (run_copied hf _ xs c (List.mem_of_getElem? hc))
  refine ⟨fun f' o hclose => ?_, fun hclosed => ?_⟩
  · obtain ⟨o₁, hd, kept⟩ := closeClone_ok hc ho hclose
    obtain ⟨requests, hr, lacks⟩ := dropStore_lacks hs named hd
    -- releasing the clone makes no database, and adds to the requests at most
    have noted : o₁.2.1 <+: o.2.1 :=
      kept _ ((Keeping.requests a r w _).serving timeout image).recorded.toKeepsClosing
        (List.prefix_rfl)
    have lasting (hl : Lacks c.info.database o₁.2.2) : Lacks c.info.database o.2.2 :=
      kept _ ((hs.lacks _).recorded.serving timeout image).recorded.toKeepsClosing hl
    obtain ⟨more, hmore⟩ := noted
    refine ⟨requests ++ more, ?_, fun calm => lasting (lacks (calm.of_subset ?_))⟩
    · rw [← hmore, hr, List.append_assoc]
    · exact List.subset_append_left _ _
  · have hd := after_retire hc ho hclosed
    obtain ⟨requests, hr, lacks⟩ := dropStore_lacks hs named hd
    refine ⟨requests, hr, fun calm ys => ?_⟩
    obtain ⟨n, hn, hle⟩ := numbered c (List.mem_of_getElem? hc)
    have gone := lacks calm
    have same := (after_server (b := b) (m := m) (.retire id)).1.logicalName
    rw [hn, ← same] at gone ⊢
    refine run_lacks rfl hs.recorded ys ⟨gone, ?_⟩
    exact after_keeping rfl (hs.recorded.counted n) (.retire id) hle nofun

/-- A server with some databases, which answers a number of connection attempts and none after
them, and the last number of a name. -/
structure Shelf where
  databases : List String
  patience : Nat
  count : Int := 0

namespace Shelf

def timedOut : Fault := Fault.of (.sql (.group .operational) none "timeout expired")

def missing (name : String) : Fault :=
  Fault.of (.sql (.condition .invalidCatalogName) (some missingDatabaseCode)
    ("database " ++ quoteName name ++ " does not exist"))

def connect : Act Shelf Unit := fun s =>
  match s.patience with
  | 0 => (.error timedOut, s)
  | n + 1 => (.ok (), { s with patience := n })

def execute (x : Statement) : Act Shelf Bool := fun s =>
  match x with
  | .createDatabase name | .copyDatabase name _ =>
    (.ok false, { s with databases := name :: s.databases })
  | .dropDatabase name =>
    if name ∈ s.databases then
      (.ok false, { s with databases := s.databases.filter (· != name) })
    else (.error (missing name), s)
  | _ => (.ok true, s)

def stamp : Act Shelf Int := fun s => (.ok (s.count + 1), { s with count := s.count + 1 })

def diary : Diary Shelf := { write := fun _ _ _ s => s }

def access : SqlAccess Unit Shelf where
  connect _ := connect
  autocommit _ := pure ()
  execute _ := execute
  close _ := pure ()
  diary := diary

def runtime : Runtime Unit Shelf where
  ping := pure ()
  launch _ := pure ()
  scheduleExpiry _ _ := pure ()
  endpoint _ _ := pure "localhost:5432"
  terminate _ := pure ()
  close := pure ()

def around : Surroundings Shelf where
  clock := { now := fun _ => .int 0, sleep := fun _ => pure () }
  date _ := .int 0
  stamp := stamp
  diary := diary

theorem execute_lacks {name : String} {x : Statement} (hx : ¬ x.Creates name) :
    Keeps (fun s => name ∉ s.databases) (execute x) := by
  intro s hs
  cases x with
  | createDatabase other => exact List.not_mem_cons_of_ne_of_not_mem (fun he => hx he.symm) hs
  | copyDatabase other _ => exact List.not_mem_cons_of_ne_of_not_mem (fun he => hx he.symm) hs
  | dropDatabase other =>
    simp only [execute]
    split
    · exact fun hm => hs (List.mem_of_mem_filter hm)
    · exact hs
  | ping => exact hs
  | findDatabase _ => exact hs
  | markTemplate _ _ => exact hs

theorem execute_counts (k : Int) (x : Statement) : Keeps (fun s => k ≤ s.count) (execute x) := by
  intro s hs
  cases x with
  | dropDatabase other =>
    simp only [execute]
    split <;> exact hs
  | createDatabase _ => exact hs
  | copyDatabase _ _ => exact hs
  | ping => exact hs
  | findDatabase _ => exact hs
  | markTemplate _ _ => exact hs

theorem execute_drop {name : String} {s s' : Shelf} {result : Except Fault Bool}
    (h : execute (.dropDatabase name) s = (result, s')) : name ∉ s'.databases := by
  simp only [execute] at h
  split at h <;> cases h
  · exact fun hm => by simpa using (List.mem_filter.mp hm).2
  · assumption

/-- What does not depend on the attempts and is kept by statements is kept by everything. -/
theorem keeping {forbidden : String → Prop} {I : Shelf → Prop}
    (hattempts : ∀ s n, I s → I { s with patience := n })
    (hcount : ∀ s, I s → I { s with count := s.count + 1 })
    (hexecute : ∀ x : Statement, (∀ name, x.Creates name → ¬ forbidden name) →
      Keeps I (execute x)) : Keeping access runtime around forbidden I where
  connect _ s hs := by
    change I (connect s).2
    unfold connect
    split
    · exact hs
    · exact hattempts s _ hs
  autocommit _ := .pure ()
  execute _ x hx := hexecute x hx
  closeConnection _ := .pure ()
  noted _ _ _ _ hs := hs
  terminate _ := .pure ()
  closeRuntime := .pure ()
  stamp := hcount
  written _ _ _ _ hs := hs

theorem serves : Serves access runtime around (fun name s => name ∉ s.databases) Shelf.count where
  lacks name := keeping (fun _ _ hs => hs) (fun _ hs => hs) fun x hx =>
    execute_lacks fun hn => hx name hn rfl
  dropped _ _ _ _ _ hx := execute_drop hx
  missing _ _ _ _ _ hx _ _ := execute_drop hx
  counted k := keeping (fun _ _ hs => hs)
    (fun s hs => le_trans hs (Int.le_of_lt (Int.lt_succ s.count))) fun x _ => execute_counts k x
  stamped s n s' hx := by
    cases hx
    exact ⟨Int.lt_succ _, le_refl _⟩

def family : Family Unit Unit where
  handle := {
    container := (), endpoint := "localhost:5432", logicalName := "orders"
    client := some (), isTemplate := true }

def backing : Backing Unit Unit Unit (Logged Unit Shelf) :=
  server access.recorded 8 "postgres" runtime.beside around.beside

/-- A template of which one clone was made, on a server that answers some connection attempts. -/
def cloned (patience : Nat) : Moment Unit Unit (Recorded Unit Unit (Logged Unit Shelf)) :=
  (fresh family ([], { databases := ["orders"], patience })).run backing.recorded [.clone]

def closed (patience : Nat) :
    Except Fault Unit × Family Unit Unit × Recorded Unit Unit (Logged Unit Shelf) :=
  closeClone backing.recorded 0 ((cloned patience).family, (cloned patience).outside)

def retired (patience : Nat) : Moment Unit Unit (Recorded Unit Unit (Logged Unit Shelf)) :=
  (cloned patience).after backing.recorded (.retire 0)

theorem family_verbatim : Dsn.Verbatim family.handle.host family.handle.logicalName where
  host_nonzero := by decide +kernel
  host_bracketed := .of_not_mem (by decide +kernel)
  name_nonzero := by decide
  host_unslashed := by decide +kernel
  name_unescaped := by decide

end Shelf

/-- On a server that answers, the database of the clone is gone once the clone is closed. -/
theorem closed_clone_dropped_in_time :
    ∃ c, (Shelf.cloned 2).family.clones[0]? = some c ∧ (Shelf.closed 2).1.isOk = true ∧
      c.info.database ∉ (Shelf.closed 2).2.2.2.2.databases ∧
      ∀ ys, c.info.database ∉
        ((Shelf.retired 2).run Shelf.backing.recorded ys).outside.2.2.databases := by
  obtain ⟨made, opened⟩ : (Shelf.cloned 2).family.clones[0]?.isSome = true ∧
      ∀ c ∈ (Shelf.cloned 2).family.clones[0]?, c.closed = false := by decide +kernel
  obtain ⟨returned, calm⟩ : (Shelf.closed 2).1.isOk = true ∧ Calm (Shelf.closed 2).2.2.2.1 := by
    decide +kernel
  obtain ⟨retired, quiet⟩ : (Shelf.retired 2).family.HasClosed 0 ∧
      Calm (Shelf.retired 2).outside.2.1 := by decide +kernel
  obtain ⟨c, hc⟩ := Option.isSome_iff_exists.mp made
  obtain ⟨dropped, lasting⟩ := closed_clone_dropped Shelf.serves 8 "postgres" Shelf.family
    { databases := ["orders"], patience := 2 } [.clone] ⟨rfl, rfl, rfl, rfl⟩
    Shelf.family_verbatim 0 c hc (opened c hc)
  refine ⟨c, hc, returned, ?_, ?_⟩
  · rcases hx : Shelf.closed 2 with ⟨e | ⟨⟩, f', o⟩ <;> rw [hx] at returned calm
    · cases returned
    · obtain ⟨requests, hr, lacks⟩ := dropped f' o hx
      exact lacks (calm.of_append hr)
  · obtain ⟨requests, hr, lacks⟩ := lasting retired
    exact lacks (quiet.of_append hr)

/-- On a server that lets an attempt to connect time out, closing a clone returns and the clone
counts as closed, but its database stays, and so does the container. -/
theorem closed_clone_kept_on_timeout :
    ∃ c, (Shelf.cloned 1).family.clones[0]? = some c ∧ c.closed = false ∧
      (Shelf.closed 1).1.isOk = true ∧ (Shelf.closed 1).2.1.HasClosed 0 ∧
      ends (Shelf.closed 1).2.2.1 = 0 ∧
      c.info.database ∈ (Shelf.closed 1).2.2.2.2.databases := by
  obtain ⟨made, found⟩ : (Shelf.cloned 1).family.clones[0]?.isSome = true ∧
      ∀ c ∈ (Shelf.cloned 1).family.clones[0]?, c.closed = false ∧
        (Shelf.closed 1).1.isOk = true ∧ (Shelf.closed 1).2.1.HasClosed 0 ∧
        ends (Shelf.closed 1).2.2.1 = 0 ∧
        c.info.database ∈ (Shelf.closed 1).2.2.2.2.databases := by decide +kernel
  obtain ⟨c, hc⟩ := Option.isSome_iff_exists.mp made
  exact ⟨c, hc, found c hc⟩

end Testbed.Postgres
