import Testbed.Proofs.Dsn.Address
import Testbed.Proofs.Start.Naming

/-!
# Where a container is reached

A port of a container may be published some time after its launch.  It is looked for in a number of
inspections, with a sleep after each that did not show it.  The first port of the host that an
inspection shows is the port of the instance, and its host is that of the engine.
-/

namespace Testbed

set_option autoImplicit false

open Act Engine

variable {ρ κ σ : Type}

/-! What an inspection shows. -/

/-- An entry of a dictionary, which may be left out or null. -/
inductive Holds (name : String) : Option Value → Value → Prop
  | absent {es : List (String × Value)} : Entries.get? name es = none → Holds name none (.dict es)
  | null {es : List (String × Value)} :
      Entries.get? name es = some .null → Holds name none (.dict es)
  | given {es : List (String × Value)} {v : Value} :
      Entries.get? name es = some v → Holds name (some v) (.dict es)

def IsNumeral (text : String) : Prop := text.toList ≠ [] ∧ ∀ c ∈ text.toList, c.isDigit = true

/-- A binding names a port of the host, or none yet. -/
inductive Binds : Option String → Value → Prop
  | unset {binding : Value} : Holds "HostPort" none binding → Binds none binding
  | empty {binding : Value} : Holds "HostPort" (some (.text "")) binding → Binds none binding
  | port {binding : Value} {digits : String} : Holds "HostPort" (some (.text digits)) binding →
      IsNumeral digits → Binds (some digits) binding

/-- The bindings of a port that an inspection shows. -/
inductive Shows (port : String) : List (Option String) → Value → Prop
  | unconnected {attributes : Value} : Holds "NetworkSettings" none attributes →
      Shows port [] attributes
  | portless {attributes network : Value} : Holds "NetworkSettings" (some network) attributes →
      Holds "Ports" none network → Shows port [] attributes
  | unbound {attributes network ports : Value} :
      Holds "NetworkSettings" (some network) attributes → Holds "Ports" (some ports) network →
      Holds port none ports → Shows port [] attributes
  | bound {attributes network ports : Value} {bindings : List Value}
      {hostPorts : List (Option String)} :
      Holds "NetworkSettings" (some network) attributes → Holds "Ports" (some ports) network →
      Holds port (some (.list bindings)) ports → List.Forall₂ Binds hostPorts bindings →
      Shows port hostPorts attributes

section Shown

variable {name port : String} {v? : Option Value} {v : Value}

theorem Holds.entry (h : Holds name v? v) :
    Engine.entry v name = .ok (v?.elim .null fun w => if w.isVacant then .null else w) := by
  cases h with
  | absent h => simp only [Engine.entry, h, Option.elim]
  | null h => simp [Engine.entry, h, Value.isVacant]
  | given h => simp only [Engine.entry, h, Option.elim]

theorem Holds.orEmpty (h : Holds name v? v) :
    Engine.orEmpty (if v.isVacant then .null else v) = v := by
  have dict (es : List (String × Value)) :
      Engine.orEmpty (if (Value.dict es).isVacant then .null else .dict es) = .dict es := by
    cases es <;> rfl
  cases h <;> exact dict _

theorem items_list (vs : List Value) :
    items (if (Value.list vs).isVacant then .null else .list vs) = .ok vs := by
  cases vs <;> rfl

theorem hostPorts_null {b : Value} {rest : List Value} {shown : List String}
    (hb : entry b "HostPort" = .ok .null) (hr : hostPorts rest = .ok shown) :
    hostPorts (b :: rest) = .ok shown := by
  rw [hostPorts, hb, hr]
  rfl

theorem hostPorts_text {b : Value} {rest : List Value} {shown : List String} {digits : String}
    (hb : entry b "HostPort" = .ok (.text digits)) (hr : hostPorts rest = .ok shown) :
    hostPorts (b :: rest) = .ok (digits :: shown) := by
  rw [hostPorts, hb, hr]
  rfl

theorem Binds.hostPorts {found : List (Option String)} {bindings : List Value}
    (h : List.Forall₂ Binds found bindings) :
    Engine.hostPorts bindings = .ok found.reduceOption := by
  induction h with
  | nil => rfl
  | cons hb _ ih =>
    cases hb with
    | unset hb => exact hostPorts_null hb.entry ih
    | empty hb => exact hostPorts_null hb.entry ih
    | @port _ digits hb hd =>
      refine hostPorts_text (hb.entry.trans ?_) ih
      have given : ¬ (Value.text digits).isVacant = true := by
        simpa [Value.isVacant] using hd.1
      exact congrArg Except.ok (if_neg given)

/-- What the bindings of a port name is what the engine reads. -/
theorem Shows.published {found : List (Option String)} {attributes : Value}
    (h : Shows port found attributes) :
    Engine.published attributes port = .ok found.reduceOption := by
  cases h with
  | unconnected hn =>
    rw [Engine.published, hn.entry]
    rfl
  | portless hn hp =>
    rw [Engine.published, hn.entry]
    simp only [bind, Except.bind, Option.elim, hp.orEmpty, hp.entry]
    rfl
  | unbound hn hp hb =>
    rw [Engine.published, hn.entry]
    simp only [bind, Except.bind, Option.elim, hp.orEmpty, hp.entry, hb.orEmpty, hb.entry]
    rfl
  | bound hn hp hb hs =>
    rw [Engine.published, hn.entry]
    simp only [bind, Except.bind, Option.elim, hp.orEmpty, hp.entry, hb.orEmpty, hb.entry,
      items_list]
    exact Binds.hostPorts hs

end Shown

/-! Searches. -/

/-- An inspection of a container or a sleep, with how it ended. -/
inductive Glance where
  | inspected (container : Container) (result : Except Fault Value)
  | slept (seconds : Num) (result : Except Fault Unit)

/-- The engine with its inspections and sleeps noted. -/
def Engine.watched (e : Engine σ) : Engine (List Glance × σ) where
  number := e.number
  hostname := e.hostname
  daemon := {
    ping := Act.outside e.daemon.ping
    run := fun spec => Act.outside (e.daemon.run spec)
    inspect := fun c => (e.daemon.inspect c).noted (.inspected c)
    remove := fun c => Act.outside (e.daemon.remove c)
    list := Act.outside e.daemon.list
    close := Act.outside e.daemon.close }
  board := {
    get := fun s => e.board.get s.2
    set := fun b s => (s.1, e.board.set b s.2)
    get_set := fun b s => e.board.get_set b s.2
    set_set := fun a b s => by rw [e.board.set_set] }
  startTimer seconds := Act.outside (e.startTimer seconds)
  around := { (e.around.beside : Surroundings (List Glance × σ)) with
    clock := {
      now := fun s => e.around.clock.now s.2
      sleep := fun n => (e.around.clock.sleep n).noted (.slept n) } }

/-- The daemon tells of a container or raises a fault of its own, and sleeps end. -/
structure Engine.Tells (e : Engine σ) (c : Container) (port : String) : Prop where
  inspect : ∀ s, (∃ attributes found, (e.daemon.inspect c s).1 = .ok attributes ∧
      Shows port found attributes) ∨
    ∃ f, (e.daemon.inspect c s).1 = .error f ∧ f.isDaemonFault = true
  sleep : ∀ s, (e.around.clock.sleep (.real 0.2) s).1 = .ok ()

/-- An inspection that shows no port of the host. -/
def ShowsNone (port : String) (attributes : Value) : Prop :=
  ∃ found, Shows port found attributes ∧ found.reduceOption = []

/-- How a search ends that has a number of inspections left, with what is done last. -/
inductive SearchEnd (e : Engine σ) (c : Container) (port : String) :
    Nat → List Glance → Except Fault String → Prop
  | givenUp : SearchEnd e c port 0 [] (.error (notPublished c port))
  | found {left : Nat} {attributes : Value} {found : List (Option String)} {digits : String}
      {others : List String} : Shows port found attributes → found.reduceOption = digits :: others →
      SearchEnd e c port (left + 1) [.inspected c (.ok attributes)]
        (.ok (Endpoint.join e.hostname digits))
  | refused {left : Nat} {f : Fault} : f.isDaemonFault = true →
      SearchEnd e c port (left + 1) [.inspected c (.error f)] (.error (cannotInspect c f))

/-- An inspection and the sleep after it. -/
def Glance.round (c : Container) (attributes : Value) : List Glance :=
  [.inspected c (.ok attributes), .slept (.real 0.2) (.ok ())]

/-- A search that has a number of inspections left. -/
inductive Searching (e : Engine σ) (c : Container) (port : String) :
    Nat → List Glance → Except Fault String → Prop
  | ended {left : Nat} {last : List Glance} {r : Except Fault String} :
      SearchEnd e c port left last r → Searching e c port left last r
  | again {left : Nat} {attributes : Value} {glances : List Glance} {r : Except Fault String} :
      ShowsNone port attributes → Searching e c port left glances r →
      Searching e c port (left + 1) (Glance.round c attributes ++ glances) r

theorem Fault.isOrdinary_of_daemon {f : Fault} (h : f.isDaemonFault = true) :
    f.isOrdinary = true := by
  rw [Fault.isDaemonFault] at h
  rw [Fault.isOrdinary]
  split at h
  · next hf => rw [hf]; rfl
  · cases h

namespace Engine

variable {e : Engine σ} {c : Container} {port : String} {n : Nat} {s t u : σ}
  {attributes : Value}

theorem findEndpoint_of_found {digits : String} {others : List String}
    (hi : e.daemon.inspect c s = (.ok attributes, t))
    (hp : published attributes port = .ok (digits :: others)) :
    e.findEndpoint c port (n + 1) s = (.ok (Endpoint.join e.hostname digits), t) := by
  rw [findEndpoint, bind_of_ok (attempt_of_ok hi)]
  simp only [hp]
  rfl

theorem findEndpoint_of_none (hi : e.daemon.inspect c s = (.ok attributes, t))
    (hp : published attributes port = .ok [])
    (hs : e.around.clock.sleep (.real 0.2) t = (.ok (), u)) :
    e.findEndpoint c port (n + 1) s = e.findEndpoint c port n u := by
  rw [findEndpoint, bind_of_ok (attempt_of_ok hi)]
  simp only [hp]
  exact bind_of_ok hs

theorem findEndpoint_of_refused {f : Fault} (hi : e.daemon.inspect c s = (.error f, t))
    (hf : f.isDaemonFault = true) :
    e.findEndpoint c port (n + 1) s = (.error (cannotInspect c f), t) := by
  rw [findEndpoint,
    bind_of_ok (attempt_of_ordinary hi (Fault.isOrdinary_of_daemon hf))]
  simp only [hf, if_true]
  rfl

theorem findEndpoint_searches (he : e.Tells c port) (n : Nat) (l : List Glance) (s : σ) :
    ∃ glances r t, e.watched.findEndpoint c port n (l, s) = (r, (l ++ glances, t)) ∧
      Searching e c port n glances r := by
  induction n generalizing l s with
  | zero => exact ⟨[], _, s, by rw [List.append_nil]; rfl, .ended .givenUp⟩
  | succ n ih =>
    rcases hi : e.daemon.inspect c s with ⟨result, t⟩
    have hw : e.watched.daemon.inspect c (l, s) = (result, (l ++ [.inspected c result], t)) :=
      noted_of_eq _ l hi
    have told := he.inspect s
    rw [hi] at told
    rcases told with ⟨attributes, found, rfl, hshows⟩ | ⟨f, rfl, hf⟩
    · cases hfound : found.reduceOption with
      | cons digits others =>
        exact ⟨_, _, t, findEndpoint_of_found hw (hshows.published.trans (by rw [hfound])),
          .ended (.found hshows hfound)⟩
      | nil =>
        rcases hs : e.around.clock.sleep (.real 0.2) t with ⟨q, u⟩
        have hq := he.sleep t
        rw [hs] at hq
        cases hq
        have hz : e.watched.around.clock.sleep (.real 0.2)
            (l ++ [.inspected c (.ok attributes)], t) = (.ok (), (_, u)) := noted_of_eq _ _ hs
        obtain ⟨glances, r, t', hrun, hsearch⟩ := ih _ u
        refine ⟨_, r, t', ?_, .again ⟨found, hshows, hfound⟩ hsearch⟩
        rw [findEndpoint_of_none hw (hshows.published.trans (by rw [hfound])) hz, hrun]
        simp only [Glance.round, List.append_assoc, List.cons_append, List.nil_append]
    · exact ⟨_, _, t, findEndpoint_of_refused hw hf, .ended (.refused hf)⟩

end Engine

/-- Only the last inspection of a search is not followed by a sleep. -/
theorem Searching.split {e : Engine σ} {c : Container} {port : String} {n : Nat}
    {glances : List Glance} {r : Except Fault String} (h : Searching e c port n glances r) :
    ∃ (empty : List Value) (last : List Glance) (left : Nat),
      glances = empty.flatMap (Glance.round c) ++ last ∧
      (∀ attributes ∈ empty, ShowsNone port attributes) ∧ empty.length + left = n ∧
      SearchEnd e c port left last r := by
  induction h with
  | @ended left last r h => exact ⟨[], last, left, rfl, nofun, Nat.zero_add _, h⟩
  | @again left attributes glances r hnone _ ih =>
    obtain ⟨empty, last, left', rfl, hempty, hn, hend⟩ := ih
    refine ⟨attributes :: empty, last, left', ?_, List.forall_mem_cons.mpr ⟨hnone, hempty⟩, ?_,
      hend⟩
    · rw [List.flatMap_cons, List.append_assoc]
    · rw [List.length_cons, Nat.add_right_comm, hn]

theorem IsNumeral.colon_not_mem {digits : String} (h : IsNumeral digits) :
    ':' ∉ digits.toList := fun hm => absurd (h.2 ':' hm) (by decide)

theorem Binds.numeral {found : List (Option String)} {bindings : List Value} {digits : String}
    (h : List.Forall₂ Binds found bindings) (hd : digits ∈ found.reduceOption) :
    IsNumeral digits := by
  rw [List.reduceOption_mem_iff] at hd
  induction h with
  | nil => cases hd
  | cons hb _ ih =>
    rcases List.mem_cons.mp hd with rfl | hd
    · cases hb
      assumption
    · exact ih hd

theorem Shows.numeral {port : String} {found : List (Option String)} {attributes : Value}
    {digits : String} (h : Shows port found attributes) (hd : digits ∈ found.reduceOption) :
    IsNumeral digits := by
  cases h with
  | bound _ _ _ hs => exact Binds.numeral hs hd
  | unconnected _ => cases hd
  | portless _ _ => cases hd
  | unbound _ _ _ => cases hd

theorem Endpoint.join_right_injective (host : String) : Function.Injective (join host) := by
  intro port port' h
  have hl := congrArg String.toList h
  rw [toList_join, toList_join] at hl
  exact String.toList_injective (List.cons_inj_right _ |>.mp (List.append_cancel_left hl))

/-- What an instance makes of an endpoint with a port of digits. -/
theorem Handle.of_join {h : Handle ρ κ} {host digits : String}
    (he : h.endpoint = Endpoint.join host digits) (hd : IsNumeral digits) :
    h.host = host ∧ h.port = if digits.toList.length ≤ Parse.digitLimit
      then .ok ↑(Parse.natOf digits.toList) else .error (Numeral.badWhole digits) := by
  constructor
  · rw [Handle.host, he, Endpoint.host_join hd.colon_not_mem]
  · rw [Handle.port, he, Endpoint.port_join hd.colon_not_mem, Numeral.whole_digits hd.1 hd.2]

/-- A port is looked for in inspections that are each followed by a sleep, until one shows it, one
is refused or none is left.  A fault names the step exactly in the last two cases.  An instance with
the endpoint that was found is on the host of the engine and on the first port that was shown, as
long as that has no more digits than a number may be written with. -/
theorem endpoint_found {e : Engine σ} {c : Container} {port : String} (he : e.Tells c port)
    (n : Nat) (s : σ) :
    ∃ (empty : List Value) (last : List Glance) (left : Nat) (r : Except Fault String) (t : σ),
      e.watched.findEndpoint c port n ([], s) =
        (r, (empty.flatMap (Glance.round c) ++ last, t)) ∧
      (∀ attributes ∈ empty, ShowsNone port attributes) ∧ empty.length + left = n ∧
      SearchEnd e c port left last r ∧
      ((∃ d, r = .error d ∧ d.step? = some .endpoint) ↔
        (∃ f, last = [.inspected c (.error f)]) ∨ left = 0) ∧
      ∀ h : Handle ρ κ, r = .ok h.endpoint → ∃ attributes found digits others,
        last = [.inspected c (.ok attributes)] ∧ Shows port found attributes ∧
        found.reduceOption = digits :: others ∧ h.endpoint = Endpoint.join e.hostname digits ∧
        h.host = e.hostname ∧ h.port = if digits.toList.length ≤ Parse.digitLimit
          then .ok ↑(Parse.natOf digits.toList) else .error (Numeral.badWhole digits) := by
  obtain ⟨glances, r, t, hrun, hsearch⟩ := findEndpoint_searches he n [] s
  obtain ⟨empty, last, left, rfl, hempty, hn, hend⟩ := hsearch.split
  refine ⟨empty, last, left, r, t, hrun, hempty, hn, hend, ?_, fun h hr => ?_⟩
  · cases hend with
    | givenUp => exact ⟨fun _ => .inr rfl, fun _ => ⟨_, rfl, rfl⟩⟩
    | found _ _ => simp
    | refused _ => exact ⟨fun _ => .inl ⟨_, rfl⟩, fun _ => ⟨_, rfl, rfl⟩⟩
  · cases hend with
    | givenUp => cases hr
    | refused _ => cases hr
    | @found left attributes found digits others hshows hfound =>
      have hd : IsNumeral digits := hshows.numeral (by rw [hfound]; exact List.mem_cons_self)
      have he := (Except.ok.inj hr).symm
      exact ⟨attributes, found, digits, others, rfl, hshows, hfound, he, Handle.of_join he hd⟩

/-! A daemon that takes its time. -/

namespace Slow

/-- What is told of a container with one binding of its port. -/
def attributes (hostPort : Value) : Value :=
  .dict [("NetworkSettings", .dict [("Ports", .dict
    [("5432/tcp", .list [.dict [("HostIp", .text "::"), ("HostPort", hostPort)]])])])]

/-- What an inspection shows when the port is published after a number of others. -/
def told (digits : String) : Nat → Value
  | 0 => attributes (.text digits)
  | 1 => attributes (.text "")
  | _ + 2 => attributes .null

/-- An engine on which a port is published after a number of inspections. -/
def engine (digits : String) : Engine (ExpiryBoard × Nat) where
  number := 0
  hostname := "[fe80::1]"
  daemon := {
    ping := pure ()
    run := fun spec => pure { id := "orders", name := spec.name }
    inspect := fun _ s => (.ok (told digits s.2), s.1, s.2 - 1)
    remove := fun _ => pure ()
    list := pure []
    close := pure () }
  board := { get := Prod.fst, set := fun b s => (b, s.2) }
  startTimer _ := pure 0
  around := {
    clock := { now := fun _ => .int 0, sleep := fun _ => pure () }
    date := fun _ => .int 0
    stamp := pure 0
    diary := { write := fun _ _ _ s => s } }

def container : Container := { id := "orders", name := "orders" }

theorem shows {hostPort : Value} {hostPort? : Option String}
    (h : Binds hostPort? (.dict [("HostIp", .text "::"), ("HostPort", hostPort)])) :
    Shows "5432/tcp" [hostPort?] (attributes hostPort) :=
  .bound (.given rfl) (.given rfl) (.given rfl) (.cons h .nil)

theorem shows_port {digits : String} (hd : IsNumeral digits) :
    Shows "5432/tcp" [some digits] (told digits 0) := shows (.port (.given rfl) hd)

theorem shows_none (digits : String) (n : Nat) : Shows "5432/tcp" [none] (told digits (n + 1)) := by
  cases n with
  | zero => exact shows (.empty (.given rfl))
  | succ n => exact shows (.unset (.null rfl))

theorem tells {digits : String} (hd : IsNumeral digits) :
    (engine digits).Tells container "5432/tcp" where
  inspect s := by
    have shown (n : Nat) : ∃ found, Shows "5432/tcp" found (told digits n) := by
      cases n with
      | zero => exact ⟨_, shows_port hd⟩
      | succ n => exact ⟨_, shows_none digits n⟩
    obtain ⟨found, h⟩ := shown s.2
    exact .inl ⟨told digits s.2, found, rfl, h⟩
  sleep _ := rfl

theorem search {digits : String} (hd : IsNumeral digits) :
    (engine digits).findEndpoint container "5432/tcp" inspections ({}, 2) =
      (.ok (Endpoint.join "[fe80::1]" digits), ({}, 0)) := by
  have first : (engine digits).findEndpoint container "5432/tcp" inspections ({}, 2) =
      (engine digits).findEndpoint container "5432/tcp" 9 ({}, 1) :=
    findEndpoint_of_none rfl (shows_none digits 1).published rfl
  have second : (engine digits).findEndpoint container "5432/tcp" 9 ({}, 1) =
      (engine digits).findEndpoint container "5432/tcp" 8 ({}, 0) :=
    findEndpoint_of_none rfl (shows_none digits 0).published rfl
  rw [first, second]
  exact findEndpoint_of_found rfl (shows_port hd).published

theorem numeral : IsNumeral "49153" :=
  ⟨by decide, List.all_eq_true.mp (by decide)⟩

/-- The numeral of a port behind some zeros. -/
def padded (zeros : Nat) : String :=
  String.ofList (List.replicate zeros '0' ++ ['5', '4', '3', '2'])

theorem padded_numeral (zeros : Nat) : IsNumeral (padded zeros) := by
  rw [IsNumeral, padded, String.toList_ofList]
  refine ⟨List.append_ne_nil_of_right_ne_nil _ (List.cons_ne_nil _ _), fun c hc => ?_⟩
  rcases List.mem_append.mp hc with hc | hc
  · rw [List.eq_of_mem_replicate hc]
    rfl
  · exact List.all_eq_true.mp (by decide : ['5', '4', '3', '2'].all Char.isDigit = true) c hc

theorem padded_length (zeros : Nat) : (padded zeros).toList.length = zeros + 4 := by
  rw [padded, String.toList_ofList, List.length_append, List.length_replicate]
  rfl

end Slow

/-- A port is found on a host whose name holds colons. -/
theorem endpoint_found_of_slow :
    ∃ (empty : List Value) (last : List Glance) (left : Nat) (r : Except Fault String)
      (t : ExpiryBoard × Nat),
      (Slow.engine "49153").watched.findEndpoint Slow.container "5432/tcp" inspections
        ([], {}, 2) = (r, (empty.flatMap (Glance.round Slow.container) ++ last, t)) ∧
      empty.length + left = inspections ∧ r = .ok "[fe80::1]:49153" ∧
      SearchEnd (Slow.engine "49153") Slow.container "5432/tcp" left last r ∧
      ∀ h : Handle Unit Unit, h.endpoint = "[fe80::1]:49153" →
        h.host = "[fe80::1]" ∧ h.port = .ok 49153 := by
  obtain ⟨empty, last, left, r, t, hrun, -, hn, hend, -, hh⟩ :=
    endpoint_found (ρ := Unit) (κ := Unit) (Slow.tells Slow.numeral) inspections ({}, 2)
  have hr : r = .ok "[fe80::1]:49153" := (congrArg Prod.fst hrun).symm
  refine ⟨empty, last, left, r, t, hrun, hn, hr, hend, fun h he => ?_⟩
  obtain ⟨-, -, digits, -, -, -, -, hjoin, hhost, hport⟩ := hh h (by rw [hr, he])
  obtain rfl : digits = "49153" := Endpoint.join_right_injective _ (hjoin.symm.trans he)
  exact ⟨hhost, hport⟩

/-- The port that was found is a numeral of 4301 digits.  It stands for a number, but it cannot be
read. -/
theorem long_port_unread : IsNumeral (Slow.padded 4297) ∧
    (Slow.engine (Slow.padded 4297)).findEndpoint Slow.container "5432/tcp" inspections ({}, 2) =
      (.ok (Endpoint.join "[fe80::1]" (Slow.padded 4297)), ({}, 0)) ∧
    ∀ h : Handle Unit Unit, h.endpoint = Endpoint.join "[fe80::1]" (Slow.padded 4297) →
      ∀ port, h.port ≠ .ok port := by
  have numeral := Slow.padded_numeral 4297
  refine ⟨numeral, Slow.search numeral, fun h he port hport => ?_⟩
  have hlong : ¬ (Slow.padded 4297).toList.length ≤ Parse.digitLimit := by
    rw [Slow.padded_length]
    decide
  rw [(Handle.of_join he numeral).2, if_neg hlong] at hport
  cases hport

end Testbed
