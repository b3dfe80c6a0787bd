import Testbed.Proofs.Http.Repeated
import Testbed.Proofs.Http.Served
import Testbed.Search.Node

/-!
# Requests to a node

A client asks the server of its base URL, whatever the path.  The last exchange of a request decides
what it returns or raises, and that decides what is made of it: an error of the node, the decoded
body, or that the node answers.
-/

namespace Testbed.Search

set_option autoImplicit false

open Act Http

variable {σ : Type}

/-! URLs below a base URL. -/

section Urls

variable {scheme authority rest : List Char} {base : String}

/-- A text that begins with a scheme that can be requested. -/
def IsWebUrl (text : String) : Prop :=
  ∃ scheme rest, IsWeb scheme ∧ text.toList = scheme ++ ':' :: '/' :: '/' :: rest

theorem IsWebUrl.parts (h : IsWebUrl base) : ∃ scheme authority rest, IsWeb scheme ∧
    (∀ c ∈ authority, leaves c = false) ∧ Detached rest ∧
    base.toList = webUrl scheme authority rest := by
  obtain ⟨scheme, rest, hs, hb⟩ := h
  refine ⟨scheme, rest.takeWhile (!leaves ·), rest.dropWhile (!leaves ·), hs, fun c hc => ?_,
    fun c hc => ?_, ?_⟩
  · simpa using List.all_eq_true.mp List.all_takeWhile c hc
  · have stopped := List.head?_dropWhile_not (!leaves ·) rest
    rw [Option.mem_def.mp hc] at stopped
    simpa using stopped
  · rw [hb, webUrl, List.takeWhile_append_dropWhile]

/-- Slashes at the end of a URL stand behind its authority. -/
theorem trimSlashes_webUrl (hne : authority ≠ []) (ha : ∀ c ∈ authority, leaves c = false)
    (hr : Detached rest) (hb : base.toList = webUrl scheme authority rest) :
    ∃ rest', Detached rest' ∧ (trimSlashes base).toList = webUrl scheme authority rest' := by
  have front (tail : List Char) : webUrl scheme authority tail =
      (scheme ++ ':' :: '/' :: '/' :: authority) ++ tail := by simp [webUrl]
  rw [trimSlashes, String.toList_ofList, hb, front, List.reverse_append, List.dropWhile_append]
  split
  · next hgone =>
    have last : authority.getLast hne ≠ '/' := by
      intro he
      cases (ha _ (List.getLast_mem hne)).symm.trans (by rw [he])
    refine ⟨[], detached_nil, ?_⟩
    rw [front, List.append_nil, ← List.dropLast_concat_getLast hne]
    simp [last]
  · next hkept =>
    have shorter : (rest.reverse.dropWhile (· == '/')).reverse <+: rest := by
      rw [← List.reverse_suffix, List.reverse_reverse]
      exact List.dropWhile_suffix _
    refine ⟨(rest.reverse.dropWhile (· == '/')).reverse, fun c hc => hr c ?_, ?_⟩
    · obtain ⟨slashes, hslashes⟩ := shorter
      rw [← hslashes, List.head?_append, Option.mem_def.mp hc]
      rfl
    · rw [front, List.reverse_append, List.reverse_reverse]

theorem url_webUrl {c : NodeClient} (hr : Detached rest)
    (hc : c.baseUrl.toList = webUrl scheme authority rest) (path : String) :
    ∃ rest', Detached rest' ∧ (c.url path).toList = webUrl scheme authority rest' := by
  refine ⟨rest ++ '/' :: path.toList.dropWhile (· == '/'), fun d hd => ?_, ?_⟩
  · cases rest with
    | nil =>
      cases hd
      rfl
    | cons e rest => exact hr d hd
  · rw [NodeClient.url, String.toList_append, String.toList_append, hc, String.toList_ofList]
    simp [webUrl]

theorem prepareRequest_below {method : String} {json : Option Value} {timeout : Option Num}
    {credentials : Option (String × String)} {req : Request} {c : NodeClient} (hb : IsWebUrl base)
    (hc : c.baseUrl = trimSlashes base)
    (h : prepareRequest method base json timeout credentials = .ok req) (path : String) :
    ∃ url asked, prepareRequest method (c.url path) json timeout credentials =
      .ok { req with url, target := { req.target with path := asked } } := by
  obtain ⟨scheme, authority, rest, hs, ha, hr, hbase⟩ := hb.parts
  have hne : authority ≠ [] := by
    have requested := (prepareRequest_eq_ok.mp h).1
    rw [requestUrl_webUrl hs hbase, hbase] at requested
    exact authority_ne_nil hs hr requested
  obtain ⟨rest', hr', htrimmed⟩ := trimSlashes_webUrl hne ha hr hbase
  obtain ⟨rest'', hr'', hurl⟩ := url_webUrl hr' ((congrArg String.toList hc).trans htrimmed) path
  exact prepareRequest_shared hs ha hr hr'' hbase hurl h

end Urls

/-! Calls. -/

/-- The access to a node with its exchanges noted. -/
def NodeAccess.watched (a : NodeAccess σ) : NodeAccess (List Exchange × σ) where
  wire := a.wire.watched
  diary := a.diary.beside

/-- A client that reports its calls reads the text of each response. -/
def NodeClient.reported (c : NodeClient) (response : Response) : Except Fault Response :=
  if c.debug then (response.text.mapError (·.fault)).map fun _ => response else .ok response

/-- What is made of the response to a call. -/
def performed (response : Response) : Except Fault Value := do
  match ← errorOf? response with
  | some e => .error (Fault.of e)
  | none => if response.body.isEmpty then .ok .null else response.json.mapError (·.fault)

def pinged (response : Response) : Except Fault Unit :=
  if response.status.same 200 then .ok ()
  else .error (Fault.of (.notReady
    s!"Checking state failed [StatusCode={Decimal.ofNum response.status}]"))

namespace NodeClient

variable {a : NodeAccess σ} {c : NodeClient} {call : Call} {req : Request}

theorem request_repeats (ha : a.wire.Answers) (h : prepareRequest call.method (c.url call.path)
      call.json (call.timeout.getD c.timeout) c.credentials = .ok req) (l : List Exchange) (s : σ) :
    ∃ busy last t, request a.watched c call (l, s) =
        (last.result a.wire.guess req >>= c.reported,
          (l ++ (busy ++ [last]).map fun o => (req, .ok o), t)) ∧
      Repeated req.method maxRetries busy last := by
  obtain ⟨busy, last, t, hrun, hrepeated⟩ := send_repeats ha req l s
  have sent : send a.watched.wire req (l, s) = _ := hrun
  suffices h : ∃ t, request a.watched c call (l, s) =
      (last.result a.wire.guess req >>= c.reported,
        (l ++ (busy ++ [last]).map fun o => (req, .ok o), t)) by
    obtain ⟨t, ht⟩ := h
    exact ⟨busy, last, t, ht, hrepeated⟩
  rw [request]
  dsimp only
  rw [h, bind_of_ok (ofExcept_apply _ _)]
  generalize last.result a.wire.guess req = result at sent ⊢
  cases result with
  | error e => exact ⟨t, bind_of_error sent⟩
  | ok response =>
    rw [bind_of_ok sent, ok_bind, reported]
    cases c.debug with
    | false => exact ⟨t, rfl⟩
    | true =>
      cases response.text with
      | error p => exact ⟨t, rfl⟩
      | ok text => exact ⟨_, rfl⟩

theorem perform_eq (s : σ) : perform a c call s =
    ((request a c call s).1 >>= performed, (request a c call s).2) := by
  rw [perform, bind_apply]
  rcases request a c call s with ⟨e | response, t⟩
  · rfl
  · dsimp only
    rw [ok_bind, performed]
    rcases errorOf? response with e | _ | e
    · rfl
    · rw [bind_of_ok (ofExcept_apply _ _)]
      dsimp only
      split
      · rfl
      · exact ofExcept_apply _ _
    · rfl

theorem ping_eq (s : σ) : ping a c s =
    ((request a c { method := "HEAD", path := "/" } s).1 >>= pinged,
      (request a c { method := "HEAD", path := "/" } s).2) := by
  rw [ping, bind_apply]
  rcases request a c { method := "HEAD", path := "/" } s with ⟨e | response, t⟩
  · rfl
  · dsimp only
    rw [ok_bind, pinged]
    cases response.status.same 200 <;> rfl

end NodeClient

/-! Responses. -/

section Responses

variable {response : Response} {p : BodyProblem} {e : Fault}

theorem below_int {a b : Int} : (Num.int a).below (.int b) = true ↔ a < b := by
  rw [Num.below, Num.compare?, beq_iff_eq, Option.some.injEq, Int.compare_eq_lt]

theorem same_int {a b : Int} : (Num.int a).same (.int b) = true ↔ a = b := by
  rw [Num.same, Num.compare?, beq_iff_eq, Option.some.injEq, Int.compare_eq_eq]

/-- An error that a node answered with. -/
def IsNodeError (e : Fault) : Prop := ∃ status details, e = Fault.of (.search status details)

theorem not_isNodeError_http (kind : HttpKind) (text : String) :
    ¬ IsNodeError (urlFault kind text) := by
  rintro ⟨status, details, h⟩
  cases h

theorem not_isNodeError_body (p : BodyProblem) : ¬ IsNodeError p.fault := by
  rintro ⟨status, details, h⟩
  have head : p.incident = .search status details := congrArg Fault.head h
  unfold BodyProblem.incident at head
  split at head
  · split at head
    · cases head
    · split at head <;> cases head
  all_goals cases head

theorem performed_low (h : response.status.below (.int 300) = true) : performed response =
    if response.body.isEmpty then .ok .null else response.json.mapError (·.fault) := by
  rw [performed, errorOf?, if_pos h, ok_bind]

theorem performed_error (h : response.status.below (.int 300) = false)
    (hj : ∀ p, response.json = .error p → isTooDeep p = false) :
    ∃ e, performed response = .error e ∧ IsNodeError e := by
  have decoded : ∃ status details, errorOf? response = .ok (some (.search status details)) := by
    rw [errorOf?, h, if_neg Bool.false_ne_true]
    split
    · exact ⟨_, _, rfl⟩
    · exact ⟨_, _, rfl⟩
    · next p hp =>
      rw [hj p hp]
      exact ⟨_, _, rfl⟩
  obtain ⟨status, details, hd⟩ := decoded
  exact ⟨_, by rw [performed, hd, ok_bind], status, details, rfl⟩

/-- Only a status that is one of an error makes a response an error of the node. -/
theorem high_of_isNodeError (h : performed response = .error e) (he : IsNodeError e) :
    response.status.below (.int 300) = false := by
  rw [← Bool.not_eq_true]
  intro hlow
  rw [performed_low hlow] at h
  split at h
  · cases h
  · cases hj : response.json with
    | error p =>
      rw [hj] at h
      cases h
      exact not_isNodeError_body p he
    | ok v =>
      rw [hj] at h
      cases h

theorem reported_of_text {c : NodeClient} (h : c.debug = true → ∃ text, response.text = .ok text) :
    c.reported response = .ok response := by
  rw [NodeClient.reported]
  split
  · next hd =>
    obtain ⟨text, ht⟩ := h hd
    rw [ht]
    rfl
  · rfl

theorem reported_ok {c : NodeClient} {response' : Response}
    (h : c.reported response = .ok response') : response' = response := by
  unfold NodeClient.reported at h
  split at h
  · obtain ⟨text, -, he⟩ := Dsn.map_ok h
    exact he.symm
  · exact (Except.ok.inj h).symm

theorem reported_error {c : NodeClient} (h : c.reported response = .error e) :
    ∃ p : BodyProblem, e = p.fault := by
  unfold NodeClient.reported at h
  cases ht : response.text with
  | error p =>
    rw [ht] at h
    split at h <;> cases h
    exact ⟨p, rfl⟩
  | ok text =>
    rw [ht] at h
    split at h <;> cases h

end Responses

/-! Answers. -/

section Answers

variable {a : NodeAccess σ} {c : NodeClient} {base : String} {call : Call} {req : Request} {s : σ}
  {earlier : List Outcome} {last : Outcome} {result : Except Fault Response}
  {after : List Exchange × σ}

/-- A call that the base URL of a client is good for: the URL itself could be requested so. -/
structure Asks (c : NodeClient) (base : String) (call : Call) (req : Request) : Prop where
  web : IsWebUrl base
  prepared : prepareRequest call.method base call.json (call.timeout.getD c.timeout)
    c.credentials = .ok req

/-- The exchanges of a call after which a client gives a result.  They are those of a request to the
base URL but for what is asked for. -/
structure Answered (a : NodeAccess σ) (c : NodeClient) (call : Call) (req : Request) (s : σ)
    (earlier : List Outcome) (last : Outcome) (result : Except Fault Response)
    (after : List Exchange × σ) : Prop where
  run : c.request a.watched call ([], s) = (result, after)
  exchanges : ∃ url path, after.1 = (earlier ++ [last]).map fun o =>
    ({ req with url, target := { req.target with path } }, .ok o)
  busy : ∀ o ∈ earlier, o.IsBusy (Text.upper call.method)
  bounded : earlier.length + 1 ≤ 6
  usedUp : Text.upper call.method ∈ repeatable → last.IsBusy (Text.upper call.method) →
    earlier.length + 1 = 6
  once : Text.upper call.method ∉ repeatable → earlier = []
  broken : ∀ f, last = .broken f → ∃ e, result = .error e ∧ e.isTransport = true
  returned : ∀ r response, last = .reply r →
    r.read a.wire.guess (Text.upper call.method) = .ok response →
    (c.debug = true → ∃ text, response.text = .ok text) → result = .ok response
  unread : ∀ r e, last = .reply r →
    r.read a.wire.guess (Text.upper call.method) = .error e → result = .error e
  illegible : ∀ r response p, last = .reply r →
    r.read a.wire.guess (Text.upper call.method) = .ok response → c.debug = true →
    response.text = .error p → result = .error p.fault
  ofReply : ∀ response, result = .ok response →
    ∃ r, last = .reply r ∧ r.read a.wire.guess (Text.upper call.method) = .ok response

/-- What is made of the result of a request whose body is to be decoded. -/
structure Decided (last : Outcome) (result : Except Fault Response) (value : Except Fault Value) :
    Prop where
  passed : ∀ e, result = .error e → value = .error e
  raised : ∀ r response, last = .reply r → result = .ok response → 300 ≤ r.status →
    (∀ p, response.json = .error p → isTooDeep p = false) → ∃ e, value = .error e ∧ IsNodeError e
  only : ∀ e, value = .error e → IsNodeError e →
    ∃ r response, last = .reply r ∧ result = .ok response ∧ 300 ≤ r.status
  value : ∀ r response, last = .reply r → result = .ok response → r.status < 300 →
    value = if response.body.isEmpty then .ok .null else response.json.mapError (·.fault)

/-- What is made of the result of a request that asks whether the node answers. -/
structure Pinged (last : Outcome) (result : Except Fault Response) (answer : Except Fault Unit) :
    Prop where
  passed : ∀ e, result = .error e → answer = .error e
  returns : answer = .ok () ↔
    ∃ r response, last = .reply r ∧ result = .ok response ∧ r.status = 200

/-- The URL of a server is good for every call whose body, timeout and credentials can be sent. -/
theorem asks_server {scheme host rest : List Char} {port : Nat} {body authorization : Option String}
    (hs : IsWeb scheme) (h : IsServer host port) (hr : Detached rest)
    (hbase : base.toList = webUrl scheme (serverAt host port) rest)
    (hb : bodyOf call.json = .ok body) (ha : authorizationOf c.credentials = .ok authorization)
    (ht : checkTimeout (call.timeout.getD c.timeout) = .ok ()) : ∃ req, Asks c base call req := by
  obtain ⟨req, hreq, -⟩ := h.prepareRequest hs hr hbase hb ha ht call.method
  exact ⟨req, ⟨scheme, serverAt host port ++ rest, hs, hbase⟩, hreq⟩

theorem Asks.method (h : Asks c base call req) : req.method = Text.upper call.method := by
  obtain ⟨-, r, -, -, -, -, -, hmethod, -, -⟩ := prepareRequest_eq_ok.mp h.prepared
  exact hmethod

theorem Asks.answered (ha : a.wire.Answers) (hc : c.baseUrl = trimSlashes base)
    (h : Asks c base call req) (s : σ) : ∃ earlier last result after,
      Answered a c call req s earlier last result after ∧
        ∀ e, result = .error e → ¬ IsNodeError e := by
  obtain ⟨url, path, hprepared⟩ := prepareRequest_below h.web hc h.prepared call.path
  obtain ⟨earlier, last, t, hrun, hrepeated⟩ := NodeClient.request_repeats ha hprepared [] s
  rw [h.method] at hrepeated
  refine ⟨earlier, last, _, _, {
    run := hrun
    exchanges := ⟨url, path, List.nil_append _⟩
    busy := hrepeated.busy
    bounded := Nat.succ_le_succ hrepeated.bounded
    usedUp := fun hm hb => congrArg Nat.succ (hrepeated.usedUp hm hb)
    once := hrepeated.once
    broken := ?_
    returned := ?_
    unread := ?_
    illegible := ?_
    ofReply := ?_ }, ?_⟩
  · rintro f rfl
    obtain ⟨kind, text, hf, ht⟩ := f.fault_eq _
    exact ⟨_, rfl, by rw [hf, isTransport_urlFault, ht]⟩
  · rintro r response rfl hread htext
    rw [Outcome.result, h.method, hread, ok_bind, reported_of_text htext]
  · rintro r e rfl hread
    rw [Outcome.result, h.method, hread]
    rfl
  · rintro r response p rfl hread hdebug htext
    rw [Outcome.result, h.method, hread, ok_bind, NodeClient.reported, if_pos hdebug, htext]
    rfl
  · intro response hresult
    obtain ⟨read, hread, hreported⟩ := Dsn.bind_ok hresult
    cases reported_ok hreported
    cases last with
    | broken f => cases hread
    | reply r => exact ⟨r, rfl, by rw [← h.method]; exact hread⟩
  · intro e hresult
    rcases bind_error hresult with hread | ⟨response, -, hreported⟩
    · obtain ⟨kind, text, rfl⟩ := Outcome.result_error hread
      exact not_isNodeError_http kind text
    · obtain ⟨p, rfl⟩ := reported_error hreported
      exact not_isNodeError_body p

theorem Answered.status (h : Answered a c call req s earlier last result after) {r : Reply}
    {response : Response} (hlast : last = .reply r) (hr : result = .ok response) :
    response.status = .int r.status := by
  obtain ⟨r', hlast', hread⟩ := h.ofReply response hr
  cases hlast.symm.trans hlast'
  exact Reply.read_status hread

theorem Answered.decided (h : Answered a c call req s earlier last result after)
    (he : ∀ e, result = .error e → ¬ IsNodeError e) :
    Decided last result (result >>= performed) := by
  have low {r : Reply} {response : Response} (hlast : last = .reply r)
      (hr : result = .ok response) :
      response.status.below (.int 300) = decide (r.status < 300) := by
    rw [h.status hlast hr, Bool.eq_iff_iff, below_int, decide_eq_true_eq]
  have high {r : Reply} {response : Response} (hlast : last = .reply r)
      (hr : result = .ok response) :
      response.status.below (.int 300) = false ↔ 300 ≤ r.status := by
    rw [low hlast hr, decide_eq_false_iff_not, Int.not_lt]
  refine { passed := ?_, raised := ?_, only := ?_, value := ?_ }
  · rintro e rfl
    rfl
  · rintro r response hlast rfl hstatus hj
    exact performed_error ((high hlast rfl).mpr hstatus) hj
  · intro e hvalue hnode
    rcases bind_error hvalue with hr | ⟨response, hr, hperformed⟩
    · exact absurd hnode (he e hr)
    · obtain ⟨r, hlast, -⟩ := h.ofReply response hr
      exact ⟨r, response, hlast, hr, (high hlast hr).mp (high_of_isNodeError hperformed hnode)⟩
  · rintro r response hlast rfl hstatus
    exact performed_low (by rw [low hlast rfl, decide_eq_true hstatus])

theorem Answered.pinged (h : Answered a c call req s earlier last result after) :
    Pinged last result (result >>= Search.pinged) := by
  refine { passed := ?_, returns := ⟨fun hanswer => ?_, ?_⟩ }
  · rintro e rfl
    rfl
  · obtain ⟨response, hr, hpinged⟩ := Dsn.bind_ok hanswer
    obtain ⟨r, hlast, -⟩ := h.ofReply response hr
    refine ⟨r, response, hlast, hr, ?_⟩
    unfold Search.pinged at hpinged
    split at hpinged
    · next hsame =>
      rw [h.status hlast hr] at hsame
      exact same_int.mp hsame
    · cases hpinged
  · rintro ⟨r, response, hlast, rfl, hstatus⟩
    rw [ok_bind, Search.pinged, h.status hlast rfl, hstatus]
    rfl

/-- A call is answered by the server of the base URL, whatever its path.  It is repeated while the
server is busy, at most five times and only if its method may be repeated, and what comes last
decides: a link that breaks is a failure to reach the server, and a reply is returned if it can be
read.  From what is returned an error of the node is told from the decoded body, and a node that
answers from one that is not ready. -/
theorem requests_decided (ha : a.wire.Answers) {user password : String} {debug : Bool}
    {timeout : Option Num} (hc : c = .make base user password debug timeout) (s : σ) :
    (∀ call req, Asks c base call req → ∃ earlier last result after,
      Answered a c call req s earlier last result after ∧
      ∃ value, c.perform a.watched call ([], s) = (value, after) ∧ Decided last result value) ∧
    ∀ req, Asks c base { method := "HEAD", path := "/" } req → ∃ earlier last result after,
      Answered a c { method := "HEAD", path := "/" } req s earlier last result after ∧
      ∃ answer, c.ping a.watched ([], s) = (answer, after) ∧ Pinged last result answer := by
  have trimmed : c.baseUrl = trimSlashes base := by rw [hc]; rfl
  constructor
  · intro call req hasks
    obtain ⟨earlier, last, result, after, hanswered, herror⟩ := hasks.answered ha trimmed s
    refine ⟨earlier, last, result, after, hanswered, _, ?_, hanswered.decided herror⟩
    rw [NodeClient.perform_eq, hanswered.run]
  · intro req hasks
    obtain ⟨earlier, last, result, after, hanswered, -⟩ := hasks.answered ha trimmed s
    refine ⟨earlier, last, result, after, hanswered, _, ?_, hanswered.pinged⟩
    rw [NodeClient.ping_eq, hanswered.run]

end Answers

namespace Recovering

/-- Replies with given statuses come in turn, then every link is refused. -/
def wire : Wire (List Int) where
  exchange _ s := match s with
    | [] => (.ok (.broken .refused), [])
    | status :: rest => (.ok (.reply { status, body := [123, 125] }), rest)
  sleep _ s := (.ok (), s)
  date _ := 0
  guess _ := none

def access : NodeAccess (List Int) where
  wire := wire
  diary := { write := fun _ _ _ s => s }

def base : String := "http://localhost:9200/"

def client : NodeClient := .make base "" "" false none

def health : Call := { method := "get", path := "/_cluster/health" }

theorem plain (status : Int) (body : List UInt8) : ({ status, body } : Reply).IsPlain :=
  ⟨rfl, rfl⟩

theorem answers : access.wire.Answers where
  exchange req s := by
    cases s with
    | nil => exact ⟨_, [], rfl, nofun⟩
    | cons status rest =>
      refine ⟨_, rest, rfl, ?_⟩
      rintro r h
      cases h
      exact plain status _
  sleep n s := ⟨s, rfl⟩

theorem asks : ∃ req, Asks client base health req := by
  have web : IsWeb "http".toList := .inl rfl
  have server : IsServer "localhost".toList 9200 := ⟨by decide, by decide, by decide⟩
  have rooted : Detached ['/'] := by
    rintro c ⟨⟩
    rfl
  have written : base.toList = webUrl "http".toList (serverAt "localhost".toList 9200) ['/'] := by
    decide
  exact asks_server web server rooted written rfl rfl rfl

end Recovering

/-- A server that is busy twice gives its answer in the third exchange. -/
theorem requests_decided_of_recovering :
    ∃ req earlier last result after value response v,
      Answered Recovering.access Recovering.client Recovering.health req [503, 429, 200] earlier
        last result after ∧
      Recovering.client.perform Recovering.access.watched Recovering.health ([], [503, 429, 200]) =
        (value, after) ∧
      earlier.length = 2 ∧ result = .ok response ∧ value = .ok v := by
  obtain ⟨req, hasks⟩ := Recovering.asks
  obtain ⟨earlier, last, result, after, hanswered, value, hperform, hdecided⟩ :=
    (requests_decided (c := Recovering.client) Recovering.answers rfl [503, 429, 200]).1
      Recovering.health req hasks
  have exchanged : (Recovering.client.perform Recovering.access.watched Recovering.health
      ([], [503, 429, 200])).2.1.length = 3 := by decide +kernel
  have decoded : (Recovering.client.perform Recovering.access.watched Recovering.health
      ([], [503, 429, 200])).1.toBool = true := by decide +kernel
  rw [hperform] at exchanged decoded
  obtain ⟨url, path, hafter⟩ := hanswered.exchanges
  rw [hafter, List.length_map, List.length_append] at exchanged
  cases result with
  | error e =>
    rw [hdecided.passed e rfl] at decoded
    cases decoded
  | ok response =>
    cases value with
    | error e => cases decoded
    | ok v =>
      exact ⟨req, earlier, last, _, after, _, response, v, hanswered, hperform,
        Nat.succ.inj exchanged, rfl, rfl⟩

namespace Steady

/-- The same reply comes in every exchange. -/
def access (r : Reply) : NodeAccess Unit where
  wire := {
    exchange := fun _ s => (.ok (.reply r), s)
    sleep := fun _ s => (.ok (), s)
    date := fun _ => 0
    guess := fun _ => none }
  diary := { write := fun _ _ _ s => s }

theorem answers {r : Reply} (h : r.IsPlain) : (access r).wire.Answers where
  exchange req s := ⟨_, s, rfl, by rintro r' he; cases he; exact h⟩
  sleep n s := ⟨s, rfl⟩

theorem plain {r : Reply} (hr : r.header? "Retry-After" = none)
    (hl : r.header? "location" = none) : r.IsPlain where
  undated := hr
  unmoved := by rw [Reply.location?, hl]

/-- A reply that says that it is packed, and is not. -/
def mispacked : Reply where
  headers := [("Content-Encoding", "gzip")]
  body := [123, 125]

/-- A busy reply with two lengths. -/
def contradictory : Reply where
  status := 503
  headers := [("Content-Length", "2"), ("Content-Length", "3")]
  body := [123, 125]

/-- A reply with a text in an encoding that is none. -/
def mislabelled : Reply where
  headers := [("Content-Type", "text/plain; charset=undefined")]
  body := [123, 125]

/-- The result of a call when this reply comes in every exchange, and the exchanges. -/
def asked (c : NodeClient) (r : Reply) : Except Fault Response × List Exchange :=
  ((c.request (access r).watched Recovering.health ([], ())).1,
    (c.request (access r).watched Recovering.health ([], ())).2.1)

def isLost (c : NodeClient) (r : Reply) : Bool :=
  !(asked c r).1.toBool && (asked c r).2.length == 1

theorem of_isLost {c : NodeClient} {r : Reply} (h : isLost c r = true) :
    (∃ e, (asked c r).1 = .error e) ∧ (asked c r).2.length = 1 := by
  obtain ⟨hr, hl⟩ := Bool.and_eq_true_iff.mp h
  refine ⟨?_, beq_iff_eq.mp hl⟩
  cases he : (asked c r).1 with
  | error e => exact ⟨e, rfl⟩
  | ok response =>
    rw [he] at hr
    cases hr

end Steady

/-- A reply is not returned that is packed otherwise than it says, that has two lengths, though its
status is one of a busy server, or whose text cannot be read by a client that reports it. -/
theorem replies_lost : (∃ req, Asks Recovering.client Recovering.base Recovering.health req) ∧
    ((Steady.access Steady.mispacked).wire.Answers ∧
      (∃ e, (Steady.asked Recovering.client Steady.mispacked).1 = .error e)) ∧
    ((Steady.access Steady.contradictory).wire.Answers ∧
      (∃ e, (Steady.asked Recovering.client Steady.contradictory).1 = .error e) ∧
      (Steady.asked Recovering.client Steady.contradictory).2.length = 1) ∧
    (Steady.access Steady.mislabelled).wire.Answers ∧
      ∃ e, (Steady.asked { Recovering.client with debug := true } Steady.mislabelled).1 =
        .error e := by
  refine ⟨Recovering.asks, ⟨Steady.answers (Steady.plain (by decide +kernel) (by decide +kernel)),
      (Steady.of_isLost (by decide +kernel)).1⟩,
    ⟨Steady.answers (Steady.plain (by decide +kernel) (by decide +kernel)),
      Steady.of_isLost (by decide +kernel)⟩,
    Steady.answers (Steady.plain (by decide +kernel) (by decide +kernel)),
    (Steady.of_isLost (by decide +kernel)).1⟩

end Testbed.Search
