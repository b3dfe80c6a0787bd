import Testbed.Proofs.Http.Prepared
import Testbed.Proofs.Number.Whole

/-!
# Requests to a server

A server that has a name and a port can be requested, whatever is asked for.  Its name is written in
lower case, and a port of zero stands for the port of the scheme.
-/

namespace Testbed.Http

set_option autoImplicit false

/-! The characters of a name. -/

section Characters

variable {c : Char} {host : List Char}

/-- What holds of every character that stands for itself can be looked up. -/
theorem of_isUnreserved {p : Char → Bool} (h : ∀ n < 128,
      (!Text.isUnreserved (Char.ofNat n) || p (Char.ofNat n)) = true)
    (hc : Text.isUnreserved c = true) : p c = true := by
  have found := h c.toNat (toNat_of_isUnreserved hc)
  rw [Char.ofNat_toNat, hc] at found
  exact found

theorem isBarred_of_isUnreserved (hc : Text.isUnreserved c = true) : isBarred c = false := by
  rw [← Bool.not_eq_true']
  exact of_isUnreserved (p := fun c => !isBarred c) (by decide +kernel) hc

theorem isReservedOrSafe_of_isUnreserved (hc : Text.isUnreserved c = true) :
    isReservedOrSafe c = true := by
  rw [isReservedOrSafe, hc, Bool.true_or]

theorem ne_of_isUnreserved {d : Char} (hc : Text.isUnreserved c = true)
    (hd : Text.isUnreserved d = false) : c ≠ d := by
  rintro rfl
  cases hc.symm.trans hd

theorem isUnreserved_of_isDigit (hc : c.isDigit = true) : Text.isUnreserved c = true := by
  simp [Text.isUnreserved, Char.isAlphanum, hc]

theorem toLower_toLower (hc : Text.isUnreserved c = true) : c.toLower.toLower = c.toLower :=
  beq_iff_eq.mp (of_isUnreserved (p := fun c => c.toLower.toLower == c.toLower)
    (by decide +kernel) hc)

end Characters

/-! A name in the checks of a URL. -/

section Names

variable {host : List Char}

theorem IsName.lower (h : IsName host) : IsName (host.map Char.toLower) := by
  refine ⟨by simpa using h.1, fun x hx => ?_⟩
  obtain ⟨c, hc, rfl⟩ := List.mem_map.mp hx
  rcases h.2 c hc with ha | rfl | rfl | rfl
  · have kept := of_isUnreserved (p := fun c => !c.isAlphanum || c.toLower.isAlphanum)
      (by decide +kernel) (h.isUnreserved c hc)
    rw [ha] at kept
    exact .inl kept
  · exact .inr (.inl rfl)
  · exact .inr (.inr (.inl rfl))
  · exact .inr (.inr (.inr rfl))

theorem isRegisteredName_of_isUnreserved (h : ∀ x ∈ host, Text.isUnreserved x = true) :
    isRegisteredName host = true := by
  fun_induction isRegisteredName host with
  | case1 => rfl
  | case2 a b rest ih => cases h '%' List.mem_cons_self
  | case3 c rest _ ih =>
    have hc := h c List.mem_cons_self
    have hne (d : Char) (hd : Text.isUnreserved d = false) : (c == d) = false :=
      beq_eq_false_iff_ne.mpr (ne_of_isUnreserved hc hd)
    rw [ih fun x hx => h x (List.mem_cons_of_mem _ hx)]
    simp only [hne '[' rfl, hne ']' rfl, hne '%' rfl, hne ':' rfl, hne '/' rfl, hne '?' rfl,
      hne '#' rfl]
    rfl

theorem mem_of_mem_splitAll {c x : Char} {cs part : List Char} (hp : part ∈ splitAll c cs)
    (hx : x ∈ part) : x ∈ cs := by
  induction cs generalizing part with
  | nil =>
    cases List.mem_singleton.mp hp
    cases hx
  | cons d cs ih =>
    by_cases hd : d = c
    · subst hd
      rw [splitAll_same] at hp
      rcases List.mem_cons.mp hp with rfl | hp
      · cases hx
      · exact List.mem_cons_of_mem _ (ih hp hx)
    · obtain ⟨w, ws, hs, hsplit⟩ := splitAll_other hd cs
      rw [hsplit] at hp
      rw [hs] at ih
      rcases List.mem_cons.mp hp with rfl | hp
      · rcases List.mem_cons.mp hx with rfl | hx
        · exact List.mem_cons_self
        · exact List.mem_cons_of_mem _ (ih List.mem_cons_self hx)
      · exact List.mem_cons_of_mem _ (ih (List.mem_cons_of_mem _ hp) hx)

/-- What is done to every other character can be done to the parts between them. -/
theorem joinAll_splitAll {c : Char} {f : Char → Char} (hf : f c = c) (cs : List Char) :
    joinAll c ((splitAll c cs).map (List.map f)) = cs.map f := by
  induction cs with
  | nil => rfl
  | cons d cs ih =>
    obtain ⟨v, vs, hv⟩ := List.exists_cons_of_ne_nil (splitAll_ne_nil c cs)
    by_cases hd : d = c
    · subst hd
      rw [splitAll_same, List.map_cons, List.map_cons, hf, ← ih, hv]
      rfl
    · obtain ⟨w, ws, hs, hsplit⟩ := splitAll_other hd cs
      rw [hs] at ih
      rw [hsplit, List.map_cons, List.map_cons, List.map_cons, ← ih]
      cases ws <;> rfl

theorem mapM_asciiLabel {labels : List (List Char)}
    (h : ∀ label ∈ labels, ∀ x ∈ label, Text.isUnreserved x = true) :
    labels.mapM asciiLabel = .ok (labels.map (List.map Char.toLower)) := by
  induction labels with
  | nil => rfl
  | cons label labels ih =>
    have ascii : label.all (·.toNat < 128) = true := List.all_eq_true.mpr fun x hx =>
      decide_eq_true (toNat_of_isUnreserved (h label List.mem_cons_self x hx))
    rw [List.mapM_cons, asciiLabel, if_pos ascii, ih fun l hl => h l (List.mem_cons_of_mem _ hl)]
    rfl

theorem IsName.normalHost (h : IsName host) :
    normalHost host = .ok (host.map Char.toLower) := by
  have unbarred : host.find? isBarred = none := List.find?_eq_none.mpr fun x hx => by
    simp [isBarred_of_isUnreserved (h.isUnreserved x hx)]
  rw [Http.normalHost, unbarred]
  · dsimp only
    rw [mapM_asciiLabel fun label hl x hx => h.isUnreserved x (mem_of_mem_splitAll hl hx),
      ← joinAll_splitAll (c := '.') (f := Char.toLower) rfl]
    rfl
  · rintro inner rfl
    cases h.isUnreserved '[' List.mem_cons_self

theorem IsName.checkedHost (h : IsName host) (hd : host.head? ≠ some '.') (url : List Char) :
    checkedHost url host = .ok host := by
  have ascii : host.all (·.toNat < 128) = true := List.all_eq_true.mpr fun x hx =>
    decide_eq_true (toNat_of_isUnreserved (h.isUnreserved x hx))
  have label : (host.head? == some '*' || host.head? == some '.') = false := by
    rw [Bool.or_eq_false_iff, beq_eq_false_iff_ne, beq_eq_false_iff_ne]
    refine ⟨fun hs => ?_, hd⟩
    cases h.isUnreserved '*' (List.mem_of_head? hs)
  unfold Http.checkedHost
  dsimp only
  rw [List.isEmpty_eq_false_iff.mpr h.1, ascii, label]
  rfl

end Names

/-! Servers. -/

/-- A name and a port that can stand in a URL. -/
structure IsServer (host : List Char) (port : Nat) : Prop where
  name : IsName host
  labelled : host.head? ≠ some '.'
  inRange : port ≤ 65535

def serverAt (host : List Char) (port : Nat) : List Char := host ++ ':' :: Decimal.digits port

/-- A server as it stands in a URL that was checked. -/
def normalServer (host : List Char) (port : Nat) : List Char :=
  host.map Char.toLower ++ if port = 0 then [] else ':' :: Decimal.digits port

section Servers

variable {host scheme rest : List Char} {port : Nat}

theorem mem_digits {c : Char} (hc : c ∈ Decimal.digits port) : c.isDigit = true :=
  Nat.isDigit_of_mem_toDigits (by decide) (by decide) hc

theorem length_digits (h : port ≤ 65535) : (Decimal.digits port).length ≤ 5 :=
  (Nat.length_toDigits_le_iff (by decide) (by decide)).mpr (by omega)

theorem IsName.not_mem (h : IsName host) {c : Char} (hc : Text.isUnreserved c = false) :
    c ∉ host :=
  fun hm => absurd (h.isUnreserved c hm) (by simp [hc])

theorem at_not_mem {cs : List Char} (h : ∀ c ∈ cs, Text.isUnreserved c = true ∨ c = ':') :
    '@' ∉ cs := by
  intro hm
  rcases h '@' hm with hu | hc
  · cases hu
  · cases hc

theorem IsServer.mem_serverAt (h : IsServer host port) {c : Char} (hc : c ∈ serverAt host port) :
    Text.isUnreserved c = true ∨ c = ':' := by
  rcases List.mem_append.mp hc with hc | hc
  · exact .inl (h.name.isUnreserved c hc)
  · rcases List.mem_cons.mp hc with rfl | hc
    · exact .inr rfl
    · exact .inl (isUnreserved_of_isDigit (mem_digits hc))

theorem IsServer.leaves (h : IsServer host port) : ∀ c ∈ serverAt host port, leaves c = false := by
  intro c hc
  rcases h.mem_serverAt hc with hu | rfl
  · have hne (d : Char) (hd : Text.isUnreserved d = false) : (c == d) = false :=
      beq_eq_false_iff_ne.mpr (ne_of_isUnreserved hu hd)
    simp only [Http.leaves, hne '/' rfl, hne '?' rfl, hne '#' rfl, hne '\\' rfl]
    rfl
  · rfl

theorem IsServer.hostPort? (h : IsServer host port) :
    hostPort? (serverAt host port) = some (host, Decimal.digits port) := by
  have colon : ':' ∉ host := h.name.not_mem rfl
  have taken : (serverAt host port).takeWhile (· != ':') = host := by
    rw [serverAt, List.takeWhile_append_of_pos (Dsn.ne_of_not_mem colon),
      List.takeWhile_cons_of_neg (by simp), List.append_nil]
  have named : isRegisteredName host = true :=
    isRegisteredName_of_isUnreserved h.name.isUnreserved
  have ported : isPort (Decimal.digits port) = true := by
    rw [isPort, List.all_eq_true.mpr fun c hc => mem_digits hc, Bool.true_and, decide_eq_true_eq]
    exact Nat.le_trans (List.dropWhile_suffix _).length_le (length_digits h.inRange)
  unfold Http.hostPort?
  dsimp only
  split
  · next inner he =>
    rcases h.mem_serverAt (he ▸ List.mem_cons_self) with hu | hc
    · cases hu
    · cases hc
  · rw [taken, if_pos named, serverAt, List.drop_left]
    exact if_pos ported

theorem IsServer.checkParts (h : IsServer host port) {p : UrlParts}
    (hn : isNormalScheme p.scheme = true) (ha : p.authority = some (serverAt host port))
    (url : List Char) : checkParts url p = .ok {
      userinfo := none
      host := host.map Char.toLower
      port := some port
      path := escapeInvalid isPathChar (resolveDots p.path)
      query := p.query.map (escapeInvalid isQueryChar)
      fragment := p.fragment.map (escapeInvalid isQueryChar) } := by
  have unnamed : '@' ∉ serverAt host port := at_not_mem fun c hc => h.mem_serverAt hc
  have hne : (Decimal.digits port).isEmpty = false :=
    List.isEmpty_eq_false_iff.mpr Nat.toDigits_ne_nil
  have ranged : (some port).any (65535 < ·) = false :=
    decide_eq_false (Nat.not_lt.mpr h.inRange)
  unfold Http.checkParts
  rw [hn, ha]
  dsimp only
  rw [Option.getD_some, Dsn.cutLast_of_not_mem unnamed]
  dsimp only
  rw [h.hostPort?]
  simp only [pure_bind, if_true]
  rw [hne, if_neg Bool.false_ne_true, Parse.natOf_digits, h.name.normalHost, ranged]
  rfl

theorem IsServer.mem_normalServer (h : IsServer host port) {c : Char}
    (hc : c ∈ normalServer host port) : Text.isUnreserved c = true ∨ c = ':' := by
  rcases List.mem_append.mp hc with hc | hc
  · exact .inl (h.name.lower.isUnreserved c hc)
  · split at hc
    · cases hc
    · exact h.mem_serverAt (List.mem_append_right _ hc)

theorem IsServer.requote (h : IsServer host port) :
    requote (normalServer host port) = normalServer host port := by
  have plain : ∀ c ∈ normalServer host port,
      c ≠ '%' ∧ c.toNat < 128 ∧ isReservedOrSafe c = true := by
    intro c hc
    rcases h.mem_normalServer hc with hu | rfl
    · exact ⟨ne_of_isUnreserved hu rfl, toNat_of_isUnreserved hu,
        isReservedOrSafe_of_isUnreserved hu⟩
    · decide
  have quoted := requote_plain plain []
  rw [List.append_nil] at quoted
  exact quoted.trans (List.append_nil _)

/-- The URL of a server keeps the server in its normal form. -/
theorem IsServer.normalUrl (h : IsServer host port) (hs : IsWeb scheme) (hr : Detached rest) :
    ∃ below, normalUrl (webUrl scheme (serverAt host port) rest) =
      .ok (webUrl (scheme.map Char.toLower) (normalServer host port) ('/' :: below)) := by
  obtain ⟨hscheme, hauthority⟩ := parts_webUrl hs h.leaves hr
  have labelled : (host.map Char.toLower).head? ≠ some '.' := by
    intro hd
    rw [List.head?_map] at hd
    obtain ⟨c, hc, hdot⟩ := Option.map_eq_some_iff.mp hd
    have only := of_isUnreserved (p := fun c => c == '.' || c.toLower != '.') (by decide +kernel)
      (h.name.isUnreserved c (List.mem_of_head? hc))
    rw [hdot, bne_self_eq_false, Bool.or_false, beq_iff_eq] at only
    exact h.labelled (only ▸ hc)
  have named := h.name.lower.checkedHost labelled (webUrl scheme (serverAt host port) rest)
  obtain ⟨p, hp⟩ : ∃ p, UrlParts.of (webUrl scheme (serverAt host port) rest) = p := ⟨_, rfl⟩
  rw [hp] at hscheme hauthority
  have checked := h.checkParts (hscheme ▸ hs.isNormalScheme) hauthority
    (webUrl scheme (serverAt host port) rest)
  obtain ⟨path, hpath, hescaped, heq⟩ := path_escaped (resolveDots p.path)
  have authority : normalServer host port ≠ [] :=
    List.append_ne_nil_of_left_ne_nil h.name.lower.1 _
  obtain ⟨tail, htail, htext⟩ := text_rooted hs.lower.ne_nil authority hpath hescaped
    (part_escaped p.query) (part_escaped p.fragment)
  obtain ⟨below, hbelow⟩ := requote_webUrl hs htail (normalServer host port)
  rw [h.requote] at hbelow
  refine ⟨below, ?_⟩
  rw [← hbelow, ← htext, ← heq, normalServer, Http.normalUrl]
  simp only [hp, checked, hscheme, named, bind, Except.bind]
  cases port with
  | zero => rfl
  | succ n =>
    have digits : (toString (n + 1)).toList = Decimal.digits (n + 1) := String.toList_ofList
    rw [← digits]
    rfl

end Servers

/-! Where a request to a server goes. -/

section Targets

variable {host scheme rest below : List Char} {port : Nat} {r : Reference}

/-- A server in its normal form, with what stands around it. -/
def normalDaemon (scheme host : List Char) (port : Nat) (below : List Char) : DaemonUrl where
  start := String.ofList (scheme ++ [':', '/', '/'])
  host := host.map Char.toLower
  port := if port = 0 then none else some (Decimal.digits port)
  rest := '/' :: below

theorem IsServer.proper (h : IsServer host port)
    (hs : scheme = "http".toList ∨ scheme = "https".toList) (below : List Char) :
    (normalDaemon scheme host port below).Proper where
  start := by
    change String.ofList (scheme ++ [':', '/', '/']) ∈ Settings.hostSchemes
    rcases hs with rfl | rfl <;> decide
  user _ h := by cases h
  host := .inl h.name.lower
  port digits hd := by
    intro x hx
    unfold normalDaemon at hd
    dsimp only at hd
    split at hd <;> cases hd
    exact mem_digits hx
  rest x hx := by
    cases hx
    rfl

theorem IsServer.authority (h : IsServer host port) :
    (normalDaemon scheme host port below).authority = normalServer host port := by
  have colon : ':' ∉ host.map Char.toLower := h.name.lower.not_mem rfl
  rw [DaemonUrl.authority, DaemonUrl.address, DaemonUrl.hostPart, DaemonUrl.portPart, normalDaemon,
    normalServer]
  dsimp only
  rw [if_neg colon]
  split <;> rfl

theorem IsServer.text (h : IsServer host port) :
    (normalDaemon scheme host port below).text.toList =
      webUrl scheme (normalServer host port) ('/' :: below) := by
  rw [DaemonUrl.text, h.authority, String.toList_append, String.toList_ofList]
  simp [normalDaemon, webUrl]

theorem IsServer.ofChars (h : IsServer host port)
    (hs : scheme = "http".toList ∨ scheme = "https".toList) (below : List Char) :
    ∃ r, Reference.ofChars (webUrl scheme (normalServer host port) ('/' :: below)) = .ok r ∧
      r.authority = normalServer host port := by
  have proper := h.proper hs below
  obtain ⟨r, hparse, hr⟩ := proper.parse_text
  rw [h.text] at hparse
  obtain ⟨r', hchars, rfl⟩ := Dsn.map_ok hparse
  exact ⟨r', hchars, by rw [← DaemonUrl.withParameters_authority, hr, h.authority]⟩

theorem lowerAfter_of_ascii {cs : List Char} (h : ∀ c ∈ cs, c.toNat < 128) (before : List Char) :
    Text.lowerAfter before cs = cs.map Char.toLower := by
  induction cs generalizing before with
  | nil => rfl
  | cons c cs ih =>
    have hc := h c List.mem_cons_self
    have other : (c.toNat == Text.capitalSigma) = false :=
      beq_eq_false_iff_ne.mpr (Nat.ne_of_lt (Nat.lt_trans hc (by decide)))
    rw [Text.lowerAfter, other, Text.lowerChar, if_pos hc,
      ih fun d hd => h d (List.mem_cons_of_mem _ hd)]
    rfl

theorem IsName.lower_lower (h : IsName host) :
    (host.map Char.toLower).map Char.toLower = host.map Char.toLower := by
  rw [List.map_map]
  exact List.map_congr_left fun c hc => toLower_toLower (h.isUnreserved c hc)

theorem IsServer.host? (h : IsServer host port) (hr : r.authority = normalServer host port) :
    r.host? = some (host.map Char.toLower) := by
  have proper := h.proper (.inl rfl) []
  have ascii : ∀ c ∈ host.map Char.toLower, c.toNat < 128 := fun c hc =>
    toNat_of_isUnreserved (h.name.lower.isUnreserved c hc)
  rw [proper.host?_eq (hr.trans h.authority.symm), normalDaemon]
  dsimp only
  rw [Text.lower, String.toList_ofList, String.toList_ofList, lowerAfter_of_ascii ascii,
    h.name.lower_lower]

theorem IsServer.port? (h : IsServer host port) (hr : r.authority = normalServer host port) :
    r.port? = .ok (if port = 0 then none else some port) := by
  have proper := h.proper (.inl rfl) []
  rw [Reference.port?, hr, ← h.authority, DaemonUrl.hostAndPort_authority proper, normalDaemon]
  dsimp only
  split
  · rfl
  · have hne : (Decimal.digits port).isEmpty = false :=
      List.isEmpty_eq_false_iff.mpr Nat.toDigits_ne_nil
    have numeric : (Decimal.digits port).all Char.isDigit = true :=
      List.all_eq_true.mpr fun c hc => mem_digits hc
    have short : ¬ Parse.digitLimit < (Decimal.digits port).length :=
      Nat.not_lt.mpr (Nat.le_trans (length_digits h.inRange) (by decide))
    rw [Option.getD_some, hne, numeric, if_neg Bool.false_ne_true, Bool.not_true,
      if_neg Bool.false_ne_true, if_neg short, Parse.natOf_digits, if_pos h.inRange]

theorem upperEscapes_of_isUnreserved {cs : List Char}
    (h : ∀ c ∈ cs, Text.isUnreserved c = true) : upperEscapes cs = cs := by
  fun_induction upperEscapes cs with
  | case1 => cases h '%' List.mem_cons_self
  | case2 => cases h '%' List.mem_cons_self
  | case3 c cs _ ih => rw [ih fun d hd => h d (List.mem_cons_of_mem _ hd)]
  | case4 => rfl

/-- A request to a server goes to that server, at the port of the scheme if none is given. -/
theorem IsServer.ofUrl (h : IsServer host port)
    (hs : scheme = "http".toList ∨ scheme = "https".toList) (below : List Char) :
    ∃ t, Target.ofUrl (webUrl scheme (normalServer host port) ('/' :: below)) = .ok t ∧
      t.host = String.ofList (host.map Char.toLower) ∧
      t.port = if port ≠ 0 then port else if t.secure then 443 else 80 := by
  obtain ⟨r, hchars, hr⟩ := h.ofChars hs below
  have secured : ∃ secure, security? (webUrl scheme (normalServer host port) ('/' :: below)) =
      some secure := by
    rcases hs with rfl | rfl <;> simp [security?, webUrl]
  obtain ⟨secure, hsecure⟩ := secured
  have known : (Except.ok r : Except AuthorityProblem Reference).mapError (·.fault) = .ok r := rfl
  unfold Target.ofUrl
  simp only [hsecure, hchars, known, h.port? hr, h.host? hr, bind, Except.bind]
  refine ⟨_, rfl, ?_, ?_⟩
  · dsimp only
    rw [h.name.lower_lower, upperEscapes_of_isUnreserved h.name.lower.isUnreserved]
  · cases port with
    | zero => rfl
    | succ n => rfl

theorem IsServer.requestUrl (h : IsServer host port) (hs : IsWeb scheme) (hr : Detached rest)
    {url : String} (hu : url.toList = webUrl scheme (serverAt host port) rest) :
    ∃ below, requestUrl url =
      .ok (webUrl (scheme.map Char.toLower) (normalServer host port) ('/' :: below)) := by
  rw [requestUrl_webUrl hs hu, hu]
  exact h.normalUrl hs hr

theorem IsServer.credentialsIn? (h : IsServer host port)
    (hr : r.authority = normalServer host port) : credentialsIn? r = none := by
  have unnamed : '@' ∉ normalServer host port := at_not_mem fun c hc => h.mem_normalServer hc
  rw [Http.credentialsIn?, Reference.userAndPassword?, hr, Dsn.cutLast_of_not_mem unnamed]

/-- A server can be requested under any path, and it is that server which is asked. -/
theorem IsServer.prepareRequest (h : IsServer host port) (hs : IsWeb scheme) (hr : Detached rest)
    {url : String} (hu : url.toList = webUrl scheme (serverAt host port) rest) {json : Option Value}
    {timeout : Option Num} {credentials : Option (String × String)} {body : Option String}
    {authorization : Option String} (hb : bodyOf json = .ok body)
    (ha : authorizationOf credentials = .ok authorization) (ht : checkTimeout timeout = .ok ())
    (method : String) :
    ∃ req, prepareRequest method url json timeout credentials = .ok req ∧
      req.target.host = String.ofList (host.map Char.toLower) ∧
      req.target.port = if port ≠ 0 then port else if req.target.secure then 443 else 80 := by
  obtain ⟨below, hrequested⟩ := h.requestUrl hs hr hu
  obtain ⟨r, hchars, hauthority⟩ := h.ofChars hs below
  obtain ⟨t, htarget, hhost, hport⟩ := h.ofUrl hs below
  have hreference : referenceOf
      (webUrl (scheme.map Char.toLower) (normalServer host port) ('/' :: below)) =
        .ok r.withParameters := by
    rw [referenceOf, Reference.parse, hchars]
    rfl
  have anonymous := h.credentialsIn? ((DaemonUrl.withParameters_authority r).trans hauthority)
  refine ⟨{
    method := Text.upper method
    url := webUrl (scheme.map Char.toLower) (normalServer host port) ('/' :: below)
    target := t, timeout, authorization, body
    contentType := body.map fun _ => "application/json" }, ?_, hhost, hport⟩
  refine prepareRequest_eq_ok.mpr ⟨hrequested, _, hreference, hb, ?_, htarget, ht, rfl, rfl, rfl⟩
  rw [anonymous, Option.or_none]
  exact ha

end Targets

end Testbed.Http
