import Testbed.Http.Request
import Testbed.Proofs.Http.Escapes

/-!
# Requests below a base URL

The scheme and the authority of a URL say where a request goes.  What follows them may be anything,
since it is escaped where it has to be: where a base URL can be requested, so can every path below
it, and it is the same server that is asked.
-/

namespace Testbed.Http

set_option autoImplicit false

/-! URLs whose scheme can be requested. -/

section Urls

variable {scheme authority rest url : List Char}

theorem isAlpha_of_toLower {c : Char} (h : c.toLower.isAlpha = true) : c.isAlpha = true := by
  cases hu : c.isUpper with
  | true => rw [isAlpha_eq, hu, Bool.true_or]
  | false =>
    have same : c.toLower = c := dif_neg fun hc => by
      have upper : c.isUpper = true := isUpper_iff.mpr hc
      cases upper.symm.trans hu
    rw [same] at h
    exact h

/-- A scheme that can be requested, in letters of any case. -/
def IsWeb (scheme : List Char) : Prop :=
  scheme.map Char.toLower = "http".toList ∨ scheme.map Char.toLower = "https".toList

theorem IsWeb.isAlpha (h : IsWeb scheme) : ∀ c ∈ scheme, c.isAlpha = true := by
  intro c hc
  have lower : c.toLower ∈ scheme.map Char.toLower := List.mem_map_of_mem hc
  have letters : "https".toList.all Char.isAlpha = true := by decide
  refine isAlpha_of_toLower (List.all_eq_true.mp letters _ ?_)
  rcases h with h | h <;> rw [h] at lower
  · exact List.mem_append_left ['s'] lower
  · exact lower

theorem IsWeb.not_mem (h : IsWeb scheme) {c : Char} (hc : c.isAlpha = false) : c ∉ scheme :=
  fun hm => absurd (h.isAlpha c hm) (by simp [hc])

theorem IsWeb.schemePart (h : IsWeb scheme) (rest : List Char) :
    Http.schemePart (scheme ++ ':' :: rest) = some (scheme, rest) := by
  rw [Http.schemePart, Dsn.cutFirst_append (h.not_mem rfl)]
  have all := h.isAlpha
  cases scheme with
  | nil => rcases h with h | h <;> cases h
  | cons c scheme =>
    have tail : scheme.all isSchemeChar = true := by
      refine List.all_eq_true.mpr fun d hd => ?_
      simp [isSchemeChar, Char.isAlphanum, all d (List.mem_cons_of_mem _ hd)]
    simp [all c List.mem_cons_self, tail]

theorem IsWeb.isNormalScheme (h : IsWeb scheme) :
    Http.isNormalScheme (some (scheme.map Char.toLower)) = true := by
  rcases h with h | h <;> rw [h] <;> decide

theorem IsWeb.ne_nil (h : IsWeb scheme) : scheme ≠ [] := by
  rintro rfl
  rcases h with h | h <;> cases h

theorem IsWeb.lower (h : IsWeb scheme) : IsWeb (scheme.map Char.toLower) := by
  refine h.imp (fun h => ?_) (fun h => ?_) <;> rw [h] <;> rfl

/-- Whether the authority of a URL ends before a character. -/
def leaves (c : Char) : Bool := c == '/' || c == '?' || c == '#' || c == '\\'

/-- What may follow an authority. -/
def Detached (rest : List Char) : Prop := ∀ c ∈ rest.head?, leaves c = true

theorem detached_nil : Detached [] := by
  intro c hc
  cases hc

def webUrl (scheme authority rest : List Char) : List Char :=
  scheme ++ ':' :: '/' :: '/' :: (authority ++ rest)

theorem takeWhile_detached {p : Char → Bool} (ha : ∀ c ∈ authority, p c = true)
    (hr : ∀ c ∈ rest.head?, p c = false) : (authority ++ rest).takeWhile p = authority := by
  rw [List.takeWhile_append_of_pos ha]
  cases rest with
  | nil => simp
  | cons c rest => rw [List.takeWhile_cons_of_neg (by simp [hr c rfl]), List.append_nil]

theorem parts_webUrl (hs : IsWeb scheme) (ha : ∀ c ∈ authority, leaves c = false)
    (hr : Detached rest) : (UrlParts.of (webUrl scheme authority rest)).scheme =
      some (scheme.map Char.toLower) ∧
    (UrlParts.of (webUrl scheme authority rest)).authority = some authority := by
  have hpart := hs.schemePart ('/' :: '/' :: (authority ++ rest))
  have hdot : scheme.contains '.' = false := by simpa using hs.not_mem (c := '.') rfl
  have starts : startsLikeUrl (webUrl scheme authority rest) = true := by
    rw [startsLikeUrl, webUrl, hpart]
    dsimp only
    rw [hdot]
    exact Bool.or_true _
  have htake : (authority ++ rest).takeWhile (fun c => !leaves c) = authority :=
    takeWhile_detached (by simpa using ha) fun c hc => by simp [hr c hc]
  rw [UrlParts.of, if_pos starts, webUrl, hpart]
  exact ⟨rfl, congrArg some htake⟩

theorem checkParts_ok {p p' : UrlParts} {u : CheckedUrl} (hn : isNormalScheme p.scheme = true)
    (hs : p'.scheme = p.scheme) (ha : p'.authority = p.authority) (h : checkParts url p = .ok u)
    (url' : List Char) : checkParts url' p' = .ok { u with
      path := escapeInvalid isPathChar (resolveDots p'.path)
      query := p'.query.map (escapeInvalid isQueryChar)
      fragment := p'.fragment.map (escapeInvalid isQueryChar) } := by
  unfold checkParts at h ⊢
  rw [hs, ha]
  rw [hn] at h ⊢
  dsimp only at h ⊢
  cases hp : hostPort? (Text.cutLast '@' (p.authority.getD [])).2 with
  | none =>
    rw [hp] at h
    dsimp only at h
    split at h <;> cases h
  | some r =>
    rw [hp] at h
    simp only [pure_bind, if_true] at h ⊢
    cases hb : (if r.2.isEmpty = true then none else some (Parse.natOf r.2)).any (65535 < ·) with
    | true =>
      rw [hb] at h
      cases h
    | false =>
      rw [hb] at h
      cases hh : normalHost r.1 with
      | error e =>
        rw [hh] at h
        cases h
      | ok host =>
        rw [hh] at h
        cases h
        rfl

theorem encodeAny?_ne_nil {label ascii : List Char} (h : Idna.encodeAny? label = some ascii) :
    ascii ≠ [] := by
  unfold Idna.encodeAny? at h
  split at h
  · unfold Idna.encode? at h
    dsimp only at h
    split at h <;> cases h
    exact List.cons_ne_nil _ _
  · next hascii =>
    split at h <;> cases h
    next hl =>
    rintro rfl
    simp [Idna.isValid, Idna.mark] at hl

theorem joinAll_ne_nil {c : Char} {w : List Char} (h : w ≠ []) (ws : List (List Char)) :
    joinAll c (w :: ws) ≠ [] := by
  cases ws with
  | nil => exact h
  | cons v ws => exact List.append_ne_nil_of_left_ne_nil h _

/-- Whether a host is accepted does not depend on the URL, and an accepted host is not empty. -/
theorem checkedHost_ok {host host' : List Char} (h : checkedHost url host = .ok host')
    (url' : List Char) : checkedHost url' host = .ok host' ∧ host' ≠ [] := by
  unfold checkedHost at h ⊢
  dsimp only at h ⊢
  split at h
  · cases h
  next hne =>
  rw [if_neg hne]
  split at h
  · next ha =>
    rw [if_pos ha]
    split at h
    · next labels hl =>
      cases h
      refine ⟨rfl, ?_⟩
      obtain ⟨w, ws, hw⟩ := List.exists_cons_of_ne_nil
        (splitAll_ne_nil '.' (Text.lower (String.ofList host)).toList)
      rw [hw, List.mapM_cons] at hl
      obtain ⟨l, hlabel, hl⟩ := Option.bind_eq_some_iff.mp hl
      obtain ⟨ls, -, hl⟩ := Option.bind_eq_some_iff.mp hl
      cases hl
      exact joinAll_ne_nil (encodeAny?_ne_nil hlabel) ls
    · cases h
  · next ha =>
    split at h
    · cases h
    · next hb =>
      cases h
      rw [if_neg ha, if_neg hb]
      exact ⟨rfl, by simpa using hne⟩

theorem marked_allEscaped {mark : Char} {part : List Char} (hm : mark ≠ '%')
    (h : allEscaped part = true) : allEscaped (Reference.marked mark part) = true := by
  rw [Reference.marked]
  split
  · rfl
  · rw [allEscaped_other hm, h]

/-- A reference with an authority and a path is written with a slash between them, and when its
parts are escaped then so is what follows. -/
theorem text_rooted {scheme authority path query fragment : List Char} (hs : scheme ≠ [])
    (ha : authority ≠ []) (hne : path ≠ []) (hp : allEscaped path = true)
    (hq : allEscaped query = true) (hf : allEscaped fragment = true) :
    ∃ rest, allEscaped rest = true ∧
      ({ scheme, authority, path, query, fragment } : Reference).text =
        webUrl scheme authority ('/' :: rest) := by
  have hscheme : scheme.isEmpty = false := List.isEmpty_eq_false_iff.mpr hs
  have hauthority : authority.isEmpty = false := List.isEmpty_eq_false_iff.mpr ha
  have hpath : path.isEmpty = false := List.isEmpty_eq_false_iff.mpr hne
  have rooted : ∃ tail, allEscaped tail = true ∧
      (if path.head? == some '/' then path else '/' :: path) = '/' :: tail := by
    by_cases h : path.head? = some '/'
    · obtain ⟨tail, rfl⟩ := List.head?_eq_some_iff.mp h
      rw [allEscaped_other (by decide)] at hp
      exact ⟨tail, hp, if_pos (by simp)⟩
    · exact ⟨path, hp, if_neg (by simpa using h)⟩
  obtain ⟨tail, htail, hrooted⟩ := rooted
  refine ⟨tail ++ (Reference.marked '?' query ++ Reference.marked '#' fragment), ?_, ?_⟩
  · rw [allEscaped_append htail, allEscaped_append (marked_allEscaped (by decide) hq),
      marked_allEscaped (by decide) hf]
  · unfold Reference.text
    simp only [Reference.marked, List.isEmpty_nil, if_true, List.append_nil, hscheme, hauthority,
      hpath, Bool.not_false, Bool.true_or, Bool.false_or, Bool.false_eq_true, if_false, hrooted,
      webUrl, List.append_assoc, List.cons_append, List.nil_append]

/-- What is put together of the parts of a URL that were checked. -/
theorem normalUrl_checked (u : CheckedUrl) {host : List Char} (hh : host ≠ []) :
    ∃ authority, authority ≠ [] ∧ ∀ {url path : List Char} {query fragment : Option (List Char)},
      (UrlParts.of url).scheme = some scheme →
      checkParts url (UrlParts.of url) = .ok { u with path, query, fragment } →
      checkedHost url u.host = .ok host →
      normalUrl url = .ok (requote ({
        scheme, authority, path := if path.isEmpty then ['/'] else path
        query := query.getD [], fragment := fragment.getD [] } : Reference).text) := by
  refine ⟨?authority, ?named, ?normal⟩
  case normal =>
    intro url path query fragment hs hu hhost
    rw [normalUrl]
    simp only [hu, hs, hhost, bind, Except.bind]
    rfl
  case named =>
    exact List.append_ne_nil_of_left_ne_nil (List.append_ne_nil_of_right_ne_nil _ hh) _

/-- How a URL that can be requested is brought to its normal form depends on what follows its
authority only behind a slash. -/
theorem normalUrl_webUrl (hs : IsWeb scheme) (ha : ∀ c ∈ authority, leaves c = false)
    (hr : Detached rest) (h : normalUrl (webUrl scheme authority rest) = .ok url) :
    ∃ authority', ∀ rest', Detached rest' → ∃ tail, allEscaped tail = true ∧
      normalUrl (webUrl scheme authority rest') =
        .ok (requote (webUrl (scheme.map Char.toLower) authority' ('/' :: tail))) := by
  obtain ⟨hscheme, hauthority⟩ := parts_webUrl hs ha hr
  unfold normalUrl at h
  obtain ⟨u, hu, h⟩ := Dsn.bind_ok h
  rw [hscheme] at h
  obtain ⟨host, hhost, -⟩ := Dsn.bind_ok h
  obtain ⟨-, hne⟩ := checkedHost_ok hhost (webUrl scheme authority rest)
  obtain ⟨authority', hnamed, hnormal⟩ := normalUrl_checked u hne
  refine ⟨authority', fun rest' hr' => ?_⟩
  obtain ⟨hscheme', hauthority'⟩ := parts_webUrl hs ha hr'
  have checked := checkParts_ok (hscheme ▸ hs.isNormalScheme) (hscheme'.trans hscheme.symm)
    (hauthority'.trans hauthority.symm) hu (webUrl scheme authority rest')
  obtain ⟨hhost', -⟩ := checkedHost_ok hhost (webUrl scheme authority rest')
  have normal := hnormal hscheme' checked hhost'
  obtain ⟨path, hpath, hescaped, heq⟩ :=
    path_escaped (resolveDots (UrlParts.of (webUrl scheme authority rest')).path)
  obtain ⟨tail, htail, htext⟩ := text_rooted hs.lower.ne_nil hnamed hpath hescaped
    (part_escaped (UrlParts.of (webUrl scheme authority rest')).query)
    (part_escaped (UrlParts.of (webUrl scheme authority rest')).fragment)
  rw [heq, htext] at normal
  exact ⟨tail, htail, normal⟩

/-- The normal form of a URL is such a URL again, whose authority does not depend on what
follows. -/
theorem requote_webUrl {tail : List Char} (hs : scheme = "http".toList ∨ scheme = "https".toList)
    (ht : allEscaped tail = true) (authority : List Char) :
    ∃ rest, requote (webUrl scheme authority ('/' :: tail)) =
      webUrl scheme (requote authority) ('/' :: rest) := by
  have split (authority rest : List Char) :
      webUrl scheme authority rest = (scheme ++ [':', '/', '/'] ++ authority) ++ rest := by
    simp [webUrl]
  have plain : ∀ c ∈ scheme ++ [':', '/', '/'],
      c ≠ '%' ∧ c.toNat < 128 ∧ isReservedOrSafe c = true := by
    have all : (scheme ++ [':', '/', '/']).all (fun c =>
        c != '%' && (c.toNat < 128 && isReservedOrSafe c)) = true := by
      rcases hs with rfl | rfl <;> decide
    simpa only [List.all_eq_true, Bool.and_eq_true, bne_iff_ne, decide_eq_true_eq] using all
  obtain ⟨rest, hrest⟩ := requote_slash ht (scheme ++ [':', '/', '/'] ++ authority)
  exact ⟨rest, by rw [split, hrest, requote_plain plain, ← split]⟩

/-- A URL that can be requested names a server. -/
theorem authority_ne_nil (hs : IsWeb scheme) (hr : Detached rest)
    (h : normalUrl (webUrl scheme authority rest) = .ok url) : authority ≠ [] := by
  rintro rfl
  have short : ∀ c ∈ ([] : List Char), leaves c = false := nofun
  obtain ⟨hscheme, hauthority⟩ := parts_webUrl hs short hr
  unfold normalUrl at h
  obtain ⟨u, hu, h⟩ := Dsn.bind_ok h
  rw [hscheme] at h
  obtain ⟨host, hhost, -⟩ := Dsn.bind_ok h
  have empty : u.host = [] := by
    unfold checkParts at hu
    rw [hauthority, hscheme, hs.isNormalScheme] at hu
    have nowhere : hostPort? (Text.cutLast '@' []).2 = some ([], []) := rfl
    simp only [Option.getD_some, nowhere, if_true] at hu
    cases hu
    rfl
  rw [empty] at hhost
  cases hhost

theorem isBlank_of_isAlpha {c : Char} (h : c.isAlpha = true) : Text.isBlank c = false := by
  have letters : ∀ n < 128,
      (Nat.blt 64 n && (Text.findRange Text.blankRanges n).isSome) = false := by decide +kernel
  have bounds : 64 < c.toNat ∧ c.toNat < 128 := by
    refine ⟨?_, toNat_of_isUnreserved (by simp [Text.isUnreserved, Char.isAlphanum, h])⟩
    rw [isAlpha_eq, Bool.or_eq_true, isUpper_iff, isLower_iff] at h
    have low : 'A' ≤ c := h.elim And.left fun h => Char.le_trans (by decide) h.1
    exact Nat.lt_of_lt_of_le (by decide) (UInt32.le_iff_toNat_le.mp low)
  have h := letters c.toNat bounds.2
  rwa [Nat.blt_eq.mpr bounds.1, Bool.true_and] at h

/-- Nothing is left out of a URL that can be requested, and it is brought to its normal form. -/
theorem requestUrl_webUrl (hs : IsWeb scheme) {text : String}
    (ht : text.toList = webUrl scheme authority rest) :
    requestUrl text = normalUrl text.toList := by
  have web : "http".toList.isPrefixOf (text.toList.map Char.toLower) = true := by
    rw [List.isPrefixOf_iff_prefix, ht, webUrl, List.map_append]
    refine List.IsPrefix.trans ?_ (List.prefix_append _ _)
    rcases hs with hs | hs
    · exact hs ▸ List.prefix_refl _
    · exact hs ▸ List.prefix_append "http".toList ['s']
  have whole : text.toList.dropWhile Text.isBlank = text.toList := by
    obtain ⟨c, tail, rfl⟩ := List.exists_cons_of_ne_nil hs.ne_nil
    rw [ht, webUrl, List.cons_append, List.dropWhile_cons_of_neg]
    rw [isBlank_of_isAlpha (hs.isAlpha c List.mem_cons_self)]
    exact Bool.false_ne_true
  rw [requestUrl, whole, web, Bool.not_true, Bool.and_false, if_neg Bool.false_ne_true]

/-- The authority that is read from a URL does not depend on what follows behind a slash. -/
theorem ofChars_webUrl (hs : IsWeb scheme) (authority : List Char) :
    ∃ authority', ∀ rest, ∃ r : Reference,
      Reference.ofChars (webUrl scheme authority ('/' :: rest)) =
        (checkAuthority authority').map (fun _ => r) ∧ r.authority = authority' := by
  refine ⟨(authority.filter isKept).takeWhile (!endsAuthority ·), fun rest => ?_⟩
  have start : ∀ c ∈ scheme, isKept c = true := by
    intro c hc
    have hne (d : Char) (hd : d.isAlpha = false) : (c == d) = false :=
      beq_eq_false_iff_ne.mpr fun he => absurd hc (he ▸ hs.not_mem hd)
    simp only [isKept, hne '\t' rfl, hne '\n' rfl, hne '\r' rfl]
    rfl
  have kept : (webUrl scheme authority ('/' :: rest)).filter isKept =
      scheme ++ ':' :: '/' :: '/' :: (authority.filter isKept ++ '/' :: rest.filter isKept) := by
    rw [webUrl, List.filter_append, List.filter_eq_self.mpr start]
    simp [isKept]
  have ends : (authority.filter isKept ++ '/' :: rest.filter isKept).takeWhile (!endsAuthority ·) =
      (authority.filter isKept).takeWhile (!endsAuthority ·) := by
    rw [List.takeWhile_append]
    split
    · next hl =>
      rw [List.takeWhile_cons_of_neg (by decide), List.append_nil]
      exact ((List.takeWhile_prefix _).eq_of_length hl).symm
    · rfl
  rw [← ends]
  exact DaemonUrl.ofChars_of_scheme (by rw [kept, hs.schemePart])

theorem security?_webUrl (hs : scheme = "http".toList ∨ scheme = "https".toList)
    (authority rest authority' rest' : List Char) :
    security? (webUrl scheme authority rest) = security? (webUrl scheme authority' rest') := by
  rcases hs with rfl | rfl <;> simp [security?, webUrl]

theorem Target.ofUrl_of_place {url' : List Char} {r r' : Reference} {t : Target}
    (hs : security? url' = security? url) (hr : Reference.ofChars url = .ok r)
    (hr' : Reference.ofChars url' = .ok r') (ha : r'.authority = r.authority)
    (h : Target.ofUrl url = .ok t) : ∃ path, Target.ofUrl url' = .ok { t with path } := by
  have hport : r'.port? = r.port? := by
    rw [Reference.port?, ha]
    rfl
  have hhost : r'.host? = r.host? := by
    rw [Reference.host?, ha]
    rfl
  unfold Target.ofUrl at h ⊢
  rw [hs]
  cases hsec : security? url with
  | none =>
    rw [hsec] at h
    cases h
  | some secure =>
    have known (r : Reference) :
        (Except.ok r : Except AuthorityProblem Reference).mapError (·.fault) = .ok r := rfl
    simp only [hsec, hr, hr', known, hport, hhost, bind, Except.bind] at h ⊢
    cases hp : r.port? with
    | error e =>
      rw [hp] at h
      cases h
    | ok port =>
      cases hh : r.host? with
      | none =>
        rw [hp, hh] at h
        cases h
      | some host =>
        rw [hp, hh] at h
        cases h
        exact ⟨_, rfl⟩

/-- The body that is sent for a value. -/
def bodyOf (json : Option Value) : Except Fault (Option String) :=
  match json with
  | none | some .null => pure none
  | some v => (jsonBody v).map some

def authorizationOf (credentials : Option (String × String)) : Except Fault (Option String) :=
  match credentials with
  | some (user, password) => (basicAuthorization user password).map some
  | none => pure none

theorem prepareRequest_eq (method url : String) (json : Option Value) (timeout : Option Num)
    (credentials : Option (String × String)) :
    prepareRequest method url json timeout credentials = (do
      let url ← requestUrl url
      let r ← referenceOf url
      let body ← bodyOf json
      let authorization ← authorizationOf (credentials.or (credentialsIn? r))
      let target ← Target.ofUrl url
      checkTimeout timeout
      pure { method := Text.upper method, url, target, timeout, authorization
             contentType := body.map fun _ => "application/json", body }) := by
  refine bind_congr fun u => bind_congr fun r => ?_
  rcases json with - | v
  · cases credentials.or (credentialsIn? r) <;> rfl
  · cases v <;> cases credentials.or (credentialsIn? r) <;> rfl

theorem prepareRequest_eq_ok {method url : String} {json : Option Value} {timeout : Option Num}
    {credentials : Option (String × String)} {req : Request} :
    prepareRequest method url json timeout credentials = .ok req ↔
      requestUrl url = .ok req.url ∧ ∃ r, referenceOf req.url = .ok r ∧
        bodyOf json = .ok req.body ∧
        authorizationOf (credentials.or (credentialsIn? r)) = .ok req.authorization ∧
        Target.ofUrl req.url = .ok req.target ∧ checkTimeout timeout = .ok () ∧
        req.method = Text.upper method ∧ req.timeout = timeout ∧
        req.contentType = req.body.map fun _ => "application/json" := by
  rw [prepareRequest_eq]
  constructor
  · intro h
    obtain ⟨u, hu, h⟩ := Dsn.bind_ok h
    obtain ⟨r, hr, h⟩ := Dsn.bind_ok h
    obtain ⟨body, hbody, h⟩ := Dsn.bind_ok h
    obtain ⟨authorization, hauthorization, h⟩ := Dsn.bind_ok h
    obtain ⟨target, htarget, h⟩ := Dsn.bind_ok h
    obtain ⟨_, htimeout, h⟩ := Dsn.bind_ok h
    cases h
    exact ⟨hu, r, hr, hbody, hauthorization, htarget, htimeout, rfl, rfl, rfl⟩
  · obtain ⟨m, u, target, t, authorization, contentType, body⟩ := req
    rintro ⟨hu, r, hr, hbody, hauthorization, htarget, htimeout, hmethod, ht, hcontent⟩
    dsimp only at hu hr hbody hauthorization htarget hmethod ht hcontent
    subst hmethod ht hcontent
    simp only [bind, Except.bind, hu, hr, hbody, hauthorization, htarget, htimeout]
    rfl

/-- The URLs that are requested of one scheme and one authority have these in common again. -/
theorem requestUrl_shared {base url : String} {u : List Char} {rest' : List Char}
    (hs : IsWeb scheme) (ha : ∀ c ∈ authority, leaves c = false) (hr : Detached rest)
    (hr' : Detached rest') (hb : base.toList = webUrl scheme authority rest)
    (hu : url.toList = webUrl scheme authority rest') (h : requestUrl base = .ok u) :
    ∃ authority' below below', u = webUrl (scheme.map Char.toLower) authority' ('/' :: below) ∧
      requestUrl url = .ok (webUrl (scheme.map Char.toLower) authority' ('/' :: below')) := by
  rw [requestUrl_webUrl hs hb, hb] at h
  rw [requestUrl_webUrl hs hu, hu]
  obtain ⟨authority', hnormal⟩ := normalUrl_webUrl hs ha hr h
  obtain ⟨tail, htail, hbase⟩ := hnormal rest hr
  obtain ⟨tail', htail', hurl⟩ := hnormal rest' hr'
  obtain ⟨below, hbelow⟩ := requote_webUrl hs htail authority'
  obtain ⟨below', hbelow'⟩ := requote_webUrl hs htail' authority'
  rw [hbelow] at hbase
  exact ⟨_, below, below', Except.ok.inj (h.symm.trans hbase), by rw [hurl, hbelow']⟩

/-- Where one URL can be requested, so can any other with its scheme and its authority, and the
requests differ only in what is asked for. -/
theorem prepareRequest_shared {method base url : String} {json : Option Value}
    {timeout : Option Num} {credentials : Option (String × String)} {req : Request}
    {rest' : List Char} (hs : IsWeb scheme) (ha : ∀ c ∈ authority, leaves c = false)
    (hr : Detached rest) (hr' : Detached rest') (hb : base.toList = webUrl scheme authority rest)
    (hu : url.toList = webUrl scheme authority rest')
    (h : prepareRequest method base json timeout credentials = .ok req) :
    ∃ url' path, prepareRequest method url json timeout credentials =
      .ok { req with url := url', target := { req.target with path } } := by
  obtain ⟨hurl, p, hp, hbody, hauthorization, htarget, htimeout, hmethod, ht, hcontent⟩ :=
    prepareRequest_eq_ok.mp h
  obtain ⟨authority', below, below', hbelow, hurl'⟩ := requestUrl_shared hs ha hr hr' hb hu hurl
  rw [hbelow] at hp htarget
  obtain ⟨authority'', hchars⟩ := ofChars_webUrl hs.lower authority'
  obtain ⟨r, hr, hra⟩ := hchars below
  obtain ⟨r', hr', hra'⟩ := hchars below'
  rw [referenceOf, Reference.parse, hr] at hp
  cases hc : checkAuthority authority'' with
  | error e =>
    rw [hc] at hp
    cases hp
  | ok _ =>
  rw [hc] at hp hr hr'
  cases hp
  have place : r'.withParameters.authority = r.withParameters.authority := by
    rw [DaemonUrl.withParameters_authority, DaemonUrl.withParameters_authority, hra, hra']
  have credentialed : credentialsIn? r'.withParameters = credentialsIn? r.withParameters := by
    rw [credentialsIn?, Reference.userAndPassword?, place]
    rfl
  obtain ⟨path, hpath⟩ := Target.ofUrl_of_place (security?_webUrl hs _ _ _ _) hr hr'
    (hra'.trans hra.symm) htarget
  have hreference : referenceOf (webUrl (scheme.map Char.toLower) authority' ('/' :: below')) =
      .ok r'.withParameters := by
    rw [referenceOf, Reference.parse, hr']
    rfl
  exact ⟨_, path, prepareRequest_eq_ok.mpr ⟨hurl', _, hreference, hbody,
    by rw [credentialed]; exact hauthorization, hpath, htimeout, hmethod, ht, hcontent⟩⟩

end Urls

end Testbed.Http
