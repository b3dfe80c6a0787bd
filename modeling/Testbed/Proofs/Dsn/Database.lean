import Testbed.Instance.ConnectionInfo
import Testbed.Proofs.Dsn.Query
import Testbed.Proofs.Names

/-!
# The database of a connection string

A connection string of the library names a database if it can be read at all, unless a zero
character or an open bracket hides its end.
-/

namespace Testbed.Dsn

set_option autoImplicit false

/-! Hosts and ports in front of a slash. -/

/-- Every bracket that is opened is closed later on. -/
def Bracketed (cs : List Char) : Prop := ∀ p q, cs = p ++ '[' :: q → ']' ∈ q

theorem Bracketed.suffix {p q : List Char} (h : Bracketed (p ++ q)) : Bracketed q := by
  intro p' q' hq
  exact h (p ++ p') q' (by rw [hq, List.append_assoc])

theorem Bracketed.of_not_mem {cs : List Char} (h : '[' ∉ cs) : Bracketed cs := by
  intro p q hq
  exact absurd (hq ▸ List.mem_append_right p List.mem_cons_self) h

/-- What stands at the end of a text from a slash on, with what is left in front of it. -/
def Reaches (tail cs : List Char) : Prop :=
  ∃ p, cs = p ++ '/' :: tail ∧ Bracketed p

/-- What is left of a text that is read up to a stop, which the slash is. -/
structure Halts (stops : Char → Bool) (tail cs rest : List Char) : Prop where
  suffix : rest <:+ cs
  reaches : Reaches tail rest
  stop : ∃ c more, rest = c :: more ∧ stops c = true

theorem Reaches.of_cons {c : Char} {tail rest : List Char} (h : Reaches tail (c :: rest))
    (hc : c ≠ '/') : Reaches tail rest := by
  obtain ⟨p, hp, hb⟩ := h
  cases p with
  | nil =>
    cases hp
    exact absurd rfl hc
  | cons d p =>
    cases hp
    exact ⟨p, rfl, Bracketed.suffix (p := [c]) hb⟩

theorem Reaches.dropWhile {stops : Char → Bool} (hs : stops '/' = true) {tail cs : List Char}
    (hc : Reaches tail cs) : Halts stops tail cs (cs.dropWhile (!stops ·)) := by
  induction cs with
  | nil =>
    obtain ⟨p, hp, -⟩ := hc
    simp at hp
  | cons c cs ih =>
    cases hst : stops c with
    | true =>
      rw [List.dropWhile_cons_of_neg (by simp [hst])]
      exact ⟨List.suffix_refl _, hc, c, cs, rfl, hst⟩
    | false =>
      rw [List.dropWhile_cons_of_pos (by simp [hst])]
      have hne : c ≠ '/' := by
        rintro rfl
        rw [hs] at hst
        cases hst
      obtain ⟨hsuf, hr, hstop⟩ := ih (hc.of_cons hne)
      exact ⟨hsuf.trans (List.suffix_cons _ _), hr, hstop⟩

/-- A host in brackets ends behind them. -/
theorem host_of_bracket {uri inside after h rest : List Char} (hi : ']' ∉ inside) (ha : after ≠ [])
    (hh : host uri ('[' :: (inside ++ ']' :: after)) = .ok (h, rest)) :
    rest = after ∧ ∃ c more, after = c :: more ∧ endsHost c = true := by
  obtain ⟨c, more, rfl⟩ := List.exists_cons_of_ne_nil ha
  rw [host, cutFirst_append hi] at hh
  cases inside with
  | nil => cases hh
  | cons x inside =>
    dsimp only at hh
    split at hh
    · next he =>
      cases hh
      exact ⟨rfl, c, more, rfl, he⟩
    · cases hh

theorem host_of_plain {uri cs h rest : List Char} (hp : ∀ q, cs ≠ '[' :: q)
    (hh : host uri cs = .ok (h, rest)) : rest = cs.dropWhile (!endsHost ·) := by
  unfold host at hh
  split at hh
  · exact absurd rfl (hp _)
  · cases hh
    rfl

/-- A host ends in front of the slash. -/
theorem host_halts {uri cs tail h rest : List Char} (hc : Reaches tail cs)
    (hh : host uri cs = .ok (h, rest)) : Halts endsHost tail cs rest := by
  have ⟨p, hp, hb⟩ := hc
  by_cases hq : ∃ q, p = '[' :: q
  · obtain ⟨q, rfl⟩ := hq
    obtain ⟨inside, after, rfl, hi⟩ := List.eq_append_cons_of_mem (hb [] q rfl)
    have hcs : cs = '[' :: (inside ++ ']' :: (after ++ '/' :: tail)) := by simpa using hp
    rw [hcs] at hh
    obtain ⟨rfl, hstop⟩ := host_of_bracket hi (by simp) hh
    refine ⟨?_, ⟨after, rfl, ?_⟩, hstop⟩
    · exact ⟨'[' :: inside ++ [']'], by simp [hcs]⟩
    · exact Bracketed.suffix (p := '[' :: inside ++ [']']) (by simpa using hb)
  · have hplain : ∀ q, cs ≠ '[' :: q := by
      rintro q rfl
      cases p with
      | nil => cases hp
      | cons c p =>
        cases hp
        exact hq ⟨p, rfl⟩
    rw [host_of_plain hplain hh]
    exact hc.dropWhile rfl

def endsPort (c : Char) : Bool := c == '/' || c == '?' || c == ','

def afterHost (cs : List Char) : List Char × List Char :=
  match cs with
  | ':' :: rest => portPart rest
  | _ => ([], cs)

theorem afterHost_of_ne {c : Char} (hc : c ≠ ':') (rest : List Char) :
    afterHost (c :: rest) = ([], c :: rest) := by
  unfold afterHost
  split
  · next heq => exact absurd (List.cons.inj heq).1 hc
  · rfl

theorem afterHost_halts {tail cs rest : List Char} (h : Halts endsHost tail cs rest) :
    Halts endsPort tail cs (afterHost rest).2 := by
  obtain ⟨c, more, rfl, he⟩ := h.stop
  by_cases hc : c = ':'
  · subst hc
    have hp : Halts endsPort tail more (more.dropWhile (!endsPort ·)) :=
      (h.reaches.of_cons (by decide)).dropWhile rfl
    obtain ⟨hsuf, hr, hstop⟩ := hp
    exact ⟨(hsuf.trans (List.suffix_cons _ _)).trans h.suffix, hr, hstop⟩
  · rw [afterHost_of_ne hc]
    exact ⟨h.suffix, h.reaches, c, more, rfl, by simpa [endsHost, endsPort, hc] using he⟩

theorem hosts_succ (uri : List Char) (fuel : Nat) (hs ps cs : List Char) :
    hosts uri (fuel + 1) hs ps cs = host uri cs >>= fun (h, rest) =>
      match (afterHost rest).2 with
      | ',' :: tail => hosts uri fuel (hs ++ h ++ [',']) (ps ++ (afterHost rest).1 ++ [',']) tail
      | _ => pure (hs ++ h, ps ++ (afterHost rest).1, (afterHost rest).2) := rfl

def endsHosts (c : Char) : Bool := c == '/' || c == '?'

/-- All hosts and ports end in front of the slash. -/
theorem hosts_halts {uri tail : List Char} {fuel : Nat} {hs ps cs hs' ps' rest : List Char}
    (hc : Reaches tail cs) (hf : cs.length < fuel)
    (h : hosts uri fuel hs ps cs = .ok (hs', ps', rest)) : Halts endsHosts tail cs rest := by
  induction fuel generalizing hs ps cs with
  | zero => exact absurd hf (Nat.not_lt_zero _)
  | succ fuel ih =>
    rw [hosts_succ] at h
    obtain ⟨⟨name, after⟩, hh, h⟩ := bind_ok h
    have ha := afterHost_halts (host_halts hc hh)
    dsimp only at h
    obtain ⟨c, more, hl, he⟩ := ha.stop
    rw [hl] at h ha
    by_cases hcomma : c = ','
    · subst hcomma
      have hlt : more.length < fuel := by
        have := ha.suffix.length_le
        rw [List.length_cons] at this
        omega
      obtain ⟨hsuf, hr, hstop⟩ := ih (ha.reaches.of_cons (by decide)) hlt h
      exact ⟨(hsuf.trans (List.suffix_cons _ _)).trans ha.suffix, hr, hstop⟩
    · split at h
      · next heq =>
        cases heq
        exact absurd rfl hcomma
      · cases h
        exact ⟨ha.suffix, ha.reaches, c, more, rfl, by simpa [endsPort, endsHosts, hcomma] using he⟩

/-! What is left behind the hosts. -/

theorem Reaches.path {db rest : List Char} (hd : db ≠ [])
    (h : Reaches (db ++ disabled) ('/' :: rest)) : ∃ path, path ≠ [] ∧ rest = path ++ disabled := by
  obtain ⟨p, hp, -⟩ := h
  cases p with
  | nil =>
    cases hp
    exact ⟨db, hd, rfl⟩
  | cons c p =>
    obtain ⟨-, rfl⟩ := List.cons.inj hp
    exact ⟨p ++ '/' :: db, by simp, by simp⟩

/-- When no slash comes before it, what is left behind the slash is the end. -/
theorem Reaches.path_eq {p tail rest : List Char} (h : Reaches tail ('/' :: rest))
    (hs : '/' :: rest <:+ p ++ '/' :: tail) (hp : '/' ∉ p) : rest = tail := by
  obtain ⟨q, hq, -⟩ := h
  cases q with
  | nil =>
    cases hq
    rfl
  | cons c q =>
    obtain ⟨front, hf⟩ := hs
    rw [hq, ← List.append_assoc] at hf
    have hfront : front ++ c :: q = p := List.append_cancel_right hf
    obtain ⟨rfl, -⟩ := List.cons.inj hq
    refine absurd ?_ hp
    rw [← hfront]
    exact List.mem_append_right _ List.mem_cons_self

theorem Reaches.query {db rest : List Char} (h : Reaches (db ++ disabled) ('?' :: rest)) :
    ∃ query, rest = query ++ disabled := by
  obtain ⟨p, hp, -⟩ := h
  cases p with
  | nil => cases hp
  | cons c p =>
    obtain ⟨-, rfl⟩ := List.cons.inj hp
    exact ⟨p ++ '/' :: db, by simp⟩

/-! The parts of a URI. -/

theorem credentials_rest {stored stored' : Stored} {user rest rest' : List Char} (ha : '@' ∉ user)
    (hs : '/' ∉ user) (h : credentials stored (user ++ '@' :: rest) = .ok (stored', rest')) :
    rest' = rest := by
  have hu : ∀ c ∈ user, (!(c == '@' || c == '/')) = true := by
    intro c hc
    have h₁ : c ≠ '@' := fun he => ha (he ▸ hc)
    have h₂ : c ≠ '/' := fun he => hs (he ▸ hc)
    simp [h₁, h₂]
  rw [credentials, List.dropWhile_append_of_pos hu, List.dropWhile_cons_of_neg (by decide)] at h
  obtain ⟨stored₁, -, h⟩ := bind_ok h
  obtain ⟨stored₂, -, h⟩ := bind_ok h
  cases h
  rfl

theorem storeToken_dbname {stored stored' : Stored} {token : List Char} (ht : token ≠ [])
    (h : storeToken stored "dbname" token = .ok stored') :
    ∃ bytes, Entries.get? "dbname" stored' = some bytes ∧ decode token = .ok bytes := by
  rw [storeToken, if_neg (by simpa using ht)] at h
  obtain ⟨bytes, hd, h⟩ := bind_ok h
  cases h
  exact ⟨bytes, Entries.get?_put_same _ _ _, hd⟩

theorem parameters_sslmode {fuel : Nat} {stored stored' : Stored}
    (h : parameters fuel stored "sslmode=disable".toList = .ok stored') :
    Entries.get? "dbname" stored' = Entries.get? "dbname" stored := by
  cases fuel with
  | zero =>
    cases h
    rfl
  | succ fuel =>
    have hquery : "sslmode=disable".toList = "sslmode".toList ++ '=' :: "disable".toList := rfl
    rw [hquery, parameters_mode (by decide)] at h
    cases h
    have hk : "sslmode" ≠ "dbname" := by decide
    exact Entries.get?_put_other _ _ hk

theorem Stored.settings_value {stored : Stored} {name : String} {bytes : List UInt8}
    (hs : Entries.get? name stored = some bytes) {names : List String} (hn : name ∈ names)
    {settings : Settings} (h : stored.settings names = .ok settings) :
    ∃ text, Text.ofUtf8 bytes = .ok text ∧ settings.value name = text := by
  induction names generalizing settings with
  | nil => cases hn
  | cons other names ih =>
    rw [Stored.settings] at h
    by_cases ho : other = name
    · subst ho
      rw [hs] at h
      obtain ⟨text, ht, h⟩ := bind_ok h
      obtain ⟨others, -, h⟩ := bind_ok h
      cases h
      cases hu : Text.ofUtf8 bytes with
      | error e =>
        rw [hu] at ht
        cases ht
      | ok t =>
        rw [hu] at ht
        cases ht
        exact ⟨_, rfl, by simp [Settings.value, Entries.get?]⟩
    · have hm := (List.mem_cons.mp hn).resolve_left (Ne.symm ho)
      cases hg : Entries.get? other stored with
      | none =>
        rw [hg] at h
        exact ih hm h
      | some b =>
        rw [hg] at h
        obtain ⟨text, -, h⟩ := bind_ok h
        obtain ⟨others, hr, h⟩ := bind_ok h
        cases h
        obtain ⟨t, ht, hv⟩ := ih hm hr
        exact ⟨t, ht, by simpa [Settings.value, Entries.get?, ho] using hv⟩

/-- A path with the query of every connection string of the library. -/
theorem database_of_path {stored stored₁ stored' : Stored} {db : List Char} (hd : db ≠ [])
    (hs : storeToken stored "dbname" (Text.cutFirst '?' (db ++ disabled)).1 = .ok stored₁)
    (h : parameters (((Text.cutFirst '?' (db ++ disabled)).2.getD []).length + 1) stored₁
      ((Text.cutFirst '?' (db ++ disabled)).2.getD []) = .ok stored') :
    ∃ bytes, Entries.get? "dbname" stored' = some bytes ∧ decode db = .ok bytes := by
  by_cases hm : '?' ∈ db
  · obtain ⟨before, rest, rfl, hb⟩ := List.eq_append_cons_of_mem hm
    rw [List.append_assoc, List.cons_append, cutFirst_append hb] at h
    exact absurd h disabled_marked
  · rw [disabled_eq, cutFirst_append hm] at hs h
    obtain ⟨bytes, hb, hdecode⟩ := storeToken_dbname hd hs
    exact ⟨bytes, (parameters_sslmode h).trans hb, hdecode⟩

/-- A URI that ends with a path and this query names a database if it can be read: that of the
path, unless a slash comes before it. -/
theorem ofUri_database {uri user p db : List Char} {stored : Stored} (ha : '@' ∉ user)
    (hs : '/' ∉ user) (hp : Bracketed p) (hd : db ≠ [])
    (h : ofUri uri (user ++ '@' :: (p ++ '/' :: (db ++ disabled))) = .ok stored) :
    ∃ path bytes, path ≠ [] ∧ ('/' ∉ p → path = db) ∧
      Entries.get? "dbname" stored = some bytes ∧ decode path = .ok bytes := by
  rw [ofUri] at h
  obtain ⟨⟨stored₁, rest⟩, hc, h⟩ := bind_ok h
  obtain rfl := credentials_rest ha hs hc
  obtain ⟨⟨names, ports, rest⟩, hh, h⟩ := bind_ok h
  obtain ⟨hsuffix, hreaches, c, more, rfl, hstop⟩ :=
    hosts_halts ⟨p, rfl, hp⟩ (Nat.lt_succ_self _) hh
  obtain ⟨stored₂, -, h⟩ := bind_ok h
  obtain ⟨stored₃, -, h⟩ := bind_ok h
  have hstop : c = '/' ∨ c = '?' := by simpa [endsHosts] using hstop
  rcases hstop with rfl | rfl
  · obtain ⟨path, hne, rfl⟩ := hreaches.path hd
    obtain ⟨⟨stored₄, query⟩, hput, h⟩ := bind_ok h
    obtain ⟨stored₅, hstore, hquery⟩ := map_ok hput
    obtain ⟨rfl, rfl⟩ := Prod.mk.inj hquery
    obtain ⟨bytes, hb, hdecode⟩ := database_of_path hne hstore h
    refine ⟨path, bytes, hne, fun hslash => ?_, hb, hdecode⟩
    exact List.append_cancel_right (hreaches.path_eq hsuffix hslash)
  · obtain ⟨query, rfl⟩ := hreaches.query
    obtain ⟨⟨stored₄, query⟩, hput, h⟩ := bind_ok h
    obtain ⟨-, rfl⟩ := Prod.mk.inj (Except.ok.inj hput)
    exact absurd h disabled_marked

/-! The connection strings of a server. -/

theorem Bracketed.append {p q : List Char} (hp : Bracketed p) (hq : '[' ∉ q) :
    Bracketed (p ++ q) := by
  intro a b hab
  rcases List.append_eq_append_iff.mp hab with ⟨m, rfl, hm⟩ | ⟨m, rfl, hm⟩
  · exact absurd (hm ▸ List.mem_append_right _ List.mem_cons_self) hq
  · cases m with
    | nil =>
      rw [List.nil_append] at hm
      exact absurd (hm ▸ List.mem_cons_self) hq
    | cons c m =>
      obtain ⟨rfl, rfl⟩ := List.cons.inj hm
      exact List.mem_append_left _ (hp a m rfl)

/-- A database at an address of a server whose user is the superuser. -/
def serverInfo (host : String) (port : Int) (name : String) : ConnectionInfo :=
  { host, port, database := name, user := "postgres", password := "postgres" }

theorem percent_postgres : Text.percentComponent "postgres" = "postgres" := rfl

theorem percent_disable : Text.percentQuery "disable" = "disable" := rfl

theorem serverInfo_userinfo (host : String) (port : Int) (name : String) :
    (serverInfo host port name).userinfo = "postgres" ++ ":" ++ "postgres" ++ "@" := by
  have he : "postgres".isEmpty = false := by decide
  simp only [ConnectionInfo.userinfo, serverInfo, percent_postgres, he, Bool.false_eq_true,
    if_false]

theorem serverInfo_query (host : String) (port : Int) (name : String) :
    (serverInfo host port name).query = "?sslmode=" ++ "disable" := by
  have he : "disable".isEmpty = false := by decide
  simp only [ConnectionInfo.query, serverInfo, percent_disable, he, Bool.false_eq_true, if_false]

theorem dsn_toList (host : String) (port : Int) (name : String) :
    (serverInfo host port name).dsn.toList = "postgres://".toList ++ ("postgres:postgres".toList ++
      '@' :: (host.toList ++ ':' :: (Decimal.ofInt port).toList ++
        '/' :: (name.toList ++ disabled))) := by
  have he : "postgres".isEmpty = false := by decide
  rw [ConnectionInfo.dsn, serverInfo_userinfo, serverInfo_query]
  have hat : "@".toList = ['@'] := rfl
  have hcolon : ":".toList = [':'] := rfl
  have hslash : "/".toList = ['/'] := rfl
  have huser : "postgres:postgres".toList = "postgres".toList ++ ':' :: "postgres".toList := rfl
  have hquery : disabled = "?sslmode=".toList ++ "disable".toList := rfl
  have hstart : "postgres://".toList = "postgres".toList ++ "://".toList := rfl
  simp only [serverInfo, he, Bool.false_eq_true, if_false, String.toList_append, hat, hcolon,
    hslash, huser, hquery, hstart, List.append_assoc, List.cons_append, List.nil_append]

/-- A host and a name that do not end a connection string before its end: there is no zero
character in them, and a bracket in the host does not reach over its end. -/
structure Plain (host name : String) : Prop where
  host_nonzero : '\x00' ∉ host.toList
  host_bracketed : Bracketed host.toList
  name_nonzero : '\x00' ∉ name.toList

theorem afterStart_postgres (cs : List Char) :
    afterStart? ("postgres://".toList ++ cs) = some cs := by
  have hl : "postgresql://".toList.isPrefixOf ("postgres://".toList ++ cs) = false := rfl
  have hs : "postgres://".toList.isPrefixOf ("postgres://".toList ++ cs) = true := rfl
  have hd : ("postgres://".toList ++ cs).drop "postgres://".length = cs := rfl
  simp only [afterStart?, uriStarts, List.findSome?_cons, hl, hs, hd, Bool.false_eq_true, if_false,
    if_true]

/-- The database that a connection string of a server names is read from a path, which is the
name unless there is a slash in the host. -/
theorem serverInfo_path {host name : String} {port : Int} (hp : Plain host name)
    (hn : name ≠ "") {settings : Settings}
    (h : parse (serverInfo host port name).dsn = .ok settings) :
    ∃ path bytes, path ≠ [] ∧ ('/' ∉ host.toList → path = name.toList) ∧
      decode path = .ok bytes ∧ Text.ofUtf8 bytes = .ok (settings.value "dbname") := by
  have digit : ∀ d : Char, d ≠ '-' → d.isDigit = false → d ∉ (Decimal.ofInt port).toList := by
    intro d hd hdig hm
    rcases Decimal.mem_ofInt hm with he | he
    · exact hd he
    · rw [hdig] at he
      cases he
  have hz : '\x00' ∉ (serverInfo host port name).dsn.toList := by
    have hq : '\x00' ∉ disabled := by decide
    have hd : '\x00' ∉ (Decimal.ofInt port).toList := digit _ (by decide) (by decide)
    simp [dsn_toList, hq, hd, hp.host_nonzero, hp.name_nonzero]
  have hb : Bracketed (host.toList ++ ':' :: (Decimal.ofInt port).toList) := by
    refine hp.host_bracketed.append fun hm => ?_
    rcases List.mem_cons.mp hm with hm | hm
    · cases hm
    · exact digit '[' (by decide) (by decide) hm
  have hslash : '/' ∉ host.toList → '/' ∉ host.toList ++ ':' :: (Decimal.ofInt port).toList := by
    intro hs
    simp [hs, digit '/' (by decide) (by decide)]
  rw [parse, takeWhile_of_not_mem hz, dsn_toList, afterStart_postgres] at h
  obtain ⟨stored, ho, h⟩ := bind_ok h
  have hdb : name.toList ≠ [] := by simpa using hn
  obtain ⟨path, bytes, hne, hpath, hg, hdecode⟩ :=
    ofUri_database (by decide) (by decide) hb hdb ho
  obtain ⟨text, ht, hv⟩ := Stored.settings_value hg (by decide) h
  rw [hv]
  exact ⟨path, bytes, hne, fun hs => hpath (hslash hs), hdecode, ht⟩

/-- A connection string of a server names a database if it can be read. -/
theorem serverInfo_database {host name : String} {port : Int} (hp : Plain host name)
    (hn : name ≠ "") {settings : Settings}
    (h : parse (serverInfo host port name).dsn = .ok settings) :
    settings.value "dbname" ≠ "" := by
  obtain ⟨path, bytes, hne, -, hdecode, ht⟩ := serverInfo_path hp hn h
  exact Text.ofUtf8_ne_empty ht (percentBytes_ne_nil hdecode hne)

/-- A host and a name that are read back from a connection string: the path begins behind the
host, and no part of the name is taken for an encoded byte. -/
structure Verbatim (host name : String) : Prop extends Plain host name where
  host_unslashed : '/' ∉ host.toList
  name_unescaped : '%' ∉ name.toList

/-- A connection string of a server names the database that it was made for. -/
theorem serverInfo_names {host name : String} {port : Int} (hp : Verbatim host name)
    (hn : name ≠ "") {settings : Settings}
    (h : parse (serverInfo host port name).dsn = .ok settings) :
    settings.value "dbname" = name := by
  obtain ⟨path, bytes, -, hpath, hdecode, ht⟩ := serverInfo_path hp.toPlain hn h
  rw [hpath hp.host_unslashed, decode_verbatim hp.name_unescaped] at hdecode
  cases hdecode
  rw [Text.ofUtf8_utf8Bytes] at ht
  exact (Except.ok.inj ht).symm

end Testbed.Dsn
