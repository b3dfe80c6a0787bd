import Testbed.Proofs.Dsn.Database
import Testbed.Proofs.Dsn.Percent

/-!
# The parts of a connection string

The reader takes a connection string apart where the library put it together: the user and the
password end at the at sign, the host at the colon and the port at the slash.  What is left to be
read is the database with the query.
-/

namespace Testbed

set_option autoImplicit false

namespace Dsn

/-! Options whose values are texts. -/

def encoded (values : Settings) : Stored := values.map fun (name, text) =>
  (name, Text.utf8Bytes text)

section Encoded

variable {name text : String} {values : Settings}

theorem get?_encoded (name : String) (values : Settings) :
    Entries.get? name (encoded values) = (Entries.get? name values).map Text.utf8Bytes := by
  induction values with
  | nil => rfl
  | cons e values ih =>
    obtain ⟨other, text⟩ := e
    change Entries.get? name ((other, Text.utf8Bytes text) :: encoded values) = _
    rw [Entries.get?, Entries.get?, ih]
    split <;> rfl

theorem put_encoded (name text : String) (values : Settings) :
    Entries.put name (Text.utf8Bytes text) (encoded values) =
      encoded (Entries.put name text values) := by
  induction values with
  | nil => rfl
  | cons e values ih =>
    obtain ⟨other, old⟩ := e
    change Entries.put name (Text.utf8Bytes text)
      ((other, Text.utf8Bytes old) :: encoded values) = _
    rw [Entries.put, Entries.put, ih]
    split <;> rfl

/-- The values of some options, in the order of the names. -/
def inOrder (names : List String) (values : Settings) : Settings :=
  names.filterMap fun name => (Entries.get? name values).map (name, ·)

theorem settings_encoded (values : Settings) (names : List String) :
    (encoded values).settings names = .ok (inOrder names values) := by
  induction names with
  | nil => rfl
  | cons name names ih =>
    rw [Stored.settings, get?_encoded, ih]
    cases h : Entries.get? name values with
    | none => simp [inOrder, h]
    | some text =>
      simp only [Option.map_some, Text.ofUtf8_utf8Bytes, inOrder, List.filterMap_cons, h]
      rfl

theorem storeToken_encoded {token : List Char} (values : Settings) (hn : name ∈ optionNames)
    (hr : name ≠ "requiressl") (ht : token ≠ []) (hd : decode token = .ok (Text.utf8Bytes text)) :
    storeToken (encoded values) name token = .ok (encoded (Entries.put name text values)) := by
  rw [storeToken, if_neg (by simpa using ht), hd, ← put_encoded]
  exact store_known hn hr _ _ _

end Encoded

/-! The pieces of a URI. -/

theorem credentials_at {info : List Char} (h : ∀ x ∈ info, x ≠ '@' ∧ x ≠ '/') (stored : Stored)
    (rest : List Char) : credentials stored (info ++ '@' :: rest) =
      storeToken stored "user" (Text.cutFirst ':' info).1 >>= fun stored =>
        (storeToken stored "password" ((Text.cutFirst ':' info).2.getD [])).map (·, rest) := by
  have hstop : ∀ x ∈ info, (!(x == '@' || x == '/')) = true := by
    intro x hx
    simp [(h x hx).1, (h x hx).2]
  have hat : '@' ∉ info := fun hm => (h '@' hm).1 rfl
  rw [credentials, List.dropWhile_append_of_pos hstop, List.dropWhile_cons_of_neg (by decide)]
  dsimp only
  rw [List.takeWhile_append_of_pos (ne_of_not_mem hat), List.takeWhile_cons_of_neg (by decide),
    List.append_nil]
  rfl

theorem credentials_none {front : List Char} (h : ∀ x ∈ front, x ≠ '@' ∧ x ≠ '/') (stored : Stored)
    (tail : List Char) : credentials stored (front ++ '/' :: tail) =
      .ok (stored, front ++ '/' :: tail) := by
  have hstop : ∀ x ∈ front, (!(x == '@' || x == '/')) = true := by
    intro x hx
    simp [(h x hx).1, (h x hx).2]
  rw [credentials, List.dropWhile_append_of_pos hstop, List.dropWhile_cons_of_neg (by decide)]
  rfl

theorem hosts_single {name port : List Char} (hn : ∀ x ∈ name, endsHost x = false ∧ x ≠ '[')
    (hp : ∀ x ∈ port, endsPort x = false) (uri tail : List Char) (fuel : Nat) :
    hosts uri (fuel + 1) [] [] (name ++ ':' :: (port ++ '/' :: tail)) =
      .ok (name, port, '/' :: tail) := by
  have hname : ∀ x ∈ name, (!endsHost x) = true := fun x hx => by simp [(hn x hx).1]
  have hport : ∀ x ∈ port, (!endsPort x) = true := fun x hx => by simp [hp x hx]
  have hhost : host uri (name ++ ':' :: (port ++ '/' :: tail)) =
      .ok (name, ':' :: (port ++ '/' :: tail)) := by
    unfold host
    split
    · next he =>
      cases name with
      | nil => cases he
      | cons c name => exact absurd (List.cons.inj he).1 (hn c List.mem_cons_self).2
    · rw [List.takeWhile_append_of_pos hname, List.dropWhile_append_of_pos hname,
        List.takeWhile_cons_of_neg (by decide), List.dropWhile_cons_of_neg (by decide),
        List.append_nil]
  have hafter : afterHost (':' :: (port ++ '/' :: tail)) = (port, '/' :: tail) := by
    change ((port ++ '/' :: tail).takeWhile (!endsPort ·),
      (port ++ '/' :: tail).dropWhile (!endsPort ·)) = _
    rw [List.takeWhile_append_of_pos hport, List.dropWhile_append_of_pos hport,
      List.takeWhile_cons_of_neg (by decide), List.dropWhile_cons_of_neg (by decide),
      List.append_nil]
  rw [hosts_succ, hhost]
  simp only [bind, Except.bind, hafter]
  rfl

/-! Queries. -/

/-- The query that sets a mode, unless there is none. -/
def modeChars (mode : String) : List Char := if mode = "" then [] else modeQuery mode.toList

theorem percentQuery_mode : ∀ m ∈ sslModes, Text.percentQuery m = m := by decide +kernel

end Dsn

namespace ConnectionInfo

open Dsn Text

/-- Connection details with a host name, texts without zero characters and a known mode. -/
structure Regular (c : ConnectionInfo) : Prop where
  scheme : c.scheme = "postgres"
  named : c.host ≠ ""
  host : ∀ x ∈ c.host.toList, x.isAlphanum = true ∨ x = '.' ∨ x = '-'
  user : '\x00' ∉ c.user.toList
  password : '\x00' ∉ c.password.toList
  mode : c.sslMode ∈ "" :: sslModes

/-- Connection details in whose address nothing but a colon can be taken for a delimiter. -/
structure Located (c : ConnectionInfo) : Prop where
  scheme : c.scheme = "postgres"
  host : ∀ x ∈ c.host.toList, isUnreserved x = true ∨ x = ':'
  user : '\x00' ∉ c.user.toList
  password : '\x00' ∉ c.password.toList
  mode : c.sslMode ∈ "" :: sslModes

/-- The options that the user and the password set. -/
def login (c : ConnectionInfo) : Dsn.Settings :=
  if c.user = "" then []
  else if c.password = "" then [("user", c.user)]
  else [("user", c.user), ("password", c.password)]

/-- The options that stand in front of the database. -/
def place (c : ConnectionInfo) : Dsn.Settings :=
  c.login ++ [("host", c.host), ("port", Decimal.ofInt c.port)]

/-- The options in front of the database when the address is cut into a name and a port. -/
def placeAt (c : ConnectionInfo) (name port : String) : Dsn.Settings :=
  c.login ++ (if name = "" then [] else [("host", name)]) ++ [("port", port)]

section Parts

variable {c : ConnectionInfo}

theorem userinfo_of_user_empty (hu : c.user = "") : c.userinfo.toList = [] := by
  rw [userinfo, hu]
  rfl

theorem userinfo_of_password_empty (hu : c.user ≠ "") (hp : c.password = "") :
    c.userinfo.toList = (percentComponent c.user).toList ++ ['@'] := by
  have hu' : c.user.isEmpty = false := by simpa using hu
  rw [userinfo, hu', hp]
  simp

theorem userinfo_of_ne (hu : c.user ≠ "") (hp : c.password ≠ "") :
    c.userinfo.toList = (percentComponent c.user).toList ++
      ':' :: ((percentComponent c.password).toList ++ ['@']) := by
  have hu' : c.user.isEmpty = false := by simpa using hu
  have hp' : c.password.isEmpty = false := by simpa using hp
  rw [userinfo, hu', hp']
  simp

theorem query_eq (hm : c.sslMode ∈ "" :: sslModes) : c.query.toList = modeChars c.sslMode := by
  rcases List.mem_cons.mp hm with hm | hm
  · rw [query, modeChars, hm]
    rfl
  · have hne : c.sslMode ≠ "" := (mode_chars _ hm).1
    have hne' : c.sslMode.isEmpty = false := by simpa using hne
    rw [query, hne', modeChars, if_neg hne, percentQuery_mode _ hm]
    simp [modeQuery]

theorem dsn_chars (h : c.Located) : c.dsn.toList = "postgres://".toList ++ (c.userinfo.toList ++
    ((c.host.toList ++ ':' :: (Decimal.ofInt c.port).toList) ++
      '/' :: (c.database.toList ++ modeChars c.sslMode))) := by
  have hs : "postgres".isEmpty = false := by decide
  have hstart : "postgres://".toList = "postgres".toList ++ "://".toList := rfl
  rw [dsn, h.scheme, hs, hstart, ← query_eq h.mode]
  simp

theorem isUnreserved_host (h : c.Regular) : ∀ x ∈ c.host.toList, isUnreserved x = true := by
  intro x hx
  rcases h.host x hx with ha | rfl | rfl
  · simp [isUnreserved, ha]
  · rfl
  · rfl

theorem Regular.located (h : c.Regular) : c.Located := { h with
  host := fun x hx => .inl (isUnreserved_host h x hx) }

theorem isUnreserved_port (n : Int) : ∀ x ∈ (Decimal.ofInt n).toList, isUnreserved x = true := by
  intro x hx
  rcases Decimal.mem_ofInt hx with rfl | hd
  · rfl
  · simp [isUnreserved, Char.isAlphanum, hd]

theorem ne_of_isUnreserved {x y : Char} (hx : isUnreserved x = true) (hy : isUnreserved y = false) :
    x ≠ y := by
  rintro rfl
  cases hy.symm.trans hx

theorem endsHost_of_isUnreserved {x : Char} (hx : isUnreserved x = true) : endsHost x = false := by
  have h (y : Char) (hy : isUnreserved y = false) : (x == y) = false :=
    beq_eq_false_iff_ne.mpr (ne_of_isUnreserved hx hy)
  simp [endsHost, h ':' rfl, h '/' rfl, h '?' rfl, h ',' rfl]

theorem endsPort_of_isUnreserved {x : Char} (hx : isUnreserved x = true) : endsPort x = false := by
  have h := endsHost_of_isUnreserved hx
  simp only [endsHost, Bool.or_eq_false_iff] at h
  simp [endsPort, h.1.1.2, h.1.2, h.2]

/-- What stands between the user and the database. -/
def address (c : ConnectionInfo) : List Char :=
  c.host.toList ++ ':' :: (Decimal.ofInt c.port).toList

theorem mem_address (h : c.Located) {x : Char} (hx : x ∈ c.address) :
    isUnreserved x = true ∨ x = ':' := by
  rcases List.mem_append.mp hx with hx | hx
  · exact h.host x hx
  · rcases List.mem_cons.mp hx with rfl | hx
    · exact .inr rfl
    · exact .inl (isUnreserved_port c.port x hx)

theorem ne_of_mem_address (h : c.Located) {y : Char} (hy : isUnreserved y = false) (hc : y ≠ ':') :
    ∀ x ∈ c.address, x ≠ y := by
  rintro x hx rfl
  rcases mem_address h hx with hu | rfl
  · exact ne_of_isUnreserved hu hy rfl
  · exact hc rfl

theorem credentials_userinfo (h : c.Located) (tail : List Char) :
    credentials [] (c.userinfo.toList ++ (c.address ++ '/' :: tail)) =
      .ok (encoded c.login, c.address ++ '/' :: tail) := by
  have component (s : String) : ∀ x ∈ (percentComponent s).toList, x ≠ '@' ∧ x ≠ '/' := by
    refine fun x hx => ⟨?_, ?_⟩
    · rintro rfl
      exact not_mem_percentComponent rfl (by decide) s hx
    · rintro rfl
      exact not_mem_percentComponent rfl (by decide) s hx
  have hcolon (s : String) : ':' ∉ (percentComponent s).toList :=
    not_mem_percentComponent rfl (by decide) s
  by_cases hu : c.user = ""
  · have haddress : ∀ x ∈ c.address, x ≠ '@' ∧ x ≠ '/' := fun x hx =>
      ⟨ne_of_mem_address h rfl (by decide) x hx, ne_of_mem_address h rfl (by decide) x hx⟩
    rw [userinfo_of_user_empty hu, List.nil_append, credentials_none haddress, login, if_pos hu]
    rfl
  · have huser : storeToken [] "user" (percentComponent c.user).toList =
        .ok (encoded [("user", c.user)]) :=
      storeToken_encoded [] (by decide) (by decide) (percentComponent_ne_nil hu)
        (decode_percentComponent h.user)
    by_cases hp : c.password = ""
    · rw [userinfo_of_password_empty hu hp, List.append_assoc, List.cons_append, List.nil_append,
        credentials_at (component _), cutFirst_of_not_mem (hcolon _), huser, login, if_neg hu,
        if_pos hp]
      rfl
    · have hpassword : storeToken (encoded [("user", c.user)]) "password"
          (percentComponent c.password).toList =
          .ok (encoded [("user", c.user), ("password", c.password)]) :=
        storeToken_encoded [("user", c.user)] (by decide) (by decide)
          (percentComponent_ne_nil hp) (decode_percentComponent h.password)
      have hinfo : ∀ x ∈ (percentComponent c.user).toList ++
          ':' :: (percentComponent c.password).toList, x ≠ '@' ∧ x ≠ '/' := by
        intro x hx
        rcases List.mem_append.mp hx with hx | hx
        · exact component _ x hx
        · rcases List.mem_cons.mp hx with rfl | hx
          · exact ⟨by decide, by decide⟩
          · exact component _ x hx
      have hparts : c.userinfo.toList ++ (c.address ++ '/' :: tail) =
          ((percentComponent c.user).toList ++ ':' :: (percentComponent c.password).toList) ++
            '@' :: (c.address ++ '/' :: tail) := by
        rw [userinfo_of_ne hu hp]
        simp
      rw [hparts, credentials_at hinfo, cutFirst_append (hcolon _), huser]
      simp only [bind, Except.bind, Option.getD_some, hpassword, login, if_neg hu, if_neg hp]
      rfl

theorem address_cut (c : ConnectionInfo) : ∃ name port : String,
    c.address = name.toList ++ ':' :: port.toList ∧ ':' ∉ name.toList ∧ port ≠ "" ∧
      (':' ∉ c.host.toList → name = c.host ∧ port = Decimal.ofInt c.port) := by
  by_cases hc : ':' ∈ c.host.toList
  · obtain ⟨name, more, hhost, hn⟩ := List.eq_append_cons_of_mem hc
    refine ⟨String.ofList name, String.ofList (more ++ ':' :: (Decimal.ofInt c.port).toList),
      ?_, by rwa [String.toList_ofList], ?_, fun h => absurd hc h⟩
    · rw [address, hhost, String.toList_ofList, String.toList_ofList, List.append_assoc,
        List.cons_append]
    · intro he
      have hnil := congrArg String.toList he
      rw [String.toList_ofList] at hnil
      exact List.append_ne_nil_of_right_ne_nil _ (List.cons_ne_nil _ _) hnil
  · exact ⟨c.host, Decimal.ofInt c.port, rfl, hc, by simpa using Decimal.ofInt_ne_nil c.port,
      fun _ => ⟨rfl, rfl⟩⟩

theorem hosts_address (h : c.Located) {name port : List Char}
    (hcut : c.address = name ++ ':' :: port) (hn : ':' ∉ name) (uri tail : List Char)
    (fuel : Nat) : hosts uri (fuel + 1) [] [] (c.address ++ '/' :: tail) =
      .ok (name, port, '/' :: tail) := by
  have hname : ∀ x ∈ name, endsHost x = false ∧ x ≠ '[' := by
    intro x hx
    have hx' : x ∈ c.address := hcut ▸ List.mem_append_left _ hx
    rcases mem_address h hx' with hu | rfl
    · exact ⟨endsHost_of_isUnreserved hu, ne_of_isUnreserved hu rfl⟩
    · exact absurd hx hn
  have hport : ∀ x ∈ port, endsPort x = false := by
    intro x hx
    have hx' : x ∈ c.address := hcut ▸ List.mem_append_right _ (List.mem_cons_of_mem _ hx)
    rcases mem_address h hx' with hu | rfl
    · exact endsPort_of_isUnreserved hu
    · rfl
  rw [hcut, List.append_assoc, List.cons_append]
  exact hosts_single hname hport uri tail fuel

theorem zero_not_mem_dsn (h : c.Located) (hz : '\x00' ∉ c.database.toList) :
    '\x00' ∉ c.dsn.toList := by
  have huserinfo : '\x00' ∉ c.userinfo.toList := by
    have component (s : String) : '\x00' ∉ (percentComponent s).toList :=
      not_mem_percentComponent rfl (by decide) s
    by_cases hu : c.user = ""
    · rw [userinfo_of_user_empty hu]
      exact List.not_mem_nil
    · by_cases hp : c.password = ""
      · rw [userinfo_of_password_empty hu hp]
        exact List.not_mem_append (component _) (by decide)
      · rw [userinfo_of_ne hu hp]
        simp [component]
  have haddress : '\x00' ∉ c.address := fun hm => ne_of_mem_address h rfl (by decide) _ hm rfl
  have hmode : '\x00' ∉ modeChars c.sslMode := by
    rw [modeChars]
    split
    · exact List.not_mem_nil
    · next hne =>
      obtain ⟨-, -, -, -, hm⟩ := mode_chars _ ((List.mem_cons.mp h.mode).resolve_left hne)
      simp [modeQuery, hm]
  rw [dsn_chars h]
  change '\x00' ∉ _ ++ (_ ++ (c.address ++ _))
  simp [huserinfo, haddress, hmode, hz]

theorem placeAt_eq (c : ConnectionInfo) (name port : String) : c.placeAt name port =
    Entries.put "port" port (if name = "" then c.login else Entries.put "host" name c.login) := by
  rw [placeAt, login]
  split <;> split
  · rfl
  · rfl
  · split <;> rfl
  · split <;> rfl

/-- Reads a database and a query, after some options. -/
def readNamed (values : Dsn.Settings) (name query : List Char) : Except Problem Dsn.Settings := do
  let stored ← storeToken (encoded values) "dbname" name
  let stored ← parameters (query.length + 1) stored query
  stored.settings optionNames

/-- Reads what stands behind the slash, after some options. -/
def readPath (values : Dsn.Settings) (path : List Char) : Except Problem Dsn.Settings :=
  readNamed values (cutFirst '?' path).1 ((cutFirst '?' path).2.getD [])

theorem readPath_cut {name : List Char} (hm : '?' ∉ name) (values : Dsn.Settings)
    (query : List Char) : readPath values (name ++ '?' :: query) = readNamed values name query := by
  rw [readPath, cutFirst_append hm]
  rfl

theorem readPath_whole {name : List Char} (hm : '?' ∉ name) (values : Dsn.Settings) :
    readPath values name = readNamed values name [] := by
  rw [readPath, cutFirst_of_not_mem hm]
  rfl

theorem parse_located (h : c.Located) (hz : '\x00' ∉ c.database.toList) {name port : String}
    (hcut : c.address = name.toList ++ ':' :: port.toList) (hn : ':' ∉ name.toList)
    (hne : port ≠ "") : parse c.dsn =
      readPath (c.placeAt name port) (c.database.toList ++ modeChars c.sslMode) := by
  have hpercent : '%' ∉ c.address := fun hm => ne_of_mem_address h rfl (by decide) _ hm rfl
  rw [hcut, List.mem_append, List.mem_cons, not_or, not_or] at hpercent
  have hhost : storeToken (encoded c.login) "host" name.toList =
      .ok (encoded (if name = "" then c.login else Entries.put "host" name c.login)) := by
    split
    · next he =>
      rw [he]
      rfl
    · next he =>
      exact storeToken_encoded _ (by decide) (by decide) (by simpa using he)
        (decode_verbatim hpercent.1)
  have hport : storeToken
      (encoded (if name = "" then c.login else Entries.put "host" name c.login)) "port"
      port.toList = .ok (encoded (c.placeAt name port)) := by
    rw [placeAt_eq]
    exact storeToken_encoded _ (by decide) (by decide) (by simpa using hne)
      (decode_verbatim hpercent.2.2)
  have hbody : c.dsn.toList = "postgres://".toList ++ (c.userinfo.toList ++
      (c.address ++ '/' :: (c.database.toList ++ modeChars c.sslMode))) := dsn_chars h
  rw [parse, takeWhile_of_not_mem (zero_not_mem_dsn h hz), hbody, afterStart_postgres]
  simp only [ofUri, credentials_userinfo h, hosts_address h hcut hn, hhost, hport, bind,
    Except.bind]
  rw [readPath, readNamed]
  cases storeToken (encoded (c.placeAt name port)) "dbname"
    (cutFirst '?' (c.database.toList ++ modeChars c.sslMode)).1 <;> rfl

theorem parse_dsn (h : c.Regular) (hz : '\x00' ∉ c.database.toList) :
    parse c.dsn = readPath c.place (c.database.toList ++ modeChars c.sslMode) := by
  have hcolon : ':' ∉ c.host.toList := fun hm =>
    ne_of_isUnreserved (isUnreserved_host h _ hm) rfl rfl
  rw [parse_located h.located hz rfl hcolon (by simpa using Decimal.ofInt_ne_nil c.port),
    placeAt, if_neg h.named, List.append_assoc]
  rfl

end Parts

end ConnectionInfo

end Testbed
