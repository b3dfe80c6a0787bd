import Testbed.Proofs.Dsn.Query
import Testbed.Settings
import Testbed.Text.Percent

/-!
# The host of a daemon

The URL of a daemon names a host, by a name, by a dotted address or by an address in brackets.
Whatever else stands in the authority, the host is found, in lower case and without its brackets.
-/

namespace Testbed

set_option autoImplicit false

namespace Http

/-! The characters of an address. -/

theorem splitAll_same (c : Char) (cs : List Char) : splitAll c (c :: cs) = [] :: splitAll c cs := by
  rw [splitAll, List.foldr_cons, beq_self_eq_true, if_pos rfl]
  rfl

theorem splitAll_ne_nil (c : Char) (cs : List Char) : splitAll c cs ≠ [] := by
  unfold splitAll
  cases cs with
  | nil => exact List.cons_ne_nil _ _
  | cons d cs =>
    rw [List.foldr_cons]
    split
    · exact List.cons_ne_nil _ _
    · split <;> exact List.cons_ne_nil _ _

theorem splitAll_other {c d : Char} (h : d ≠ c) (cs : List Char) :
    ∃ w ws, splitAll c cs = w :: ws ∧ splitAll c (d :: cs) = (d :: w) :: ws := by
  obtain ⟨w, ws, hs⟩ := List.exists_cons_of_ne_nil (splitAll_ne_nil c cs)
  refine ⟨w, ws, hs, ?_⟩
  unfold splitAll at hs ⊢
  rw [List.foldr_cons, beq_eq_false_iff_ne.mpr h, hs]
  rfl

theorem mem_splitAll {c x : Char} {cs : List Char} (hx : x ∈ cs) :
    x = c ∨ ∃ part ∈ splitAll c cs, x ∈ part := by
  induction cs with
  | nil => cases hx
  | cons d cs ih =>
    by_cases hd : d = c
    · subst hd
      rw [splitAll_same]
      rcases List.mem_cons.mp hx with rfl | hx
      · exact .inl rfl
      · rcases ih hx with rfl | ⟨part, hm, hp⟩
        · exact .inl rfl
        · exact .inr ⟨part, List.mem_cons_of_mem _ hm, hp⟩
    · obtain ⟨w, ws, hs, hsplit⟩ := splitAll_other hd cs
      rw [hsplit]
      rcases List.mem_cons.mp hx with rfl | hx
      · exact .inr ⟨_, List.mem_cons_self, List.mem_cons_self⟩
      · rcases ih hx with rfl | ⟨part, hm, hp⟩
        · exact .inl rfl
        · rw [hs] at hm
          rcases List.mem_cons.mp hm with rfl | hm
          · exact .inr ⟨_, List.mem_cons_self, List.mem_cons_of_mem _ hp⟩
          · exact .inr ⟨part, List.mem_cons_of_mem _ hm, hp⟩

theorem splitAll_of_not_mem {c : Char} {cs : List Char} (h : c ∉ cs) : splitAll c cs = [cs] := by
  induction cs with
  | nil => rfl
  | cons d cs ih =>
    obtain ⟨hd, h⟩ := List.ne_and_not_mem_of_not_mem_cons h
    obtain ⟨w, ws, hs, hsplit⟩ := splitAll_other (Ne.symm hd) cs
    rw [ih h] at hs
    cases hs
    exact hsplit

theorem isDottedOf_strict_chars {cs : List Char} (h : isStrictIpv4 cs = true) :
    ∀ x ∈ cs, isHexDigit x = true ∨ x = '.' := by
  intro x hx
  simp only [isStrictIpv4, isDottedOf, Bool.and_eq_true, List.all_eq_true] at h
  rcases mem_splitAll hx with hdot | ⟨part, hm, hp⟩
  · exact .inr hdot
  · have hpart := h.2 part hm
    simp only [isStrictPart, isLoosePart, Bool.and_eq_true, List.all_eq_true] at hpart
    simp [isHexDigit, hpart.1.1.2 x hp]

theorem isHexGroup_chars {g : List Char} (h : isHexGroup g = true) :
    ∀ x ∈ g, isHexDigit x = true := by
  simp only [isHexGroup, Bool.and_eq_true, List.all_eq_true] at h
  exact h.2

theorem groupCount?_chars {groups : List (List Char)} {n : Nat}
    (h : groupCount? isStrictPart groups = some n) :
    ∀ g ∈ groups, ∀ x ∈ g, isHexDigit x = true ∨ x = '.' := by
  fun_induction groupCount? isStrictPart groups generalizing n with
  | case1 => nofun
  | case2 g hg =>
    intro g' hm x hx
    cases List.mem_singleton.mp hm
    exact .inl (isHexGroup_chars hg x hx)
  | case3 g hg hd =>
    intro g' hm x hx
    cases List.mem_singleton.mp hm
    exact isDottedOf_strict_chars hd x hx
  | case4 | case6 => cases h
  | case5 g rest hne hg ih =>
    obtain ⟨k, hk, -⟩ := Option.map_eq_some_iff.mp h
    intro g' hm x hx
    rcases List.mem_cons.mp hm with rfl | hm
    · exact .inl (isHexGroup_chars hg x hx)
    · exact ih hk g' hm x hx

theorem cutGap_eq_some {cs before after : List Char} (h : cutGap cs = some (before, after)) :
    cs = before ++ ':' :: ':' :: after := by
  fun_induction cutGap cs generalizing before with
  | case1 rest =>
    cases h
    rfl
  | case2 c rest hne ih =>
    obtain ⟨⟨b, a⟩, hcut, he⟩ := Option.map_eq_some_iff.mp h
    cases he
    rw [ih hcut]
    rfl
  | case3 => cases h

theorem mem_groupsOf {cs : List Char} {x : Char} (hx : x ∈ cs) :
    x = ':' ∨ ∃ g ∈ groupsOf cs, x ∈ g := by
  have hne : cs.isEmpty = false := by
    cases cs with
    | nil => cases hx
    | cons => rfl
  rw [groupsOf, hne]
  exact mem_splitAll hx

theorem isIpv6Of_chars {cs : List Char} (h : isIpv6Of isStrictPart cs = true) :
    ∀ x ∈ cs, isHexDigit x = true ∨ x = '.' ∨ x = ':' := by
  have grouped {part : List Char} {n : Nat} (hn : groupCount? isStrictPart (groupsOf part) = some n)
      (x : Char) (hx : x ∈ part) : isHexDigit x = true ∨ x = '.' ∨ x = ':' := by
    rcases mem_groupsOf hx with hc | ⟨g, hm, hg⟩
    · exact .inr (.inr hc)
    · exact (groupCount?_chars hn g hm x hg).imp_right .inl
  rw [isIpv6Of] at h
  split at h
  · exact grouped (beq_iff_eq.mp h)
  · next before after hcut =>
    cases hleft : (groupsOf before).all isHexGroup with
    | false => simp [hleft] at h
    | true =>
      cases hright : groupCount? isStrictPart (groupsOf after) with
      | none => simp [hright] at h
      | some n =>
        intro x hx
        rw [cutGap_eq_some hcut] at hx
        rcases List.mem_append.mp hx with hx | hx
        · rcases mem_groupsOf hx with hc | ⟨g, hm, hg⟩
          · exact .inr (.inr hc)
          · exact .inl (isHexGroup_chars (List.all_eq_true.mp hleft g hm) x hg)
        · rcases List.mem_cons.mp hx with hc | hx
          · exact .inr (.inr hc)
          · rcases List.mem_cons.mp hx with hc | hx
            · exact .inr (.inr hc)
            · exact grouped hright x hx

theorem isIpv6Of_colon {cs : List Char} (h : isIpv6Of isStrictPart cs = true) : ':' ∈ cs := by
  refine Decidable.byContradiction fun hc => ?_
  rw [isIpv6Of] at h
  split at h
  · have hle : ∀ n, groupCount? isStrictPart (groupsOf cs) = some n → n ≤ 2 := by
      intro n hn
      rw [groupsOf] at hn
      split at hn
      · cases hn
        omega
      · rw [splitAll_of_not_mem hc, groupCount?] at hn
        split at hn
        · cases hn
          omega
        · split at hn <;> cases hn
          omega
    exact absurd (hle 8 (beq_iff_eq.mp h)) (by omega)
  · next before after hcut =>
    rw [cutGap_eq_some hcut] at hc
    exact hc (List.mem_append_right _ List.mem_cons_self)

/-! Hosts. -/

/-- A name, or a dotted address. -/
def IsName (host : List Char) : Prop :=
  host ≠ [] ∧ ∀ x ∈ host, x.isAlphanum = true ∨ x = '.' ∨ x = '-' ∨ x = '_'

/-- An address of groups, without a zone. -/
def IsGroups (host : List Char) : Prop := '%' ∉ host ∧ isStrictIpv6 host = true

instance (host : List Char) : Decidable (IsName host) :=
  haveI : Decidable (∀ x ∈ host, x.isAlphanum = true ∨ x = '.' ∨ x = '-' ∨ x = '_') :=
    List.decidableBAll _ host
  inferInstanceAs (Decidable (host ≠ [] ∧ _))

instance (host : List Char) : Decidable (IsGroups host) :=
  inferInstanceAs (Decidable ('%' ∉ host ∧ _))

section Hosts

variable {host : List Char}

theorem IsGroups.isIpv6Of (h : IsGroups host) : isIpv6Of isStrictPart host = true := by
  have hstrict := h.2
  rwa [isStrictIpv6, Dsn.cutFirst_of_not_mem h.1] at hstrict

theorem IsGroups.colon (h : IsGroups host) : ':' ∈ host := isIpv6Of_colon h.isIpv6Of

/-- The characters that are neither a delimiter nor a percent sign. -/
theorem IsName.isUnreserved (h : IsName host) : ∀ x ∈ host, Text.isUnreserved x = true := by
  intro x hx
  rcases h.2 x hx with ha | rfl | rfl | rfl
  · simp [Text.isUnreserved, ha]
  · rfl
  · rfl
  · rfl

theorem isLower_iff {x : Char} : x.isLower = true ↔ 'a' ≤ x ∧ x ≤ 'z' := by
  change (decide ('a' ≤ x) && decide (x ≤ 'z')) = true ↔ _
  rw [Bool.and_eq_true, decide_eq_true_eq, decide_eq_true_eq]

theorem isUpper_iff {x : Char} : x.isUpper = true ↔ 'A' ≤ x ∧ x ≤ 'Z' := by
  change decide ('A' ≤ x ∧ x ≤ 'Z') = true ↔ _
  rw [decide_eq_true_eq]

theorem isAlpha_eq (x : Char) : x.isAlpha = (x.isUpper || x.isLower) := rfl

theorem isAlphanum_of_isHexDigit {x : Char} (h : isHexDigit x = true) : x.isAlphanum = true := by
  have lower (ha : 'a' ≤ x) (hf : x ≤ 'f') : x.isLower = true :=
    isLower_iff.mpr ⟨ha, Char.le_trans hf (by decide)⟩
  have upper (ha : 'A' ≤ x) (hf : x ≤ 'F') : x.isUpper = true :=
    isUpper_iff.mpr ⟨ha, Char.le_trans hf (by decide)⟩
  simp only [isHexDigit, Bool.or_eq_true, Bool.and_eq_true, decide_eq_true_eq] at h
  rcases h with (hd | ⟨ha, hf⟩) | ⟨ha, hf⟩
  · simp [Char.isAlphanum, hd]
  · simp [Char.isAlphanum, isAlpha_eq, lower ha hf]
  · simp [Char.isAlphanum, isAlpha_eq, upper ha hf]

theorem isUnreserved_of_isHexDigit {x : Char} (h : isHexDigit x = true) :
    Text.isUnreserved x = true := by
  simp [Text.isUnreserved, isAlphanum_of_isHexDigit h]

theorem IsGroups.isUnreserved (h : IsGroups host) :
    ∀ x ∈ host, Text.isUnreserved x = true ∨ x = ':' := by
  intro x hx
  rcases isIpv6Of_chars h.isIpv6Of x hx with hd | rfl | hc
  · exact .inl (isUnreserved_of_isHexDigit hd)
  · exact .inl rfl
  · exact .inr hc

end Hosts

/-! URLs of daemons. -/

/-- A character that ends an authority. -/
def endsAuthority (c : Char) : Bool := c == '/' || c == '?' || c == '#'

/-- A character that is not dropped from a reference. -/
def isKept (c : Char) : Bool := !(c == '\t' || c == '\n' || c == '\r')

/-- A character of an authority that neither ends it nor belongs to brackets. -/
def isInner (c : Char) : Bool :=
  isKept c && !(endsAuthority c || c == '[' || c == ']' || disguisedDelimiters.contains c.toNat)

theorem isInner_iff {x : Char} : isInner x = true ↔ isKept x = true ∧ endsAuthority x = false ∧
    x ≠ '[' ∧ x ≠ ']' ∧ x.toNat ∉ disguisedDelimiters := by
  simp only [isInner, Bool.and_eq_true, Bool.not_eq_true', Bool.or_eq_false_iff,
    beq_eq_false_iff_ne, ne_eq, List.contains_eq_mem, decide_eq_false_iff_not, and_assoc]

theorem toNat_of_isUnreserved {x : Char} (h : Text.isUnreserved x = true) : x.toNat < 128 := by
  simp only [Text.isUnreserved, Char.isAlphanum, isAlpha_eq, Bool.or_eq_true, beq_iff_eq] at h
  rcases h with (((((hu | hl) | hd) | rfl) | rfl) | rfl) | rfl
  · exact Nat.lt_of_le_of_lt (UInt32.le_iff_toNat_le.mp (isUpper_iff.mp hu).2) (by decide)
  · exact Nat.lt_of_le_of_lt (UInt32.le_iff_toNat_le.mp (isLower_iff.mp hl).2) (by decide)
  · rw [Char.isDigit, Bool.and_eq_true, decide_eq_true_eq, decide_eq_true_eq] at hd
    exact Nat.lt_of_le_of_lt (UInt32.le_iff_toNat_le.mp hd.2) (by decide)
  all_goals decide

theorem disguisedDelimiters_ge : ∀ n ∈ disguisedDelimiters, 128 ≤ n := by decide

theorem isInner_of_isUnreserved {x : Char} (h : Text.isUnreserved x = true) :
    isInner x = true := by
  have hne (y : Char) (hy : Text.isUnreserved y = false) : (x == y) = false := by
    rw [beq_eq_false_iff_ne]
    rintro rfl
    cases hy.symm.trans h
  have hplain : disguisedDelimiters.contains x.toNat = false := by
    rw [← Bool.not_eq_true, List.contains_iff_mem]
    exact fun hm => absurd (disguisedDelimiters_ge _ hm) (Nat.not_le.mpr (toNat_of_isUnreserved h))
  simp only [isInner, isKept, endsAuthority, hplain, hne '/' rfl, hne '?' rfl, hne '#' rfl,
    hne '[' rfl, hne ']' rfl, hne '\t' rfl, hne '\n' rfl, hne '\r' rfl]
  rfl

/-- The URL of a daemon: a host with what may stand around it. -/
structure DaemonUrl where
  /-- The scheme, with what separates it from the authority. -/
  start : String
  user : Option (List Char) := none
  host : List Char
  port : Option (List Char) := none
  rest : List Char := []

namespace DaemonUrl

/-- A host with colons stands in brackets. -/
def hostPart (u : DaemonUrl) : List Char :=
  if ':' ∈ u.host then '[' :: (u.host ++ [']']) else u.host

def portPart (u : DaemonUrl) : List Char := (u.port.map (':' :: ·)).getD []

def address (u : DaemonUrl) : List Char := u.hostPart ++ u.portPart

def authority (u : DaemonUrl) : List Char := (u.user.map (· ++ ['@'])).getD [] ++ u.address

def text (u : DaemonUrl) : String := u.start ++ String.ofList (u.authority ++ u.rest)

structure Proper (u : DaemonUrl) : Prop where
  start : u.start ∈ Settings.hostSchemes
  user : ∀ info, u.user = some info → ∀ x ∈ info, isInner x = true
  host : IsName u.host ∨ IsGroups u.host
  port : ∀ digits, u.port = some digits → ∀ x ∈ digits, x.isDigit = true
  rest : ∀ x, u.rest.head? = some x → endsAuthority x = true

variable {u : DaemonUrl}

theorem Proper.host_chars (h : u.Proper) :
    ∀ x ∈ u.host, Text.isUnreserved x = true ∨ x = ':' := by
  intro x hx
  rcases h.host with hn | hg
  · exact .inl (hn.isUnreserved x hx)
  · exact hg.isUnreserved x hx

/-- What a host and a port are written with. -/
theorem Proper.mem_address (h : u.Proper) {x : Char} (hx : x ∈ u.address) :
    (Text.isUnreserved x = true ∨ x = ':') ∨ (x = '[' ∨ x = ']') ∧ ':' ∈ u.host := by
  rcases List.mem_append.mp hx with hx | hx
  · rw [hostPart] at hx
    split at hx
    · next hc =>
      rcases List.mem_cons.mp hx with rfl | hx
      · exact .inr ⟨.inl rfl, hc⟩
      rcases List.mem_append.mp hx with hx | hx
      · exact .inl (h.host_chars x hx)
      · exact .inr ⟨.inr (List.mem_singleton.mp hx), hc⟩
    · exact .inl (h.host_chars x hx)
  · rw [portPart] at hx
    cases hp : u.port with
    | none =>
      rw [hp] at hx
      cases hx
    | some digits =>
      rw [hp] at hx
      rcases List.mem_cons.mp hx with rfl | hx
      · exact .inl (.inr rfl)
      · exact .inl (.inl (by simp [Text.isUnreserved, Char.isAlphanum, h.port digits hp x hx]))

theorem Proper.mem_authority (h : u.Proper) {x : Char} (hx : x ∈ u.authority) :
    isInner x = true ∨ (x = '[' ∨ x = ']') ∧ ':' ∈ u.host := by
  rcases List.mem_append.mp hx with hx | hx
  · cases hu : u.user with
    | none =>
      rw [hu] at hx
      cases hx
    | some info =>
      rw [hu] at hx
      rcases List.mem_append.mp hx with hx | hx
      · exact .inl (h.user info hu x hx)
      · cases List.mem_singleton.mp hx
        exact .inl (by decide)
  · refine (h.mem_address hx).imp_left fun hx => ?_
    rcases hx with hu | rfl
    · exact isInner_of_isUnreserved hu
    · decide

theorem Proper.at_not_mem (h : u.Proper) : '@' ∉ u.address := by
  intro hm
  rcases h.mem_address hm with (hu | hc) | ⟨hc | hc, -⟩
  · exact absurd hu (by decide)
  · exact absurd hc (by decide)
  · exact absurd hc (by decide)
  · exact absurd hc (by decide)

theorem Proper.host_not_mem (h : u.Proper) {y : Char} (hy : Text.isUnreserved y = false)
    (hc : y ≠ ':') : y ∉ u.host := by
  intro hm
  rcases h.host_chars y hm with hu | he
  · cases hy.symm.trans hu
  · exact hc he

theorem addressOf_authority (h : u.Proper) : addressOf u.authority = u.address := by
  rw [addressOf, authority]
  cases u.user with
  | none =>
    rw [Option.map_none, Option.getD_none, List.nil_append, Dsn.cutLast_of_not_mem h.at_not_mem]
  | some info =>
    rw [Option.map_some, Option.getD_some, List.append_assoc, List.singleton_append,
      Dsn.cutLast_append h.at_not_mem]

theorem hostAndPort_authority (h : u.Proper) :
    hostAndPort u.authority = (u.host, u.port.getD []) := by
  rw [hostAndPort, addressOf_authority h]
  by_cases hc : ':' ∈ u.host
  · have haddress : u.address = [] ++ '[' :: (u.host ++ ']' :: u.portPart) := by
      simp [address, hostPart, hc]
    rw [haddress, Dsn.cutFirst_append (List.not_mem_nil)]
    dsimp only
    rw [Dsn.cutFirst_append (h.host_not_mem rfl (by decide)), portPart]
    cases u.port with
    | none => rfl
    | some digits =>
      rw [Option.map_some, Option.getD_some, Option.getD_some, ← List.nil_append (':' :: digits),
        Dsn.cutFirst_append List.not_mem_nil]
  · have hopen : '[' ∉ u.address := by
      intro hm
      rcases h.mem_address hm with (hu | he) | ⟨-, hc'⟩
      · exact absurd hu (by decide)
      · exact absurd he (by decide)
      · exact hc hc'
    rw [Dsn.cutFirst_of_not_mem hopen]
    dsimp only
    rw [address, hostPart, if_neg hc, portPart]
    cases u.port with
    | none =>
      rw [Option.map_none, Option.getD_none, List.append_nil, Dsn.cutFirst_of_not_mem hc]
      rfl
    | some digits =>
      rw [Option.map_some, Option.getD_some, Dsn.cutFirst_append hc]

theorem checkAuthority_ok (h : u.Proper) : checkAuthority u.authority = .ok () := by
  have hplain : u.authority.any (disguisedDelimiters.contains ·.toNat) = false := by
    rw [List.any_eq_false]
    intro x hx
    rw [List.contains_iff_mem]
    rcases h.mem_authority hx with hi | ⟨rfl | rfl, -⟩
    · exact (isInner_iff.mp hi).2.2.2.2
    · decide
    · decide
  by_cases hc : ':' ∈ u.host
  · have hgroups : IsGroups u.host := by
      refine h.host.resolve_left fun hn => ?_
      exact absurd (hn.isUnreserved _ hc) (by decide)
    have haddress : u.address = [] ++ '[' :: (u.host ++ ']' :: u.portPart) := by
      simp [address, hostPart, hc]
    have hopen : u.authority.contains '[' = true := by
      rw [List.contains_iff_mem, authority, haddress]
      simp
    have hclose : u.authority.contains ']' = true := by
      rw [List.contains_iff_mem, authority, haddress]
      simp
    have hbrackets : checkBrackets u.authority = .ok () := by
      rw [checkBrackets, addressOf_authority h, haddress, Dsn.cutFirst_append List.not_mem_nil]
      dsimp only
      rw [Dsn.cutFirst_append (h.host_not_mem rfl (by decide))]
      dsimp only
      have hport : (u.portPart.isEmpty || u.portPart.head? == some ':') = true := by
        rw [portPart]
        cases u.port <;> rfl
      have hfuture : (u.host.head? == some 'v') = false := by
        rw [beq_eq_false_iff_ne]
        intro hv
        rcases isIpv6Of_chars hgroups.isIpv6Of 'v' (List.mem_of_head? hv) with hx | hx | hx
        · exact absurd hx (by decide)
        · exact absurd hx (by decide)
        · exact absurd hx (by decide)
      have hdotted : isStrictIpv4 u.host = false := by
        rw [← Bool.not_eq_true]
        intro hd
        rcases isDottedOf_strict_chars hd _ hc with hx | hx
        · cases hx
        · cases hx
      simp only [Option.getD_some, hport, checkBracketed, hfuture, hdotted, hgroups.2,
        List.isEmpty_nil]
      rfl
    rw [checkAuthority, hplain, hopen, hclose]
    simp [hbrackets, Except.bind]
  · have hopen : u.authority.contains '[' = false := by
      rw [← Bool.not_eq_true, List.contains_iff_mem]
      intro hm
      rcases h.mem_authority hm with hi | ⟨-, hc'⟩
      · cases hi
      · exact hc hc'
    have hclose : u.authority.contains ']' = false := by
      rw [← Bool.not_eq_true, List.contains_iff_mem]
      intro hm
      rcases h.mem_authority hm with hi | ⟨-, hc'⟩
      · cases hi
      · exact hc hc'
    rw [checkAuthority, hplain, hopen, hclose]
    rfl

theorem schemePart_start {start : String} (h : start ∈ Settings.hostSchemes) (tail : List Char) :
    ∃ scheme, schemePart (start.toList ++ tail) = some (scheme, '/' :: '/' :: tail) := by
  have hcut (scheme : List Char) (hs : ':' ∉ scheme) :=
    Dsn.cutFirst_append hs ('/' :: '/' :: tail)
  simp only [Settings.hostSchemes, List.mem_cons, List.not_mem_nil, or_false] at h
  rcases h with rfl | rfl | rfl
  · refine ⟨"tcp".toList, ?_⟩
    change schemePart ("tcp".toList ++ ':' :: '/' :: '/' :: tail) = _
    rw [schemePart, hcut _ (by decide)]
    rfl
  · refine ⟨"http".toList, ?_⟩
    change schemePart ("http".toList ++ ':' :: '/' :: '/' :: tail) = _
    rw [schemePart, hcut _ (by decide)]
    rfl
  · refine ⟨"https".toList, ?_⟩
    change schemePart ("https".toList ++ ':' :: '/' :: '/' :: tail) = _
    rw [schemePart, hcut _ (by decide)]
    rfl

theorem Proper.text_kept (h : u.Proper) :
    u.text.toList.filter isKept = u.start.toList ++ (u.authority ++ u.rest.filter isKept) := by
  have hstarts : Settings.hostSchemes.all (·.toList.all isKept) = true := by decide
  have hstart : ∀ x ∈ u.start.toList, isKept x = true :=
    List.all_eq_true.mp (List.all_eq_true.mp hstarts _ h.start)
  have hauthority : ∀ x ∈ u.authority, isKept x = true := by
    intro x hx
    rcases h.mem_authority hx with hi | ⟨rfl | rfl, -⟩
    · exact (isInner_iff.mp hi).1
    · decide
    · decide
  rw [text, String.toList_append, String.toList_ofList, List.filter_append, List.filter_append,
    List.filter_eq_self.mpr hstart, List.filter_eq_self.mpr hauthority]

theorem Proper.authority_ends (h : u.Proper) :
    (u.authority ++ u.rest.filter isKept).takeWhile (!endsAuthority ·) = u.authority := by
  have hauthority : ∀ x ∈ u.authority, (!endsAuthority x) = true := by
    intro x hx
    rcases h.mem_authority hx with hi | ⟨rfl | rfl, -⟩
    · rw [(isInner_iff.mp hi).2.1]
      rfl
    · decide
    · decide
  have hrest : (u.rest.filter isKept).takeWhile (!endsAuthority ·) = [] := by
    cases hr : u.rest with
    | nil => rfl
    | cons y rest =>
      have hy : endsAuthority y = true := h.rest y (by rw [hr]; rfl)
      have hk : isKept y = true := by
        simp only [endsAuthority, Bool.or_eq_true, beq_iff_eq] at hy
        rcases hy with (rfl | rfl) | rfl <;> rfl
      rw [List.filter_cons_of_pos hk, List.takeWhile_cons_of_neg (by simp [hy])]
  rw [List.takeWhile_append_of_pos hauthority, hrest, List.append_nil]

theorem ofChars_of_scheme {text scheme tail : List Char}
    (h : schemePart (text.filter isKept) = some (scheme, '/' :: '/' :: tail)) :
    ∃ r : Reference, Reference.ofChars text =
      (checkAuthority (tail.takeWhile (!endsAuthority ·))).map (fun _ => r) ∧
        r.authority = tail.takeWhile (!endsAuthority ·) := by
  have hkept : schemePart (text.filter fun c => !(c == '\t' || c == '\n' || c == '\r')) =
      some (scheme, '/' :: '/' :: tail) := h
  rw [Reference.ofChars]
  dsimp only
  rw [hkept]
  exact ⟨_, rfl, rfl⟩

theorem withParameters_authority (r : Reference) : r.withParameters.authority = r.authority := by
  rw [Reference.withParameters]
  split <;> rfl

theorem Proper.parse_text (h : u.Proper) :
    ∃ r, Reference.parse u.text.toList = .ok r ∧ r.authority = u.authority := by
  obtain ⟨scheme, hscheme⟩ := schemePart_start h.start (u.authority ++ u.rest.filter isKept)
  rw [← h.text_kept] at hscheme
  obtain ⟨r, hchars, hr⟩ := ofChars_of_scheme hscheme
  rw [h.authority_ends] at hchars hr
  rw [checkAuthority_ok h] at hchars
  refine ⟨r.withParameters, ?_, (withParameters_authority r).trans hr⟩
  rw [Reference.parse, hchars]
  rfl

theorem Proper.host?_eq (h : u.Proper) {r : Reference} (hr : r.authority = u.authority) :
    r.host? = some (Text.lower (String.ofList u.host)).toList := by
  have hne : u.host.isEmpty = false := by
    rcases h.host with hn | hg
    · simpa using hn.1
    · simpa using List.ne_nil_of_mem hg.colon
  rw [Reference.host?, hr, hostAndPort_authority h]
  dsimp only
  rw [hne, Dsn.cutFirst_of_not_mem (h.host_not_mem rfl (by decide))]
  rfl

/-- The host that is derived from the URL of a daemon is the host that the URL names. -/
theorem Proper.hostnameOf (h : u.Proper) {env : Environment}
    (hgiven : env.get? "EPHEMERAL_DOCKER_HOSTNAME" = none)
    (hdaemon : env.get? "DOCKER_HOST" = some u.text) :
    Settings.hostnameOf env = .ok (Text.lower (String.ofList u.host)) := by
  have hstart : Settings.hostSchemes.any (Text.startsWith · u.text) = true := by
    rw [List.any_eq_true]
    refine ⟨u.start, h.start, ?_⟩
    rw [Text.startsWith, text, String.toList_append, List.isPrefixOf_iff_prefix]
    exact List.prefix_append _ _
  obtain ⟨r, hparse, hr⟩ := h.parse_text
  rw [Settings.hostnameOf, hgiven, hdaemon]
  dsimp only [Option.getD_some]
  rw [hstart, hparse]
  simp [h.host?_eq hr]

end DaemonUrl

end Http
end Testbed
