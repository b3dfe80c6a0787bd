import Testbed.Dsn.Reader
import Testbed.Proofs.Text.Utf8

/-!
# Queries of connection URIs

The query of every connection string of the library turns SSL off.  With anything in front of its
question mark it cannot be read: the question mark becomes part of the name of an option, and
there is no such option.
-/

namespace Testbed.Dsn

set_option autoImplicit false

theorem bind_ok {ε α β : Type} {x : Except ε α} {f : α → Except ε β} {b : β}
    (h : (x >>= f) = .ok b) : ∃ a, x = .ok a ∧ f a = .ok b := by
  cases x with
  | error e => cases h
  | ok a => exact ⟨a, rfl, h⟩

/-! Percent-encoded parts. -/

theorem map_ok {ε α β : Type} {x : Except ε α} {f : α → β} {b : β} (h : x.map f = .ok b) :
    ∃ a, x = .ok a ∧ f a = b := by
  cases x with
  | error e => cases h
  | ok a => exact ⟨a, rfl, Except.ok.inj h⟩

theorem percentBytes_ne_nil {token : String} {cs : List Char} {bytes : List UInt8}
    (h : percentBytes token cs = .ok bytes) (hc : cs ≠ []) : bytes ≠ [] := by
  fun_induction percentBytes token cs generalizing bytes with
  | case1 => exact absurd rfl hc
  | case2 | case4 | case5 => cases h
  | case3 =>
    obtain ⟨more, -, rfl⟩ := map_ok h
    exact List.cons_ne_nil _ _
  | case6 c rest =>
    obtain ⟨more, -, rfl⟩ := map_ok h
    rw [Text.utf8Bytes_singleton]
    intro he
    have hl := String.length_utf8EncodeChar c
    rw [(List.append_eq_nil_iff.mp he).1] at hl
    exact absurd hl (Nat.ne_of_lt c.utf8Size_pos)

theorem percentBytes_char {c : Char} (hc : c ≠ '%') (token : String) (rest : List Char) :
    percentBytes token (c :: rest) =
      (percentBytes token rest).map (String.utf8EncodeChar c ++ ·) := by
  have hne : (c == '%') = false := beq_eq_false_iff_ne.mpr hc
  rw [percentBytes]
  · rw [hne, Text.utf8Bytes_singleton]
    rfl
  · rintro a b tail rfl
    exact absurd rfl hc

theorem percentBytes_verbatim {cs : List Char} (hc : '%' ∉ cs) (token : String) :
    percentBytes token cs = .ok (cs.flatMap String.utf8EncodeChar) := by
  induction cs with
  | nil => rfl
  | cons c cs ih =>
    obtain ⟨hne, hc⟩ := List.ne_and_not_mem_of_not_mem_cons hc
    rw [percentBytes_char (Ne.symm hne), ih hc]
    rfl

theorem decode_verbatim {s : String} (hc : '%' ∉ s.toList) :
    decode s.toList = .ok (Text.utf8Bytes s) := by
  rw [Text.utf8Bytes_eq]
  exact percentBytes_verbatim hc _

/-- A question mark is no hexadecimal digit, so it stands for itself. -/
theorem mem_percentBytes {token : String} {cs : List Char} {bytes : List UInt8}
    (h : percentBytes token cs = .ok bytes) (hm : '?' ∈ cs) : 0x3F ∈ bytes := by
  fun_induction percentBytes token cs generalizing bytes with
  | case1 => cases hm
  | case2 | case4 | case5 => cases h
  | case3 a b rest hi lo hb ha _ ih =>
    obtain ⟨more, hr, rfl⟩ := map_ok h
    refine List.mem_cons_of_mem _ (ih hr ?_)
    rcases List.mem_cons.mp hm with hm | hm
    · cases hm
    rcases List.mem_cons.mp hm with rfl | hm
    · cases ha
    rcases List.mem_cons.mp hm with rfl | hm
    · cases hb
    · exact hm
  | case6 c rest _ _ ih =>
    obtain ⟨more, hr, rfl⟩ := map_ok h
    rcases List.mem_cons.mp hm with rfl | hm
    · rw [Text.utf8Bytes_singleton]
      exact List.mem_append_left _ (by decide)
    · exact List.mem_append_right _ (ih hr hm)

/-! Cutting at a character. -/

theorem ne_of_not_mem {c : Char} {cs : List Char} (h : c ∉ cs) : ∀ x ∈ cs, (x != c) = true := by
  intro x hx
  rw [bne_iff_ne]
  rintro rfl
  exact h hx

theorem cutFirst_of_not_mem {c : Char} {cs : List Char} (h : c ∉ cs) :
    Text.cutFirst c cs = (cs, none) := by
  have hd : (cs ++ []).dropWhile (· != c) = [] := by
    rw [List.dropWhile_append_of_pos (ne_of_not_mem h)]
    rfl
  rw [List.append_nil] at hd
  rw [Text.cutFirst, hd]

theorem takeWhile_of_not_mem {c : Char} {cs : List Char} (h : c ∉ cs) :
    cs.takeWhile (· != c) = cs := by
  have ht : (cs ++ []).takeWhile (· != c) = cs ++ [] := by
    rw [List.takeWhile_append_of_pos (ne_of_not_mem h)]
    rfl
  rwa [List.append_nil] at ht

theorem cutFirst_append {c : Char} {before : List Char} (h : c ∉ before) (rest : List Char) :
    Text.cutFirst c (before ++ c :: rest) = (before, some rest) := by
  rw [Text.cutFirst, List.dropWhile_append_of_pos (ne_of_not_mem h),
    List.takeWhile_append_of_pos (ne_of_not_mem h)]
  simp

theorem cutLast_of_not_mem {c : Char} {cs : List Char} (h : c ∉ cs) :
    Text.cutLast c cs = (none, cs) := by
  have hr : c ∉ cs.reverse := fun hm => h (List.mem_reverse.mp hm)
  have hd : (cs.reverse ++ []).dropWhile (· != c) = [] := by
    rw [List.dropWhile_append_of_pos (ne_of_not_mem hr)]
    rfl
  rw [List.append_nil] at hd
  rw [Text.cutLast, hd]

theorem cutLast_append {c : Char} {after : List Char} (h : c ∉ after) (before : List Char) :
    Text.cutLast c (before ++ c :: after) = (some before, after) := by
  have hr : c ∉ after.reverse := fun hm => h (List.mem_reverse.mp hm)
  rw [Text.cutLast, List.reverse_append, List.reverse_cons, List.append_assoc,
    List.dropWhile_append_of_pos (ne_of_not_mem hr),
    List.takeWhile_append_of_pos (ne_of_not_mem hr)]
  simp

/-! One parameter of a query. -/

theorem parameter_pair {n v : List Char} (stored : Stored) (hn : '=' ∉ n) (hv : '=' ∉ v) :
    parameter stored (n ++ '=' :: v) = decode n >>= fun n => decode v >>= fun v =>
      store stored (Text.ofUtf8Lossy (respellParameter n v).1) (respellParameter n v).2
        .unknownParameter := by
  have hc : v.contains '=' = false := by
    rw [← Bool.not_eq_true, List.contains_iff_mem]
    exact hv
  rw [parameter, cutFirst_append hn]
  simp only [hc, Bool.false_eq_true, if_false]

theorem parameter_extra {n v : List Char} (stored : Stored) (hn : '=' ∉ n) (hv : '=' ∈ v) :
    parameter stored (n ++ '=' :: v) = .error (.extraSeparator (String.ofList n)) := by
  rw [parameter, cutFirst_append hn]
  simp only [List.contains_iff_mem.mpr hv, if_true]

theorem respellParameter_of_ne {n v : List UInt8} (h : n ≠ Text.utf8Bytes "ssl") :
    respellParameter n v = (n, v) := by
  rw [respellParameter, beq_eq_false_iff_ne.mpr h]
  rfl

theorem store_known {name : String} (hn : name ∈ optionNames) (hr : name ≠ "requiressl")
    (stored : Stored) (value : List UInt8) (unknown : String → Problem) :
    store stored name value unknown = .ok (Entries.put name value stored) := by
  have hc : optionNames.contains name = true := List.contains_iff_mem.mpr hn
  rw [store, respell, beq_eq_false_iff_ne.mpr hr]
  simp only [Bool.false_eq_true, if_false, hc, if_true]

theorem parameters_nil (fuel : Nat) (stored : Stored) : parameters fuel stored [] = .ok stored := by
  cases fuel <;> rfl

theorem parameters_of_ne_nil {fuel : Nat} {stored : Stored} {cs : List Char} (h : cs ≠ []) :
    parameters (fuel + 1) stored cs = parameter stored (Text.cutFirst '&' cs).1 >>= fun stored =>
      parameters fuel stored ((Text.cutFirst '&' cs).2.getD []) := by
  cases cs with
  | nil => exact absurd rfl h
  | cons c rest => rfl

/-! The parameter that sets the mode. -/

def sslModes : List String :=
  ["disable", "allow", "prefer", "require", "verify-ca", "verify-full"]

/-- The query that sets the mode, with the question mark in front of it. -/
def modeQuery (mode : List Char) : List Char := '?' :: ("sslmode".toList ++ '=' :: mode)

/-- The query that turns SSL off. -/
def disabled : List Char := "?sslmode=disable".toList

theorem disabled_eq : disabled = '?' :: "sslmode=disable".toList := rfl

theorem disabled_modeQuery : disabled = modeQuery "disable".toList := rfl

theorem mode_chars : ∀ m ∈ sslModes, m ≠ "" ∧ '&' ∉ m.toList ∧ '=' ∉ m.toList ∧ '%' ∉ m.toList ∧
    '\x00' ∉ m.toList := by
  decide +kernel

theorem decode_sslmode : decode "sslmode".toList = .ok [115, 115, 108, 109, 111, 100, 101] := by
  simp [decode, percentBytes, Text.utf8Bytes_eq, Except.map]
  decide

theorem parameter_mode {m : String} (hm : m ∈ sslModes) (stored : Stored) :
    parameter stored ("sslmode".toList ++ '=' :: m.toList) =
      .ok (Entries.put "sslmode" (Text.utf8Bytes m) stored) := by
  obtain ⟨-, -, heq, hpercent, -⟩ := mode_chars m hm
  have hssl : [115, 115, 108, 109, 111, 100, 101] ≠ Text.utf8Bytes "ssl" := by
    rw [Text.utf8Bytes_eq]
    decide
  have hname : Text.ofUtf8Lossy [115, 115, 108, 109, 111, 100, 101] = "sslmode" := by
    decide +kernel
  rw [parameter_pair _ (by decide) heq, decode_sslmode, decode_verbatim hpercent]
  simp only [bind, Except.bind, respellParameter_of_ne hssl, hname]
  exact store_known (by decide) (by decide) _ _ _

theorem parameters_mode {m : String} (hm : m ∈ sslModes) (stored : Stored) (fuel : Nat) :
    parameters (fuel + 1) stored ("sslmode".toList ++ '=' :: m.toList) =
      .ok (Entries.put "sslmode" (Text.utf8Bytes m) stored) := by
  have hand : '&' ∉ "sslmode".toList ++ '=' :: m.toList := by
    refine List.not_mem_append (by decide) ?_
    rw [List.mem_cons, not_or]
    exact ⟨by decide, (mode_chars m hm).2.1⟩
  rw [parameters_of_ne_nil (List.append_ne_nil_of_left_ne_nil (by decide) _),
    cutFirst_of_not_mem hand, parameter_mode hm]
  exact parameters_nil _ _

/-! Queries with a question mark inside. -/

theorem optionNames_unmarked : ∀ name ∈ "requiressl" :: optionNames, '?' ∉ name.toList := by
  decide

theorem store_marked {stored stored' : Stored} {name : String} {v : List UInt8}
    {unknown : String → Problem} (h : '?' ∈ name.toList) :
    store stored name v unknown ≠ .ok stored' := by
  have hr : (name == "requiressl") = false := by
    rw [beq_eq_false_iff_ne]
    rintro rfl
    exact optionNames_unmarked _ List.mem_cons_self h
  have ho : optionNames.contains name = false := by
    rw [← Bool.not_eq_true, List.contains_iff_mem]
    exact fun hm => optionNames_unmarked _ (List.mem_cons_of_mem _ hm) h
  rw [store, respell, hr]
  simp only [Bool.false_eq_true, if_false, ho]
  exact nofun

theorem mem_ofUtf8Lossy {bytes : List UInt8} (h : 0x3F ∈ bytes) :
    '?' ∈ (Text.ofUtf8Lossy bytes).toList := by
  have hd := Text.mem_decodeWith (by decide) h (Nat.le_refl bytes.length)
  rw [Text.ofUtf8Lossy, String.toList_ofList]
  exact List.mem_map_of_mem hd

/-- A question mark makes part of the name of a parameter what is not one. -/
theorem parameter_marked {stored stored' : Stored} {cs mode : List Char} (hm : '=' ∉ mode) :
    parameter stored (cs ++ modeQuery mode) ≠ .ok stored' := by
  intro h
  by_cases he : '=' ∈ cs
  · obtain ⟨before, rest, rfl, hb⟩ := List.eq_append_cons_of_mem he
    have hv : '=' ∈ rest ++ modeQuery mode := List.mem_append_right _ (by simp [modeQuery])
    rw [List.append_assoc, List.cons_append, parameter_extra stored hb hv] at h
    cases h
  · have hcs : cs ++ modeQuery mode = (cs ++ "?sslmode".toList) ++ '=' :: mode := by
      rw [List.append_assoc]
      rfl
    have hn : '=' ∉ cs ++ "?sslmode".toList := List.not_mem_append he (by decide)
    rw [hcs, parameter_pair stored hn hm] at h
    obtain ⟨n, hd, h⟩ := bind_ok h
    obtain ⟨v, -, h⟩ := bind_ok h
    have hm : 0x3F ∈ n := mem_percentBytes hd (List.mem_append_right _ (by decide))
    have hssl : n ≠ Text.utf8Bytes "ssl" := by
      rintro rfl
      rw [Text.utf8Bytes_eq] at hm
      revert hm
      decide
    rw [respellParameter_of_ne hssl] at h
    exact store_marked (mem_ofUtf8Lossy hm) h

theorem parameters_marked {fuel : Nat} {stored stored' : Stored} {cs mode : List Char}
    (he : '=' ∉ mode) (hand : '&' ∉ mode) (hf : cs.length < fuel) :
    parameters fuel stored (cs ++ modeQuery mode) ≠ .ok stored' := by
  induction fuel generalizing stored cs with
  | zero => exact absurd hf (Nat.not_lt_zero _)
  | succ fuel ih =>
    intro h
    have hne : cs ++ modeQuery mode ≠ [] :=
      List.append_ne_nil_of_right_ne_nil _ (List.cons_ne_nil _ _)
    rw [parameters_of_ne_nil hne] at h
    by_cases ha : '&' ∈ cs
    · obtain ⟨before, rest, rfl, hb⟩ := List.eq_append_cons_of_mem ha
      rw [List.append_assoc, List.cons_append, cutFirst_append hb] at h
      obtain ⟨stored₁, -, h⟩ := bind_ok h
      refine ih ?_ h
      simp only [List.length_append, List.length_cons] at hf
      omega
    · have hn : '&' ∉ cs ++ modeQuery mode := List.not_mem_append ha (by simp [modeQuery, hand])
      rw [cutFirst_of_not_mem hn] at h
      obtain ⟨stored₁, hp, -⟩ := bind_ok h
      exact parameter_marked he hp

theorem query_marked {stored stored' : Stored} {cs mode : List Char} (he : '=' ∉ mode)
    (hand : '&' ∉ mode) : parameters ((cs ++ modeQuery mode).length + 1) stored
      (cs ++ modeQuery mode) ≠ .ok stored' :=
  parameters_marked he hand (by rw [List.length_append]; omega)

theorem disabled_marked {stored stored' : Stored} {cs : List Char} :
    parameters ((cs ++ disabled).length + 1) stored (cs ++ disabled) ≠ .ok stored' := by
  rw [disabled_modeQuery]
  exact query_marked (by decide) (by decide)

end Testbed.Dsn
