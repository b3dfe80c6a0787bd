import Testbed.Proofs.Dsn.Query
import Testbed.Text.Percent

/-!
# Percent-encoding there and back

What is percent-encoded consists of unreserved characters and percent signs, and its bytes are
those of the text that was encoded.  Without encoding, a percent sign takes the digits behind it
with it, and what is read is shorter than the text.
-/

namespace Testbed

set_option autoImplicit false

namespace Text

/-! Encoded bytes. -/

/-- Whether the number of a byte is written with two digits that give it back. -/
def isPair (n : Nat) : Bool :=
  match percentByte (UInt8.ofNat n) with
  | ['%', a, b] => Json.hexValue? a == some (n / 16) && Json.hexValue? b == some (n % 16) &&
    isUnreserved a && isUnreserved b
  | _ => false

theorem isPair_of_lt : ∀ n < 256, isPair n = true := by decide +kernel

theorem percentByte_eq (b : UInt8) : ∃ x y, percentByte b = ['%', x, y] ∧
    Json.hexValue? x = some (b.toNat / 16) ∧ Json.hexValue? y = some (b.toNat % 16) ∧
    isUnreserved x = true ∧ isUnreserved y = true := by
  have h := isPair_of_lt b.toNat b.toNat_lt
  rw [isPair, UInt8.ofNat_toNat] at h
  split at h
  · next x y hp =>
    simp only [Bool.and_eq_true, beq_iff_eq] at h
    obtain ⟨⟨⟨hx, hy⟩, hux⟩, huy⟩ := h
    exact ⟨x, y, hp, hx, hy, hux, huy⟩
  · cases h

theorem mem_percentByte {b : UInt8} {x : Char} (hx : x ∈ percentByte b) :
    isUnreserved x = true ∨ x = '%' := by
  obtain ⟨y, z, he, -, -, hy, hz⟩ := percentByte_eq b
  rw [he] at hx
  simp only [List.mem_cons, List.not_mem_nil, or_false] at hx
  rcases hx with rfl | rfl | rfl
  · exact .inr rfl
  · exact .inl hy
  · exact .inl hz

/-- The characters of a component are unreserved ones and percent signs. -/
theorem mem_percentComponent {s : String} {x : Char} (hx : x ∈ (percentComponent s).toList) :
    isUnreserved x = true ∨ x = '%' := by
  rw [percentComponent, String.toList_ofList] at hx
  obtain ⟨c, -, hx⟩ := List.mem_flatMap.mp hx
  split at hx
  · next hc =>
    rw [List.mem_singleton.mp hx]
    exact .inl (Bool.and_eq_true_iff.mp hc).2
  · obtain ⟨b, -, hx⟩ := List.mem_flatMap.mp hx
    exact mem_percentByte hx

theorem not_mem_percentComponent {c : Char} (hc : isUnreserved c = false) (hp : c ≠ '%')
    (s : String) : c ∉ (percentComponent s).toList := by
  intro hm
  rcases mem_percentComponent hm with hu | he
  · cases hc.symm.trans hu
  · exact hp he

theorem percentChars_ne_nil {safe : Char → Bool} {cs : List Char} (h : cs ≠ []) :
    percentChars safe cs ≠ [] := by
  obtain ⟨c, cs, rfl⟩ := List.exists_cons_of_ne_nil h
  rw [percentChars, List.flatMap_cons]
  refine List.append_ne_nil_of_left_ne_nil ?_ _
  split
  · exact List.cons_ne_nil _ _
  · obtain ⟨b, tail, he, -⟩ := utf8Step_encode c []
    obtain ⟨x, y, hb, -⟩ := percentByte_eq b
    rw [utf8Bytes_singleton, he, List.flatMap_cons, hb]
    exact List.cons_ne_nil _ _

theorem percentComponent_ne_nil {s : String} (h : s ≠ "") : (percentComponent s).toList ≠ [] := by
  rw [percentComponent, String.toList_ofList]
  exact percentChars_ne_nil (by simpa using h)

end Text

namespace Dsn

/-! Decoding. -/

theorem percentBytes_byte {b : UInt8} (hb : b ≠ 0) (token : String) (rest : List Char) :
    percentBytes token (Text.percentByte b ++ rest) = (percentBytes token rest).map (b :: ·) := by
  obtain ⟨x, y, he, hx, hy, -⟩ := Text.percentByte_eq b
  have hn : (b.toNat / 16 == 0 && b.toNat % 16 == 0) = false := by
    rw [← Bool.not_eq_true, Bool.and_eq_true, beq_iff_eq, beq_iff_eq]
    rintro ⟨hhi, hlo⟩
    exact hb (UInt8.toNat_inj.mp (by rw [UInt8.toNat_zero]; omega))
  have hvalue : b.toNat / 16 * 16 + b.toNat % 16 = b.toNat := Nat.div_add_mod' _ _
  rw [he, List.cons_append, List.cons_append, List.cons_append, List.nil_append, percentBytes, hx,
    hy]
  simp only [hn, hvalue, UInt8.ofNat_toNat, Bool.false_eq_true, if_false]

theorem percentBytes_bytes {bytes : List UInt8} (hb : 0 ∉ bytes) (token : String)
    (rest : List Char) : percentBytes token (bytes.flatMap Text.percentByte ++ rest) =
      (percentBytes token rest).map (bytes ++ ·) := by
  induction bytes with
  | nil => cases h : percentBytes token rest <;> simp [h, Except.map]
  | cons b bytes ih =>
    obtain ⟨hne, hb⟩ := List.ne_and_not_mem_of_not_mem_cons hb
    rw [List.flatMap_cons, List.append_assoc, percentBytes_byte (Ne.symm hne), ih hb]
    cases percentBytes token rest <;> rfl

/-- Encoded characters are read as their bytes. -/
theorem percentBytes_percentChars {safe : Char → Bool} (hs : safe '%' = false) {cs : List Char}
    (hz : '\x00' ∉ cs) (token : String) : percentBytes token (Text.percentChars safe cs) =
      .ok (cs.flatMap String.utf8EncodeChar) := by
  induction cs with
  | nil => rfl
  | cons c cs ih =>
    obtain ⟨hne, hz⟩ := List.ne_and_not_mem_of_not_mem_cons hz
    have hcons : Text.percentChars safe (c :: cs) =
        (if c.toNat < 128 && safe c then [c]
          else (Text.utf8Bytes (String.singleton c)).flatMap Text.percentByte) ++
          Text.percentChars safe cs := rfl
    rw [hcons]
    split
    · next hsafe =>
      have hc : c ≠ '%' := by
        rintro rfl
        rw [hs, Bool.and_false] at hsafe
        cases hsafe
      rw [List.cons_append, List.nil_append, percentBytes_char hc, ih hz]
      rfl
    · rw [Text.utf8Bytes_singleton,
        percentBytes_bytes (Text.zero_not_mem_utf8EncodeChar (Ne.symm hne)), ih hz]
      rfl

theorem decode_percentComponent {s : String} (hz : '\x00' ∉ s.toList) :
    decode (Text.percentComponent s).toList = .ok (Text.utf8Bytes s) := by
  rw [Text.utf8Bytes_eq, decode, Text.percentComponent, String.toList_ofList]
  exact percentBytes_percentChars rfl hz _

/-! Lengths. -/

/-- What is read is not longer than what it is read from, and shorter if there is a percent
sign. -/
theorem length_percentBytes {token : String} {cs : List Char} {bytes : List UInt8}
    (h : percentBytes token cs = .ok bytes) :
    bytes.length ≤ (cs.flatMap String.utf8EncodeChar).length ∧
      ('%' ∈ cs → bytes.length < (cs.flatMap String.utf8EncodeChar).length) := by
  have hpos (c : Char) : 0 < (String.utf8EncodeChar c).length := by
    rw [String.length_utf8EncodeChar]
    exact c.utf8Size_pos
  fun_induction percentBytes token cs generalizing bytes with
  | case1 =>
    cases h
    exact ⟨Nat.le_refl _, fun hm => by cases hm⟩
  | case2 | case4 | case5 => cases h
  | case3 a b rest hi lo _ _ _ ih =>
    -- three characters, of a byte each at least, are read as one byte
    obtain ⟨more, hr, rfl⟩ := map_ok h
    have hle := (ih hr).1
    have := hpos '%'
    have := hpos a
    have := hpos b
    simp only [List.flatMap_cons, List.length_append, List.length_cons]
    omega
  | case6 c rest _ hc ih =>
    obtain ⟨more, hr, rfl⟩ := map_ok h
    obtain ⟨hle, hlt⟩ := ih hr
    rw [Text.utf8Bytes_singleton, List.flatMap_cons, List.length_append, List.length_append]
    refine ⟨Nat.add_le_add_left hle _, fun hm => Nat.add_lt_add_left (hlt ?_) _⟩
    exact (List.mem_cons.mp hm).resolve_left fun he => hc (beq_iff_eq.mpr he.symm)

end Dsn

end Testbed
