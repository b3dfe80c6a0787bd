import Mathlib.Algebra.Group.Nat.Defs
import Testbed.Text.Utf8

/-!
# Bytes of UTF-8

What is read from bytes: no reading step passes over a byte of ASCII, the bytes of a text are read
as that text, and no text is read from fewer bytes than it has.
-/

namespace Testbed.Text

set_option autoImplicit false

theorem toList_loop (bytes : ByteArray) (i : Nat) (r : List UInt8) :
    ByteArray.toList.loop bytes i r = r.reverse ++ bytes.data.toList.drop i := by
  fun_induction ByteArray.toList.loop bytes i r with
  | case1 i r h ih =>
    have hi : i < bytes.data.toList.length := h
    have hd : bytes.data.toList.drop i = bytes.get! i :: bytes.data.toList.drop (i + 1) := by
      rw [List.drop_eq_getElem_cons hi]
      congr 1
      exact (getElem!_pos bytes.data i h).symm
    rw [ih, hd, List.reverse_cons, List.append_assoc, List.singleton_append]
  | case2 i r h =>
    rw [List.drop_eq_nil_of_le (Nat.le_of_not_lt h), List.append_nil]

theorem utf8Bytes_eq (s : String) : utf8Bytes s = s.toList.flatMap String.utf8EncodeChar := by
  unfold utf8Bytes ByteArray.toList
  rw [toList_loop, String.toUTF8_eq_toByteArray, ← String.utf8Encode_toList]
  simp [List.utf8Encode]

theorem utf8Bytes_singleton (c : Char) :
    utf8Bytes (String.singleton c) = String.utf8EncodeChar c := by
  simp [utf8Bytes_eq]

/-- No character but the zero one has a zero byte. -/
theorem zero_not_mem_utf8EncodeChar {c : Char} (hc : c ≠ '\x00') :
    0 ∉ String.utf8EncodeChar c := by
  have hv : c.val.toNat ≠ 0 := by
    intro h
    refine hc (Char.ext ?_)
    exact UInt32.toNat_inj.mp h
  have hmax : c.val.toNat < 0x110000 := by
    rcases c.valid with h | h
    · exact Nat.lt_trans h (by decide)
    · exact h.2
  have hne : ∀ n, n % 256 ≠ 0 → (0 : UInt8) ≠ UInt8.ofNat n := by
    intro n hn he
    refine hn ?_
    have ht := congrArg UInt8.toNat he
    rw [UInt8.toNat_ofNat'] at ht
    exact ht.symm
  unfold String.utf8EncodeChar
  generalize c.val.toNat = v at hv hmax
  dsimp only
  split
  · simp only [List.mem_singleton]
    exact hne _ (by omega)
  · split
    · simp only [List.mem_cons, List.not_mem_nil, or_false, not_or]
      exact ⟨hne _ (by omega), hne _ (by omega)⟩
    · split
      · simp only [List.mem_cons, List.not_mem_nil, or_false, not_or]
        exact ⟨hne _ (by omega), hne _ (by omega), hne _ (by omega)⟩
      · simp only [List.mem_cons, List.not_mem_nil, or_false, not_or]
        exact ⟨hne _ (by omega), hne _ (by omega), hne _ (by omega), hne _ (by omega)⟩

theorem continuation_suffix {n : Nat} {lo hi : UInt8} {code : Nat} {bytes tail : List UInt8}
    {c : Option Char} (h : continuation n lo hi code bytes = (c, tail)) (hlo : 0x80 ≤ lo) :
    ∃ eaten, bytes = eaten ++ tail ∧ ∀ b ∈ eaten, 0x80 ≤ b := by
  induction n generalizing lo hi code bytes with
  | zero =>
    cases h
    exact ⟨[], rfl, fun b hb => by cases hb⟩
  | succ n ih =>
    cases bytes with
    | nil =>
      cases h
      exact ⟨[], rfl, fun b hb => by cases hb⟩
    | cons b rest =>
      rw [continuation] at h
      split at h
      · next hb =>
        have hge : 0x80 ≤ b := by
          simp only [Bool.and_eq_true, decide_eq_true_eq] at hb
          exact UInt8.le_trans hlo hb.1
        obtain ⟨eaten, rfl, he⟩ := ih h (UInt8.le_refl _)
        refine ⟨b :: eaten, rfl, fun x hx => ?_⟩
        rcases List.mem_cons.mp hx with rfl | hx
        · exact hge
        · exact he x hx
      · cases h
        exact ⟨[], rfl, fun b hb => by cases hb⟩

theorem leadShape_lo {b lo hi : UInt8} {n : Nat} (h : leadShape b = some (n, lo, hi)) :
    0x80 ≤ lo := by
  unfold leadShape at h
  repeat' split at h
  all_goals cases h <;> decide

/-- A reading step leaves what stands after its first byte, but for bytes that are not ASCII. -/
theorem utf8Step_suffix {b : UInt8} {rest tail : List UInt8} {c : Option Char}
    (h : utf8Step b rest = (c, tail)) : ∃ eaten, rest = eaten ++ tail ∧ ∀ x ∈ eaten, 0x80 ≤ x := by
  unfold utf8Step at h
  split at h
  · cases h
    exact ⟨[], rfl, fun x hx => by cases hx⟩
  · split at h
    · cases h
      exact ⟨[], rfl, fun x hx => by cases hx⟩
    · next hs => exact continuation_suffix h (leadShape_lo hs)

theorem mem_decodeWith {b : UInt8} (hb : b < 0x80) {fuel : Nat} {bytes : List UInt8}
    (hm : b ∈ bytes) (hf : bytes.length ≤ fuel) :
    some (Char.ofNat b.toNat) ∈ decodeWith utf8Step fuel bytes := by
  induction fuel generalizing bytes with
  | zero =>
    rw [List.eq_nil_of_length_eq_zero (Nat.le_zero.mp hf)] at hm
    cases hm
  | succ fuel ih =>
    cases bytes with
    | nil => cases hm
    | cons x rest =>
      rw [decodeWith]
      rcases List.mem_cons.mp hm with rfl | hm
      · rw [utf8Step, if_pos hb]
        exact List.mem_cons_self
      · rcases hs : utf8Step x rest with ⟨c, tail⟩
        obtain ⟨eaten, rfl, he⟩ := utf8Step_suffix hs
        rcases List.mem_append.mp hm with hm | hm
        · exact absurd (he b hm) (UInt8.not_le.mpr hb)
        · refine List.mem_cons_of_mem _ (ih hm ?_)
          simp only [List.length_cons, List.length_append] at hf
          omega

/-- Bytes that are a text are some characters, unless there are none. -/
theorem ofUtf8_ne_empty {bytes : List UInt8} {text : String} (h : ofUtf8 bytes = .ok text)
    (hb : bytes ≠ []) : text ≠ "" := by
  cases bytes with
  | nil => exact absurd rfl hb
  | cons b rest =>
    unfold ofUtf8 illFormed? at h
    rw [List.length_cons, illFormedFrom, decodeWith] at h
    rcases hs : utf8Step b rest with ⟨_ | c, tail⟩
    · rw [hs] at h
      cases h
    · rw [hs] at h
      dsimp only at h
      split at h
      · cases h
      · cases h
        intro he
        have hl := congrArg String.toList he
        rw [String.toList_ofList] at hl
        cases hl

/-! Bytes of a text are read as that text. -/

theorem leadShape_two : ∀ k < 32, 2 ≤ k →
    leadShape (UInt8.ofNat (k + 192)) = some (1, 0x80, 0xBF) := by decide

theorem leadShape_three : ∀ k < 16, leadShape (UInt8.ofNat (k + 224)) =
    some (2, if k = 0 then 0xA0 else 0x80, if k = 13 then 0x9F else 0xBF) := by decide

theorem leadShape_four : ∀ k < 5, leadShape (UInt8.ofNat (k + 240)) =
    some (3, if k = 0 then 0x90 else 0x80, if k = 4 then 0x8F else 0xBF) := by decide

theorem continuation_ofNat {n d code : Nat} {lo hi : UInt8} {rest : List UInt8} (hd : d < 64)
    (hlo : lo.toNat ≤ d + 128) (hhi : d + 128 ≤ hi.toNat) :
    continuation (n + 1) lo hi code (UInt8.ofNat (d + 128) :: rest) =
      continuation n 0x80 0xBF (code * 64 + d) rest := by
  have hb : (UInt8.ofNat (d + 128)).toNat = d + 128 := by
    rw [UInt8.toNat_ofNat']
    omega
  have hin : (lo ≤ UInt8.ofNat (d + 128) && UInt8.ofNat (d + 128) ≤ hi) = true := by
    rw [Bool.and_eq_true, decide_eq_true_eq, decide_eq_true_eq, UInt8.le_iff_toNat_le,
      UInt8.le_iff_toNat_le, hb]
    exact ⟨hlo, hhi⟩
  rw [continuation, if_pos hin, hb, Nat.add_sub_cancel]

/-- A byte that leads others is not read as a character by itself. -/
theorem utf8Step_lead {k n : Nat} {lo hi : UInt8} {rest : List UInt8} (hk : 128 ≤ k) (hk' : k < 256)
    (hs : leadShape (UInt8.ofNat k) = some (n, lo, hi)) :
    utf8Step (UInt8.ofNat k) rest = continuation n lo hi
      (if n == 1 then k - 0xC0 else if n == 2 then k - 0xE0 else k - 0xF0) rest := by
  have hb : (UInt8.ofNat k).toNat = k := by
    rw [UInt8.toNat_ofNat']
    omega
  have hn : ¬ UInt8.ofNat k < 0x80 := by
    rw [UInt8.lt_iff_toNat_lt, hb]
    exact Nat.not_lt.mpr hk
  rw [utf8Step, if_neg hn, hs]
  simp only [hb]

theorem continuation_plain {n d code : Nat} {rest : List UInt8} (hd : d < 64) :
    continuation (n + 1) 0x80 0xBF code (UInt8.ofNat (d + 128) :: rest) =
      continuation n 0x80 0xBF (code * 64 + d) rest := by
  have hhi : d + 128 ≤ (0xBF : UInt8).toNat := Nat.add_le_add_right (Nat.le_of_lt_succ hd) 128
  exact continuation_ofNat hd (Nat.le_add_left 128 d) hhi

/-- The bytes of a character are read in one step. -/
theorem utf8Step_encode (c : Char) (rest : List UInt8) : ∃ b tail,
    String.utf8EncodeChar c = b :: tail ∧ utf8Step b (tail ++ rest) = (some c, rest) := by
  have hc : Char.ofNat c.val.toNat = c := Char.ofNat_toNat c
  have hv : c.val.toNat < 0xD800 ∨ 0xDFFF < c.val.toNat ∧ c.val.toNat < 0x110000 := c.valid
  unfold String.utf8EncodeChar
  generalize c.val.toNat = v at hc hv
  dsimp only
  split
  · next h =>
    have hb : (UInt8.ofNat v).toNat = v := by
      rw [UInt8.toNat_ofNat']
      omega
    have hl : UInt8.ofNat v < 0x80 := by
      rw [UInt8.lt_iff_toNat_lt, hb]
      exact Nat.lt_succ_of_le h
    refine ⟨_, [], rfl, ?_⟩
    rw [utf8Step, if_pos hl, hb, hc]
    rfl
  · split
    · next h =>
      have hcode : (v / 64 % 32 + 192 - 0xC0) * 64 + v % 64 = v := by omega
      refine ⟨_, _, rfl, ?_⟩
      rw [utf8Step_lead (by omega) (by omega) (leadShape_two _ (by omega) (by omega))]
      dsimp only [List.cons_append, List.nil_append]
      rw [continuation_plain (by omega), continuation]
      simp only [beq_self_eq_true, if_true, hcode, hc]
    · split
      · next h =>
        have hcode : ((v / 4096 % 16 + 224 - 0xE0) * 64 + v / 64 % 64) * 64 + v % 64 = v := by
          omega
        refine ⟨_, _, rfl, ?_⟩
        rw [utf8Step_lead (by omega) (by omega) (leadShape_three _ (by omega))]
        dsimp only [List.cons_append, List.nil_append]
        rw [continuation_ofNat (by omega), continuation_plain (by omega), continuation]
        · simp only [Nat.reduceBEq, Bool.false_eq_true, if_false, if_true, hcode, hc]
        · split
          · change 0xA0 ≤ _
            omega
          · change 0x80 ≤ _
            omega
        · split
          · change _ ≤ 0x9F
            omega
          · change _ ≤ 0xBF
            omega
      · have hcode : (((v / 262144 % 8 + 240 - 0xF0) * 64 + v / 4096 % 64) * 64 + v / 64 % 64) * 64
            + v % 64 = v := by omega
        refine ⟨_, _, rfl, ?_⟩
        rw [utf8Step_lead (by omega) (by omega) (leadShape_four _ (by omega))]
        dsimp only [List.cons_append, List.nil_append]
        rw [continuation_ofNat (by omega), continuation_plain (by omega),
          continuation_plain (by omega), continuation]
        · simp only [Nat.reduceBEq, Bool.false_eq_true, if_false, hcode, hc]
        · split
          · change 0x90 ≤ _
            omega
          · change 0x80 ≤ _
            omega
        · split
          · change _ ≤ 0x8F
            omega
          · change _ ≤ 0xBF
            omega

theorem decodeWith_encode {cs : List Char} {fuel : Nat}
    (hf : (cs.flatMap String.utf8EncodeChar).length ≤ fuel) :
    decodeWith utf8Step fuel (cs.flatMap String.utf8EncodeChar) = cs.map some := by
  induction cs generalizing fuel with
  | nil => cases fuel <;> rfl
  | cons c cs ih =>
    obtain ⟨b, tail, he, hs⟩ := utf8Step_encode c (cs.flatMap String.utf8EncodeChar)
    rw [List.flatMap_cons, he, List.cons_append] at hf ⊢
    cases fuel with
    | zero => cases hf
    | succ fuel =>
      have hrest : (cs.flatMap String.utf8EncodeChar).length ≤ fuel := by
        rw [List.length_cons, List.length_append] at hf
        omega
      rw [decodeWith, hs, List.map_cons, ← ih hrest]

theorem illFormedFrom_encode {cs : List Char} {fuel position : Nat}
    (hf : (cs.flatMap String.utf8EncodeChar).length ≤ fuel) :
    illFormedFrom position fuel (cs.flatMap String.utf8EncodeChar) = none := by
  induction cs generalizing fuel position with
  | nil => cases fuel <;> rfl
  | cons c cs ih =>
    obtain ⟨b, tail, he, hs⟩ := utf8Step_encode c (cs.flatMap String.utf8EncodeChar)
    rw [List.flatMap_cons, he, List.cons_append] at hf ⊢
    cases fuel with
    | zero => cases hf
    | succ fuel =>
      have hrest : (cs.flatMap String.utf8EncodeChar).length ≤ fuel := by
        rw [List.length_cons, List.length_append] at hf
        omega
      rw [illFormedFrom, hs]
      exact ih hrest

/-- The bytes of a text are read as that text. -/
theorem ofUtf8_utf8Bytes (s : String) : ofUtf8 (utf8Bytes s) = .ok s := by
  rw [utf8Bytes_eq, ofUtf8, illFormed?, illFormedFrom_encode (Nat.le_refl _),
    decodeWith_encode (Nat.le_refl _)]
  simp

/-! A text is not longer than the bytes it is read from. -/

/-- The code points below this one have that many bytes at most. -/
def codeLimit (size : Nat) : Nat :=
  if size = 1 then 0x80 else if size = 2 then 0x800 else if size = 3 then 0x10000 else 0x200000

theorem toNat_ofNat_le (code : Nat) : (Char.ofNat code).val.toNat ≤ code := by
  by_cases hv : code.isValidChar
  · rw [Char.ofNat, dif_pos hv]
    exact Nat.le_refl code
  · rw [Char.ofNat, dif_neg hv]
    exact Nat.zero_le code

theorem utf8Size_eq (c : Char) : c.utf8Size = if c.val.toNat < 0x80 then 1
    else if c.val.toNat < 0x800 then 2 else if c.val.toNat < 0x10000 then 3 else 4 := by
  simp only [Char.utf8Size, UInt32.le_iff_toNat_le, ← Nat.lt_succ_iff]
  rfl

theorem utf8Size_le {c : Char} {size : Nat} (hs : 1 ≤ size) (h : c.val.toNat < codeLimit size) :
    c.utf8Size ≤ size := by
  rw [utf8Size_eq]
  unfold codeLimit at h
  (repeat' split at h) <;> (repeat' split) <;> omega

/-- Each continuation byte adds six bits. -/
theorem continuation_some {n : Nat} {lo hi : UInt8} {code : Nat} {bytes tail : List UInt8}
    {c : Char} (h : continuation n lo hi code bytes = (some c, tail)) (hhi : hi ≤ 0xBF) :
    bytes.length = n + tail.length ∧ ∃ full, c = Char.ofNat full ∧ full < (code + 1) * 64 ^ n := by
  induction n generalizing lo hi code bytes with
  | zero =>
    cases h
    exact ⟨(Nat.zero_add _).symm, code, rfl, by omega⟩
  | succ n ih =>
    cases bytes with
    | nil => cases h
    | cons b rest =>
      rw [continuation] at h
      split at h
      · next hb =>
        obtain ⟨hlength, full, hc, hfull⟩ := ih h (UInt8.le_refl _)
        have hb' : b.toNat ≤ 0xBF := by
          simp only [Bool.and_eq_true, decide_eq_true_eq] at hb
          exact UInt8.le_iff_toNat_le.mp (UInt8.le_trans hb.2 hhi)
        refine ⟨by rw [List.length_cons]; omega, full, hc, Nat.lt_of_lt_of_le hfull ?_⟩
        rw [Nat.pow_succ', ← Nat.mul_assoc]
        exact Nat.mul_le_mul_right _ (by omega)
      · cases h

/-- Whether what a lead byte announces has as many bytes as it announces, or fewer. -/
def leads (k : Nat) : Bool :=
  match leadShape (UInt8.ofNat k) with
  | none => true
  | some (n, _, hi) =>
    let bits := if n == 1 then k - 0xC0 else if n == 2 then k - 0xE0 else k - 0xF0
    decide (hi ≤ 0xBF ∧ (bits + 1) * 64 ^ n ≤ codeLimit (n + 1))

theorem leads_of_lt : ∀ k < 256, leads k = true := by decide +kernel

/-- A character has no more bytes than are read for it. -/
theorem utf8Step_some {b : UInt8} {rest tail : List UInt8} {c : Char}
    (h : utf8Step b rest = (some c, tail)) : c.utf8Size + tail.length ≤ rest.length + 1 := by
  unfold utf8Step at h
  split at h
  · next hb =>
    cases h
    have hsize : (Char.ofNat b.toNat).utf8Size ≤ 1 :=
      utf8Size_le (Nat.le_refl 1)
        (Nat.lt_of_le_of_lt (toNat_ofNat_le _) (UInt8.lt_iff_toNat_lt.mp hb))
    omega
  · have hlead := leads_of_lt b.toNat b.toNat_lt
    rw [leads, UInt8.ofNat_toNat] at hlead
    split at h
    · cases h
    · next n lo hi hs =>
      rw [hs] at hlead
      obtain ⟨hhi, hlimit⟩ := of_decide_eq_true hlead
      obtain ⟨hlength, full, rfl, hfull⟩ := continuation_some h hhi
      have hsize : (Char.ofNat full).utf8Size ≤ n + 1 := by
        have hcode := Nat.lt_of_le_of_lt (toNat_ofNat_le full) (Nat.lt_of_lt_of_le hfull hlimit)
        exact utf8Size_le (Nat.le_add_left 1 n) hcode
      omega

theorem length_decodeWith (fuel : Nat) (bytes : List UInt8) :
    (((decodeWith utf8Step fuel bytes).filterMap id).flatMap String.utf8EncodeChar).length ≤
      bytes.length := by
  induction fuel generalizing bytes with
  | zero => cases bytes <;> exact Nat.zero_le _
  | succ fuel ih =>
    cases bytes with
    | nil => exact Nat.zero_le _
    | cons b rest =>
      rcases h : utf8Step b rest with ⟨_ | c, tail⟩
      · obtain ⟨eaten, rfl, -⟩ := utf8Step_suffix h
        have := ih tail
        rw [decodeWith, h, List.filterMap_cons_none rfl, List.length_cons, List.length_append]
        omega
      · have := ih tail
        have := utf8Step_some h
        have hread : (decodeWith utf8Step (fuel + 1) (b :: rest)).filterMap id =
            c :: (decodeWith utf8Step fuel tail).filterMap id := by
          rw [decodeWith, h]
          rfl
        rw [hread, List.flatMap_cons, List.length_append, String.length_utf8EncodeChar,
          List.length_cons]
        omega

/-- A text has no more bytes than it was read from. -/
theorem length_of_ofUtf8 {bytes : List UInt8} {text : String} (h : ofUtf8 bytes = .ok text) :
    (utf8Bytes text).length ≤ bytes.length := by
  unfold ofUtf8 at h
  split at h
  · cases h
  · cases h
    rw [utf8Bytes_eq, String.toList_ofList]
    exact length_decodeWith _ _

end Testbed.Text
