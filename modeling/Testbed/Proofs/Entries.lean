import Testbed.Value.Basic

/-!
# Entries of dictionaries

What is found under a key, and what writing an entry does to the keys.
-/

namespace Testbed.Entries

set_option autoImplicit false

variable {α : Type}

theorem put_of_absent {key : String} {es : List (String × α)} (h : get? key es = none) (v : α) :
    put key v es = es ++ [(key, v)] := by
  induction es with
  | nil => rfl
  | cons e rest ih =>
    obtain ⟨k, w⟩ := e
    by_cases hk : k = key
    · simp [get?, hk] at h
    · simp only [get?, beq_eq_false_iff_ne.mpr hk] at h
      simp [put, hk, ih h]

theorem not_mem_keys {key : String} {es : List (String × α)} (h : get? key es = none) :
    key ∉ es.map (·.1) := by
  induction es with
  | nil => exact List.not_mem_nil
  | cons e rest ih =>
    obtain ⟨k, w⟩ := e
    by_cases hk : k = key
    · simp [get?, hk] at h
    · simp only [get?, beq_eq_false_iff_ne.mpr hk] at h
      intro hm
      rcases List.mem_cons.mp hm with he | hm
      · exact hk he.symm
      · exact ih h hm

theorem get?_of_mem {key : String} {v : α} {es : List (String × α)} (hn : (es.map (·.1)).Nodup)
    (h : (key, v) ∈ es) : get? key es = some v := by
  induction es with
  | nil => cases h
  | cons e rest ih =>
    obtain ⟨hnot, hrest⟩ := List.nodup_cons.mp hn
    rcases List.mem_cons.mp h with rfl | h
    · simp [get?]
    · have hk : e.1 ≠ key := by
        rintro rfl
        exact hnot (List.mem_map.mpr ⟨_, h, rfl⟩)
      simp only [get?, beq_eq_false_iff_ne.mpr hk]
      exact ih hrest h

theorem mem_of_get? {key : String} {v : α} {es : List (String × α)} (h : get? key es = some v) :
    (key, v) ∈ es := by
  induction es with
  | nil => cases h
  | cons e rest ih =>
    obtain ⟨k, w⟩ := e
    by_cases hk : k = key
    · simp only [get?, hk, beq_self_eq_true, if_true, Option.some.injEq] at h
      rw [h, hk]
      exact List.mem_cons_self
    · simp only [get?, beq_eq_false_iff_ne.mpr hk] at h
      exact List.mem_cons_of_mem _ (ih h)

theorem get?_of_not_mem {key : String} {es : List (String × α)} (h : key ∉ es.map Prod.fst) :
    get? key es = none := by
  cases hg : get? key es with
  | none => rfl
  | some v => exact absurd (List.mem_map_of_mem (mem_of_get? hg)) h

theorem put_keys (key : String) (value : α) (es : List (String × α)) :
    ∀ k ∈ (put key value es).map Prod.fst, k = key ∨ k ∈ es.map Prod.fst := by
  induction es with
  | nil => exact fun k hk => .inl (List.mem_singleton.mp hk)
  | cons e rest ih =>
    obtain ⟨other, v⟩ := e
    rw [put]
    split
    · exact fun k hk => .inr hk
    · intro k hk
      rcases List.mem_cons.mp hk with rfl | hk
      · exact .inr List.mem_cons_self
      · exact (ih k hk).imp_right (List.mem_cons_of_mem _)

theorem put_nodup (key : String) (value : α) {es : List (String × α)}
    (h : (es.map Prod.fst).Nodup) : ((put key value es).map Prod.fst).Nodup := by
  induction es with
  | nil => exact List.nodup_cons.mpr ⟨List.not_mem_nil, List.nodup_nil⟩
  | cons e rest ih =>
    obtain ⟨other, v⟩ := e
    obtain ⟨hother, hrest⟩ := List.nodup_cons.mp h
    rw [put]
    split
    · exact h
    · next hne =>
      refine List.nodup_cons.mpr ⟨fun hm => ?_, ih hrest⟩
      rcases put_keys key value rest other hm with he | hm
      · exact hne (beq_iff_eq.mpr he)
      · exact hother hm

theorem mem_put {key : String} {value : α} {es : List (String × α)} {e : String × α}
    (h : e ∈ put key value es) : e.2 = value ∨ e ∈ es := by
  induction es with
  | nil => exact .inl (by rw [List.mem_singleton.mp h])
  | cons d rest ih =>
    obtain ⟨other, v⟩ := d
    rw [put] at h
    split at h
    · exact (List.mem_cons.mp h).imp (fun he => by rw [he]) (List.mem_cons_of_mem _)
    · rcases List.mem_cons.mp h with rfl | h
      · exact .inr List.mem_cons_self
      · exact (ih h).imp_right (List.mem_cons_of_mem _)

end Testbed.Entries
