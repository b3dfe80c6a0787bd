import Testbed.Json.Reader
import Testbed.Proofs.Entries

/-!
# Keys of dictionaries that are read

A key that is repeated in a JSON text has one entry in the dictionary that is read, at every depth.
-/

namespace Testbed

set_option autoImplicit false

/-- A value in which no dictionary has two entries of one key. -/
inductive Value.Keyed : Value → Prop
  | null : Keyed .null
  | bool (b : Bool) : Keyed (.bool b)
  | num (n : Num) : Keyed (.num n)
  | text (s : String) : Keyed (.text s)
  | list {items : List Value} : (∀ v ∈ items, Keyed v) → Keyed (.list items)
  | dict {entries : List (String × Value)} : (entries.map Prod.fst).Nodup →
      (∀ e ∈ entries, Keyed e.2) → Keyed (.dict entries)

/-- Entries of a dictionary that is read. -/
structure KeyedEntries (es : List (String × Value)) : Prop where
  once : (es.map Prod.fst).Nodup
  each : ∀ e ∈ es, e.2.Keyed

theorem KeyedEntries.nil : KeyedEntries [] := ⟨List.nodup_nil, nofun⟩

theorem KeyedEntries.put {es : List (String × Value)} (h : KeyedEntries es) (key : String)
    {v : Value} (hv : v.Keyed) : KeyedEntries (Entries.put key v es) where
  once := Entries.put_nodup key v h.once
  each e he := (Entries.mem_put he).elim (fun hvalue => hvalue ▸ hv) (h.each e)

namespace Json

theorem word?_keyed {cs rest : List Char} {v : Value} (h : word? cs = some (v, rest)) :
    v.Keyed := by
  obtain ⟨⟨w, u⟩, hm, hu⟩ := List.exists_of_findSome?_eq_some h
  obtain ⟨tail, -, he⟩ := Option.map_eq_some_iff.mp hu
  cases he
  simp only [words, List.mem_cons, List.not_mem_nil, or_false, Prod.mk.injEq] at hm
  rcases hm with ⟨-, rfl⟩ | ⟨-, rfl⟩ | ⟨-, rfl⟩ | ⟨-, rfl⟩ | ⟨-, rfl⟩ | ⟨-, rfl⟩
  · exact .null
  · exact .bool _
  · exact .bool _
  all_goals exact .num _

/-- What is read with an amount of fuel has its keys once: a value, and the rest of a list or of a
dictionary whose part that was read has them once. -/
structure ReadsKeyed (fuel : Nat) : Prop where
  value : ∀ depth cs v rest, Json.value fuel depth cs = .ok (v, rest) → v.Keyed
  items : ∀ depth cs done v rest, (∀ u ∈ done, u.Keyed) →
    Json.items fuel depth cs done = .ok (v, rest) → v.Keyed
  members : ∀ depth cs done v rest, KeyedEntries done →
    Json.members fuel depth cs done = .ok (v, rest) → v.Keyed

section Step

variable {fuel : Nat} (ih : ReadsKeyed fuel)

include ih

theorem value_keyed {depth : Nat} {cs rest : List Char} {v : Value}
    (h : Json.value (fuel + 1) depth cs = .ok (v, rest)) : v.Keyed := by
  cases cs with
  | nil => cases h
  | cons c cs =>
    unfold Json.value at h
    split at h
    · cases hs : string fuel cs with
      | error e =>
        rw [hs] at h
        cases h
      | ok found =>
        rw [hs] at h
        cases h
        exact .text _
    split at h
    · split at h
      · cases h
      · split at h
        · cases h
          exact .list nofun
        · exact ih.items _ _ _ _ _ (List.forall_mem_nil _) h
    split at h
    · split at h
      · cases h
      · split at h
        · cases h
          exact .dict List.nodup_nil nofun
        · exact ih.members _ _ _ _ _ KeyedEntries.nil h
    split at h
    · next found hw =>
      cases h
      exact word?_keyed hw
    · cases hn : number (c :: cs) with
      | error e =>
        rw [hn] at h
        cases h
      | ok found =>
        rw [hn] at h
        cases h
        exact .num _

theorem items_keyed {depth : Nat} {cs rest : List Char} {done : List Value} {v : Value}
    (hd : ∀ u ∈ done, u.Keyed) (h : Json.items (fuel + 1) depth cs done = .ok (v, rest)) :
    v.Keyed := by
  rw [Json.items] at h
  split at h
  · cases h
  · next u tail hu =>
    have hall : ∀ w ∈ u :: done, w.Keyed := fun w hw => by
      rcases List.mem_cons.mp hw with rfl | hw
      · exact ih.value _ _ _ _ hu
      · exact hd w hw
    split at h
    · cases h
      exact .list fun w hw => hall w (List.mem_reverse.mp hw)
    · exact ih.items _ _ _ _ _ hall h
    · cases h

theorem members_keyed {depth : Nat} {cs rest : List Char} {done : List (String × Value)} {v : Value}
    (hd : KeyedEntries done) (h : Json.members (fuel + 1) depth cs done = .ok (v, rest)) :
    v.Keyed := by
  unfold Json.members at h
  dsimp only at h
  split at h
  · split at h
    · cases h
    · next key tail hkey =>
      split at h
      · split at h
        · cases h
        · next u tail' hu =>
          have hput := hd.put key (ih.value _ _ _ _ hu)
          split at h
          · cases h
            exact .dict hput.once hput.each
          · exact ih.members _ _ _ _ _ hput h
          · cases h
      · cases h
  · cases h

end Step

theorem reads_keyed (fuel : Nat) : ReadsKeyed fuel := by
  induction fuel with
  | zero => exact ⟨nofun, nofun, nofun⟩
  | succ fuel ih =>
    exact ⟨fun _ _ _ _ => value_keyed ih, fun _ _ _ _ _ => items_keyed ih,
      fun _ _ _ _ _ => members_keyed ih⟩

/-- In a value that is read no dictionary has two entries of one key. -/
theorem read_keyed {text : List Char} {v : Value} (h : read text = .ok v) : v.Keyed := by
  unfold read at h
  split at h
  · cases h
  · split at h
    · cases h
    · next u tail hu =>
      split at h
      · cases h
        exact (reads_keyed _).value _ _ _ _ hu
      · cases h

end Json

end Testbed
