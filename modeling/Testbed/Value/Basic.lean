import Testbed.Number.Basic

/-!
# Values

The values that travel in requests, replies and error payloads: null, truth values, numbers,
texts, lists and dictionaries.  A dictionary keeps its keys in the order of their first writing,
and a key has at most one entry.
-/

namespace Testbed

set_option autoImplicit false

inductive Value where
  | null
  | bool (b : Bool)
  | num (n : Num)
  | text (s : String)
  | list (items : List Value)
  | dict (entries : List (String × Value))
  deriving Inhabited

namespace Entries

variable {α : Type}

def get? (key : String) : List (String × α) → Option α
  | [] => none
  | (k, v) :: rest => if k == key then some v else get? key rest

/-- Writes an entry: in place when the key is present, at the end otherwise. -/
def put (key : String) (value : α) : List (String × α) → List (String × α)
  | [] => [(key, value)]
  | (k, v) :: rest => if k == key then (k, value) :: rest else (k, v) :: put key value rest

def erase (key : String) : List (String × α) → List (String × α)
  | [] => []
  | (k, v) :: rest => if k == key then rest else (k, v) :: erase key rest

theorem get?_put_same (key : String) (value : α) (es : List (String × α)) :
    get? key (put key value es) = some value := by
  induction es with
  | nil => simp [put, get?]
  | cons e rest ih =>
      obtain ⟨k, v⟩ := e
      by_cases h : k = key <;> simp [put, get?, h, ih]

theorem get?_put_other {key other : String} (value : α) (es : List (String × α))
    (h : key ≠ other) : get? other (put key value es) = get? other es := by
  induction es with
  | nil => simp [put, get?, h]
  | cons e rest ih =>
      obtain ⟨k, v⟩ := e
      by_cases hk : k = key
      · subst hk
        simp [put, get?, h]
      · simp [put, get?, hk, ih]

end Entries

namespace Value

/-- Empty and zero values count as absent where a text is asked for. -/
def isVacant : Value → Bool
  | null => true
  | bool b => !b
  | num n => n.isZero
  | text s => s.isEmpty
  | list items => items.isEmpty
  | dict entries => entries.isEmpty

end Value

end Testbed
