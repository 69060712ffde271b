set_option autoImplicit false
set_option relaxedAutoImplicit false

namespace DevicePairing

abbrev Table (κ α : Type) := List (κ × α)

namespace Table

variable {κ α : Type} [DecidableEq κ]

def get? : Table κ α → κ → Option α
  | [], _ => none
  | (k, a) :: t, key => if k = key then some a else get? t key

/-- The table with another value for a key, at the end if the key is new. -/
def put : Table κ α → κ → α → Table κ α
  | [], key, a => [(key, a)]
  | (k, b) :: t, key, a => if k = key then (k, a) :: t else (k, b) :: put t key a

def erase (t : Table κ α) (key : κ) : Table κ α := t.filter fun row => row.1 ≠ key

def keys (t : Table κ α) : List κ := t.map Prod.fst

theorem get?_put (t : Table κ α) (key key' : κ) (a : α) :
    (t.put key a).get? key' = if key = key' then some a else t.get? key' := by
  induction t with
  | nil => rfl
  | cons row t ih =>
    obtain ⟨k, b⟩ := row
    by_cases h : k = key
    · subst h
      by_cases h' : k = key' <;> simp [put, get?, h']
    · by_cases h' : k = key'
      · subst h'
        simp [put, get?, h, Ne.symm h]
      · simp [put, get?, h, h', ih]

theorem get?_erase (t : Table κ α) (key key' : κ) :
    (t.erase key).get? key' = if key = key' then none else t.get? key' := by
  induction t with
  | nil => simp [erase, get?]
  | cons row t ih =>
    obtain ⟨k, b⟩ := row
    by_cases h : k = key
    · have dropped : erase ((k, b) :: t) key = erase t key := by simp [erase, h]
      rw [dropped, ih]
      by_cases h' : key = key' <;> simp [get?, h, h']
    · have kept : erase ((k, b) :: t) key = (k, b) :: erase t key := by simp [erase, h]
      rw [kept, get?, ih, get?]
      by_cases h' : k = key'
      · simp [h', Ne.symm (h' ▸ h)]
      · simp [h']

end Table

end DevicePairing
