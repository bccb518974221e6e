/-!
# Keyed entries in order

A list of keyed entries. `put` overwrites in place and otherwise appends, so
that a key keeps its first position; `putSorted` keeps the keys in order.
-/

set_option autoImplicit false

namespace Scenario

abbrev Assoc (α : Type) := List (String × α)

namespace Assoc
variable {α : Type}

def get? : Assoc α → String → Option α
  | [], _ => none
  | (k, v) :: r, key => if k = key then some v else get? r key

def has (m : Assoc α) (key : String) : Bool := (get? m key).isSome

def put : Assoc α → String → α → Assoc α
  | [], key, value => [(key, value)]
  | (k, v) :: r, key, value =>
    if k = key then (key, value) :: r else (k, v) :: put r key value

def erase : Assoc α → String → Assoc α
  | [], _ => []
  | (k, v) :: r, key => if k = key then r else (k, v) :: erase r key

def putAll (m : Assoc α) (other : Assoc α) : Assoc α :=
  other.foldl (fun m e => put m e.1 e.2) m

def keys (m : Assoc α) : List String := m.map (·.1)

def putSorted : Assoc α → String → α → Assoc α
  | [], key, value => [(key, value)]
  | (k, v) :: r, key, value =>
    if k = key then (key, value) :: r
    else if key < k then (key, value) :: (k, v) :: r
    else (k, v) :: putSorted r key value

/-- Entries by rising key; of equal keys the last one is kept. -/
def sorted (m : Assoc α) : Assoc α :=
  m.foldl (fun m e => putSorted m e.1 e.2) []

def mapValues {β : Type} (f : α → β) (m : Assoc α) : Assoc β :=
  m.map fun e => (e.1, f e.2)

def sameEntries [BEq α] (a b : Assoc α) : Bool :=
  a.length == b.length && a.all fun e =>
    match get? b e.1 with
    | some v => v == e.2
    | none => false

@[simp] theorem get?_put_same (m : Assoc α) (k : String) (v : α) :
    get? (put m k v) k = some v := by
  induction m with
  | nil => simp [put, get?]
  | cons e r ih =>
    obtain ⟨k', v'⟩ := e
    by_cases h : k' = k <;> simp [put, get?, h, ih]

theorem get?_put_other (m : Assoc α) {k key : String} (v : α) (h : key ≠ k) :
    get? (put m k v) key = get? m key := by
  induction m with
  | nil => simp [put, get?, h.symm]
  | cons e r ih =>
    obtain ⟨k', v'⟩ := e
    by_cases hk : k' = k
    · subst hk; simp [put, get?, h.symm]
    · by_cases hk' : k' = key
      · subst hk'; simp [put, get?, hk]
      · simp [put, get?, hk, hk', ih]

theorem get?_erase_other (m : Assoc α) {k key : String} (h : key ≠ k) :
    get? (erase m k) key = get? m key := by
  induction m with
  | nil => rfl
  | cons e r ih =>
    obtain ⟨k', v'⟩ := e
    by_cases hk : k' = k
    · subst hk; simp [erase, get?, h.symm]
    · by_cases hk' : k' = key
      · subst hk'; simp [erase, get?, hk]
      · simp [erase, get?, hk, hk', ih]

theorem keys_put (m : Assoc α) (k : String) (v : α) :
    keys (put m k v) = if k ∈ keys m then keys m else keys m ++ [k] := by
  induction m with
  | nil => simp [put, keys]
  | cons e r ih =>
    obtain ⟨k', v'⟩ := e
    by_cases h : k' = k
    · subst h; simp [put, keys]
    · have h' : k ≠ k' := fun e => h e.symm
      simp only [keys] at ih
      by_cases hm : k ∈ List.map (·.1) r <;> simp_all [put, keys]

end Assoc

end Scenario
