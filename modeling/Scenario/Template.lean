import Scenario.Text.Blank

/-!
# Templates

A reference is a mark, an opening brace, a name, and a closing brace. A
substitution reads the text once from the left and replaces each reference
that has a value.
-/

set_option autoImplicit false

namespace Scenario.Template

/-- Which references a substitution looks at: their mark and the characters of
their names. -/
structure Form where
  mark : Char
  isName : Char → Bool

def expressions : Form := ⟨'$', fun c => c != '{' && c != '}'⟩

def keys : Form :=
  ⟨'!', fun c => ('A'.toNat ≤ c.toNat && c.toNat ≤ 'Z'.toNat) || c.isDigit || c == '_'⟩

def Form.reference? (f : Form) : List Char → Option (List Char)
  | m :: '{' :: r =>
    let name := r.takeWhile f.isName
    if m = f.mark ∧ name ≠ [] ∧ (r.drop name.length).head? = some '}' then some name else none
  | _ => none

/-- `passed` counts the characters of a replaced reference still to pass. -/
def Form.substituteFrom (f : Form) (value : List Char → Option (List Char)) :
    Nat → List Char → List Char
  | _, [] => []
  | passed + 1, _ :: r => f.substituteFrom value passed r
  | 0, c :: r =>
    match (f.reference? (c :: r)).bind fun name => (value name).map (name.length, ·) with
    | some (n, v) => v ++ f.substituteFrom value (n + 2) r
    | none => c :: f.substituteFrom value 0 r

/-- Replaces the references whose names have a value and keeps all else. -/
def Form.substitute (f : Form) (value : List Char → Option (List Char)) (s : List Char) :
    List Char :=
  f.substituteFrom value 0 s

def Form.namesFrom (f : Form) : Nat → List Char → List (List Char)
  | _, [] => []
  | passed + 1, _ :: r => f.namesFrom passed r
  | 0, c :: r =>
    match f.reference? (c :: r) with
    | some name => name :: f.namesFrom (name.length + 2) r
    | none => f.namesFrom 0 r

def Form.names (f : Form) (s : List Char) : List (List Char) := f.namesFrom 0 s

theorem Form.reference?_of_ne (f : Form) {c : Char} (r : List Char) (h : c ≠ f.mark) :
    f.reference? (c :: r) = none := by
  cases r with
  | nil => rfl
  | cons d r => by_cases hd : d = '{' <;> simp_all [reference?]

theorem Form.substituteFrom_of_not_mem (f : Form) (value : List Char → Option (List Char))
    (s : List Char) (h : f.mark ∉ s) : f.substituteFrom value 0 s = s := by
  induction s with
  | nil => rfl
  | cons c r ih =>
    have hc : c ≠ f.mark := fun e => h (by simp [e])
    have hr : f.mark ∉ r := fun m => h (by simp [m])
    simp [substituteFrom, f.reference?_of_ne r hc, ih hr]

theorem Form.names_of_not_mem (f : Form) (s : List Char) (h : f.mark ∉ s) : f.names s = [] := by
  rw [names]
  induction s with
  | nil => rfl
  | cons c r ih =>
    have hc : c ≠ f.mark := fun e => h (by simp [e])
    have hr : f.mark ∉ r := fun m => h (by simp [m])
    rw [namesFrom, f.reference?_of_ne r hc]
    exact ih hr

end Scenario.Template
