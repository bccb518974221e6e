import Scenario.Loading

/-!
# What pointcuts select

A pointcut is written as a list of entries: a step is selected if it satisfies
every field of one of them. A field asks something of the step, or denies the
entries that lie in it. Only a comparison by an unknown method and a denial of
something that is no entry cannot be read.
-/

set_option autoImplicit false

namespace Scenario.Selection
open Scenario.Loading

def names : Json → List String
  | .arr items => items.map Json.scalar
  | v => [v.scalar]

/-- What a field that denies nothing asks of a step. -/
def Asked (s : Step) (r : Row) (key : String) (v : Json) : Prop :=
  if key = "type" then ∃ name ∈ names v, r.bind name = s.kind.name
  else if key = "negated" then s.negated = asBool v
  else if key = "skip" then s.isSkipped r = asBool v
  else match v.get? "method", v.get? "type", v.get? "value" with
    | some m, _, value =>
      ∃ method text, MatchMethod.ofName? m.scalar = some method ∧ s.text? key = some text ∧
        method.holds (r.bind text) (r.bind ((value.map Json.scalar).getD "")) = true
    | none, some kind, some value =>
      ∃ l, s.locator? key = some l ∧ l.bind r = Locator.bind ⟨kind.scalar, value.scalar⟩ r
    | none, _, _ => ∃ text, s.text? key = some text ∧ r.bind text = r.bind v.scalar

def denies (key : String) : Json → Bool
  | .obj _ => key == "not"
  | .arr _ => key == "not"
  | _ => false

mutual
/-- A step satisfies a field of an entry. -/
def Satisfied (s : Step) (r : Row) (key : String) : Json → Prop
  | .obj fields =>
    if key = "not" then ¬ AllSatisfied s r fields else Asked s r key (.obj fields)
  | .arr items =>
    if key = "not" then ¬ SomeSatisfied s r items else Asked s r key (.arr items)
  | v => Asked s r key v
def AllSatisfied (s : Step) (r : Row) : List (String × Json) → Prop
  | [] => True
  | (key, v) :: rest => Satisfied s r key v ∧ AllSatisfied s r rest
def SomeSatisfied (s : Step) (r : Row) : List Json → Prop
  | [] => False
  | .obj fields :: rest => AllSatisfied s r fields ∨ SomeSatisfied s r rest
  | _ :: rest => SomeSatisfied s r rest
end

/-- A field that cannot be read, and the trouble that it gives. -/
inductive Refused : String → Json → Trouble → Prop
  | method {key : String} {fields : List (String × Json)} {m : Json}
      (parameter : key ∉ ["type", "negated", "skip", "not"])
      (given : Assoc.get? fields "method" = some m)
      (unknown : MatchMethod.ofName? m.scalar = none) :
      Refused key (.obj fields) (.ofText ("unknown match method '" ++ m.scalar ++ "'"))
  | stray {items : List Json} {v : Json} (mem : v ∈ items) (h : isObject v = false) :
      Refused "not" (.arr items) (.ofText "invalid not entry")
  | within {fields : List (String × Json)} {f : String × Json} {t : Trouble} (mem : f ∈ fields)
      (h : Refused f.1 f.2 t) : Refused "not" (.obj fields) t
  | among {items : List Json} {fields : List (String × Json)} {f : String × Json} {t : Trouble}
      (entry : .obj fields ∈ items) (mem : f ∈ fields) (h : Refused f.1 f.2 t) :
      Refused "not" (.arr items) t

section Entries
variable (s : Step) (r : Row)

theorem someSatisfied_iff (items : List Json) :
    SomeSatisfied s r items ↔ ∃ fields, .obj fields ∈ items ∧ AllSatisfied s r fields := by
  induction items with
  | nil => simp [SomeSatisfied]
  | cons v rest ih => cases v <;> simp [SomeSatisfied, ih, or_and_right, exists_or]

end Entries

/-- What is read selects as it should, and what cannot be read gives its trouble. -/
def Means (bad : Trouble → Prop) (good : Step → Row → Prop) : Except Trouble Pointcut → Prop
  | .error t => bad t
  | .ok p => (∀ t, ¬ bad t) ∧ ∀ s r, p.selects s r = true ↔ good s r

theorem Means.imp {bad bad' : Trouble → Prop} {good good' : Step → Row → Prop}
    {result : Except Trouble Pointcut} (h : Means bad good result) (hb : ∀ t, bad t ↔ bad' t)
    (hg : ∀ s r, good s r ↔ good' s r) : Means bad' good' result := by
  cases result with
  | error t => exact (hb t).1 h
  | ok p => exact ⟨fun t ht => h.1 t ((hb t).2 ht), fun s r => (h.2 s r).trans (hg s r)⟩

section Fields
variable {key : String}

theorem selects_param (value : String) (method : MatchMethod) (s : Step) (r : Row) :
    (Pointcut.param key value method).selects s r = true ↔
      ∃ text, s.text? key = some text ∧ method.holds (r.bind text) (r.bind value) = true := by
  cases h : s.text? key <;> simp [Pointcut.selects, h]

theorem selects_locator (l : Locator) (s : Step) (r : Row) :
    (Pointcut.locator key l).selects s r = true ↔
      ∃ l', s.locator? key = some l' ∧ l'.bind r = l.bind r := by
  cases h : s.locator? key <;> simp [Pointcut.selects, h]

theorem not_refused_asked {v : Json} {t : Trouble}
    (own : key = "type" ∨ key = "negated" ∨ key = "skip") :
    ¬ Refused key v t := by
  intro refused
  cases refused with
  | method parameter _ _ => rcases own with rfl | rfl | rfl <;> simp at parameter
  | stray _ _ => simp at own
  | within _ _ => simp at own
  | among _ _ _ => simp at own

theorem satisfied_asked {s : Step} {r : Row} {v : Json} (plain : denies key v = false) :
    Satisfied s r key v ↔ Asked s r key v := by
  cases v with
  | obj fields => rw [Satisfied, if_neg (by simpa [denies] using plain)]
  | arr items => rw [Satisfied, if_neg (by simpa [denies] using plain)]
  | _ => rfl

theorem condition_type (v : Json) : condition "type" v = .ok (.kind (names v)) := by
  cases v <;> simp [condition, names]

theorem condition_negated (v : Json) : condition "negated" v = .ok (.negated (asBool v)) := by
  cases v <;> simp [condition, asBool]

theorem condition_skip (v : Json) : condition "skip" v = .ok (.skip (asBool v)) := by
  cases v <;> simp [condition, asBool]

theorem means_asked {v : Json} {p : Pointcut} (readable : ∀ t, ¬ Refused key v t)
    (plain : denies key v = false) (same : ∀ s r, p.selects s r = true ↔ Asked s r key v) :
    Means (Refused key v) (fun s r => Satisfied s r key v) (.ok p) :=
  ⟨readable, fun s r => (same s r).trans (satisfied_asked plain).symm⟩

theorem condition_asked {v : Json} (own : key = "type" ∨ key = "negated" ∨ key = "skip") :
    Means (Refused key v) (fun s r => Satisfied s r key v) (condition key v) := by
  have readable : ∀ t, ¬ Refused key v t := fun t => not_refused_asked own
  have plain : denies key v = false := by
    rcases own with rfl | rfl | rfl <;> cases v <;> rfl
  rcases own with rfl | rfl | rfl
  · rw [condition_type]
    exact means_asked readable plain fun s r => by simp [Pointcut.selects, Asked]
  · rw [condition_negated]
    exact means_asked readable plain fun s r => by simp [Pointcut.selects, Asked]
  · rw [condition_skip]
    exact means_asked readable plain fun s r => by simp [Pointcut.selects, Asked]

section Parameters
variable (type : key ≠ "type") (negated : key ≠ "negated") (skip : key ≠ "skip")
include type negated skip

theorem asked_parameter {v : Json} {s : Step} {r : Row} :
    Asked s r key v ↔ match v.get? "method", v.get? "type", v.get? "value" with
      | some m, _, value =>
        ∃ method text, MatchMethod.ofName? m.scalar = some method ∧ s.text? key = some text ∧
          method.holds (r.bind text) (r.bind ((value.map Json.scalar).getD "")) = true
      | none, some kind, some value =>
        ∃ l, s.locator? key = some l ∧ l.bind r = Locator.bind ⟨kind.scalar, value.scalar⟩ r
      | none, _, _ => ∃ text, s.text? key = some text ∧ r.bind text = r.bind v.scalar := by
  rw [Asked, if_neg type, if_neg negated, if_neg skip]

theorem condition_method (not : key ≠ "not") {fields : List (String × Json)} {m : Json}
    (given : Assoc.get? fields "method" = some m) :
    Means (Refused key (.obj fields)) (fun s r => Satisfied s r key (.obj fields))
      (condition key (.obj fields)) := by
  simp only [condition, if_neg type, if_neg negated, if_neg skip, if_neg not, given]
  cases known : MatchMethod.ofName? m.scalar with
  | none => exact .method (by simp [type, negated, skip, not]) given known
  | some method =>
    refine means_asked (fun t refused => ?_) (by simp [denies, not]) fun s r => ?_
    · cases refused with
      | method _ given' unknown =>
        rw [given] at given'
        cases given'
        rw [known] at unknown
        cases unknown
      | within _ _ => exact not rfl
    · rw [selects_param, asked_parameter type negated skip]
      simp [Json.get?, given, known]

theorem condition_object (not : key ≠ "not") {fields : List (String × Json)}
    (free : Assoc.get? fields "method" = none) :
    Means (Refused key (.obj fields)) (fun s r => Satisfied s r key (.obj fields))
      (condition key (.obj fields)) := by
  have plain : denies key (.obj fields) = false := by simp [denies, not]
  have readable : ∀ t, ¬ Refused key (.obj fields) t := by
    intro t refused
    cases refused with
    | method _ given _ =>
      rw [free] at given
      cases given
    | within _ _ => exact not rfl
  simp only [condition, if_neg type, if_neg negated, if_neg skip, if_neg not, free, locator?]
  cases kind : Assoc.get? fields "type" with
  | none =>
    refine means_asked readable plain fun s r => ?_
    rw [selects_param, asked_parameter type negated skip]
    simp [Json.get?, free, kind, MatchMethod.holds]
  | some _ =>
    cases value : Assoc.get? fields "value" with
    | none =>
      refine means_asked readable plain fun s r => ?_
      rw [selects_param, asked_parameter type negated skip]
      simp [Json.get?, free, kind, value, MatchMethod.holds]
    | some _ =>
      refine means_asked readable plain fun s r => ?_
      rw [selects_locator, asked_parameter type negated skip]
      simp [Json.get?, free, kind, value]

theorem condition_text {v : Json} (plain : denies key v = false) (text : isObject v = false) :
    Means (Refused key v) (fun s r => Satisfied s r key v) (condition key v) := by
  have read : condition key v = .ok (.param key v.scalar .equals) := by
    cases v with
    | obj fields => cases text
    | arr items =>
      have not : key ≠ "not" := by simpa [denies] using plain
      simp only [condition, if_neg type, if_neg negated, if_neg skip, if_neg not]
    | _ => simp only [condition, if_neg type, if_neg negated, if_neg skip]
  rw [read]
  refine means_asked (fun t refused => ?_) plain fun s r => ?_
  · cases refused with
    | method _ _ _ => cases text
    | within _ _ => cases text
    | stray _ _ => cases plain
    | among _ _ _ => cases plain
  · have bare : ∀ name, v.get? name = none := by
      intro name
      cases v with
      | obj fields => cases text
      | _ => rfl
    rw [selects_param, asked_parameter type negated skip, bare, bare, bare]
    simp [MatchMethod.holds]

end Parameters

/-- A field that denies nothing is read as it is asked. -/
theorem condition_plain {v : Json} (plain : denies key v = false) :
    Means (Refused key v) (fun s r => Satisfied s r key v) (condition key v) := by
  by_cases own : key = "type" ∨ key = "negated" ∨ key = "skip"
  · exact condition_asked own
  · simp only [not_or] at own
    obtain ⟨type, negated, skip⟩ := own
    cases v with
    | obj fields =>
      have not : key ≠ "not" := by simpa [denies] using plain
      cases given : Assoc.get? fields "method" with
      | some m => exact condition_method type negated skip not given
      | none => exact condition_object type negated skip not given
    | _ => exact condition_text type negated skip plain rfl

end Fields

def MeansAll (p : Pointcut) (fields : List (String × Json)) : Prop :=
  Means (fun t => ∃ f ∈ fields, Refused f.1 f.2 t)
    (fun s r => p.selects s r = true ∧ AllSatisfied s r fields) (conditions p fields)

def MeansSome (p : Pointcut) (items : List Json) : Prop :=
  Means (fun t => ∃ fields, .obj fields ∈ items ∧ ∃ f ∈ fields, Refused f.1 f.2 t)
    (fun s r => p.selects s r = true ∨ SomeSatisfied s r items) (alternatives p items)

/-- What is denied is read if it can be read itself. -/
theorem Means.not {bad : Trouble → Prop} {good : Step → Row → Prop}
    {result : Except Trouble Pointcut} (h : Means bad good result) :
    Means bad (fun s r => ¬ good s r) (result.map .not) := by
  cases result with
  | error t => exact h
  | ok p =>
    refine ⟨h.1, fun s r => ?_⟩
    rw [Pointcut.selects, Bool.not_eq_true', ← Bool.not_eq_true, h.2]

theorem condition_not_object (fields : List (String × Json)) :
    condition "not" (.obj fields) = (conditions .any fields).map .not := by
  rw [condition, if_neg (by decide), if_neg (by decide), if_neg (by decide), if_pos rfl]
  cases conditions .any fields <;> rfl

theorem condition_not_array {items : List Json} (entries : items.all isObject = true) :
    condition "not" (.arr items) = (alternatives .none items).map .not := by
  rw [condition, if_neg (by decide), if_neg (by decide), if_neg (by decide), if_pos rfl,
    if_pos entries]
  cases alternatives .none items <;> rfl

theorem refused_not_object {fields : List (String × Json)} {t : Trouble} :
    Refused "not" (.obj fields) t ↔ ∃ f ∈ fields, Refused f.1 f.2 t := by
  constructor
  · intro refused
    cases refused with
    | method parameter _ _ => simp at parameter
    | within mem h => exact ⟨_, mem, h⟩
  · rintro ⟨f, mem, h⟩
    exact .within mem h

theorem refused_not_array {items : List Json} {t : Trouble} (entries : items.all isObject = true) :
    Refused "not" (.arr items) t ↔
      ∃ fields, .obj fields ∈ items ∧ ∃ f ∈ fields, Refused f.1 f.2 t := by
  constructor
  · intro refused
    cases refused with
    | stray mem h =>
      rw [List.all_eq_true.1 entries _ mem] at h
      cases h
    | among entry mem h => exact ⟨_, entry, _, mem, h⟩
  · rintro ⟨fields, entry, f, mem, h⟩
    exact .among entry mem h

theorem MeansSome.stray {p : Pointcut} {v : Json} {rest : List Json} (h : MeansSome p rest)
    (other : isObject v = false) : MeansSome p (v :: rest) := by
  have read : alternatives p (v :: rest) = alternatives p rest := by
    cases v with
    | obj fields => cases other
    | _ => simp [alternatives]
  have entries : ∀ fields, .obj fields ∈ v :: rest ↔ .obj fields ∈ rest := by
    intro fields
    cases v with
    | obj fields => cases other
    | _ => simp
  have satisfied : ∀ s r, SomeSatisfied s r (v :: rest) ↔ SomeSatisfied s r rest := by
    simp [someSatisfied_iff, entries]
  rw [MeansSome, read]
  exact h.imp (by simp [entries]) (by simp [satisfied])

-- The list of entries is read with what was read before it, so the induction is on the values
-- with any pointcut in front.
mutual
theorem means_conditions (p : Pointcut) : ∀ fields, MeansAll p fields
  | [] => ⟨by simp, by simp [AllSatisfied]⟩
  | (key, v) :: rest => by
    have first := means_condition key v
    rw [MeansAll, conditions]
    cases read : condition key v with
    | error t =>
      rw [read] at first
      exact ⟨(key, v), by simp, first⟩
    | ok q =>
      rw [read] at first
      obtain ⟨readable, same⟩ := first
      refine (means_conditions (p.both q) rest).imp ?_ ?_
      · simp [readable]
      · intro s r
        rw [Pointcut.selects_both, Bool.and_eq_true, same, AllSatisfied, and_assoc]
theorem means_condition (key : String) : ∀ v,
    Means (Refused key v) (fun s r => Satisfied s r key v) (condition key v)
  | .obj fields => by
    by_cases denied : key = "not"
    · subst denied
      rw [condition_not_object]
      refine (means_conditions .any fields).not.imp (fun t => refused_not_object.symm) ?_
      simp [Satisfied, Pointcut.selects]
    · exact condition_plain (by simp [denies, denied])
  | .arr items => by
    by_cases denied : key = "not"
    · subst denied
      by_cases entries : items.all isObject = true
      · rw [condition_not_array entries]
        refine (means_alternatives .none items).not.imp
          (fun t => (refused_not_array entries).symm) ?_
        simp [Satisfied, Pointcut.selects]
      · have read : condition "not" (.arr items) = .error (.ofText "invalid not entry") := by
          simp [condition, entries]
        rw [read]
        obtain ⟨v, mem, h⟩ : ∃ v ∈ items, isObject v = false := by simpa using entries
        exact .stray mem h
    · exact condition_plain (by simp [denies, denied])
  | .null | .bool _ | .int _ | .float _ | .str _ => condition_plain rfl
theorem means_alternatives (p : Pointcut) : ∀ items, MeansSome p items
  | [] => ⟨by simp, by simp [SomeSatisfied]⟩
  | .obj fields :: rest => by
    have first := means_conditions .any fields
    rw [MeansSome, alternatives]
    cases read : conditions .any fields with
    | error t =>
      rw [MeansAll, read] at first
      exact ⟨fields, by simp, first⟩
    | ok q =>
      rw [MeansAll, read] at first
      obtain ⟨readable, same⟩ := first
      refine (means_alternatives (p.either q) rest).imp (fun t => ?_) fun s r => ?_
      · simp only [List.mem_cons, Json.obj.injEq, or_and_right, exists_or, exists_eq_left]
        exact (or_iff_right (readable t)).symm
      · rw [Pointcut.selects_either, Bool.or_eq_true, same, SomeSatisfied, or_assoc]
        simp [Pointcut.selects]
  | .null :: rest | .bool _ :: rest | .int _ :: rest | .float _ :: rest | .str _ :: rest
  | .arr _ :: rest => (means_alternatives p rest).stray rfl
end

end Scenario.Selection
