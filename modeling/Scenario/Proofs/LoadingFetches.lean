import Scenario.Loading

/-!
# Fetching

What loading a document asks for, in turn: that its parts are right, and that
the files load to which its entries lead. The first demand that is not met
decides how loading ends.
-/

set_option autoImplicit false

namespace Scenario.Fetching
open Scenario.Document Scenario.Loading

inductive Fate where
  | loaded
  | refused
  /-- Not within the levels that were given. -/
  | endless
  deriving DecidableEq, Repr

def Fate.andThen : Fate → Fate → Fate
  | .loaded, f => f
  | f, _ => f

@[simp] theorem Fate.loaded_andThen (f : Fate) : Fate.andThen .loaded f = f := rfl

@[simp] theorem Fate.andThen_loaded (f : Fate) : f.andThen .loaded = f := by cases f <;> rfl

theorem Fate.andThen_assoc (f g h : Fate) : (f.andThen g).andThen h = f.andThen (g.andThen h) := by
  cases f <;> rfl

/-- Trouble with the levels is passed on under all that is said of it on the way up. -/
def fate {α : Type} : Except Trouble α → Fate
  | .ok _ => .loaded
  | .error t => if .tooDeep ∈ t then .endless else .refused

variable {α β : Type}

theorem fate_bind {x : Except Trouble α} {g : α → Except Trouble β} {f : Fate}
    (h : ∀ a, fate (g a) = f) : fate (x >>= g) = (fate x).andThen f := by
  cases x with
  | ok a => exact h a
  | error t =>
    change fate (Except.error t : Except Trouble β) = _
    rw [fate, fate]
    split <;> rfl

theorem fate_during (s : String) (x : Except Trouble α) : fate (during s x) = fate x := by
  cases x with
  | ok a => rfl
  | error t => simp [during, fate, Trouble.within]

/-- What does not depend on the levels. -/
def Prompt (x : Except Trouble α) : Prop := fate x ≠ .endless

theorem prompt_ok (a : α) : Prompt (.ok a) := by simp [Prompt, fate]

theorem prompt_text (s : String) : Prompt (.error (.ofText s) : Except Trouble α) := by
  simp [Prompt, fate, Trouble.ofText]

theorem Prompt.error {x : Except Trouble α} (h : Prompt x) {t : Trouble} (found : x = .error t) :
    Prompt (.error t : Except Trouble β) := by
  subst found
  exact h

theorem Prompt.bind {x : Except Trouble α} {g : α → Except Trouble β} (h : Prompt x)
    (rest : ∀ a, Prompt (g a)) : Prompt (x >>= g) := by
  cases x with
  | ok a => exact rest a
  | error t => exact h.error rfl

theorem Prompt.during {x : Except Trouble α} (h : Prompt x) (s : String) : Prompt (during s x) := by
  rwa [Prompt, fate_during]

theorem Prompt.optionally {f : α → Except Trouble β} (h : ∀ a, Prompt (f a)) (o : Option α) :
    Prompt (optionally f o) := by
  cases o with
  | none => exact prompt_ok _
  | some a =>
    rw [Loading.optionally]
    split
    · exact prompt_ok _
    next found => exact (h a).error found

theorem Prompt.fate_eq {x : Except Trouble α} (h : Prompt x) :
    fate x = if x.isOk then .loaded else .refused := by
  cases x with
  | ok a => rfl
  | error t =>
    rw [Prompt, fate] at h
    rw [fate]
    split at h
    · exact absurd rfl h
    next other => simp [other, Except.isOk, Except.toBool]

theorem prompt_step (v : Json) : Prompt (step v) := by
  unfold step
  split
  · split
    · exact prompt_text _
    · split
      · exact prompt_text _
      · exact prompt_ok _
  · exact prompt_text _

theorem prompt_steps (vs : List Json) : Prompt (steps vs) := by
  suffices h : ∀ n, Prompt (stepsFrom n vs) from h 1
  induction vs with
  | nil => exact fun _ => prompt_ok _
  | cons v r ih =>
    intro n
    exact ((prompt_step v).during _).bind fun _ => (ih (n + 1)).bind fun _ => prompt_ok _

theorem prompt_ite {c : Prop} [Decidable c] {x y : Except Trouble α} (h : Prompt x)
    (other : Prompt y) : Prompt (if c then x else y) := by
  split
  · exact h
  · exact other

mutual
theorem prompt_conditions (p : Pointcut) : ∀ members, Prompt (conditions p members)
  | [] => prompt_ok _
  | (key, value) :: r => by
    rw [conditions]
    split
    next q _ => exact prompt_conditions (p.both q) r
    next found => exact (prompt_condition key value).error found
theorem prompt_condition (key : String) : ∀ value, Prompt (condition key value)
  | .obj members => by
    rw [condition]
    refine prompt_ite (prompt_ok _) (prompt_ite (prompt_ok _) (prompt_ite (prompt_ok _)
      (prompt_ite ?_ ?_)))
    · split
      · exact prompt_ok _
      next found => exact (prompt_conditions .any members).error found
    · split
      · split
        · exact prompt_ok _
        · exact prompt_text _
      · split <;> exact prompt_ok _
  | .arr items => by
    rw [condition]
    refine prompt_ite (prompt_ok _) (prompt_ite (prompt_ok _) (prompt_ite (prompt_ok _)
      (prompt_ite (prompt_ite ?_ (prompt_text _)) (prompt_ok _))))
    split
    · exact prompt_ok _
    next found => exact (prompt_alternatives .none items).error found
  | .null | .bool _ | .int _ | .float _ | .str _ =>
    prompt_ite (prompt_ok _) (prompt_ite (prompt_ok _) (prompt_ite (prompt_ok _) (prompt_ok _)))
theorem prompt_alternatives (p : Pointcut) : ∀ items, Prompt (alternatives p items)
  | [] => prompt_ok _
  | .obj members :: r => by
    rw [alternatives]
    split
    next q _ => exact prompt_alternatives (p.either q) r
    next found => exact (prompt_conditions .any members).error found
  | .null :: r | .bool _ :: r | .int _ :: r | .float _ :: r | .str _ :: r | .arr _ :: r =>
    prompt_alternatives p r
end

theorem prompt_pointcut (entries : List (Assoc Json)) : Prompt (pointcut entries) :=
  prompt_alternatives _ _

theorem prompt_adviceCase (dir name : String) (vs : List Json) : Prompt (adviceCase dir name vs) :=
  (prompt_steps vs).bind fun _ => prompt_ok _

theorem prompt_interceptor (dir : String) (d : InterceptorDocument) : Prompt (interceptor dir d) :=
  (Prompt.optionally prompt_pointcut d.pointcut).bind fun _ =>
    (Prompt.optionally (prompt_adviceCase dir _) d.before).bind fun _ =>
      (Prompt.optionally (prompt_adviceCase dir _) d.after).bind fun _ =>
        (Prompt.optionally (prompt_adviceCase dir _) d.failure).bind fun _ => prompt_ok _

theorem prompt_interceptors (dir : String) (ds : List InterceptorDocument) :
    Prompt (interceptors dir ds) := by
  induction ds with
  | nil => exact prompt_ok _
  | cons d r ih => exact (prompt_interceptor dir d).bind fun _ => ih.bind fun _ => prompt_ok _

theorem isOk_bind {x y : Except Trouble α} {g k : α → Except Trouble β} (h : x.isOk = y.isOk)
    (rest : ∀ a b, (g a).isOk = (k b).isOk) : (x >>= g).isOk = (y >>= k).isOk := by
  cases x with
  | ok a =>
    cases y with
    | ok b => exact rest a b
    | error u => cases h
  | error t =>
    cases y with
    | ok b => cases h
    | error u => rfl

theorem isOk_optionally {f g : α → Except Trouble β} (h : ∀ a, (f a).isOk = (g a).isOk)
    (o : Option α) : (optionally f o).isOk = (optionally g o).isOk := by
  cases o with
  | none => rfl
  | some a =>
    have same := h a
    rw [optionally, optionally]
    split <;> split <;> simp_all [Except.isOk, Except.toBool]

theorem isOk_adviceCase (dir dir' name : String) (vs : List Json) :
    (adviceCase dir name vs).isOk = (adviceCase dir' name vs).isOk :=
  isOk_bind rfl fun _ _ => rfl

theorem isOk_interceptors (dir dir' : String) (ds : List InterceptorDocument) :
    (interceptors dir ds).isOk = (interceptors dir' ds).isOk := by
  induction ds with
  | nil => rfl
  | cons d r ih =>
    refine isOk_bind ?_ fun _ _ => isOk_bind ih fun _ _ => rfl
    exact isOk_bind rfl fun _ _ => isOk_bind (isOk_optionally (isOk_adviceCase dir dir' _) _)
      fun _ _ => isOk_bind (isOk_optionally (isOk_adviceCase dir dir' _) _)
        fun _ _ => isOk_bind (isOk_optionally (isOk_adviceCase dir dir' _) _) fun _ _ => rfl

/-- That a part is right, or that a file loads. -/
inductive Demand where
  | check (right : Bool)
  | fetch (ref : String)
  deriving DecidableEq, Repr

mutual
def refs : Entry → List String
  | .chain entries _ _ => allRefs entries
  | .script e => if Text.contains e.path "$\x7b" then [] else [e.path]
def allRefs : List Entry → List String
  | [] => []
  | e :: r => refs e ++ allRefs r
end

def opening (d : ScriptDocument) : List Demand :=
  if d.kind = "script" then [.check (steps d.steps).isOk]
  else if d.kind = "suite" then (allRefs d.scripts).map .fetch
  else [.check false]

def closing (d : ScriptDocument) : List Demand :=
  [.check (interceptors "" d.aspect).isOk] ++ ((allRefs d.chains).map .fetch ++
    ([.check (pointcut d.included).isOk] ++ [.check (pointcut d.excluded).isOk]))

/-- What loading a document asks for, in turn. -/
def demands (d : ScriptDocument) : List Demand := opening d ++ closing d

def Demand.fate (f : String → Fate) : Demand → Fate
  | .check right => if right then .loaded else .refused
  | .fetch ref => f ref

def outcome (f : String → Fate) : List Demand → Fate
  | [] => .loaded
  | d :: r => (d.fate f).andThen (outcome f r)

theorem outcome_append (f : String → Fate) (a b : List Demand) :
    outcome f (a ++ b) = (outcome f a).andThen (outcome f b) := by
  induction a with
  | nil => rfl
  | cons d r ih => rw [List.cons_append, outcome, outcome, ih, Fate.andThen_assoc]

/-- Where no demand is left open, more levels change nothing. -/
theorem outcome_stable {f g : String → Fate} {ds : List Demand}
    (same : ∀ ref, f ref ≠ .endless → g ref = f ref) (h : outcome f ds ≠ .endless) :
    outcome g ds = outcome f ds := by
  induction ds with
  | nil => rfl
  | cons d r ih =>
    rw [outcome] at h
    rw [outcome, outcome]
    have head : d.fate g = d.fate f := by
      cases d with
      | check right => rfl
      | fetch ref =>
        refine same ref fun endless => h ?_
        rw [Demand.fate, endless]
        rfl
    rw [head]
    cases ended : d.fate f with
    | loaded =>
      rw [ended] at h
      exact ih h
    | refused => rfl
    | endless => rfl

theorem outcome_endless {f : String → Fate} {ds : List Demand} (h : outcome f ds = .endless) :
    ∃ before ref after, ds = before ++ .fetch ref :: after ∧ outcome f before = .loaded ∧
      f ref = .endless := by
  induction ds with
  | nil => cases h
  | cons d r ih =>
    rw [outcome] at h
    cases ended : d.fate f with
    | loaded =>
      rw [ended] at h
      obtain ⟨before, ref, after, split, passed, endless⟩ := ih h
      refine ⟨d :: before, ref, after, congrArg (d :: ·) split, ?_, endless⟩
      rw [outcome, ended, passed]
      rfl
    | refused =>
      rw [ended] at h
      cases h
    | endless =>
      cases d with
      | check right => cases right <;> cases ended
      | fetch ref => exact ⟨[], ref, r, rfl, rfl, ended⟩

section Build
variable (load : String → Except Trouble Case)

/-- How the loads of a document in a directory end. -/
def ends (dir ref : String) : Fate := fate (load (Path.join dir ref))

theorem fate_scriptCase (dir : String) (shares : Bool) (e : ScriptEntry) :
    fate (scriptCase load dir shares e) =
      outcome (ends load dir) ((refs (.script e)).map .fetch) := by
  rw [scriptCase, refs]
  split
  · rfl
  · rw [List.map_singleton, outcome, outcome, Demand.fate, ends, Fate.andThen_loaded]
    split
    next found => rw [found]; rfl
    next found => rw [found]

mutual
theorem fate_entryCase (dir : String) (shares : Bool) : ∀ e,
    fate (entryCase load dir shares e) = outcome (ends load dir) ((refs e).map .fetch)
  | .chain entries _ _ => by
    rw [entryCase, refs, ← fate_chainFrom dir shares entries []]
    split
    next found => rw [found]; rfl
    next found => rw [found]; rfl
  | .script e => by
    rw [entryCase, fate_scriptCase]
theorem fate_chainFrom (dir : String) (shares : Bool) : ∀ es chain,
    fate (chainFrom load dir shares es chain) =
      outcome (ends load dir) ((allRefs es).map .fetch)
  | [], _ => by
    rw [chainFrom, allRefs]
    rfl
  | e :: r, chain => by
    rw [chainFrom, allRefs, List.map_append, outcome_append, ← fate_entryCase dir shares e]
    split
    next c found =>
      rw [found, fate_chainFrom dir shares r]
      rfl
    next t found =>
      rw [found, fate, fate]
      split <;> rfl
end

theorem Prompt.outcome {x : Except Trouble α} (h : Prompt x) (f : String → Fate) :
    outcome f [.check x.isOk] = fate x := by
  rw [Fetching.outcome, Fetching.outcome, Fate.andThen_loaded, h.fate_eq, Demand.fate]

theorem fate_unless {x : Except Trouble α} {b : Bool} {c : Case} {put : α → Case}
    {rest : Case → Except Trouble Case} {f : Fate} (empty : b = true → fate x = .loaded)
    (h : ∀ c, fate (rest c) = f) :
    fate (if b = true then (Except.ok c : Except Trouble Case) >>= rest
      else x >>= fun a => (Except.ok (put a) : Except Trouble Case) >>= rest) =
      (fate x).andThen f := by
  split
  next holds => rw [empty holds]; exact h c
  · exact fate_bind fun a => h (put a)

/-- Loading a document ends as its demands do. -/
theorem fate_build (d : ScriptDocument) (script : Script) :
    fate (build load d script) = outcome (ends load script.dir) (demands d) := by
  unfold build
  -- The parts of a document in the order of their text, each going on with the one named before.
  extract_lets script' dir settle exclude include' attach
  have same : dir = script.dir := by
    unfold dir script'
    split <;> rfl
  have excluded : ∀ c, fate (exclude c) = fate (pointcut d.excluded) := by
    intro c
    rw [← Fate.andThen_loaded (fate (pointcut d.excluded))]
    refine fate_unless (fun missing => ?_) fun c => rfl
    rw [List.isEmpty_iff.1 missing]
    rfl
  have included : ∀ c, fate (include' c) =
      (fate (pointcut d.included)).andThen (fate (pointcut d.excluded)) := by
    intro c
    refine fate_unless (fun missing => ?_) excluded
    rw [List.isEmpty_iff.1 missing]
    rfl
  have attached : ∀ c, fate (attach c) = outcome (ends load dir) (closing d) := by
    intro c
    rw [closing, outcome_append, outcome_append, outcome_append, isOk_interceptors "" dir,
      (prompt_interceptors _ _).outcome, (prompt_pointcut _).outcome, (prompt_pointcut _).outcome,
      ← fate_chainFrom load dir false d.chains []]
    refine fate_bind fun aspect => fate_unless (fun missing => ?_) included
    rw [List.isEmpty_iff.1 missing, chainFrom]
    rfl
  rw [← same, demands, outcome_append, opening]
  split
  · rw [(prompt_steps _).outcome]
    exact fate_bind fun _ => attached _
  · split
    · rw [← fate_chainFrom load dir (d.sharesState.getD true) d.scripts []]
      exact fate_bind fun _ => attached _
    · rfl

end Build

end Scenario.Fetching
