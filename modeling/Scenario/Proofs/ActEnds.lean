import Scenario.Run

/-!
# How acts end

`Ends a s Q` says that `Q` holds of the outcome of `a` begun in `s` and of the
state that it leaves. The rules below take an act apart at its first step; the
ends of a longer act are found by applying them from the front.
-/

set_option autoImplicit false

namespace Scenario.Act
variable {σ ε δ α β : Type}

def exec (a : Act σ ε α) (s : State σ) : Except ε α × State σ := StateT.run (ExceptT.run a) s

def Ends (a : Act σ ε α) (s : State σ) (Q : Except ε α → State σ → Prop) : Prop :=
  Q (a.exec s).1 (a.exec s).2

theorem exec_eq_iff {a : Act σ ε α} {s t : State σ} {r : Except ε α} :
    a.exec s = (r, t) ↔ Ends a s fun r' t' => r' = r ∧ t' = t := Prod.ext_iff

theorem exec_bind (a : Act σ ε α) (f : α → Act σ ε β) (s : State σ) :
    (a >>= f).exec s = match a.exec s with
      | (.ok x, t) => (f x).exec t
      | (.error e, t) => (.error e, t) := by
  simp only [exec, bind, ExceptT.run, ExceptT.bind, ExceptT.mk, StateT.run, StateT.bind]
  rcases a s with ⟨_ | _, t⟩ <;> rfl

theorem exec_eq_of_ends {a a' : Act σ ε α} {s s' : State σ}
    (h : ∀ Q, Ends a s Q ↔ Ends a' s' Q) : a.exec s = a'.exec s' :=
  exec_eq_iff.2 ((h _).2 ⟨rfl, rfl⟩)

theorem ends_congr {a a' : Act σ ε α} {s s' : State σ} (h : a.exec s = a'.exec s')
    (Q : Except ε α → State σ → Prop) : Ends a s Q ↔ Ends a' s' Q := by rw [Ends, Ends, h]

section Rules
variable (s : State σ)

theorem ends_mono {a : Act σ ε α} {s : State σ} {P Q : Except ε α → State σ → Prop}
    (h : Ends a s P) (hpq : ∀ r t, P r t → Q r t) : Ends a s Q := hpq _ _ h

theorem ends_and {a : Act σ ε α} {s : State σ} {P Q : Except ε α → State σ → Prop}
    (h : Ends a s P) (h' : Ends a s Q) : Ends a s fun r t => P r t ∧ Q r t := ⟨h, h'⟩

theorem ends_pure (x : α) (Q : Except ε α → State σ → Prop) :
    Ends (pure x : Act σ ε α) s Q ↔ Q (.ok x) s := Iff.rfl

theorem ends_bind (a : Act σ ε α) (f : α → Act σ ε β) (Q : Except ε β → State σ → Prop) :
    Ends (a >>= f) s Q ↔ Ends a s fun r t =>
      match r with
      | .ok x => Ends (f x) t Q
      | .error e => Q (.error e) t := by
  simp only [Ends, exec_bind]
  rcases a.exec s with ⟨_ | _, t⟩ <;> rfl

theorem ends_seq {a : Act σ ε α} {f : α → Act σ ε β} {s : State σ}
    {P : Except ε α → State σ → Prop} {Q : Except ε β → State σ → Prop} (ha : Ends a s P)
    (hok : ∀ x t, P (.ok x) t → Ends (f x) t Q)
    (herr : ∀ e t, P (.error e) t → Q (.error e) t) : Ends (a >>= f) s Q := by
  rw [ends_bind]
  refine ends_mono ha fun r t h => ?_
  cases r with
  | ok x => exact hok x t h
  | error e => exact herr e t h

theorem ends_get (Q : Except ε (State σ) → State σ → Prop) :
    Ends (get : Act σ ε (State σ)) s Q ↔ Q (.ok s) s := Iff.rfl

theorem ends_getRun (Q : Except ε Run → State σ → Prop) :
    Ends (getRun : Act σ ε Run) s Q ↔ Q (.ok s.run) s := Iff.rfl

theorem ends_modifyRun (f : Run → Run) (Q : Except ε Unit → State σ → Prop) :
    Ends (modifyRun f : Act σ ε Unit) s Q ↔ Q (.ok ()) { s with run := f s.run } := Iff.rfl

theorem ends_modifyWorld (f : World σ → World σ) (Q : Except ε Unit → State σ → Prop) :
    Ends (modifyWorld f : Act σ ε Unit) s Q ↔ Q (.ok ()) { s with world := f s.world } := Iff.rfl

theorem ends_onWorld (f : World σ → α × World σ) (Q : Except ε α → State σ → Prop) :
    Ends (onWorld f : Act σ ε α) s Q ↔
      Q (.ok (f s.world).1) { s with world := (f s.world).2 } := Iff.rfl

theorem ends_isStopped (Q : Except ε Bool → State σ → Prop) :
    Ends (isStopped : Act σ ε Bool) s Q ↔
      Q (.ok (s.run.cursor.stopped || s.world.signals.isStopped s.run.signal)) s := Iff.rfl

theorem ends_outcome (a : Act σ ε α) (Q : Except δ (Except ε α) → State σ → Prop) :
    Ends (outcome a : Act σ δ (Except ε α)) s Q ↔ Ends a s fun r t => Q (.ok r) t := Iff.rfl

theorem ends_conclude (r : Except ε α) (Q : Except ε α → State σ → Prop) :
    Ends (conclude r : Act σ ε α) s Q ↔ Q r s := Iff.rfl

theorem ends_inside (r : Run) (a : Act σ ε α)
    (Q : Except δ (Except ε α × Run) → State σ → Prop) :
    Ends (inside r a : Act σ δ (Except ε α × Run)) s Q ↔
      Ends a { s with run := r } fun x t => Q (.ok (x, t.run)) { s with world := t.world } :=
  Iff.rfl

theorem ends_swap {ε' β' : Type} (a : Act σ ε α) (b : Act σ ε' β') (s' : State σ)
    (Q : Except ε α → State σ → Except ε' β' → State σ → Prop) :
    (Ends a s fun r t => Ends b s' fun r' t' => Q r t r' t') ↔
      Ends b s' fun r' t' => Ends a s fun r t => Q r t r' t' :=
  Iff.rfl

end Rules

section Both
variable {ε' α' β' : Type}

def resume (f : α → Act σ ε β) : Except ε α → Act σ ε β
  | .ok x => f x
  | .error e => conclude (.error e)

theorem ends_resume (a : Act σ ε α) (f : α → Act σ ε β) (s : State σ)
    (Q : Except ε β → State σ → Prop) :
    Ends (a >>= f) s Q ↔ Ends a s fun r t => Ends (resume f r) t Q := by
  rw [ends_bind]
  refine iff_of_eq (congrArg (Ends a s) (funext fun r => funext fun t => ?_))
  cases r <;> rfl

def Both (a : Act σ ε α) (a' : Act σ ε' α') (s s' : State σ)
    (Q : Except ε α → State σ → Except ε' α' → State σ → Prop) : Prop :=
  Ends a s fun r t => Ends a' s' fun r' t' => Q r t r' t'

variable {a : Act σ ε α} {a' : Act σ ε' α'} {s s' : State σ}
  {P Q : Except ε α → State σ → Except ε' α' → State σ → Prop}

theorem both_mono (h : Both a a' s s' P) (hpq : ∀ r t r' t', P r t r' t' → Q r t r' t') :
    Both a a' s s' Q := hpq _ _ _ _ h

theorem both_left {A : Except ε α → State σ → Prop} (h : Both a a' s s' P) (ha : Ends a s A) :
    Both a a' s s' fun r t r' t' => P r t r' t' ∧ A r t := ⟨h, ha⟩

theorem both_right {A : Except ε' α' → State σ → Prop} (h : Both a a' s s' P)
    (ha : Ends a' s' A) : Both a a' s s' fun r t r' t' => P r t r' t' ∧ A r' t' := ⟨h, ha⟩

theorem both_bind {f : α → Act σ ε β} {f' : α' → Act σ ε' β'}
    {R : Except ε β → State σ → Except ε' β' → State σ → Prop} (h : Both a a' s s' P)
    (next : ∀ r t r' t', P r t r' t' → Both (resume f r) (resume f' r') t t' R) :
    Both (a >>= f) (a' >>= f') s s' R := by
  simp only [Both, ends_resume]
  exact next _ _ _ _ h

theorem both_congr {c : Act σ ε α} {c' : Act σ ε' α'} {t t' : State σ} (h : a.exec s = c.exec t)
    (h' : a'.exec s' = c'.exec t') (Q : Except ε α → State σ → Except ε' α' → State σ → Prop) :
    Both a a' s s' Q ↔ Both c c' t t' Q := by
  simp only [Both, ends_congr h, ends_congr h']

theorem both_getRun {f : Run → Act σ ε α} {f' : Run → Act σ ε' α'}
    (h : Both (f s.run) (f' s'.run) s s' Q) : Both (getRun >>= f) (getRun >>= f') s s' Q := h

theorem both_get {f : State σ → Act σ ε α} {f' : State σ → Act σ ε' α'}
    (h : Both (f s) (f' s') s s' Q) : Both (get >>= f) (get >>= f') s s' Q := h

theorem both_modifyWorld {g g' : World σ → World σ} {f : Unit → Act σ ε α}
    {f' : Unit → Act σ ε' α'}
    (h : Both (f ()) (f' ()) { s with world := g s.world } { s' with world := g' s'.world } Q) :
    Both (modifyWorld g >>= f) (modifyWorld g' >>= f') s s' Q := h

end Both

section Leads
variable {R R' R'' : State σ → State σ → Prop}

/-- Two acts that answer alike where they begin in related states, and leave states that
are related in turn. -/
def Leads (R R' : State σ → State σ → Prop) (a a' : Act σ ε α) : Prop :=
  ∀ s s', R s s' → Both a a' s s' fun r t r' t' => r' = r ∧ R' t t'

theorem leads_conclude (r : Except ε α) : Leads R R (conclude r : Act σ ε α) (conclude r) :=
  fun _ _ h => ⟨rfl, h⟩

theorem leads_pure (x : α) : Leads R R (pure x : Act σ ε α) (pure x) := leads_conclude (.ok x)

theorem leads_throw (e : ε) : Leads R R (throw e : Act σ ε α) (throw e) :=
  leads_conclude (.error e)

/-- The rule for two acts in a row, where the states between them are related more closely. -/
theorem leads_seq {a a' : Act σ ε α} {f f' : α → Act σ ε β} (ha : Leads R R' a a')
    (hf : ∀ x, Leads R' R'' (f x) (f' x)) (looser : ∀ {s s'}, R' s s' → R'' s s') :
    Leads R R'' (a >>= f) (a' >>= f') := by
  intro s s' hs
  refine both_bind (ha s s' hs) ?_
  rintro r t r' t' ⟨rfl, related⟩
  cases r' with
  | ok x => exact hf x t t' related
  | error e => exact ⟨rfl, looser related⟩

theorem leads_bind {a a' : Act σ ε α} {f f' : α → Act σ ε β} (ha : Leads R R' a a')
    (hf : ∀ x, Leads R' R' (f x) (f' x)) : Leads R R' (a >>= f) (a' >>= f') :=
  leads_seq ha hf id

theorem leads_outcome {a a' : Act σ ε α} (ha : Leads R R' a a') :
    Leads R R' (outcome a : Act σ δ (Except ε α)) (outcome a') := by
  intro s s' hs
  obtain ⟨same, related⟩ := ha s s' hs
  exact ⟨congrArg Except.ok same, related⟩

def Respects (R : State σ → State σ → Prop) (a : Act σ ε α) : Prop := Leads R R a a

theorem respects_conclude (r : Except ε α) : Respects R (conclude r : Act σ ε α) :=
  leads_conclude r

theorem respects_pure (x : α) : Respects R (pure x : Act σ ε α) := leads_pure x

theorem respects_throw (e : ε) : Respects R (throw e : Act σ ε α) := leads_throw e

theorem respects_bind {a : Act σ ε α} {f : α → Act σ ε β} (ha : Respects R a)
    (hf : ∀ x, Respects R (f x)) : Respects R (a >>= f) := leads_bind ha hf

theorem respects_outcome {a : Act σ ε α} (ha : Respects R a) :
    Respects R (outcome a : Act σ δ (Except ε α)) := leads_outcome ha

def Yields (A : α → Prop) (R R' : State σ → State σ → Prop) (a a' : Act σ ε α) : Prop :=
  ∀ s s', R s s' → Both a a' s s' fun r t r' t' => r' = r ∧ R' t t' ∧ ∀ x, r = .ok x → A x

theorem Leads.yields {a a' : Act σ ε α} (h : Leads R R' a a') : Yields (fun _ => True) R R' a a' :=
  fun s s' hs => both_mono (h s s' hs) fun _ _ _ _ both => ⟨both.1, both.2, fun _ _ => trivial⟩

theorem Yields.leads {A : α → Prop} {a a' : Act σ ε α} (h : Yields A R R' a a') :
    Leads R R' a a' :=
  fun s s' hs => both_mono (h s s' hs) fun _ _ _ _ both => ⟨both.1, both.2.1⟩

theorem yields_conclude {A : α → Prop} {r : Except ε α} (known : ∀ x, r = .ok x → A x) :
    Yields A R R (conclude r : Act σ ε α) (conclude r) :=
  fun _ _ h => ⟨rfl, h, known⟩

theorem yields_pure {A : α → Prop} {x : α} (known : A x) :
    Yields A R R (pure x : Act σ ε α) (pure x) := by
  refine yields_conclude ?_
  rintro _ ⟨⟩
  exact known

theorem yields_throw {A : α → Prop} (e : ε) : Yields A R R (throw e : Act σ ε α) (throw e) :=
  yields_conclude (by rintro _ ⟨⟩)

theorem yields_bind {A : α → Prop} {B : β → Prop} {a a' : Act σ ε α} {f f' : α → Act σ ε β}
    (ha : Yields A R R' a a') (hf : ∀ x, A x → Yields B R' R' (f x) (f' x)) :
    Yields B R R' (a >>= f) (a' >>= f') := by
  intro s s' hs
  refine both_bind (ha s s' hs) ?_
  rintro r t r' t' ⟨rfl, related, known⟩
  cases r' with
  | ok x => exact hf x (known x rfl) t t' related
  | error e => exact yields_throw e t t' related

theorem yields_outcome {A : α → Prop} {a a' : Act σ ε α} (ha : Yields A R R' a a') :
    Yields (fun r => ∀ x, r = .ok x → A x) R R' (outcome a : Act σ δ (Except ε α))
      (outcome a') := by
  intro s s' hs
  obtain ⟨same, related, known⟩ := ha s s' hs
  refine ⟨congrArg Except.ok same, related, ?_⟩
  rintro _ ⟨⟩
  exact known

end Leads

section Follows
variable {R : State σ → State σ → Prop} {V : α → α → Prop} {W : β → β → Prop}

/-- Where the second act answers the first one does, and what they leave is related. -/
def Follows (V : α → α → Prop) (R : State σ → State σ → Prop) (a a' : Act σ ε α) : Prop :=
  ∀ s s', R s s' → Both a a' s s' fun r t r' t' =>
    ∀ x', r' = .ok x' → ∃ x, r = .ok x ∧ V x x' ∧ R t t'

theorem Leads.follows {a a' : Act σ ε α} (h : Leads R R a a') : Follows Eq R a a' := by
  intro s s' hs
  obtain ⟨same, related⟩ := h s s' hs
  exact fun x' answer => ⟨x', same.symm.trans answer, rfl, related⟩

theorem follows_pure {x x' : α} (h : V x x') : Follows V R (pure x : Act σ ε α) (pure x') := by
  rintro s s' hs _ ⟨⟩
  exact ⟨x, rfl, h, hs⟩

theorem follows_throw (a : Act σ ε α) (e : ε) : Follows V R a (throw e) := by
  rintro s s' - _ ⟨⟩

theorem follows_bind {a a' : Act σ ε α} {f f' : α → Act σ ε β} (ha : Follows V R a a')
    (hf : ∀ x x', V x x' → Follows W R (f x) (f' x')) : Follows W R (a >>= f) (a' >>= f') := by
  intro s s' hs
  refine both_bind (ha s s' hs) ?_
  intro r t r' t' known
  cases r' with
  | error e =>
    rintro _ ⟨⟩
  | ok x' =>
    obtain ⟨x, rfl, v, related⟩ := known x' rfl
    exact hf x x' v t t' related

theorem follows_outcome {a a' : Act σ ε α} {f f' : Except ε α → Act σ δ β} (ha : Follows V R a a')
    (fatal : ∀ e t, Ends (f' (.error e)) t fun r _ => ∀ y, r ≠ .ok y)
    (hf : ∀ x x', V x x' → Follows W R (f (.ok x)) (f' (.ok x'))) :
    Follows W R (outcome a >>= f) (outcome a' >>= f') := by
  intro s s' hs
  have both : Both (outcome a : Act σ δ _) (outcome a' : Act σ δ _) s s' fun r t r' t' =>
      ∃ q q', r = .ok q ∧ r' = .ok q' ∧
        ∀ x', q' = .ok x' → ∃ x, q = .ok x ∧ V x x' ∧ R t t' := ⟨_, _, rfl, rfl, ha s s' hs⟩
  refine both_bind both ?_
  rintro _ t _ t' ⟨q, q', rfl, rfl, known⟩
  cases q' with
  | error e => exact fun y answer => absurd answer (fatal e t' y)
  | ok x' =>
    obtain ⟨x, rfl, v, related⟩ := known x' rfl
    exact hf x x' v t t' related

end Follows

end Scenario.Act
