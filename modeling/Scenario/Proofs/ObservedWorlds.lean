import Scenario.Proofs.RelatedWorlds

/-!
# Worlds that seem the same

Of a record only some entries may be seen, and of the calls of hooks not their number.
Worlds that seem the same are of a kind for hooks that do not count and for a watch
that goes by what is seen.
-/

set_option autoImplicit false

namespace Scenario
open Scenario.Execution

variable {σ : Type} {stage : Stage σ} {seen : TraceEntry → Bool}

def Stage.Heeds (stage : Stage σ) (seen : TraceEntry → Bool) : Prop :=
  ∀ watch, stage.watch = some watch →
    ∀ l l', l'.filter seen = l.filter seen → watch.stopsAt l' = watch.stopsAt l

/-- The watch goes by what is seen, and what is not seen does not make it stop anything. -/
structure Stage.Overlooks (stage : Stage σ) (seen : TraceEntry → Bool) : Prop where
  heeds : stage.Heeds seen
  unmoved : ∀ watch, stage.watch = some watch →
    ∀ e l, seen e = false → watch.stopsAt (e :: l) = false

def Hook.Unaware (h : Hook) : Prop :=
  ∀ (call : HookCall) (n : Nat), h { call with earlier := n } = h call

def Interceptor.hook {C : Type} (k : AdviceKind) : Interceptor C → Option Hook
  | .script _ _ _ _ _ => none
  | .hooks _ before after failure _ => pick k before after failure

def Discipline.unaware : Discipline where
  able i := ∀ k h, i.hook k = some h → h.Unaware
  refuses _ := True
  freeze row able := by
    rename_i i
    cases i with
    | script => rintro _ _ ⟨⟩
    | hooks => exact able

namespace World

/-- Worlds with the same history, as far as it is seen. -/
inductive Seems (seen : TraceEntry → Bool) (w : World σ) : World σ → Prop
  | intro (l : List TraceEntry) (n : Nat) (h : l.filter seen = w.trace.filter seen) :
      Seems seen w { w with trace := l, hookCalls := n }

namespace Seems
variable {w w' w'' : World σ}

theorem refl (w : World σ) : Seems seen w w := .intro w.trace w.hookCalls rfl

theorem symm (h : Seems seen w w') : Seems seen w' w := by
  obtain ⟨l, n, h⟩ := h
  exact .intro w.trace w.hookCalls h.symm

theorem trans (h : Seems seen w w') (h' : Seems seen w' w'') : Seems seen w w'' := by
  obtain ⟨l, n, h⟩ := h
  obtain ⟨l', n', h'⟩ := h'
  exact .intro l' n' (h'.trans h)

theorem trace_eq (h : Seems seen w w') : w'.trace.filter seen = w.trace.filter seen := by
  obtain ⟨l, n, h⟩ := h
  exact h

theorem unseen (h : Seems seen w w') {e : TraceEntry} (he : seen e = false) :
    Seems seen w (w'.record e) := by
  obtain ⟨l, n, h⟩ := h
  exact .intro (e :: l) n (by rwa [List.filter_cons_of_neg (by simp [he])])

theorem uncounted (h : Seems seen w w') (notes : ∀ s, seen (.note s) = false)
    (note : Option String) : Seems seen w (w'.hookCalled note) := by
  obtain ⟨l, n, h⟩ := h
  cases note with
  | none => exact .intro l (n + 1) h
  | some s =>
    exact .intro (.note s :: l) (n + 1) (by rwa [List.filter_cons_of_neg (by simp [notes s])])

theorem record (h : Seems seen w w') (e : TraceEntry) : Seems seen (w.record e) (w'.record e) := by
  obtain ⟨l, n, h⟩ := h
  exact .intro (e :: l) n (by simp only [World.record, List.filter_cons, h])

theorem stop (h : Seems seen w w') (g : Signal) : Seems seen (w.stop g) (w'.stop g) := by
  obtain ⟨l, n, h⟩ := h
  exact .intro l n h

theorem emit (heeds : stage.Heeds seen) (h : Seems seen w w') (e : Event) :
    Seems seen (w.emit stage e) (w'.emit stage e) := by
  have told := h.record (.event e)
  exact emit_kept told (fun watch hw => heeds watch hw _ _ told.trace_eq) Seems.stop

theorem emit_unseen (overlooks : stage.Overlooks seen) (h : Seems seen w w') {e : Event}
    (he : seen (.event e) = false) : Seems seen w (w'.emit stage e) := by
  have told := h.unseen he
  simp only [World.emit]
  cases hw : stage.watch with
  | none => exact told
  | some watch =>
    dsimp only
    rw [show (w'.record (.event e)).trace = .event e :: w'.trace from rfl,
      overlooks.unmoved watch hw _ _ he, if_neg Bool.false_ne_true]
    exact told

theorem driver (h : Seems seen w w') (g : Session) :
    (w'.driver stage g).1 = (w.driver stage g).1 ∧
      Seems seen (w.driver stage g).2 (w'.driver stage g).2 := by
  obtain ⟨l, n, h⟩ := h
  have launched := (Seems.intro l n h).record (.launch stage.driverConfig)
  simp only [World.driver, World.driver?]
  cases (w.slots[g.slot]?).bind id with
  | some d => exact ⟨rfl, .intro l n h⟩
  | none =>
    simp only [World.record] at launched ⊢
    rcases stage.browsers.launch stage.driverConfig w.browser with ⟨_ | _, b⟩
    · exact ⟨rfl, .intro _ n launched.trace_eq⟩
    · exact ⟨rfl, .intro _ n launched.trace_eq⟩

theorem perform (h : Seems seen w w') (d : Nat) (c : Command) :
    (w'.perform stage d c).1 = (w.perform stage d c).1 ∧
      Seems seen (w.perform stage d c).2 (w'.perform stage d c).2 := by
  obtain ⟨l, n, h⟩ := h
  have told := (Seems.intro l n h).record (.command d c)
  exact ⟨rfl, .intro _ n told.trace_eq⟩

theorem quit (h : Seems seen w w') (g : Session) :
    Seems seen (w.quit stage g) (w'.quit stage g) := by
  obtain ⟨l, n, h⟩ := h
  simp only [World.quit, World.driver?]
  cases (w.slots[g.slot]?).bind id with
  | none => exact .intro l n h
  | some d =>
    exact ((Seems.intro (w := { w with slots := w.slots.set g.slot none }) l n h).perform d .quit).2

end Seems

theorem kin_seems (heeds : stage.Heeds seen) : Kin stage .unaware (Seems seen) where
  signals := by
    rintro w _ ⟨l, n, _⟩
    rfl
  record e h := h.record e
  emit e h := h.emit heeds e
  stop g h := h.stop g
  newSession := by
    rintro w _ ⟨l, n, h⟩
    exact ⟨rfl, .intro l n h⟩
  childSignal := by
    rintro w _ g ⟨l, n, h⟩
    exact ⟨rfl, .intro l n h⟩
  hookCalled := by
    rintro w _ note ⟨l, n, h⟩
    cases note with
    | none => exact .intro l (n + 1) h
    | some s => exact .intro _ (n + 1) ((Seems.intro l n h).record (.note s)).trace_eq
  answers := by
    intro w w' p b a f t k h _ able part call
    have unaware := able k h part
    exact (unaware call _).trans (unaware call _).symm
  driver g h := h.driver g
  perform d c h := h.perform d c
  elapse := by
    rintro w _ ms ⟨l, n, h⟩
    exact .intro l n h
  quit g h := h.quit g

end World

end Scenario
