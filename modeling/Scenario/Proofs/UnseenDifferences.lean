import Scenario.Proofs.RelatedRuns

/-!
# Runs that do the same

Steps see neither the chain of their run nor what becomes of its browser, and
nobody sees the entries that are made for the record only. Two runs that differ in this
alone do the same, as long as only their steps are executed.
-/

set_option autoImplicit false

namespace Scenario
open Scenario.Act Scenario.Execution

variable {σ ε α : Type} {stage : Stage σ}

namespace TraceEntry

/-- How far a run has come and who stopped it is noted for the record only. -/
def shown : TraceEntry → Bool
  | .endedStopped => false
  | .stopped _ _ _ => false
  | .turned _ => false
  | .round _ => false
  | .reached _ _ => false
  | _ => true

end TraceEntry

/-- What can be seen of a trace. -/
def shown (l : List TraceEntry) : List TraceEntry := l.filter TraceEntry.shown

theorem shown_cons_congr {l l' : List TraceEntry} (h : shown l' = shown l) (e : TraceEntry) :
    shown (e :: l') = shown (e :: l) := by
  simp only [shown, List.filter_cons] at h ⊢
  rw [h]

/-- The watch goes by what can be seen. -/
def Stage.Sees (stage : Stage σ) : Prop :=
  ∀ watch, stage.watch = some watch →
    ∀ l l', shown l' = shown l → watch.stopsAt l' = watch.stopsAt l

namespace World

inductive Alike (w : World σ) : World σ → Prop
  | intro (l : List TraceEntry) (h : shown l = shown w.trace) : Alike w { w with trace := l }

namespace Alike

theorem refl (w : World σ) : Alike w w := .intro w.trace rfl

theorem trans {w w' w'' : World σ} (h : Alike w w') (h' : Alike w' w'') : Alike w w'' := by
  obtain ⟨l, h⟩ := h
  obtain ⟨l', h'⟩ := h'
  exact .intro l' (h'.trans h)

theorem shown_eq {w w' : World σ} (h : Alike w w') : shown w'.trace = shown w.trace := by
  obtain ⟨l, h⟩ := h
  exact h

theorem signals_eq {w w' : World σ} (h : Alike w w') : w'.signals = w.signals := by
  obtain ⟨l, h⟩ := h
  rfl

theorem record {w w' : World σ} (h : Alike w w') (e : TraceEntry) :
    Alike (w.record e) (w'.record e) := by
  obtain ⟨l, h⟩ := h
  exact .intro (e :: l) (shown_cons_congr h e)

theorem endedStopped {w w' : World σ} (h : Alike w w') : Alike (w.record .endedStopped) w' := by
  obtain ⟨l, h⟩ := h
  exact .intro l h

theorem symm {w w' : World σ} (h : Alike w w') : Alike w' w := by
  obtain ⟨l, h⟩ := h
  exact .intro w.trace h.symm

theorem stop {w w' : World σ} (h : Alike w w') (g : Signal) : Alike (w.stop g) (w'.stop g) := by
  obtain ⟨l, h⟩ := h
  exact .intro l h

theorem emit (sees : stage.Sees)
    {w w' : World σ} (h : Alike w w') (e : Event) : Alike (w.emit stage e) (w'.emit stage e) := by
  have told := h.record (.event e)
  exact emit_kept told (fun watch hw => sees watch hw _ _ told.shown_eq) Alike.stop

theorem newSession {w w' : World σ} (h : Alike w w') :
    w'.newSession.1 = w.newSession.1 ∧ Alike w.newSession.2 w'.newSession.2 := by
  obtain ⟨l, h⟩ := h
  exact ⟨rfl, .intro l h⟩

theorem childSignal {w w' : World σ} (h : Alike w w') (g : Signal) :
    (w'.childSignal g).1 = (w.childSignal g).1 ∧
      Alike (w.childSignal g).2 (w'.childSignal g).2 := by
  obtain ⟨l, h⟩ := h
  exact ⟨rfl, .intro l h⟩

theorem hookCalled {w w' : World σ} (h : Alike w w') (note : Option String) :
    Alike (w.hookCalled note) (w'.hookCalled note) := by
  obtain ⟨l, h⟩ := h
  cases note with
  | none => exact .intro l h
  | some n => exact .intro (.note n :: l) (shown_cons_congr h _)

theorem driver {w w' : World σ} (h : Alike w w') (stage : Stage σ) (k : Session) :
    (w'.driver stage k).1 = (w.driver stage k).1 ∧
      Alike (w.driver stage k).2 (w'.driver stage k).2 := by
  obtain ⟨l, h⟩ := h
  simp only [World.driver, World.driver?]
  cases (w.slots[k.slot]?).bind id with
  | some d => exact ⟨rfl, .intro l h⟩
  | none =>
    have launched := shown_cons_congr h (.launch stage.driverConfig)
    simp only [World.record]
    rcases stage.browsers.launch stage.driverConfig w.browser with ⟨_ | _, b⟩
    · exact ⟨rfl, .intro _ launched⟩
    · exact ⟨rfl, .intro _ launched⟩

theorem perform {w w' : World σ} (h : Alike w w') (stage : Stage σ) (d : Nat) (c : Command) :
    (w'.perform stage d c).1 = (w.perform stage d c).1 ∧
      Alike (w.perform stage d c).2 (w'.perform stage d c).2 := by
  obtain ⟨l, h⟩ := h
  exact ⟨rfl, .intro _ (shown_cons_congr h (.command d c))⟩

theorem elapse {w w' : World σ} (h : Alike w w') (stage : Stage σ) (ms : Nat) :
    Alike (w.elapse stage ms) (w'.elapse stage ms) := by
  obtain ⟨l, h⟩ := h
  exact .intro l h

theorem quit {w w' : World σ} (h : Alike w w') (stage : Stage σ) (k : Session) :
    Alike (w.quit stage k) (w'.quit stage k) := by
  obtain ⟨l, h⟩ := h
  simp only [World.quit, World.driver?]
  cases (w.slots[k.slot]?).bind id with
  | none => exact .intro l h
  | some d => exact .intro _ (shown_cons_congr h (.command d .quit))

end Alike

end World

structure Run.Veil where
  chain : List Case
  nestedChain : Bool
  ownsSession : Bool
  pending : Bool
  finished : Bool
  aborted : Bool

namespace Run

def veil (r : Run) : Veil where
  chain := r.case.chain
  nestedChain := r.case.nestedChain
  ownsSession := r.ownsSession
  pending := r.cursor.pending
  finished := r.cursor.finished
  aborted := r.aborted

def veiled (k : Veil) (r : Run) : Run :=
  { r with
    case := { r.case with chain := k.chain, nestedChain := k.nestedChain }
    ownsSession := k.ownsSession
    cursor := { r.cursor with pending := k.pending, finished := k.finished }
    aborted := k.aborted }

theorem veiled_veil (r : Run) : r.veiled r.veil = r := by
  obtain ⟨_, ⟨⟩, _⟩ := r
  rfl

end Run

inductive Echo : State σ → State σ → Prop
  | intro (r : Run) {w w' : World σ} (h : w.Alike w') : Echo ⟨w, r⟩ ⟨w', r⟩

inductive Alike (k k' : Run.Veil) : State σ → State σ → Prop
  | intro (r : Run) {w w' : World σ} (h : w.Alike w') : Alike k k' ⟨w, r.veiled k⟩ ⟨w', r.veiled k'⟩

theorem alike_iff_echo {j : Run.Veil} {s s' : State σ} :
    Alike j j s s' ↔ Echo s s' ∧ s.run.veil = j := by
  constructor
  · rintro ⟨r, h⟩
    exact ⟨.intro _ h, rfl⟩
  · rintro ⟨⟨r, h⟩, rfl⟩
    have alike : Alike r.veil r.veil ⟨_, r.veiled r.veil⟩ ⟨_, r.veiled r.veil⟩ := .intro r h
    rwa [Run.veiled_veil] at alike

def Discipline.free : Discipline := ⟨fun _ => True, fun _ => True, fun _ _ => trivial⟩

theorem Case.under_free (c : Case) : c.Under .free := by
  refine @Case.rec (fun c => c.Under .free) (fun a => ∀ i ∈ a, ∀ d ∈ i.cases, d.Under .free)
    (fun l => ∀ d ∈ l, d.Under .free)
    (fun x => ∀ f, x = some f → ∀ row d, f row = .ok d → d.Under .free)
    (fun i => ∀ d ∈ i.cases, d.Under .free) (fun x => ∀ d, x = .ok d → d.Under .free)
    (fun x => ∀ d ∈ x.toList, d.Under .free) ?_ ?_ ?_ ?_ ?_ ?_ ?_ ?_ ?_ ?_ ?_ ?_ ?_ c
  · intro _ _ _ _ _ _ _ _ _ _ _ _ _ _ _ _ advice chain read
    exact .intro (fun _ _ => trivial) advice chain (fun _ _ _ _ _ => trivial) read
  · exact List.forall_mem_nil _
  · exact fun _ _ first rest => List.forall_mem_cons.2 ⟨first, rest⟩
  · exact List.forall_mem_nil _
  · exact fun _ _ first rest => List.forall_mem_cons.2 ⟨first, rest⟩
  · rintro _ ⟨⟩
  · rintro _ read _ ⟨⟩ row
    exact read row
  · intro _ _ _ _ _ before after failure
    exact List.forall_mem_append.2 ⟨List.forall_mem_append.2 ⟨before, after⟩, failure⟩
  · exact fun _ _ _ _ _ => List.forall_mem_nil _
  · rintro _ _ ⟨⟩
  · rintro _ under _ ⟨⟩
    exact under
  · exact List.forall_mem_nil _
  · exact fun _ under => List.forall_mem_singleton.2 under

theorem Interceptor.under_free (i : Interceptor Case) : i.Under .free :=
  ⟨trivial, fun c _ => c.under_free⟩

theorem World.kin_alike (sees : stage.Sees) : World.Kin stage .free World.Alike where
  signals h := h.signals_eq
  record e h := h.record e
  emit e h := h.emit sees e
  stop g h := h.stop g
  newSession h := h.newSession
  childSignal g h := h.childSignal g
  hookCalled note h := h.hookCalled note
  answers := by
    rintro w _ p b a f t k h ⟨l, _⟩ _ _ call
    rfl
  driver g h := h.driver stage g
  perform d c h := h.perform stage d c
  elapse ms h := h.elapse stage ms
  quit g h := h.quit stage g

namespace Run
variable {k k' : Veil}

/-- Runs that have everything but `k` and `k'` in common. -/
inductive Veiled (k k' : Veil) : Run → Run → Prop
  | intro (r : Run) : Veiled k k' (r.veiled k) (r.veiled k')

theorem moving_veiled : Moving (Veiled k k') where
  name h := by cases h; rfl
  session h := by cases h; rfl
  signal h := by cases h; rfl
  row h := by cases h; rfl
  index h := by cases h; rfl
  stopped h := by cases h; rfl
  length h := by cases h; rfl
  rowed row h := by
    obtain ⟨r⟩ := h
    exact .intro { r with row }
  halted h := by
    obtain ⟨r⟩ := h
    exact .intro { r with cursor := r.cursor.stop }
  stood i h := by
    obtain ⟨r⟩ := h
    exact .intro { r with cursor := { r.cursor with index := i } }

theorem parents_veiled : Parents .free (Veiled k k') where
  toPaired := moving_veiled.toPaired
  takesOver h := by cases h; rfl
  chainAspect h := by cases h; rfl
  under _ := fun i _ => i.under_free

end Run

namespace Alike
variable {k k' : Run.Veil}

theorem iff_abreast {s s' : State σ} :
    Alike k k' s s' ↔ Abreast World.Alike (Run.Veiled k k') s s' := by
  constructor
  · rintro ⟨r, h⟩
    exact ⟨h, .intro r⟩
  · obtain ⟨w, r⟩ := s
    obtain ⟨w', r'⟩ := s'
    rintro ⟨h, ⟨r⟩⟩
    exact .intro r h

theorem world {s s' : State σ} (h : Alike k k' s s') : s.world.Alike s'.world :=
  (iff_abreast.1 h).world

theorem of_veil {r r' : Run} {w w' : World σ} (h : w.Alike w') (hr : r.veil = k)
    (hr' : r' = r.veiled k') : Alike k k' ⟨w, r⟩ ⟨w', r'⟩ := by
  subst hr
  have alike : Alike r.veil k' ⟨w, r.veiled r.veil⟩ ⟨w', r.veiled k'⟩ := .intro r h
  rwa [Run.veiled_veil, ← hr'] at alike

theorem respects_of_abreast {a : Act σ ε α}
    (h : Respects (Abreast World.Alike (Run.Veiled k k')) a) : Respects (Alike k k') a :=
  fun s s' hs => both_mono (h s s' (iff_abreast.1 hs)) fun _ _ _ _ both =>
    ⟨both.1, iff_abreast.2 both.2⟩

variable (sees : stage.Sees) (depth : Nat)
include sees

theorem respects_steps (left : Nat) (success : Bool) :
    Respects (Alike k k') (steps stage (innerAt stage depth) left success) := by
  have kin := World.kin_alike sees
  have hstage : Aspect.Under .free stage.aspect := fun i _ => i.under_free
  have hin := (Abreast.respects_innerAt kin hstage depth).1
  refine respects_of_abreast (Abreast.respects_steps kin Run.moving_veiled ?_ left success)
  rintro ⟨w, _⟩ ⟨w', _⟩ ⟨_, ⟨r⟩⟩
  exact .inl ⟨rfl, fun _ _ => rfl, fun x _ =>
    Abreast.concerted_self kin hstage hin (fun i _ => i.under_free) x⟩

theorem respects_runChild (index : Nat) (child : Case) (seed : Row) :
    Respects (Alike k k') (runChild stage (innerAt stage depth) index child seed) := by
  have kin := World.kin_alike sees
  have hstage : Aspect.Under .free stage.aspect := fun i _ => i.under_free
  have inner := Abreast.respects_innerAt kin hstage depth
  exact respects_of_abreast (Abreast.respects_runChild kin hstage inner.1 inner.2
    Run.parents_veiled index child.under_free seed)

/-- Two runs with the same chain run it the same way. -/
theorem respects_chain (same : k'.chain = k.chain) :
    Respects (Alike k k') (chain stage (innerAt stage depth)) := by
  have kin := World.kin_alike sees
  have hstage : Aspect.Under .free stage.aspect := fun i _ => i.under_free
  have inner := Abreast.respects_innerAt kin hstage depth
  refine respects_of_abreast (Abreast.respects_chain kin hstage inner.1 inner.2
    Run.parents_veiled ?_ fun _ c _ => c.under_free)
  rintro _ _ ⟨r⟩
  exact same

end Alike

end Scenario
