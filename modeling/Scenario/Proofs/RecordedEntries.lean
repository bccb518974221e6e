import Scenario.Proofs.UniformLaws

/-!
# What is recorded between two states

The trace grows at its head, so what a part of a run recorded is a list that
stands before the trace with which it began. `Along P` says that this list has
a property. Moves and the quitting of browsers record nothing that a listener
or an interceptor takes part in.
-/

set_option autoImplicit false

namespace Scenario
open Scenario.Execution

variable {σ : Type} {stage : Stage σ}

namespace TraceEntry

def event? : TraceEntry → Option Event
  | .event e => some e
  | _ => none

/-- An entry without a part of listeners and interceptors. -/
def silent : TraceEntry → Bool
  | .launch _ => true
  | .command _ _ => true
  | .note _ => true
  | .stopped _ _ _ => true
  | .turned _ => true
  | .round _ => true
  | .reached _ _ => true
  | _ => false

theorem silent_of_progress {e : TraceEntry} (h : e.progress = true) : e.silent = true := by
  cases e with
  | turned _ => rfl
  | round _ => rfl
  | _ => cases h

end TraceEntry

def Silent (l : List TraceEntry) : Prop := ∀ e ∈ l, e.silent = true

def Quits (l : List TraceEntry) : Prop := ∀ e ∈ l, ∃ d, e = .command d .quit

theorem Quits.silent {l : List TraceEntry} (h : Quits l) : Silent l := by
  intro e he
  obtain ⟨d, rfl⟩ := h e he
  rfl

/-- What listeners were told, in the order in which they were. -/
def told (l : List TraceEntry) : List Event := l.reverse.filterMap TraceEntry.event?

/-- A list that is read off a record part by part. What is silent adds nothing to it. -/
structure Excerpt {α : Type} (f : List TraceEntry → List α) : Prop where
  append : ∀ l l', f (l ++ l') = f l' ++ f l
  silent : ∀ {l}, Silent l → f l = []

theorem Excerpt.cons {α : Type} {f : List TraceEntry → List α} (h : Excerpt f) (e : TraceEntry)
    (l : List TraceEntry) : f (e :: l) = f l ++ f [e] := h.append [e] l

theorem excerpt_entries {α : Type} {f : TraceEntry → Option α}
    (hf : ∀ e, e.silent = true → f e = none) : Excerpt fun l => l.reverse.filterMap f where
  append := by
    intro l l'
    rw [List.reverse_append, List.filterMap_append]
  silent := by
    intro l h
    rw [List.filterMap_eq_nil_iff]
    exact fun e he => hf e (h e (List.mem_reverse.1 he))

theorem Excerpt.filterMap {α β : Type} {f : List TraceEntry → List α} (h : Excerpt f)
    (g : α → Option β) : Excerpt fun l => (f l).filterMap g where
  append := by
    intro l l'
    rw [h.append, List.filterMap_append]
  silent := by
    intro l hl
    rw [h.silent hl, List.filterMap_nil]

theorem told_excerpt : Excerpt told := by
  refine excerpt_entries fun e silent => ?_
  cases e with
  | event _ => cases silent
  | _ => rfl

theorem told_append (l l' : List TraceEntry) : told (l ++ l') = told l' ++ told l :=
  told_excerpt.append l l'

theorem told_cons (e : TraceEntry) (l : List TraceEntry) : told (e :: l) = told l ++ told [e] :=
  told_excerpt.cons e l

theorem told_around (e f : Event) (l : List TraceEntry) :
    told (.event f :: (l ++ [.event e])) = e :: (told l ++ [f]) := by
  rw [told_cons, told_append]
  rfl

theorem told_silent {l : List TraceEntry} (h : Silent l) : told l = [] := told_excerpt.silent h

namespace World

def since (w₀ w : World σ) : List TraceEntry := w.trace.take (w.trace.length - w₀.trace.length)

theorem since_eq {w₀ w : World σ} {l : List TraceEntry} (h : w.trace = l ++ w₀.trace) :
    since w₀ w = l := by
  simp [since, h]

theorem emit_trace (w : World σ) (e : Event) :
    (w.emit stage e).trace = .event e :: w.trace := by
  simp only [emit]
  split
  · split <;> rfl
  · rfl

end World

/-- What was recorded from one state to another has a property. -/
def Along (P : List TraceEntry → Prop) (s t : State σ) : Prop :=
  ∃ l, t.world.trace = l ++ s.world.trace ∧ P l

/-- A property of records that holds of parts one after the other, and wherever
neither listeners nor interceptors take part. -/
structure Additive (P : List TraceEntry → Prop) : Prop where
  append : ∀ {l l'}, P l → P l' → P (l' ++ l)
  silent : ∀ {l}, Silent l → P l

theorem silently : Additive Silent where
  append := fun h h' => List.forall_mem_append.2 ⟨h', h⟩
  silent := id

theorem Excerpt.additive {α : Type} {f : List TraceEntry → List α} (h : Excerpt f) :
    Additive fun l => f l = [] where
  append := by
    intro l l' hl hl'
    rw [h.append, hl, hl']
    rfl
  silent := h.silent

section Along
variable {P : List TraceEntry → Prop}

theorem along_since {s t : State σ} (h : Along P s t) : P (World.since s.world t.world) := by
  obtain ⟨l, ht, hl⟩ := h
  rwa [World.since_eq ht]

theorem along_mono {Q : List TraceEntry → Prop} {s t : State σ} (h : Along P s t)
    (hq : ∀ l, P l → Q l) : Along Q s t := by
  obtain ⟨l, ht, hl⟩ := h
  exact ⟨l, ht, hq l hl⟩

theorem along_seq {Q R : List TraceEntry → Prop} {s t u : State σ} (h : Along P s t)
    (h' : Along Q t u) (hr : ∀ l l', P l → Q l' → R (l' ++ l)) : Along R s u := by
  obtain ⟨l, ht, hl⟩ := h
  obtain ⟨l', hu, hl'⟩ := h'
  exact ⟨l' ++ l, by rw [hu, ht, List.append_assoc], hr l l' hl hl'⟩

/-- What is read off two parts one after the other. -/
theorem Excerpt.along {α : Type} {f : List TraceEntry → List α} (excerpt : Excerpt f)
    {xs ys : List α} {s t u : State σ} (h : Along (fun l => f l = xs) s t)
    (h' : Along (fun l => f l = ys) t u) :
    Along (fun l => f l = xs ++ ys) s u := by
  refine along_seq h h' fun l l' hl hl' => ?_
  rw [excerpt.append, hl, hl']

theorem along_record {s : State σ} {e : TraceEntry} (h : P [e]) : Along P s (s.record e) :=
  ⟨[e], rfl, h⟩

theorem along_emit {s : State σ} {e : Event} (h : P [.event e]) : Along P s (s.emit stage e) :=
  ⟨[.event e], World.emit_trace _ _, h⟩

theorem along_around {Q : List TraceEntry → Prop} {s t : State σ} {e f : Event}
    (h : Along P (s.emit stage e) t) (hq : ∀ l, P l → Q (.event f :: (l ++ [.event e]))) :
    Along Q s (t.emit stage f) := by
  obtain ⟨l, ht, hl⟩ := h
  refine ⟨.event f :: (l ++ [.event e]), ?_, hq l hl⟩
  simp only [State.emit, World.emit_trace] at ht ⊢
  rw [ht, List.cons_append, List.append_assoc]
  rfl

theorem rowStart_trace (rows : Rows) (n : Nat) (row : Row) (isLast : Bool) (s : State σ) :
    (rowStart stage rows n row isLast s).world.trace = s.world.trace := by
  simp only [rowStart]
  cases rows.case.sharesState <;> rfl

theorem along_row {s v : State σ} {rows : Rows} {n : Nat} {row : Row} {isLast : Bool}
    (h : Along P (rowStart stage rows n row isLast s) v) : Along P s (s.after v) := by
  obtain ⟨l, hv, hl⟩ := h
  rw [rowStart_trace] at hv
  exact ⟨l, hv, hl⟩

/-- What a move from one state to another may put on record. -/
inductive Records (s t : State σ) : TraceEntry → Prop
  | launch (config : Assoc String) : Records s t (.launch config)
  | command (d : Nat) (c : Command) : Records s t (.command d c)
  | note (n : String) : Records s t (.note n)
  | stopped (k : AdviceKind) (p : Step)
      (past : t.world.signals.isStopped s.run.signal = true) :
      Records s t (.stopped s.run.signal k p)
  | progress {e : TraceEntry} (he : e.progress = true) (running : s.isStopped = false) :
      Records s t e

theorem Records.silent {s t : State σ} {e : TraceEntry} (h : Records s t e) : e.silent = true := by
  cases h with
  | progress he _ => exact TraceEntry.silent_of_progress he
  | _ => rfl

theorem isStopped_stop_self (w : World σ) (g : Signal) :
    (w.stop g).signals.isStopped g = true := by
  show (w.signals.stop g).isStopped g = true
  rw [Signals.isStopped_stop]
  simp

theorem records_move {s t : State σ} (h : Move stage s t) :
    t.world.trace = s.world.trace ∨ ∃ e, t.world.trace = e :: s.world.trace ∧ Records s t e := by
  cases h with
  | row _ _ => exact .inl rfl
  | stand _ => exact .inl rfl
  | notice _ => exact .inl rfl
  | stop k p => exact .inr ⟨_, rfl, .stopped k p (isStopped_stop_self s.world s.run.signal)⟩
  | progress e he running => exact .inr ⟨e, rfl, .progress he running⟩
  | hookCall note =>
    cases note with
    | none => exact .inl rfl
    | some n => exact .inr ⟨_, rfl, .note n⟩
  | elapse _ => exact .inl rfl
  | driver =>
    simp only [World.driver]
    split
    · exact .inl rfl
    · split
      · exact .inr ⟨_, rfl, .launch stage.driverConfig⟩
      · exact .inr ⟨_, rfl, .launch stage.driverConfig⟩
  | perform d c _ _ => exact .inr ⟨_, rfl, .command d c⟩

section Quits

theorem quits_same {s t : State σ} (h : t.world.trace = s.world.trace) : Along Quits s t :=
  ⟨[], h, by simp [Quits]⟩

theorem quits_quit (s : State σ) (k : Session) : Along Quits s (s.quit stage k) := by
  simp only [State.quit, World.quit]
  split
  · rename_i d _
    exact ⟨[.command d .quit], rfl, by simp [Quits]⟩
  · exact quits_same rfl

theorem quits_released (s : State σ) : Along Quits s (s.released stage) := by
  by_cases ho : s.run.ownsSession = true
  · obtain ⟨l, hl, hq⟩ : Along Quits s (s.quit stage s.run.session) := quits_quit s _
    refine ⟨l, ?_, hq⟩
    rw [← hl]
    exact congrArg World.trace (if_pos ho)
  · exact quits_same (congrArg World.trace (if_neg ho))

theorem quits_givenBack (c : Case) (last : Run) (s : State σ) :
    Along Quits s (givenBack stage c last s) := by
  rw [givenBack]
  split
  · exact quits_same rfl
  · exact quits_quit s _

theorem quits_rowDropped (c : Case) (s v : State σ) :
    Along Quits (s.after v) (rowRaised stage c s v) := by
  rw [rowRaised]
  split
  · exact quits_quit _ _
  · exact quits_same rfl

end Quits

variable (add : Additive P)
include add

theorem along_same {s t : State σ} (h : t.world.trace = s.world.trace) : Along P s t :=
  ⟨[], h, add.silent (by simp [Silent])⟩

theorem along_trans {s t u : State σ} (h : Along P s t) (h' : Along P t u) : Along P s u :=
  along_seq h h' fun _ _ => add.append

theorem along_quits {s t : State σ} (h : Along Quits s t) : Along P s t :=
  along_mono h fun _ quits => add.silent quits.silent

theorem along_move {s t : State σ} (h : Move stage s t) : Along P s t := by
  rcases records_move h with same | ⟨e, one, recorded⟩
  · exact along_same add same
  · exact ⟨[e], one, add.silent (by simpa [Silent] using recorded.silent)⟩

theorem along_reached (s : State σ) (i : Nat) (passed : Bool) :
    Along P s (s.record (.reached i passed)) :=
  ⟨[.reached i passed], rfl, add.silent (by simp [Silent, TraceEntry.silent])⟩

theorem along_released (s : State σ) : Along P s (s.released stage) :=
  along_quits add (quits_released s)

theorem along_ended (hp : P [.endedStopped]) (s : State σ) : Along P s (s.ended stage) := by
  have released : Along P s (s.released stage) := along_released add s
  rw [State.ended]
  split
  · exact along_trans add released (along_record hp)
  · exact released

theorem along_givenBack (c : Case) (last : Run) (s : State σ) :
    Along P s (givenBack stage c last s) :=
  along_quits add (quits_givenBack c last s)

theorem along_rowDropped (c : Case) (s v : State σ) :
    Along P (s.after v) (rowRaised stage c s v) :=
  along_quits add (quits_rowDropped c s v)

theorem along_rowRaised {s v : State σ} {rows : Rows} {n : Nat} {row : Row} {isLast : Bool}
    (h : Along P (rowStart stage rows n row isLast s) v) :
    Along P s (rowRaised stage rows.case s v) :=
  along_trans add (along_row h) (along_rowDropped add _ _ _)

end Along

end Scenario
