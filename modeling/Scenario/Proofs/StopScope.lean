import Scenario.Proofs.RunFrame

/-!
# Who stops whom

A run stops itself through its own hooks, and the watch stops the signal that
it was set on. A chain stops neither the run that it belongs to nor a run above
it, unless the watch does.
-/

set_option autoImplicit false

namespace Scenario
open Scenario.Execution

variable {σ : Type} {stage : Stage σ}

namespace Stops
open Scenario.Frame

def Watched (stage : Stage σ) (m : Nat) : Prop :=
  ∃ watch, stage.watch = some watch ∧ m = watch.signal.mark

/-- Of the marks that were given out only some were stopped since. -/
structure Only (P : Nat → Prop) (w w' : World σ) : Prop where
  next : w.signals.next ≤ w'.signals.next
  marks : ∀ m ∈ w'.signals.stopped, m < w.signals.next → m ∈ w.signals.stopped ∨ P m

section Only
variable {P Q : Nat → Prop} {w w' w'' : World σ}

theorem Only.same (h : w'.signals = w.signals) : Only P w w' := by
  refine ⟨Nat.le_of_eq (by rw [h]), fun m hm _ => .inl ?_⟩
  rwa [h] at hm

theorem Only.trans (h : Only P w w') (h' : Only P w' w'') : Only P w w'' := by
  refine ⟨Nat.le_trans h.next h'.next, fun m hm old => ?_⟩
  rcases h'.marks m hm (Nat.lt_of_lt_of_le old h.next) with hm | hp
  · exact h.marks m hm old
  · exact .inr hp

theorem Only.mono (h : Only P w w') (hq : ∀ m, P m → m < w.signals.next → Q m) : Only Q w w' :=
  ⟨h.next, fun m hm old => (h.marks m hm old).imp_right fun hp => hq m hp old⟩

theorem Only.known (h : Only P w w') (made : ∀ m, Q m → m < w.signals.next) :
    ∀ m, Q m → m < w'.signals.next :=
  fun m hm => Nat.lt_of_lt_of_le (made m hm) h.next

theorem only_stop {g : Signal} (hg : P g.mark) : Only P w (w.stop g) := by
  refine ⟨Nat.le_refl _, fun m hm _ => ?_⟩
  rcases List.mem_cons.1 hm with rfl | hm
  · exact .inr hg
  · exact .inl hm

theorem only_emit (hw : ∀ m, Watched stage m → P m) (e : Event) : Only P w (w.emit stage e) := by
  simp only [World.emit]
  split
  · rename_i watch h
    split
    · have told : Only P w (w.record (.event e)) := .same rfl
      exact told.trans (only_stop (hw _ ⟨watch, h, rfl⟩))
    · exact .same rfl
  · exact .same rfl

theorem only_driver (k : Session) : Only P w (w.driver stage k).2 := by
  simp only [World.driver]
  split
  · exact .same rfl
  · split
    · exact .same rfl
    · exact .same rfl

theorem only_hookCalled (note : Option String) : Only P w (w.hookCalled note) := by
  cases note with
  | none => exact .same rfl
  | some n => exact .same rfl

end Only

/-- Neither the run was stopped nor one that began before, unless by the watch. -/
structure Spares (stage : Stage σ) (s t : State σ) : Prop where
  signal : t.run.signal = s.run.signal
  only : Only (Watched stage) s.world t.world

/-- No run that began before was stopped, unless it was this one or by the watch. -/
structure Halts (stage : Stage σ) (s t : State σ) : Prop where
  signal : t.run.signal = s.run.signal
  only : Only (fun m => m = s.run.signal.mark ∨ Watched stage m) s.world t.world

section Parts
variable {s t u v : State σ}

theorem spares_same (hr : t.run.signal = s.run.signal) (hw : t.world.signals = s.world.signals) :
    Spares stage s t :=
  ⟨hr, .same hw⟩

theorem Spares.trans (h : Spares stage s t) (h' : Spares stage t u) : Spares stage s u :=
  ⟨h'.signal.trans h.signal, h.only.trans h'.only⟩

theorem Spares.halts (h : Spares stage s t) : Halts stage s t :=
  ⟨h.signal, h.only.mono fun _ hm _ => .inr hm⟩

theorem halts_same (hr : t.run.signal = s.run.signal) (hw : t.world.signals = s.world.signals) :
    Halts stage s t :=
  ⟨hr, .same hw⟩

theorem Halts.trans (h : Halts stage s t) (h' : Halts stage t u) : Halts stage s u := by
  refine ⟨h'.signal.trans h.signal, h.only.trans (h'.only.mono fun m hm _ => ?_)⟩
  rwa [h.signal] at hm

theorem spares_emit (s : State σ) (e : Event) : Spares stage s (s.emit stage e) :=
  ⟨rfl, only_emit (fun _ => id) e⟩

theorem spares_quit (s : State σ) (k : Session) : Spares stage s (s.quit stage k) :=
  spares_same rfl (World.quit_signals stage s.world k)

theorem spares_around {e f : Event} (h : Spares stage (s.emit stage e) t) :
    Spares stage s (t.emit stage f) :=
  ((spares_emit s e).trans h).trans (spares_emit t f)

theorem halts_around {e f : Event} (h : Halts stage (s.emit stage e) t) :
    Halts stage s (t.emit stage f) :=
  ((spares_emit s e).halts.trans h).trans (spares_emit t f).halts

theorem spares_released (s : State σ) : Spares stage s (s.released stage) :=
  spares_same rfl (State.released_signals stage s)

theorem spares_ended (s : State σ) : Spares stage s (s.ended stage) := by
  have released : Spares stage s (s.released stage) := spares_released s
  rw [State.ended]
  split
  · exact released.trans (spares_same rfl rfl)
  · exact released

theorem spares_givenBack (c : Case) (last : Run) (s : State σ) :
    Spares stage s (givenBack stage c last s) := by
  rw [givenBack]
  split
  · exact spares_same rfl rfl
  · exact spares_quit s _

theorem halts_move (h : Move stage s t) : Halts stage s t := by
  cases h with
  | row _ _ => exact halts_same rfl rfl
  | stand _ => exact halts_same rfl rfl
  | notice _ => exact halts_same rfl rfl
  | stop k p => exact ⟨rfl, (only_stop (.inl rfl)).trans (.same rfl)⟩
  | progress _ _ _ => exact halts_same rfl rfl
  | hookCall note => exact ⟨rfl, only_hookCalled note⟩
  | elapse _ => exact halts_same rfl rfl
  | driver => exact ⟨rfl, only_driver _⟩
  | perform _ _ _ _ => exact halts_same rfl rfl

theorem spares_child {x : State σ} (hc : Child s x)
    (hx : x.world.signals.stopped = s.world.signals.stopped) (hv : Halts stage x v) :
    Spares stage s (s.after v) := by
  refine ⟨rfl, Nat.le_trans hc.world.marks hv.only.next, fun m hm old => ?_⟩
  have known : m < x.world.signals.next := Nat.lt_of_lt_of_le old hc.world.marks
  rcases hv.only.marks m hm known with before | own | watched
  · rw [hx] at before
    exact .inl before
  · rw [hc.signal] at own
    exact absurd own (Nat.ne_of_lt old)
  · exact .inr watched

theorem spares_advice {c : Case} {p : Step} {k : AdviceKind}
    (hv : Halts stage (adviceStart stage s c p k) v) : Spares stage s (s.after v) :=
  spares_child (child_advice s c p k) rfl hv

theorem spares_row {rows : Rows} {n : Nat} {row : Row} {isLast : Bool}
    (hv : Halts stage (rowStart stage rows n row isLast s) v) : Spares stage s (s.after v) := by
  refine spares_child (child_row rows n row isLast s) ?_ hv
  simp only [rowStart]
  cases rows.case.sharesState <;> rfl

end Parts

def course (stage : Stage σ) : Course σ where
  ready := fun _ => True
  able := fun _ => True
  goes := Halts stage
  fails := Halts stage
  raises := fun _ => Halts stage
  rejects := fun _ => Halts stage
  spoils := fun _ => Halts stage
  whole := fun _ => Halts stage
  finishes := fun _ => Halts stage
  rowed := fun _ _ => Spares stage
  left := fun _ _ _ => Spares stage
  held := fun _ _ _ => Spares stage
  links := fun _ => Spares stage

theorem order : (course stage).toConduct.Order where
  refl := fun _ => halts_same rfl rfl
  trans := Halts.trans
  overlook := id
  goes_fails := Halts.trans
  fails_goes := Halts.trans
  goes_raises := Halts.trans
  goes_rejects := Halts.trans
  goes_spoils := Halts.trans
  ready := fun _ _ => trivial

theorem conduct : (course stage).toConduct.Lawful stage where
  toOrder := order
  able := fun _ _ => trivial
  move := fun _ h => halts_move h
  raises_standing := fun i _ h => h.trans (halts_move (.stand i))
  told := fun _ _ => trivial
  advice := fun _ _ _ _ _ => trivial
  hookAnswered := fun _ _ _ _ _ => halts_same rfl rfl
  hookRaised := by
    intro s i f k _ _ _
    cases k <;> exact halts_same rfl rfl
  adviceDone := fun _ _ _ h => (spares_advice h).halts.trans (halts_same rfl rfl)
  adviceRaised := by
    intro s i c p k f v _ _ _ h
    cases k <;> exact (spares_advice h).halts.trans (halts_same rfl rfl)
  passed := fun _ h => halts_around h
  failed := fun _ h h' =>
    have told := halts_around (h.trans ((spares_emit _ _).halts.trans h'))
    ⟨told, told⟩
  failedRaises := fun _ h h' => halts_around (h.trans ((spares_emit _ _).halts.trans h'))
  raised := by
    rintro s t u l f _ _ h (h' | ⟨_, h'⟩)
    · exact halts_around (h.trans ((spares_emit _ _).halts.trans h'))
    · exact halts_around (h.trans ((spares_emit _ _).halts.trans h'))
  reported := fun _ h => halts_around h
  rejected := fun _ h h' => ((spares_emit _ _).halts.trans h).trans h'

section Run
variable {s t u : State σ}

theorem halts_begun (h : Halts stage (s.begun stage) t) : Halts stage s (t.emit stage .closed) := by
  have opened : Halts stage (s.prepared stage) (t.emit stage .closed) := halts_around h
  exact ⟨opened.signal, opened.only⟩

theorem halts_chained (h : Halts stage (s.begun stage) t)
    (h' : Spares stage (t.emit stage .closed).chainCalled u) : Halts stage s u := by
  have called : Spares stage (t.emit stage .closed) (t.emit stage .closed).chainCalled :=
    spares_same rfl rfl
  exact (halts_begun h).trans (called.trans h').halts

end Run

theorem lawful : (course stage).Lawful stage where
  toLawful := conduct
  begun := fun _ => trivial
  chainCalled := fun _ => trivial
  halted := by
    intro s t f _ h _
    have aborted : Halts stage (s.begun stage) t.aborted := h.trans (halts_same rfl rfl)
    exact (halts_begun aborted).trans (spares_released _).halts
  fatal := fun _ h _ => (halts_begun h).trans (spares_released _).halts
  unchained := by
    intro s t b _ h _
    cases b <;> exact (halts_begun h).trans (spares_ended _).halts
  chained := by
    intro s t u b c _ h _ _ h'
    cases b <;> exact (halts_chained h h').trans (spares_ended _).halts
  chainBroke := by
    intro s t u b f _ h _ _ h'
    cases b <;> exact (halts_chained h h').trans (spares_released _).halts
  finished := id
  beyond := fun _ => ((spares_emit _ _).trans (spares_released _)).halts
  link_refl := fun _ => spares_same rfl rfl
  link_trans := Spares.trans
  link_ready := fun _ _ _ => trivial
  reached := fun _ _ _ => spares_same rfl rfl
  reports := fun _ _ => spares_emit _ _
  rows_refl := fun _ => spares_same rfl rfl
  rows_trans := Spares.trans
  rows_ready := fun _ _ _ => trivial
  rowReady := fun _ _ _ _ _ => trivial
  rowLeft := fun _ _ h => spares_row h
  rowDone := fun _ _ h _ => spares_row h
  rowRaised := by
    intro s v rows n row isLast f _ _ h
    rw [rowRaised]
    split
    · exact (spares_row h).trans (spares_quit _ _)
    · exact spares_row h
  left_trans := Spares.trans
  grouped := fun _ _ _ h => spares_around h
  ungrouped := fun _ _ _ h => h
  groupedLeft := fun _ _ _ h => spares_around h
  ungroupedLeft := fun _ _ _ h => h
  held_ready := fun _ _ => trivial
  dropped := fun _ h => h.trans (spares_givenBack _ _ _)
  deferred := by
    intro s t v rows last b r _ h _ _ hv
    have chained : Spares stage t (t.after v) := ⟨rfl, hv.only⟩
    exact (h.trans chained).trans (spares_givenBack _ _ _)

/-- A chain leaves the run that it belongs to and stops no run that began before,
unless by the watch. -/
theorem chain_spares (stage : Stage σ) (depth : Nat) (s : State σ) :
    Act.Ends (chain stage (innerAt stage depth)) s fun _ t => t.run = s.run ∧ Spares stage s t :=
  (Course.innerAt_ends lawful (depth + 1)).2 s trivial

theorem child_spares (stage : Stage σ) (depth i : Nat) (seed : Row) {s : State σ} {child : Case}
    (hc : s.run.case.chain[i]? = some child) :
    Act.Ends (runChild stage (innerAt stage depth) (i + 1) child seed) s fun _ t =>
      t.run = s.run ∧ Spares stage s t := by
  obtain ⟨finish, chain⟩ := Course.innerAt_ends lawful depth
  exact Course.runChild_ends lawful finish chain i seed trivial hc

structure Beneath (stage : Stage σ) (s t : State σ) : Prop where
  ancestors : t.run.signal.ancestors = s.run.signal.mark :: s.run.signal.ancestors
  made : t.run.signal.mark < t.world.signals.next
  unwatched : ¬ Watched stage t.run.signal.mark

section Beneath
variable {s t u x : State σ}

theorem beneath_child (hc : Child s x) (known : ∀ m, Watched stage m → m < s.world.signals.next)
    (h : Halts stage (x.begun stage) t) : Beneath stage s t := by
  have signal :
      t.run.signal = ⟨s.world.signals.next, s.run.signal.mark :: s.run.signal.ancestors⟩ :=
    h.signal.trans hc.signal
  have opened : Spares stage (x.prepared stage) (x.begun stage) := spares_emit _ _
  have begun : x.world.signals.next ≤ (x.begun stage).world.signals.next := opened.only.next
  have later := h.only.next
  rw [hc.next] at begun
  refine ⟨?_, ?_, ?_⟩
  · rw [signal]
  · rw [signal]
    exact Nat.lt_of_lt_of_le begun later
  · rw [signal]
    exact fun watched => Nat.lt_irrefl _ (known _ watched)

theorem Beneath.emit (h : Beneath stage s t) (e : Event) : Beneath stage s (t.emit stage e) := by
  have told : Spares stage t (t.emit stage e) := spares_emit t e
  exact ⟨h.ancestors, Nat.lt_of_lt_of_le h.made told.only.next, h.unwatched⟩

theorem Beneath.stopped_above (below : Beneath stage s t) (h : Spares stage t u)
    (before : t.world.signals.isStopped t.run.signal = false)
    (after : u.world.signals.isStopped t.run.signal = true) :
    u.world.signals.isStopped s.run.signal = true := by
  rw [Signals.isStopped, List.any_eq_true] at after
  obtain ⟨m, hm, stopped⟩ := after
  rcases List.mem_cons.1 hm with rfl | above
  · -- its own mark is neither stopped before nor since
    rw [Signals.isStopped, List.any_eq_false] at before
    rcases h.only.marks _ (List.contains_iff_mem.1 stopped) below.made with old | watched
    · exact absurd (List.contains_iff_mem.2 old) (before _ (List.mem_cons_self ..))
    · exact absurd watched below.unwatched
  · rw [Signals.isStopped, List.any_eq_true]
    rw [below.ancestors] at above
    exact ⟨m, above, stopped⟩

end Beneath

end Stops

end Scenario
