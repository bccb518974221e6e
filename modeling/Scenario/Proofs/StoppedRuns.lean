import Scenario.Proofs.EventNesting
import Scenario.Proofs.RunClosing
import Scenario.Proofs.RunFrame

/-!
# Runs that a hook stopped

A hook that stops a run is called on one of its steps. At most this step still
starts: the steps that are left, the rounds of the loops around it and the chain
of the run look at the stop before they go on. An advice case that is asked for
later opens its suite and closes it again.
-/

set_option autoImplicit false

namespace Scenario
open Scenario.Act Scenario.Execution

variable {σ : Type} {stage : Stage σ} {inner : Inner σ}

namespace TraceEntry

/-- A step, a round of a loop or a chained case is about to begin, or is passed over. -/
def begins : TraceEntry → Bool
  | .turned _ => true
  | .round _ => true
  | .reached _ _ => true
  | _ => false

def starts : TraceEntry → Bool
  | .event (.started _) => true
  | _ => false

def opens : TraceEntry → Bool
  | .event (.opened _ _ _) => true
  | _ => false

def advises : TraceEntry → Bool
  | .adviceBegun _ => true
  | _ => false

def idle : TraceEntry → Bool
  | .event (.started _) => false
  | .event (.opened _ _ _) => false
  | .stopped _ _ _ => false
  | .turned _ => false
  | .round _ => false
  | .reached _ _ => false
  | _ => true

end TraceEntry

namespace Ceasing
open State

def Over (s : State σ) : Prop := s.world.signals.isStopped s.run.signal = true

/-- Nothing begins but the starts of `n` steps and the suites of advice cases. -/
structure Ceased (n : Nat) (l : List TraceEntry) : Prop where
  begins : ∀ e ∈ l, e.begins = false
  starts : l.countP TraceEntry.starts ≤ n
  opens : l.countP TraceEntry.opens ≤ l.countP TraceEntry.advises

section Ceased
variable {m n : Nat} {l l' : List TraceEntry}

theorem Ceased.append (h : Ceased m l) (h' : Ceased n l') : Ceased (m + n) (l' ++ l) where
  begins := List.forall_mem_append.2 ⟨h'.begins, h.begins⟩
  starts := by
    have := h.starts
    have := h'.starts
    rw [List.countP_append]
    omega
  opens := by
    have := h.opens
    have := h'.opens
    rw [List.countP_append, List.countP_append]
    omega

theorem Ceased.mono (h : Ceased m l) (hm : m ≤ n) : Ceased n l :=
  ⟨h.begins, Nat.le_trans h.starts hm, h.opens⟩

theorem opens_idle (h : ∀ e ∈ l, e.idle = true) : l.countP TraceEntry.opens = 0 := by
  rw [List.countP_eq_zero]
  intro e he opens
  have idle := h e he
  cases e with
  | event e => cases e <;> simp_all [TraceEntry.opens, TraceEntry.idle]
  | _ => cases opens

theorem ceased_idle (h : ∀ e ∈ l, e.idle = true) : Ceased 0 l where
  begins := by
    intro e he
    have idle := h e he
    cases e <;> simp_all [TraceEntry.begins, TraceEntry.idle]
  starts := by
    rw [Nat.le_zero, List.countP_eq_zero]
    intro e he starts
    have idle := h e he
    cases e with
    | event e => cases e <;> simp_all [TraceEntry.starts, TraceEntry.idle]
    | _ => cases starts
  opens := by
    rw [opens_idle h]
    exact Nat.zero_le _

end Ceased

structure Heeds (n : Nat) (s t : State σ) : Prop where
  frame : Frame s t
  heeds : Along (fun l => ∀ later k p earlier,
    l = later ++ .stopped s.run.signal k p :: earlier → Over t ∧ Ceased n later) s t

/-- A part of a run in which `n` steps start after a stop, and none if the run was over before. -/
structure Rests (n : Nat) (s t : State σ) : Prop extends Heeds n s t where
  rests : Over s → Along (Ceased 0) s t

section Parts
variable {m n : Nat} {s t u : State σ}

theorem over_frame (h : Frame s t) (hs : Over s) : Over t := by
  rw [Over, h.signal]
  exact World.isStopped_grows h.world hs

theorem over_child {x : State σ} (hc : Frame.Child s x) (hs : Over s) : Over x := by
  have seen := World.isStopped_grows hc.world hs
  rw [Signals.isStopped] at seen
  rw [Over, Signals.isStopped, hc.signal, List.any_cons, seen, Bool.or_true]

theorem running_not_over (h : s.isStopped = false) : ¬ Over s := by
  rw [State.isStopped, Bool.or_eq_false_iff] at h
  rw [Over, h.2]
  exact Bool.false_ne_true

theorem heeds_seq {a b : Nat} (h : Heeds a s t) (h' : Heeds n t u)
    (rests : Over t → Along (Ceased b) t u) (hn : a + b ≤ n) : Heeds n s u := by
  refine ⟨h.frame.trans h'.frame, ?_⟩
  obtain ⟨l, ht, hl⟩ := h.heeds
  obtain ⟨l', hu, hl'⟩ := h'.heeds
  refine ⟨l' ++ l, by rw [hu, ht, List.append_assoc], fun later k p earlier split => ?_⟩
  -- the stop lies in the second part, or in the first and the second comes after it
  have first : ∀ early, l = early ++ .stopped s.run.signal k p :: earlier →
      Over u ∧ Ceased n (l' ++ early) := by
    intro early hsplit
    obtain ⟨past, ceased⟩ := hl early k p earlier hsplit
    obtain ⟨m, hm, rest⟩ := rests past
    have same : m = l' := List.append_cancel_right (hm.symm.trans hu)
    subst same
    exact ⟨over_frame h'.frame past, (ceased.append rest).mono hn⟩
  rcases List.append_eq_append_iff.1 split with ⟨early, rfl, hearly⟩ | ⟨mid, hmid, hrest⟩
  · exact first early hearly
  · cases mid with
    | nil =>
      have whole := first [] hrest.symm
      rwa [List.append_nil, hmid, List.append_nil] at whole
    | cons e mid =>
      cases hrest
      refine hl' later k p mid ?_
      rw [h.frame.signal, hmid]

theorem Rests.trans (h : Rests n s t) (h' : Rests n t u) : Rests n s u where
  toHeeds := heeds_seq h.toHeeds h'.toHeeds h'.rests (Nat.le_refl n)
  rests := by
    intro past
    obtain ⟨l, ht, hl⟩ := h.rests past
    obtain ⟨l', hu, hl'⟩ := h'.rests (over_frame h.frame past)
    exact ⟨l' ++ l, by rw [hu, ht, List.append_assoc], hl.append hl'⟩

theorem Rests.mono (h : Rests m s t) (hm : m ≤ n) : Rests n s t := by
  refine ⟨⟨h.frame, along_mono h.heeds fun l hl later k p earlier split => ?_⟩, h.rests⟩
  obtain ⟨past, ceased⟩ := hl later k p earlier split
  exact ⟨past, ceased.mono hm⟩

theorem heeds_along (frame : Frame s t) {P : List TraceEntry → Prop} (h : Along P s t)
    (hp : ∀ l, P l → ∀ k p, .stopped s.run.signal k p ∉ l) : Heeds n s t := by
  refine ⟨frame, along_mono h fun l hl later k p earlier split => ?_⟩
  exact absurd (by rw [split]; simp) (hp l hl k p)

theorem rests_idle (frame : Frame s t) (h : Along (fun l => ∀ e ∈ l, e.idle = true) s t) :
    Rests n s t := by
  refine ⟨heeds_along frame h fun l hl k p hm => ?_, fun _ => along_mono h fun l => ceased_idle⟩
  cases hl _ hm

theorem rests_same (frame : Frame s t) (h : t.world.trace = s.world.trace) : Rests n s t :=
  rests_idle frame ⟨[], h, by simp⟩

theorem rests_record (s : State σ) {e : TraceEntry} (he : e.idle = true) :
    Rests n s (s.record e) :=
  rests_idle (Frame.frame_record s e) (along_record (by simpa using he))

theorem rests_emit (s : State σ) {e : Event} (he : TraceEntry.idle (.event e) = true) :
    Rests n s (s.emit stage e) :=
  rests_idle (Frame.frame_emit s e) (along_emit (by simpa using he))

theorem rests_move (h : Move stage s t) : Rests n s t := by
  have frame := Frame.frame_move h
  rcases records_move h with same | ⟨e, one, recorded⟩
  · exact rests_same frame same
  · cases recorded with
    | stopped k p past =>
      refine ⟨⟨frame, [_], one, fun later k' p' earlier split => ?_⟩, fun _ => ⟨[_], one, ?_⟩⟩
      · obtain ⟨rfl, rfl⟩ : later = [] ∧ earlier = [] := by
          cases later with
          | nil =>
            simp only [List.nil_append, List.cons.injEq] at split
            exact ⟨rfl, split.2.symm⟩
          | cons _ _ => simp at split
        rw [Over, frame.signal]
        exact ⟨past, ⟨by simp, by simp, by simp⟩⟩
      · exact ⟨by simp [TraceEntry.begins], by simp [TraceEntry.starts], by simp [TraceEntry.opens]⟩
    | progress he running =>
      refine ⟨heeds_along frame ⟨[e], one, rfl⟩ (P := fun l => l = [e]) ?_, fun past => ?_⟩
      · rintro l rfl k p hm
        rw [List.mem_singleton] at hm
        subst hm
        cases he
      · exact absurd past (running_not_over running)
    | _ => exact rests_idle frame ⟨[_], one, by simp [TraceEntry.idle]⟩

end Parts

/-- Stops on record of runs at least so deep below the first. -/
def Deep (n : Nat) (l : List TraceEntry) : Prop :=
  ∀ g k p, .stopped g k p ∈ l → n ≤ g.ancestors.length

section Deep
variable {m n : Nat} {s t u v : State σ}

theorem deep_append {l l' : List TraceEntry} (h : Deep n l) (h' : Deep n l') : Deep n (l' ++ l) :=
  fun g k p hm => (List.mem_append.1 hm).elim (h' g k p) (h g k p)

theorem deep_of_ne {l : List TraceEntry} (h : ∀ e ∈ l, ∀ g k p, e ≠ .stopped g k p) : Deep n l :=
  fun g k p hm => absurd rfl (h _ hm g k p)

theorem Deep.mono {l : List TraceEntry} (h : Deep n l) (hm : m ≤ n) : Deep m l :=
  fun g k p he => Nat.le_trans hm (h g k p he)

/-- Of the runs from a state on, only those so deep below the first are stopped by their hooks. -/
structure Within (n : Nat) (s t : State σ) : Prop where
  signal : t.run.signal = s.run.signal
  deep : Along (Deep (s.run.signal.ancestors.length + n)) s t

theorem Within.trans (h : Within n s t) (h' : Within n t u) : Within n s u := by
  refine ⟨h'.signal.trans h.signal, along_seq h.deep h'.deep fun l l' hl hl' => ?_⟩
  rw [h.signal] at hl'
  exact deep_append hl hl'

theorem Within.mono (h : Within n s t) (hm : m ≤ n) : Within m s t :=
  ⟨h.signal, along_mono h.deep fun _ hl => hl.mono (Nat.add_le_add_left hm _)⟩

theorem within_same (hr : t.run.signal = s.run.signal) (ht : t.world.trace = s.world.trace) :
    Within n s t :=
  ⟨hr, [], ht, by simp [Deep]⟩

theorem within_record (s : State σ) {e : TraceEntry} (he : ∀ g k p, e ≠ .stopped g k p) :
    Within n s (s.record e) :=
  ⟨rfl, along_record (deep_of_ne (by simpa using he))⟩

theorem within_emit (s : State σ) (e : Event) : Within n s (s.emit stage e) :=
  ⟨rfl, along_emit (deep_of_ne (by simp))⟩

theorem within_around {e f : Event} (h : Within n (s.emit stage e) t) :
    Within n s (t.emit stage f) :=
  ((within_emit s e).trans h).trans (within_emit t f)

theorem within_quits (hr : t.run.signal = s.run.signal) (h : Along Quits s t) : Within n s t := by
  refine ⟨hr, along_mono h fun l quits => deep_of_ne fun e he g k p stopped => ?_⟩
  obtain ⟨d, rfl⟩ := quits e he
  cases stopped

theorem within_released (s : State σ) : Within n s (s.released stage) :=
  within_quits rfl (quits_released s)

theorem within_ended (s : State σ) : Within n s (s.ended stage) := by
  have released : Within n s (s.released stage) := within_released s
  rw [State.ended]
  split
  · exact released.trans (within_record _ (by simp))
  · exact released

theorem within_givenBack (c : Case) (last : Run) (s : State σ) :
    Within n s (givenBack stage c last s) :=
  within_quits (congrArg Run.signal (Course.givenBack_run c last s)) (quits_givenBack c last s)

theorem within_move (h : Move stage s t) : Within 0 s t := by
  refine ⟨(Frame.frame_move h).signal, ?_⟩
  rcases records_move h with same | ⟨e, one, recorded⟩
  · exact ⟨[], same, by simp [Deep]⟩
  · refine ⟨[e], one, fun g k p hm => ?_⟩
    rw [List.mem_singleton] at hm
    subst hm
    cases recorded with
    | stopped k p past => exact Nat.le_refl _
    | progress he _ => cases he

theorem within_child {x : State σ} (hc : Frame.Child s x)
    (hx : Along (Deep (s.run.signal.ancestors.length + 1)) s x)
    (hv : Within 0 x v) : Within 1 s (s.after v) := by
  refine ⟨rfl, ?_⟩
  have inside : Along (Deep (s.run.signal.ancestors.length + 1)) x v := by
    refine along_mono hv.deep fun l hl => ?_
    rw [hc.signal] at hl
    exact hl
  have whole : Along (Deep (s.run.signal.ancestors.length + 1)) s v :=
    along_seq hx inside fun _ _ => deep_append
  exact whole

theorem within_advice {c : Case} {p : Step} {k : AdviceKind}
    (hv : Within 0 (adviceStart stage s c p k) v) : Within 1 s (s.after v) :=
  within_child (Frame.child_advice s c p k) (along_record (deep_of_ne (by simp))) hv

theorem within_row {rows : Rows} {i : Nat} {row : Row} {isLast : Bool}
    (hv : Within 0 (rowStart stage rows i row isLast s) v) : Within 1 s (s.after v) :=
  within_child (Frame.child_row rows i row isLast s)
    ⟨[], rowStart_trace rows i row isLast s, by simp [Deep]⟩ hv

end Deep

structure Lent (last : Run) (s t : State σ) : Prop where
  within : Within 1 s t
  below : s.run.signal.ancestors.length ≤ last.signal.ancestors.length

def depths (σ : Type) : Course σ where
  ready := fun _ => True
  able := fun _ => True
  goes := Within 0
  fails := Within 0
  raises := fun _ => Within 0
  rejects := fun _ => Within 0
  spoils := fun _ => Within 0
  whole := fun _ => Within 0
  finishes := fun _ => Within 0
  rowed := fun _ _ => Within 1
  left := fun _ last _ => Lent last
  held := fun _ last _ => Lent last
  links := fun _ => Within 1

section Depths
variable {s t u v : State σ}

theorem depths_conduct : (depths σ).toConduct.Lawful stage where
  refl := fun _ => within_same rfl rfl
  trans := Within.trans
  overlook := id
  goes_fails := Within.trans
  fails_goes := Within.trans
  goes_raises := Within.trans
  goes_rejects := Within.trans
  goes_spoils := Within.trans
  ready := fun _ _ => trivial
  able := fun _ _ => trivial
  move := fun _ h => within_move h
  raises_standing := fun i _ h => h.trans (within_move (.stand i : Move stage _ _))
  told := fun _ _ => trivial
  advice := fun _ _ _ _ _ => trivial
  hookAnswered := fun _ _ _ _ _ => within_record _ (by simp)
  hookRaised := by
    intro s i f k _ _ _
    cases k <;> exact within_record _ (by simp)
  adviceDone := fun _ _ _ h =>
    ((within_advice h).mono (Nat.zero_le 1)).trans (within_record _ (by simp))
  adviceRaised := by
    intro s i c p k f v _ _ _ h
    have advised := ((within_advice h).mono (Nat.zero_le 1)).trans
      (within_record _ (e := .adviceRaised false k f) (by simp))
    cases k <;> exact advised
  passed := fun _ h => within_around h
  failed := fun _ h h' =>
    have told := within_around (h.trans ((within_emit _ _).trans h'))
    ⟨told, told⟩
  failedRaises := fun _ h h' => within_around (h.trans ((within_emit _ _).trans h'))
  raised := by
    rintro s t u l f _ _ h (h' | ⟨_, h'⟩)
    · exact within_around (h.trans ((within_emit _ _).trans h'))
    · exact within_around (h.trans ((within_emit _ _).trans h'))
  reported := fun _ h => within_around h
  rejected := fun _ h h' => ((within_emit _ _).trans h).trans h'

theorem within_begun (h : Within 0 (s.begun stage) t) : Within 0 s (t.emit stage .closed) := by
  have opened : Within 0 (s.prepared stage) (t.emit stage .closed) := within_around h
  exact ⟨opened.signal, opened.deep⟩

theorem within_chained (h : Within 0 (s.begun stage) t)
    (h' : Within 1 (t.emit stage .closed).chainCalled u) : Within 0 s u := by
  have called : Within 1 (t.emit stage .closed) u := ⟨h'.signal, h'.deep⟩
  exact (within_begun h).trans (called.mono (Nat.zero_le 1))

theorem depths_lawful : (depths σ).Lawful stage where
  toLawful := depths_conduct
  begun := fun _ => trivial
  chainCalled := fun _ => trivial
  halted := by
    intro s t f _ h _
    have aborted : Within 0 (s.begun stage) t.aborted := h.trans (within_same rfl rfl)
    exact (within_begun aborted).trans (within_released _)
  fatal := fun _ h _ => (within_begun h).trans (within_released _)
  unchained := by
    intro s t b _ h _
    cases b <;> exact (within_begun h).trans (within_ended _)
  chained := by
    intro s t u b c _ h _ _ h'
    cases b <;> exact (within_chained h h').trans (within_ended _)
  chainBroke := by
    intro s t u b f _ h _ _ h'
    cases b <;> exact (within_chained h h').trans (within_released _)
  finished := id
  beyond := fun _ => (within_emit _ _).trans (within_released _)
  link_refl := fun _ => within_same rfl rfl
  link_trans := Within.trans
  link_ready := fun _ _ _ => trivial
  reached := fun _ _ _ => within_record _ (by simp)
  reports := fun _ _ => within_emit _ _
  rows_refl := fun _ => within_same rfl rfl
  rows_trans := Within.trans
  rows_ready := fun _ _ _ => trivial
  rowReady := fun _ _ _ _ _ => trivial
  rowLeft := by
    intro s v rows n row isLast b _ _ h
    refine ⟨within_row h, ?_⟩
    rw [h.signal, (Frame.child_row rows n row isLast s).signal]
    exact Nat.le_succ _
  rowDone := fun _ _ h _ => within_row h
  rowRaised := by
    intro s v rows n row isLast f _ _ h
    have dropped : Within 1 (s.after v) (rowRaised stage rows.case s v) :=
      within_quits (congrArg Run.signal (rowRaised_run stage rows.case s v))
        (quits_rowDropped _ _ _)
    exact (within_row h).trans dropped
  left_trans := by
    intro s t u rows last a b h h'
    have below := h'.below
    rw [h.signal] at below
    exact ⟨h.trans h'.within, below⟩
  grouped := fun _ _ _ h => within_around h
  ungrouped := fun _ _ _ h => h
  groupedLeft := fun _ _ _ h => ⟨within_around h.within, h.below⟩
  ungroupedLeft := fun _ _ _ h => h
  held_ready := fun _ _ => trivial
  dropped := fun _ h => h.within.trans (within_givenBack _ _ _)
  deferred := by
    intro s t v rows last b r _ h _ _ hv
    have chain : Along (Deep (t.run.signal.ancestors.length + 1)) t (t.after v) := by
      refine along_mono hv.deep fun l hl => hl.mono ?_
      rw [h.within.signal]
      exact Nat.add_le_add_right h.below 1
    have chained : Within 1 t (t.after v) := ⟨rfl, chain⟩
    exact (h.within.trans chained).trans (within_givenBack _ _ _)

/-- A run is stopped by no hook of a run below it. -/
theorem finish_within (stage : Stage σ) (depth : Nat) (s : State σ) :
    Ends (innerAt stage depth).finish s fun _ t => Within 0 s t :=
  (Course.innerAt_ends depths_lawful depth).1 s trivial

theorem chain_within (stage : Stage σ) (depth : Nat) (s : State σ) :
    Ends (chain stage (innerAt stage depth)) s fun _ t => Within 1 s t :=
  ends_mono ((Course.innerAt_ends depths_lawful (depth + 1)).2 s trivial) fun _ _ h => h.2

end Depths

section Closing
variable {s t u v : State σ}

def Closes (l : List TraceEntry) : Prop :=
  ∃ l', l = l' ++ [.event .closed] ∧ ∀ e ∈ l', e = .endedStopped ∨ ∃ d, e = .command d .quit

theorem closes_released (same : u.world = (t.emit stage .closed).world) :
    Along Closes t (u.released stage) := by
  obtain ⟨l, ht, hl⟩ : Along Quits u (u.released stage) := quits_released u
  refine ⟨l ++ [.event .closed], ?_, l, rfl, fun e he => .inr (hl e he)⟩
  rw [ht, same, State.emit, World.emit_trace, List.append_assoc]
  rfl

theorem closes_ended (same : u.world = (t.emit stage .closed).world) :
    Along Closes t (u.ended stage) := by
  have released : Along Closes t (u.released stage) := closes_released same
  rw [State.ended]
  split
  · have noted : Along (· = [.endedStopped]) (u.released stage)
        ((u.released stage).record .endedStopped) := along_record rfl
    refine along_seq released noted ?_
    rintro _ _ ⟨l', rfl, hl⟩ rfl
    exact ⟨.endedStopped :: l', rfl, by simpa using hl⟩
  · exact released

theorem isStopped_over (h : Over u) : u.isStopped = true := by
  rw [State.isStopped, show u.world.signals.isStopped u.run.signal = true from h, Bool.or_true]

theorem over_closed (h : Over t) : Over (t.emit stage .closed) :=
  over_frame (Frame.frame_emit t .closed) h

theorem failed_over (h : Over u) (b : Bool) : (b && !(u.released stage).isStopped) = false := by
  rw [State.isStopped_released, isStopped_over h, Bool.not_true, Bool.and_false]

theorem endRun_over (h : Over t) (b : Bool) :
    Ends (endRun stage (chain stage inner) b) t fun r v => r = .ok false ∧ Along Closes t v := by
  rw [Course.endRun_iff]
  split
  · have called : Over (t.emit stage .closed).chainCalled := over_closed h
    rw [Closing.chain_stopped (t := (t.emit stage .closed).chainCalled) called]
    exact ⟨congrArg Except.ok (failed_over called _), closes_ended rfl⟩
  · exact ⟨congrArg Except.ok (failed_over (over_closed h) _), closes_ended rfl⟩

theorem halt_closes (f : Fault) (t : State σ) :
    Ends (halt stage f) t fun _ v => Along Closes t v := by
  rw [Course.halt_iff]
  split
  · exact closes_released rfl
  · exact closes_released rfl

theorem endRun_fails (b : Bool) :
    Ends (endRun stage (chain stage inner) b) t fun r v => Over v → r ≠ .ok true := by
  have fails : ∀ (u : State σ) (c : Bool), Over (u.ended stage) →
      (.ok (c && !(u.released stage).isStopped) : Except Fault Bool) ≠ .ok true := by
    intro u c past
    have before : Over u := by
      rw [Over, State.ended_run] at past
      rw [State.ended] at past
      rw [Over, ← u.released_signals stage]
      split at past <;> exact past
    rw [failed_over before]
    simp
  rw [Course.endRun_iff]
  split
  · generalize (t.emit stage .closed).chainCalled = called
    refine ends_mono (P := fun _ _ => True) trivial ?_
    rintro (f | c) u -
    · intro _
      simp
    · exact fails u _
  · exact fails _ _

theorem halt_fails (f : Fault) (t : State σ) :
    Ends (halt stage f) t fun r _ => r ≠ .ok true := by
  rw [Course.halt_iff]
  split <;> simp

theorem hasNext_over (h : Over s) :
    Ends (hasNext : Act σ Fault Bool) s fun r t =>
      r = .ok false ∧ t.world = s.world ∧ t.run.signal = s.run.signal := by
  simp only [hasNext, ends_bind, ends_get, show s.world.signals.isStopped s.run.signal = true from h,
    Bool.true_and]
  split
  · exact ⟨rfl, rfl, rfl⟩
  · rename_i stopped
    rw [Bool.not_eq_true, Bool.not_eq_false'] at stopped
    refine ⟨congrArg Except.ok ?_, rfl, rfl⟩
    rw [Cursor.needsRunning, stopped]
    rfl

theorem steps_over (h : Over s) (left : Nat) (b : Bool) :
    Ends (steps stage inner left b) s fun r t => r = .ok b ∧ t.world = s.world ∧ Over t := by
  cases left with
  | zero => exact ⟨rfl, rfl, h⟩
  | succ left =>
    refine ends_seq (hasNext_over h) ?_ fun f t ht => by cases ht.1
    rintro _ t ⟨⟨⟩, world, signal⟩
    have past : Over t := by
      rw [Over, world, signal]
      exact h
    exact ⟨rfl, world, past⟩

def Futile (l : List TraceEntry) : Prop :=
  ∃ l' n p x, Closes l' ∧ l = l' ++ [.event (.opened n p x)]

theorem opened_begun (s : State σ) :
    Along (fun l => ∃ n p x, l = [.event (.opened n p x)]) s (s.begun stage) :=
  along_emit (s := s.prepared stage) ⟨_, _, _, rfl⟩

theorem finishWith_over (h : Over s) :
    Ends (finishWith stage inner) s fun r v => r = .ok false ∧ Along Futile s v := by
  rw [Course.finishWith_iff]
  refine ends_mono (steps_over (over_frame (Frame.frame_begun s) h) _ true) ?_
  rintro _ t ⟨rfl, world, past⟩
  refine ends_mono (endRun_over past true) ?_
  rintro r v ⟨failed, closed⟩
  have closes : Along Closes (s.begun stage) v := by
    rwa [Along, ← world]
  refine ⟨failed, along_seq (opened_begun s) closes ?_⟩
  rintro _ l' ⟨n, p, x, rfl⟩ hl'
  exact ⟨l', n, p, x, hl', rfl⟩

end Closing

section Nested
variable {s x v : State σ}

theorem closes_idle {l : List TraceEntry} (h : Closes l) : ∀ e ∈ l, e.idle = true := by
  obtain ⟨l', rfl, hl⟩ := h
  intro e he
  rcases List.mem_append.1 he with he | he
  · rcases hl e he with rfl | ⟨d, rfl⟩ <;> rfl
  · rw [List.mem_singleton.1 he]
    rfl

def Barren (l : List TraceEntry) : Prop :=
  (∀ e ∈ l, e.begins = false) ∧ l.countP TraceEntry.starts = 0 ∧ l.countP TraceEntry.opens ≤ 1

theorem barren_idle {l : List TraceEntry} (h : ∀ e ∈ l, e.idle = true) : Barren l := by
  have ceased := ceased_idle h
  refine ⟨ceased.begins, Nat.le_zero.1 ceased.starts, ?_⟩
  rw [opens_idle h]
  exact Nat.zero_le 1

theorem barren_futile {l : List TraceEntry} (h : Futile l) : Barren l := by
  obtain ⟨l', n, p, x, closes, rfl⟩ := h
  have idle := closes_idle closes
  have barren := barren_idle idle
  refine ⟨List.forall_mem_append.2 ⟨barren.1, by simp [TraceEntry.begins]⟩, ?_, ?_⟩
  · rw [List.countP_append, barren.2.1]
    rfl
  · rw [List.countP_append, opens_idle idle, Nat.zero_add]
    exact List.countP_le_length

/-- How a run inside a run goes, for the run around it. -/
structure Nested (x v : State σ) : Prop where
  frame : Frame x v
  within : Within 0 x v
  barren : Over x → Along Barren x v

theorem nested_innerAt (stage : Stage σ) (depth : Nat) (x : State σ) :
    Ends (innerAt stage depth).finish x fun _ v => Nested x v := by
  have frame : Ends (innerAt stage depth).finish x fun _ v => Frame.Calm x v :=
    (Course.innerAt_ends (Plain.course_lawful Frame.lawful) depth).1 x trivial
  have within := finish_within stage depth x
  cases depth with
  | zero =>
    rw [Course.beyond_iff] at frame within ⊢
    refine ⟨frame.frame, within, fun _ => ?_⟩
    generalize Execution.beyond x.run.name = f
    have told : Along (· = [.event (.error f)]) x (x.emit stage (.error f)) := along_emit rfl
    refine along_seq told (quits_released _) ?_
    rintro _ l rfl quits
    refine barren_idle fun e he => ?_
    rcases List.mem_append.1 he with quit | error
    · obtain ⟨d, rfl⟩ := quits e quit
      rfl
    · rw [List.mem_singleton.1 error]
      rfl
  | succ depth =>
    refine ⟨frame.frame, within, fun past => ?_⟩
    exact along_mono (finishWith_over past).2 fun _ => barren_futile

theorem rests_advice {n : Nat} {c : Case} {p : Step} {k : AdviceKind}
    (h : Nested (adviceStart stage s c p k) v) : Rests n s (s.after v) := by
  have child : Frame.Child s (adviceStart stage s c p k) := Frame.child_advice s c p k
  refine ⟨heeds_along (Frame.child_frame child h.frame) (within_advice h.within).deep ?_, ?_⟩
  · intro l deep k p stopped
    exact absurd (deep _ _ _ stopped) (Nat.not_succ_le_self _)
  · intro past
    have asked : Along (· = [.adviceBegun k]) s (adviceStart stage s c p k) := along_record rfl
    have inside : Along (Ceased 0) s v := by
      refine along_seq asked (h.barren (over_child child past)) ?_
      rintro _ l rfl ⟨begins, starts, opens⟩
      refine ⟨List.forall_mem_append.2 ⟨begins, by simp [TraceEntry.begins]⟩, ?_, ?_⟩
      · rw [List.countP_append, starts]
        exact Nat.le_refl 0
      · rw [List.countP_append, List.countP_append]
        have opened : [TraceEntry.adviceBegun k].countP TraceEntry.opens = 0 := rfl
        have advised : [TraceEntry.adviceBegun k].countP TraceEntry.advises = 1 := rfl
        omega
    exact inside

end Nested

section Steps
variable {n : Nat} {s t : State σ}

def ceasing (σ : Type) (n : Nat) : Conduct σ where
  ready := fun _ => True
  able := fun _ => True
  goes := Rests n
  fails := Rests n
  raises := fun _ => Rests n
  rejects := fun _ => Rests n
  spoils := fun _ => Rests n
  whole := fun _ => Nested

theorem ceasing_order (n : Nat) : (ceasing σ n).Order where
  refl := fun _ => rests_same (.refl _) rfl
  trans := Rests.trans
  overlook := id
  goes_fails := Rests.trans
  fails_goes := Rests.trans
  goes_raises := Rests.trans
  goes_rejects := Rests.trans
  goes_spoils := Rests.trans
  ready := fun _ _ => trivial

theorem ceasing_advised (n : Nat) : (ceasing σ n).Advised stage where
  toOrder := ceasing_order n
  move := fun _ h => rests_move h
  raises_standing := fun i _ h => h.trans (rests_move (.stand i : Move stage _ _))
  able := fun _ _ => trivial
  advice := fun _ _ _ _ _ => trivial
  hookAnswered := fun _ _ _ _ _ => rests_record _ rfl
  hookRaised := by
    intro s i f k _ _ _
    cases k <;> exact rests_record _ rfl
  adviceDone := fun _ _ _ h => (rests_advice h).trans (rests_record _ rfl)
  adviceRaised := by
    intro s i c p k f v _ _ _ h
    have raised : Rests n s ((s.after v).record (.adviceRaised false k f)) :=
      (rests_advice h).trans (rests_record _ rfl)
    cases k <;> exact raised

theorem rests_heard {k : AdviceKind} {r : Except Fault Bool} (h : (ceasing σ n).heard k s r t) :
    Rests n s t := by
  cases r with
  | ok b => exact h
  | error f => cases k <;> exact h

theorem rests_attempts {α : Type} {r : Except Problem α} (h : (ceasing σ n).attempts s r t) :
    Rests n s t := by
  rcases r with (f | f | t') | x
  · exact h
  · exact h.2
  · exact h
  · exact h

theorem rests_answers {r : Except Fault Bool} (h : (ceasing σ n).answers s r t) : Rests n s t := by
  rcases r with f | _ | _ <;> exact h

theorem answers_rests {r : Except Fault Bool} (h : Rests n s t) : (ceasing σ n).answers s r t := by
  rcases r with f | _ | _ <;> exact h

section Judgement
variable (stage) (depth : Nat) (advice : List (Interceptor Case)) (p : Step) (label : String)
  (s : State σ)

theorem adviseAll_rests (k : AdviceKind) :
    Ends (adviseAll stage (innerAt stage depth) k p advice) s fun _ t => Rests 0 s t :=
  ends_mono (Conduct.adviseAll_ends (ceasing_advised 0) (fun x _ => nested_innerAt stage depth x)
    k p advice (fun _ _ => trivial) trivial) fun _ _ => rests_heard

theorem adviseEvery_rests (k : AdviceKind) (b : Bool) :
    Ends (adviseEvery stage (innerAt stage depth) k p advice b) s fun _ t => Rests 0 s t :=
  ends_mono (Conduct.adviseEvery_ends (ceasing_advised 0) (fun x _ => nested_innerAt stage depth x)
    k p advice (fun _ _ => trivial) b trivial) fun _ _ => rests_heard

theorem failed_rests :
    Ends (failed stage (innerAt stage depth) advice p label) s fun _ t => Rests 0 s t := by
  simp only [failed, Act.emit, ends_bind, ends_modifyWorld, ends_outcome]
  refine ends_mono (adviseEvery_rests stage depth advice p _ .failure true) fun r t ht => ?_
  have told : Rests 0 s (t.emit stage .ended) :=
    ((rests_emit s rfl).trans ht).trans (rests_emit t rfl)
  cases r with
  | error f => exact told
  | ok b =>
    dsimp only
    split <;> exact told

theorem succeeded_rests :
    Ends (succeeded stage (innerAt stage depth) advice p label) s fun _ t => Rests 0 s t := by
  have accepted : ∀ b t, Rests 0 s t →
      Ends (if b = true then do Act.emit stage .ended; pure true
        else failed stage (innerAt stage depth) advice p label) t fun _ u => Rests 0 s u := by
    intro b t ht
    split
    · exact ht.trans (rests_emit t rfl)
    · exact ends_mono (failed_rests stage depth advice p label t) fun _ _ h => ht.trans h
  simp only [succeeded]
  split
  · exact ends_seq (adviseAll_rests stage depth advice p s .after) accepted fun _ _ h => h
  · exact accepted true s (rests_same (.refl s) rfl)

theorem raised_rests (f : Fault) :
    Ends (raised stage (innerAt stage depth) advice p f) s fun _ t => Rests 0 s t := by
  simp only [raised, Act.emit, ends_bind, ends_modifyWorld, ends_outcome]
  refine ends_mono (adviseEvery_rests stage depth advice p _ .failure true) fun r t ht => ?_
  exact ((rests_emit s rfl).trans ht).trans (rests_emit t rfl)

theorem judge_rests (r : Except Problem Bool) :
    Ends (judge stage (innerAt stage depth) advice p label r) s fun _ t => Rests 0 s t := by
  rcases r with (f | f | t') | b
  · exact rests_emit s rfl
  · exact raised_rests stage depth advice p s f
  · exact raised_rests stage depth advice p s _
  · simp only [judge]
    split
    · exact succeeded_rests stage depth advice p label s
    · exact failed_rests stage depth advice p label s

end Judgement

section Step
variable (stage) (depth : Nat) {block : Nat → Act σ Problem Bool}
  (hblock : ∀ m, (ceasing σ 1).Judges (block m))
include hblock

theorem started_heeds (advice : List (Interceptor Case)) (p : Step) (label : String) (s : State σ) :
    Ends (Action.perform stage block p.kind) (s.emit stage (.started label)) fun r t =>
      Ends (judge stage (innerAt stage depth) advice p label r) t fun _ u =>
        Heeds 1 s u ∧ (Over s → Along (Ceased 1) s u) := by
  have starts : Along (· = [.event (.started label)]) s (s.emit stage (.started label)) :=
    along_emit rfl
  have begun : Heeds 0 s (s.emit stage (.started label)) :=
    heeds_along (Frame.frame_emit s _) starts (by rintro _ rfl k p hm; simp at hm)
  refine ends_mono (Conduct.keeps_action (ceasing_advised 1).toMobile hblock p.kind _ trivial) ?_
  intro r t ht
  refine ends_mono (judge_rests stage depth advice p label t r) fun _ u hu => ?_
  have rest := (rests_attempts ht).trans (hu.mono (Nat.zero_le 1))
  refine ⟨heeds_seq begun rest.toHeeds rest.rests (Nat.zero_le 1), fun past => ?_⟩
  refine along_seq starts (rest.rests (over_frame begun.frame past)) ?_
  rintro _ l rfl ceased
  have one : Ceased 1 [.event (.started label)] :=
    ⟨by simp [TraceEntry.begins], by simp [TraceEntry.starts], by simp [TraceEntry.opens]⟩
  exact one.append ceased

theorem executeStep_heeds (p : Step) (s : State σ) :
    Ends (executeStep stage (innerAt stage depth) block p) s fun _ t => Heeds 1 s t := by
  simp only [executeStep, ends_bind, ends_getRun]
  split
  · exact (rests_same (.refl s) rfl).toHeeds
  · refine ends_seq (adviseAll_rests stage depth _ p s .before) ?_ ?_
    · intro b t ht
      split
      · simp only [Act.emit, ends_bind, ends_getRun, ends_modifyWorld, ends_outcome]
        refine ends_mono (started_heeds stage depth hblock (s.run.aspect.advice p s.run.row) p
          (p.label t.run.row) t) fun r u judged => ?_
        refine ends_mono judged ?_
        rintro r' v ⟨heeds, rests⟩
        have done : Heeds 1 s v := heeds_seq ht.toHeeds heeds rests (Nat.le_refl 1)
        cases r' with
        | ok b => exact done
        | error f => exact done
      · exact (ht.mono (Nat.zero_le 1)).toHeeds
    · intro f t ht
      exact (ht.mono (Nat.zero_le 1)).toHeeds

theorem executeCurrent_rests {s : State σ} (running : s.isStopped = false) :
    Ends (executeCurrent stage (innerAt stage depth) block) s fun _ t => Rests 1 s t := by
  have alive := running_not_over running
  simp only [executeCurrent, ends_bind, ends_getRun]
  split
  · simp only [ends_bind, ends_modifyWorld]
    have move : Move stage s (s.record (.turned (s.run.cursor.current?.getD 0))) :=
      .progress _ rfl running
    have turned : Rests 0 s (s.record (.turned (s.run.cursor.current?.getD 0))) := rests_move move
    split
    · refine ends_mono (executeStep_heeds stage depth hblock _ _) fun r t ht => ?_
      exact ⟨heeds_seq (b := 0) turned.toHeeds ht (fun past => absurd past alive) (Nat.zero_le 1),
        fun past => absurd past alive⟩
    · exact turned.mono (Nat.zero_le 1)
  · exact rests_same (.refl s) rfl

end Step

theorem turns_ceasing (stage : Stage σ) (depth : Nat) :
    (ceasing σ 1).Turns stage (innerAt stage depth) :=
  fun _ hblock _ _ running => ends_mono (executeCurrent_rests stage depth hblock running) fun _ _ =>
    answers_rests

/-- After a stop in the steps of a run at most one still starts. -/
theorem steps_rests (stage : Stage σ) (depth left : Nat) (s : State σ) :
    Ends (steps stage (innerAt stage depth) left true) s fun _ t => Rests 1 s t :=
  ends_mono (Conduct.steps_ends (ceasing_advised 1).toMobile (turns_ceasing stage depth) trivial
    left true (rests_same (.refl s) rfl)) fun _ _ => rests_answers

end Steps

section Finish
variable {s t : State σ}

theorem deep_closes {n : Nat} {l : List TraceEntry} (h : Closes l) : Deep n l := by
  refine deep_of_ne ?_
  rintro e he g k p rfl
  cases closes_idle h _ he

theorem endRun_within (stage : Stage σ) (depth : Nat) (t : State σ) (b : Bool) :
    Ends (endRun stage (chain stage (innerAt stage depth)) b) t
      fun _ v => Along (Deep (t.run.signal.ancestors.length + 1)) t v := by
  have closed : Within 1 t (t.emit stage .closed) := within_emit t _
  rw [Course.endRun_iff]
  split
  · have called : Within 1 t (t.emit stage .closed).chainCalled :=
      closed.trans (within_same rfl rfl)
    refine ends_mono (chain_within stage depth _) ?_
    rintro (f | c) u hu
    · exact ((called.trans hu).trans (within_released u)).deep
    · exact ((called.trans hu).trans (within_ended u)).deep
  · exact (closed.trans (within_ended _)).deep

theorem rests_closing (frame : Frame s t)
    (deep : Along (Deep (s.run.signal.ancestors.length + 1)) s t)
    (closes : Over s → Along Closes s t) : Rests 0 s t where
  toHeeds := heeds_along frame deep fun _ deep _ _ stopped =>
    absurd (deep _ _ _ stopped) (Nat.not_succ_le_self _)
  rests := fun past => along_mono (closes past) fun _ h => ceased_idle (closes_idle h)

theorem endRun_rests (stage : Stage σ) (depth : Nat) (t : State σ) (b : Bool) :
    Ends (endRun stage (chain stage (innerAt stage depth)) b) t
      fun r v => Rests 0 t v ∧ (Over v → r ≠ .ok true) := by
  refine ⟨rests_closing (Frame.frame_endRun stage depth t b) (endRun_within stage depth t b) ?_,
    endRun_fails b⟩
  exact fun past => (endRun_over past b).2

theorem halt_rests (f : Fault) (t : State σ) :
    Ends (halt stage f) t fun r v => Rests 0 t v ∧ (Over v → r ≠ .ok true) :=
  have closes : Ends (halt stage f) t fun _ v => Along Closes t v := halt_closes f t
  ⟨rests_closing (Frame.frame_halt f t) (along_mono closes fun _ => deep_closes) fun _ => closes,
    fun _ => halt_fails f t⟩

theorem finishWith_heeds (stage : Stage σ) (depth : Nat) (s : State σ) :
    Ends (finishWith stage (innerAt stage depth)) s
      fun r v => Heeds 1 s v ∧ (Over v → r ≠ .ok true) := by
  have begun : Heeds 0 s (s.begun stage) := by
    refine heeds_along (Frame.frame_begun s) (opened_begun s) ?_
    rintro _ ⟨n, x, y, rfl⟩ k p stopped
    simp at stopped
  have whole : ∀ t v, Rests 1 (s.begun stage) t → Rests 0 t v → Heeds 1 s v := by
    intro t v ht hv
    have rest := ht.trans (hv.mono (Nat.zero_le 1))
    exact heeds_seq begun rest.toHeeds rest.rests (Nat.zero_le 1)
  rw [Course.finishWith_iff]
  refine ends_mono (steps_rests stage depth _ _) ?_
  rintro (f | b) t ht
  · exact ends_mono (halt_rests f t) fun r v hv => ⟨whole t v ht hv.1, hv.2⟩
  · exact ends_mono (endRun_rests stage depth t b) fun r v hv => ⟨whole t v ht hv.1, hv.2⟩

end Finish

/-- From the moment at which a hook on a step of a run stops it, at most the step in
progress still starts. No step is turned to, no round of a loop begins and no chained
case is reached, within the run or below it, and the only suites that are opened are
those of advice cases. The run does not succeed, and a chain of its own that is to run
after the rows above it is left out. -/
theorem stop_ceases (stage : Stage σ) (depth : Nat) (s : State σ) (k : AdviceKind) (p : Step)
    (later earlier : List TraceEntry) :
    let e := (finishWith stage (innerAt stage depth)).exec s
    World.since s.world e.2.world = later ++ .stopped s.run.signal k p :: earlier →
    (∀ entry ∈ later, entry.begins = false) ∧ later.countP TraceEntry.starts ≤ 1 ∧
      later.countP TraceEntry.opens ≤ later.countP TraceEntry.advises ∧ e.1 ≠ .ok true ∧
      ∀ (inner : Inner σ) (c : Case) (u : State σ), e.2.world.Grows u.world →
        (runDeferred stage inner c e.2.run).exec u = (.ok true, givenBack stage c e.2.run u) := by
  intro e split
  obtain ⟨heeds, fails⟩ := finishWith_heeds stage depth s
  obtain ⟨past, ceased⟩ := along_since heeds.heeds later k p earlier split
  refine ⟨ceased.begins, ceased.starts, ceased.opens, fails past, fun inner c u grows => ?_⟩
  have stopped : State.isStopped ⟨u.world, e.2.run⟩ = true :=
    isStopped_over (u := ⟨u.world, e.2.run⟩) (World.isStopped_grows grows past)
  have left : Ends (runDeferred stage inner c e.2.run) u
      fun r t => (r, t) = (.ok true, givenBack stage c e.2.run u) := by
    rw [Course.runDeferred_iff, stopped, Bool.or_true, if_pos rfl]
  exact left

section Example
open Brackets

def stopping : Hook := fun _ => { stop := true }

/-- A hook before the only step: the step still starts, and the run does not succeed. -/
theorem stopped_before_step :
    let e := (finishWith bare (innerAt bare 1)).exec (firstState (greeting (some stopping) none))
    let later : List TraceEntry := [.endedStopped, .event .closed, .event .ended,
      .event (.started "echo text:hi"), .advised true .before true]
    (∀ entry ∈ later, entry.begins = false) ∧ later.countP TraceEntry.starts ≤ 1 ∧
      later.countP TraceEntry.opens ≤ later.countP TraceEntry.advises ∧ e.1 ≠ .ok true ∧
      ∀ (inner : Inner Unit) (c : Case) (u : State Unit), e.2.world.Grows u.world →
        (runDeferred bare inner c e.2.run).exec u = (.ok true, givenBack bare c e.2.run u) :=
  stop_ceases bare 1 (firstState (greeting (some stopping) none)) .before
    { kind := .echo, texts := [("text", "hi")] } _
    ((World.since (firstState (greeting (some stopping) none)).world
      ((finishWith bare (innerAt bare 1)).exec
        (firstState (greeting (some stopping) none))).2.world).drop 6)
    (by decide +kernel)

end Example

end Ceasing

end Scenario
