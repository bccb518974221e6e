import Scenario.Proofs.RecordedEntries

/-!
# What a run leaves alone

The trace and the stopped signals of a world only grow. A run keeps its name,
its case and its signal, and once its own cursor is stopped it stays so. The
runs below a run look at signals derived from the run's own, so a run that is
found stopped at its end was stopped, or one above it was.
-/

set_option autoImplicit false

namespace Scenario
open Scenario.Act Scenario.Execution

variable {σ : Type} {stage : Stage σ}

namespace World

structure Grows (w w' : World σ) : Prop where
  trace : w.trace <:+ w'.trace
  marks : w.signals.next ≤ w'.signals.next
  stopped : w.signals.stopped ⊆ w'.signals.stopped

theorem Grows.refl (w : World σ) : Grows w w :=
  ⟨List.suffix_refl _, Nat.le_refl _, List.Subset.refl _⟩

theorem Grows.trans {w w' w'' : World σ} (h : Grows w w') (h' : Grows w' w'') : Grows w w'' :=
  ⟨h.trace.trans h'.trace, Nat.le_trans h.marks h'.marks, List.Subset.trans h.stopped h'.stopped⟩

theorem Grows.same {w w' : World σ} (ht : w'.trace = w.trace) (hs : w'.signals = w.signals) :
    Grows w w' :=
  ⟨⟨[], ht.symm⟩, Nat.le_of_eq (by rw [hs]), fun _ hm => by rwa [hs]⟩

theorem grows_record (w : World σ) (e : TraceEntry) : Grows w (w.record e) :=
  ⟨List.suffix_cons _ _, Nat.le_refl _, List.Subset.refl _⟩

theorem grows_stop (w : World σ) (g : Signal) : Grows w (w.stop g) :=
  ⟨List.suffix_refl _, Nat.le_refl _, List.subset_cons_self _ _⟩

theorem grows_childSignal (w : World σ) (g : Signal) : Grows w (w.childSignal g).2 :=
  ⟨List.suffix_refl _, Nat.le_succ _, List.Subset.refl _⟩

theorem grows_emit (w : World σ) (e : Event) : Grows w (w.emit stage e) := by
  have recorded := grows_record w (.event e)
  simp only [emit]
  split
  · split
    · exact recorded.trans (grows_stop _ _)
    · exact recorded
  · exact recorded

theorem grows_hookCalled (w : World σ) (note : Option String) : Grows w (w.hookCalled note) := by
  cases note with
  | none => exact .same rfl rfl
  | some n =>
    have counted : Grows w { w with hookCalls := w.hookCalls + 1 } := .same rfl rfl
    exact counted.trans (grows_record _ (.note n))

theorem grows_driver (w : World σ) (k : Session) : Grows w (w.driver stage k).2 := by
  have recorded := grows_record w (.launch stage.driverConfig)
  simp only [driver]
  split
  · exact .refl w
  · split
    · exact recorded.trans (.same rfl rfl)
    · exact recorded.trans (.same rfl rfl)

theorem grows_perform (w : World σ) (d : Nat) (c : Command) : Grows w (w.perform stage d c).2 :=
  (grows_record w (.command d c)).trans (.same rfl rfl)

theorem grows_quit (w : World σ) (k : Session) : Grows w (w.quit stage k) := by
  simp only [quit]
  split
  · have emptied : Grows w { w with slots := w.slots.set k.slot none } := .same rfl rfl
    exact emptied.trans (grows_perform _ _ _)
  · exact .refl w

theorem isStopped_grows {w w' : World σ} (h : Grows w w') {g : Signal}
    (hg : w.signals.isStopped g = true) : w'.signals.isStopped g = true := by
  rw [Signals.isStopped, List.any_eq_true] at hg ⊢
  obtain ⟨m, hm, hs⟩ := hg
  rw [List.contains_iff_mem] at hs
  exact ⟨m, hm, List.contains_iff_mem.2 (h.stopped hs)⟩

end World

namespace State

/-- A stop of the run itself is seen through its signal. -/
def Latched (s : State σ) : Prop :=
  s.run.cursor.stopped = true → s.world.signals.isStopped s.run.signal = true

structure Frame (s t : State σ) : Prop where
  world : s.world.Grows t.world
  name : t.run.name = s.run.name
  case : t.run.case = s.run.case
  signal : t.run.signal = s.run.signal
  stays : s.run.cursor.stopped = true → t.run.cursor.stopped = true
  latched : s.Latched → t.Latched

theorem Frame.refl (s : State σ) : Frame s s := ⟨.refl _, rfl, rfl, rfl, id, id⟩

theorem Frame.trans {s t u : State σ} (h : Frame s t) (h' : Frame t u) : Frame s u where
  world := h.world.trans h'.world
  name := h'.name.trans h.name
  case := h'.case.trans h.case
  signal := h'.signal.trans h.signal
  stays := h'.stays ∘ h.stays
  latched := h'.latched ∘ h.latched

theorem frame_world (s : State σ) {w : World σ} (h : s.world.Grows w) :
    Frame s { s with world := w } where
  world := h
  name := rfl
  case := rfl
  signal := rfl
  stays := id
  latched := fun hs ht => World.isStopped_grows h (hs ht)

structure Below (s : State σ) (r : Run) (t : State σ) : Prop where
  frame : Frame s t
  ancestors : r.signal.ancestors = s.run.signal.mark :: s.run.signal.ancestors
  made : s.world.signals.next ≤ r.signal.mark ∧ r.signal.mark < t.world.signals.next
  latched : State.Latched ⟨t.world, r⟩

theorem frame_quit {s t : State σ} (h : Frame s t) (k : Session) : Frame s (t.quit stage k) :=
  h.trans (frame_world t (World.grows_quit t.world k))

theorem frame_givenBack {s t : State σ} (h : Frame s t) (c : Case) (last : Run) :
    Frame s (givenBack stage c last t) := by
  rw [givenBack]
  split
  · exact h
  · exact frame_quit h _

theorem frame_rowRaised (c : Case) (s v : State σ) :
    Frame (s.after v) (rowRaised stage c s v) := by
  rw [rowRaised]
  split
  · exact frame_quit (.refl _) _
  · exact .refl _

/-- From `s` to `t` neither the run was stopped nor a run below it. -/
def Undisturbed (s t : State σ) : Prop :=
  t.run.cursor.stopped = false ∧ ∀ m ∈ t.world.signals.stopped,
    m ∉ s.run.signal.mark :: s.run.signal.ancestors ∧
      (m < s.world.signals.next ∨ t.world.signals.next ≤ m)

section Undisturbed
variable {s t u : State σ}

theorem Undisturbed.left (h : Undisturbed s u) (ht : Frame t u) : Undisturbed s t := by
  refine ⟨?_, fun m hm => ⟨(h.2 m (ht.world.stopped hm)).1, ?_⟩⟩
  · cases hc : t.run.cursor.stopped with
    | false => rfl
    | true =>
      have stays := ht.stays hc
      rw [h.1] at stays
      cases stays
  · have marks := ht.world.marks
    have apart := (h.2 m (ht.world.stopped hm)).2
    omega

theorem Undisturbed.right (h : Undisturbed s u) (ht : Frame s t) : Undisturbed t u := by
  refine ⟨h.1, fun m hm => ⟨?_, ?_⟩⟩
  · rw [ht.signal]
    exact (h.2 m hm).1
  · have marks := ht.world.marks
    have apart := (h.2 m hm).2
    omega

theorem isStopped_eq_false {g : Signal} {w : World σ}
    (h : ∀ m ∈ w.signals.stopped, m ∉ g.mark :: g.ancestors) :
    w.signals.isStopped g = false := by
  rw [Signals.isStopped, List.any_eq_false]
  intro m hm hs
  exact h m (List.contains_iff_mem.1 hs) hm

theorem Undisturbed.isStopped (h : Undisturbed s t) (ht : Frame s t) : t.isStopped = false := by
  rw [State.isStopped, h.1, Bool.false_or, ht.signal]
  exact isStopped_eq_false fun m hm => (h.2 m hm).1

theorem Undisturbed.below {r : Run} {v : State σ} (h : Undisturbed s u) (hb : Below s r t)
    (hv : Frame ⟨t.world, r⟩ v) (hu : u.world = v.world) : Undisturbed ⟨t.world, r⟩ v := by
  have apart : ∀ m ∈ v.world.signals.stopped, m ∉ r.signal.mark :: r.signal.ancestors := by
    intro m hm
    obtain ⟨hp, hr⟩ := h.2 m (by rwa [hu])
    rw [hb.ancestors, List.mem_cons]
    rintro (rfl | ha)
    · have made := hb.made
      have marks := hv.world.marks
      rw [hu] at hr
      simp only at marks
      omega
    · exact hp ha
  refine ⟨?_, fun m hm => ⟨apart m hm, ?_⟩⟩
  · cases hc : v.run.cursor.stopped with
    | false => rfl
    | true =>
      have seen := hv.latched hb.latched hc
      rw [hv.signal, isStopped_eq_false apart] at seen
      cases seen
  · have marks := hb.frame.world.marks
    have outside := (h.2 m (by rwa [hu])).2
    rw [hu] at outside
    simp only at marks ⊢
    omega

end Undisturbed

end State

namespace Frame
open State

theorem frame_move {s t : State σ} (h : Move stage s t) : Frame s t := by
  cases h with
  | row _ _ => exact ⟨.refl _, rfl, rfl, rfl, id, id⟩
  | stand i => exact ⟨.refl _, rfl, rfl, rfl, id, id⟩
  | notice h => exact ⟨.refl _, rfl, rfl, rfl, fun _ => rfl, fun _ _ => h⟩
  | stop k p =>
    have grows := (World.grows_stop s.world s.run.signal).trans
      (World.grows_record _ (.stopped s.run.signal k p))
    exact ⟨grows, rfl, rfl, rfl, fun _ => rfl, fun _ _ => isStopped_stop_self s.world s.run.signal⟩
  | hookCall note => exact frame_world s (World.grows_hookCalled _ note)
  | progress e _ _ => exact frame_world s (World.grows_record _ e)
  | elapse ms => exact frame_world s (.same rfl rfl)
  | driver => exact frame_world s (World.grows_driver _ _)
  | perform d c hd hc => exact frame_world s (World.grows_perform _ d c)

theorem frame_emit (s : State σ) (e : Event) : Frame s (s.emit stage e) :=
  frame_world s (World.grows_emit _ e)

theorem frame_record (s : State σ) (e : TraceEntry) : Frame s (s.record e) :=
  frame_world s (World.grows_record _ e)

theorem frame_begun (s : State σ) : Frame s (s.begun stage) := by
  have prepared : Frame s (s.prepared stage) := ⟨.refl _, rfl, rfl, rfl, id, id⟩
  exact prepared.trans (frame_emit _ _)

theorem frame_around {s t : State σ} {e : Event} (f : Event) (h : Frame (s.emit stage e) t) :
    Frame s (t.emit stage f) :=
  ((frame_emit s e).trans h).trans (frame_emit t f)

theorem frame_released {s t : State σ} (h : Frame s t) : Frame s (t.released stage) := by
  have world : t.world.Grows (t.released stage).world := by
    simp only [State.released]
    split
    · exact World.grows_quit _ _
    · exact .refl _
  exact (h.trans (frame_world t world)).trans ⟨.refl _, rfl, rfl, rfl, id, id⟩

theorem below_after {s t u : State σ} {r : Run} (h : Frame s t) (h' : Below t r u) :
    Below s r u := by
  refine ⟨h.trans h'.frame, ?_, ?_, h'.latched⟩
  · rw [h'.ancestors, h.signal]
  · exact ⟨Nat.le_trans h.world.marks h'.made.1, h'.made.2⟩

theorem below_around {s t : State σ} {r : Run} {e : Event} (f : Event)
    (h : Below (s.emit stage e) r t) : Below s r (t.emit stage f) := by
  have before : Frame s (s.emit stage e) := frame_emit s e
  have after : t.world.Grows (t.emit stage f).world := World.grows_emit t.world f
  refine ⟨frame_around f h.frame, ?_, ?_, ?_⟩
  · rw [h.ancestors, before.signal]
  · exact ⟨Nat.le_trans before.world.marks h.made.1, Nat.lt_of_lt_of_le h.made.2 after.marks⟩
  · exact fun hl => World.isStopped_grows after (h.latched hl)

section Group
variable {rows : Rows} {s t : State σ}

theorem frame_grouped (rows : Rows) (s : State σ) : Frame s (grouped stage rows s) := by
  rw [grouped]
  split
  · exact frame_emit s _
  · exact .refl s

theorem frame_ungrouped (rows : Rows) (s : State σ) : Frame s (ungrouped stage rows s) := by
  rw [ungrouped]
  split
  · exact frame_emit s _
  · exact .refl s

theorem below_grouped {r : Run} (h : Below (grouped stage rows s) r t) :
    Below s r (ungrouped stage rows t) := by
  rw [grouped] at h
  rw [ungrouped]
  split
  · rename_i grouped
    rw [if_pos grouped] at h
    exact below_around _ h
  · rename_i ungrouped
    rwa [if_neg ungrouped] at h

end Group

structure Child (s x : State σ) : Prop where
  world : s.world.Grows x.world
  signal : x.run.signal = ⟨s.world.signals.next, s.run.signal.mark :: s.run.signal.ancestors⟩
  next : x.world.signals.next = s.world.signals.next + 1
  latched : x.Latched

theorem child_advice (s : State σ) (c : Case) (p : Step) (k : AdviceKind) :
    Child s (adviceStart stage s c p k) where
  world := (World.grows_record s.world (.adviceBegun k)).trans
    (World.grows_childSignal _ s.run.signal)
  signal := rfl
  next := rfl
  latched := fun h => by cases h

theorem child_row (rows : Rows) (n : Nat) (row : Row) (isLast : Bool) (s : State σ) :
    Child s (rowStart stage rows n row isLast s) := by
  simp only [rowStart]
  cases rows.case.sharesState with
  | true => exact ⟨World.grows_childSignal s.world s.run.signal, rfl, rfl, fun h => by cases h⟩
  | false =>
    have opened : s.world.Grows s.world.newSession.2 := .same rfl rfl
    exact ⟨opened.trans (World.grows_childSignal _ s.run.signal), rfl, rfl, fun h => by cases h⟩

section Child
variable {s x v : State σ} (hc : Child s x)
include hc

theorem child_frame (h : Frame x v) : Frame s (s.after v) :=
  frame_world s (hc.world.trans h.world)

theorem child_below (h : Frame x v) : Below s v.run (s.after v) := by
  have grown := h.world.marks
  rw [hc.next] at grown
  have signal := h.signal
  rw [hc.signal] at signal
  refine ⟨child_frame hc h, ?_, ?_, h.latched hc.latched⟩
  · rw [signal]
  · rw [signal]
    exact ⟨Nat.le_refl _, grown⟩

/-- A run is undisturbed from its start on if the run above it is. -/
theorem child_undisturbed (h : Undisturbed s (s.after v)) (hv : Frame x v) : Undisturbed x v := by
  have below : Below s x.run (s.after x) := child_below hc (.refl x)
  have inside : Undisturbed ⟨(s.after x).world, x.run⟩ v := h.below below hv rfl
  exact inside

end Child

def Unstopped (l : List TraceEntry) : Prop := .endedStopped ∉ l

theorem unstopped_additive : Additive Unstopped where
  append := fun h h' hm => (List.mem_append.1 hm).elim h' h
  silent := fun h hm => by cases h _ hm

theorem unstopped_single {e : TraceEntry} (he : e ≠ .endedStopped) : Unstopped [e] :=
  fun hm => he (List.mem_singleton.1 hm).symm

/-- Where no run was stopped, none was so at its end. -/
structure Calm (s t : State σ) : Prop where
  frame : Frame s t
  unstopped : Undisturbed s t → Along Unstopped s t

section Calm
variable {s t u : State σ}

theorem calm_trans (h : Calm s t) (h' : Calm t u) : Calm s u := by
  refine ⟨h.frame.trans h'.frame, fun calm => ?_⟩
  have before := h.unstopped (calm.left h'.frame)
  have after := h'.unstopped (calm.right h.frame)
  exact along_trans unstopped_additive before after

theorem calm_same (h : Frame s t) (ht : t.world.trace = s.world.trace) : Calm s t :=
  ⟨h, fun _ => along_same unstopped_additive ht⟩

theorem calm_record (s : State σ) {e : TraceEntry} (he : e ≠ .endedStopped) :
    Calm s (s.record e) :=
  ⟨frame_record s e, fun _ => along_record (unstopped_single he)⟩

theorem calm_emit (s : State σ) (e : Event) : Calm s (s.emit stage e) :=
  ⟨frame_emit s e, fun _ => along_emit (unstopped_single (by simp))⟩

theorem calm_around {e : Event} (f : Event) (h : Calm (s.emit stage e) t) :
    Calm s (t.emit stage f) :=
  calm_trans (calm_trans (calm_emit s e) h) (calm_emit t f)

theorem calm_givenBack (h : Calm s t) (c : Case) (last : Run) :
    Calm s (givenBack stage c last t) := by
  refine calm_trans h ⟨frame_givenBack (.refl t) c last, fun _ => ?_⟩
  exact along_givenBack unstopped_additive c last t

theorem calm_child {x v : State σ} (hc : Child s x) (hx : Along Unstopped s x) (h : Calm x v) :
    Calm s (s.after v) := by
  refine ⟨child_frame hc h.frame, fun calm => ?_⟩
  have inside := h.unstopped (child_undisturbed hc calm h.frame)
  have whole : Along Unstopped s v := along_trans unstopped_additive hx inside
  exact whole

theorem calm_row {v : State σ} {rows : Rows} {n : Nat} {row : Row} {isLast : Bool}
    (h : Calm (rowStart stage rows n row isLast s) v) : Calm s (s.after v) :=
  calm_child (child_row rows n row isLast s)
    (along_same unstopped_additive (rowStart_trace rows n row isLast s)) h

end Calm

def plain (σ : Type) : Plain σ where
  ready := fun _ => True
  able := fun _ => True
  moves := Calm
  rejects := Calm
  whole := Calm
  left := fun _ last s t => Below s last t ∧ Calm s t

theorem lawful : (plain σ).Lawful stage where
  refl := fun _ => calm_same (.refl _) rfl
  trans := calm_trans
  trans_rejects := calm_trans
  ready := fun _ _ => trivial
  able := fun _ _ => trivial
  move := fun _ h => ⟨frame_move h, fun _ => along_move unstopped_additive h⟩
  told := fun _ _ => trivial
  failure := fun _ _ => calm_emit _ _
  error := fun _ _ => calm_emit _ _
  step := fun _ h => calm_around _ h
  suite := fun _ h => calm_around _ h
  rejected := fun _ h h' => calm_trans (calm_trans (calm_emit _ _) h) h'
  hookAnswered := fun _ _ _ _ _ => calm_record _ (by simp)
  caseAnswered := fun _ _ _ => calm_record _ (by simp)
  hookRaised := by
    intro s i k f _ _ _
    cases k <;> exact calm_record _ (by simp)
  caseRaised := by
    intro s k f _
    cases k <;> exact calm_record _ (by simp)
  advice := fun _ _ _ _ _ => trivial
  adviceDone := by
    intro s c p k v _ h
    have begun : Along Unstopped s (adviceStart stage s c p k) :=
      along_record (unstopped_single (by simp))
    exact calm_child (child_advice s c p k) begun h
  prepared := fun _ => calm_same ⟨.refl _, rfl, rfl, rfl, id, id⟩ rfl
  aborted := fun _ => calm_same ⟨.refl _, rfl, rfl, rfl, id, id⟩ rfl
  chainCalled := fun _ => calm_same ⟨.refl _, rfl, rfl, rfl, id, id⟩ rfl
  reached := fun _ _ _ => calm_record _ (by simp)
  released := fun {_ t} _ h =>
    calm_trans h ⟨frame_released (.refl t), fun _ => along_released unstopped_additive t⟩
  stopSeen := by
    intro s t _ h stopped
    refine ⟨h.frame.trans (frame_record t _), fun calm => ?_⟩
    have seen := (calm.left (frame_record t _)).isStopped h.frame
    rw [stopped] at seen
    cases seen
  rowReady := fun _ _ _ _ _ => trivial
  rowLeft := fun _ _ h => ⟨child_below (child_row ..) h.frame, calm_row h⟩
  rowDone := fun _ _ h _ => calm_row h
  rowRaised := by
    intro s v rows n row isLast _ _ h
    have dropped : Calm (s.after v) (rowRaised stage rows.case s v) :=
      ⟨frame_rowRaised _ _ _, fun _ => along_rowDropped unstopped_additive _ _ _⟩
    exact calm_trans (calm_row h) dropped
  left_trans := fun h h' => ⟨below_after h.frame h'.1, calm_trans h h'.2⟩
  left_suite := fun _ h => ⟨below_around _ h.1, calm_around _ h.2⟩
  left_ready := fun _ _ => trivial
  dropped := fun _ h => calm_givenBack h.2 _ _
  deferred := by
    intro s t v c last _ h _ hv
    have grown : Frame t (t.after v) := frame_world t hv.frame.world
    have linked : Calm s (t.after v) := by
      refine ⟨h.2.frame.trans grown, fun calm => ?_⟩
      have rows := h.2.unstopped (calm.left grown)
      have chain := hv.unstopped (calm.below h.1 hv.frame rfl)
      have whole : Along Unstopped s v := along_trans unstopped_additive rows chain
      exact whole
    exact calm_givenBack linked c last

theorem frame_ended (t : State σ) : Frame t (t.ended stage) := by
  rw [State.ended]
  split
  · exact (frame_released (.refl t)).trans (frame_record _ _)
  · exact frame_released (.refl t)

theorem frame_endRun (stage : Stage σ) (depth : Nat) (t : State σ) (b : Bool) :
    Ends (endRun stage (chain stage (innerAt stage depth)) b) t fun _ v => Frame t v := by
  have closed : Frame t (t.emit stage .closed) := frame_emit t _
  rw [Course.endRun_iff]
  split
  · have called : Frame t (t.emit stage .closed).chainCalled :=
      closed.trans ⟨.refl _, rfl, rfl, rfl, id, id⟩
    refine ends_mono ((Course.innerAt_ends (Plain.course_lawful lawful) (depth + 1)).2 _ trivial) ?_
    rintro (f | c) u ⟨_, calm⟩
    · exact frame_released (called.trans calm.frame)
    · exact (called.trans calm.frame).trans (frame_ended u)
  · exact closed.trans (frame_ended _)

theorem frame_halt (f : Fault) (t : State σ) :
    Ends (halt stage f) t fun _ v => Frame t v := by
  rw [Course.halt_iff]
  split
  · have aborted : Frame t t.aborted := ⟨.refl _, rfl, rfl, rfl, id, id⟩
    exact frame_released (aborted.trans (frame_emit _ _))
  · exact frame_released (frame_emit t _)

/-- What holds of each entry from one state to another does so in both parts of the way. -/
theorem along_parts {p : TraceEntry → Prop} {s t u : State σ} (h : Frame s t) (h' : Frame t u)
    (all : Along (fun l => ∀ e ∈ l, p e) s u) :
    Along (fun l => ∀ e ∈ l, p e) s t ∧ Along (fun l => ∀ e ∈ l, p e) t u := by
  obtain ⟨l, hl⟩ := h.world.trace
  obtain ⟨l', hl'⟩ := h'.world.trace
  obtain ⟨m, hm, all⟩ := all
  have same : m = l' ++ l := by
    apply (List.append_left_inj s.world.trace).1
    rw [← hm, ← hl', ← hl, List.append_assoc]
  subst same
  exact ⟨⟨l, hl.symm, fun e he => all e (by simp [he])⟩,
    ⟨l', hl'.symm, fun e he => all e (by simp [he])⟩⟩

theorem along_of_since {P : List TraceEntry → Prop} {s t : State σ} (h : Frame s t)
    (hp : P (World.since s.world t.world)) : Along P s t := by
  obtain ⟨l, hl⟩ := h.world.trace
  rw [World.since_eq hl.symm] at hp
  exact ⟨l, hl.symm, hp⟩

theorem finish_unstopped (stage : Stage σ) (depth : Nat) (s : State σ) :
    let t := ((finishWith stage (innerAt stage depth)).exec s).2
    Undisturbed s t → .endedStopped ∉ World.since s.world t.world := by
  intro t calm
  have ended : Calm s t := Plain.finish_ends lawful depth trivial
  exact along_since (ended.unstopped calm)

end Frame

end Scenario
