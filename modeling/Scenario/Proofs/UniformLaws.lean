import Scenario.Proofs.RunTreeLaws

/-!
# Plain courses

A plain course says the same of every part of a run, however it ends, save that
advice which raises a fault after a step that held may be told apart. It is
lawful when each single move and record respects the one relation that it
knows, and when steps and suites can be put around what respects it.
-/

set_option autoImplicit false

namespace Scenario
open Scenario.Execution

variable {σ : Type}

structure Plain (σ : Type) where
  ready : State σ → Prop
  able : Interceptor Case → Prop
  moves : State σ → State σ → Prop
  rejects : State σ → State σ → Prop
  whole : State σ → State σ → Prop
  left : Case → Run → State σ → State σ → Prop

namespace Plain
variable (P : Plain σ)

def objects (k : AdviceKind) : State σ → State σ → Prop :=
  match k with
  | .after => P.rejects
  | _ => P.moves

def course : Course σ where
  ready := P.ready
  able := P.able
  goes := P.moves
  fails := P.moves
  raises := fun _ => P.moves
  rejects := fun _ => P.rejects
  spoils := fun _ => P.moves
  whole := fun _ => P.whole
  finishes := fun _ => P.whole
  rowed := fun _ _ => P.moves
  left := fun rows last _ => P.left rows.case last
  held := fun rows last _ => P.left rows.case last
  links := fun _ => P.moves

structure Lawful (stage : Stage σ) : Prop where
  refl : ∀ {s}, P.ready s → P.moves s s
  trans : ∀ {s t u}, P.moves s t → P.moves t u → P.moves s u
  trans_rejects : ∀ {s t u}, P.moves s t → P.rejects t u → P.rejects s u
  ready : ∀ {s t}, P.ready s → P.moves s t → P.ready t
  able : ∀ {s i}, P.ready s → i ∈ s.run.aspect → P.able i
  move : ∀ {s t}, P.ready s → Move stage s t → P.moves s t
  told : ∀ {s} (e : Event), P.ready s → P.ready (s.emit stage e)
  failure : ∀ {s} (m : String), P.ready s → P.moves s (s.emit stage (.failure m))
  error : ∀ {s} (f : Fault), P.ready s → P.moves s (s.emit stage (.error f))
  step : ∀ {s t l}, P.ready s → P.moves (s.emit stage (.started l)) t →
    P.moves s (t.emit stage .ended)
  suite : ∀ {s t n p x}, P.ready s → P.moves (s.emit stage (.opened n p x)) t →
    P.moves s (t.emit stage .closed)
  rejected : ∀ {s t u l}, P.ready s → P.moves (s.emit stage (.started l)) t → P.rejects t u →
    P.moves s u
  hookAnswered : ∀ {s i} (k : AdviceKind) (b : Bool), P.ready s → P.able i → i.isHooks = true →
    P.moves s (s.record (.advised true k b))
  caseAnswered : ∀ {s} (k : AdviceKind) (b : Bool), P.ready s →
    P.moves s (s.record (.advised false k b))
  hookRaised : ∀ {s i} (k : AdviceKind) (f : Fault), P.ready s → P.able i → i.isHooks = true →
    P.objects k s (s.record (.adviceRaised true k f))
  caseRaised : ∀ {s} (k : AdviceKind) (f : Fault), P.ready s →
    P.objects k s (s.record (.adviceRaised false k f))
  advice : ∀ {s i c} (p : Step) (k : AdviceKind), P.ready s → P.able i → c ∈ i.cases →
    P.ready (adviceStart stage s c p k)
  adviceDone : ∀ {s c p k v}, P.ready s → P.whole (adviceStart stage s c p k) v →
    P.moves s (s.after v)
  prepared : ∀ {s}, P.ready s → P.moves s (s.prepared stage)
  aborted : ∀ {s}, P.ready s → P.moves s s.aborted
  chainCalled : ∀ {s}, P.ready s → P.moves s s.chainCalled
  reached : ∀ {s} (i : Nat) (passed : Bool), P.ready s → P.moves s (s.record (.reached i passed))
  released : ∀ {s t}, P.ready s → P.moves s t → P.whole s (t.released stage)
  stopSeen : ∀ {s t}, P.ready s → P.whole s t → t.isStopped = true →
    P.whole s (t.record .endedStopped)
  rowReady : ∀ {s rows} (n : Nat) (row : Row) (isLast : Bool), P.ready s → Suits stage rows s →
    P.ready (rowStart stage rows n row isLast s)
  rowLeft : ∀ {s v rows n row isLast}, P.ready s → Suits stage rows s →
    P.whole (rowStart stage rows n row isLast s) v → P.left rows.case v.run s (s.after v)
  rowDone : ∀ {s v rows n row isLast}, P.ready s → Suits stage rows s →
    P.whole (rowStart stage rows n row isLast s) v →
    (isDeferred rows.case && isLast) = false → P.moves s (s.after v)
  rowRaised : ∀ {s v rows n row isLast}, P.ready s → Suits stage rows s →
    P.whole (rowStart stage rows n row isLast s) v →
    P.moves s (Execution.rowRaised stage rows.case s v)
  left_trans : ∀ {s t u c last}, P.moves s t → P.left c last t u → P.left c last s u
  left_suite : ∀ {s t c last n p x}, P.ready s →
    P.left c last (s.emit stage (.opened n p x)) t → P.left c last s (t.emit stage .closed)
  left_ready : ∀ {s t c last}, P.ready s → P.left c last s t → P.ready ⟨t.world, last⟩
  dropped : ∀ {s t c last}, P.ready s → P.left c last s t →
    P.moves s (givenBack stage c last t)
  deferred : ∀ {s t v c last}, P.ready s → P.left c last s t → v.run = last →
    P.moves ⟨t.world, last⟩ v → P.moves s (givenBack stage c last (t.after v))

variable {P} {stage : Stage σ}

section Path
variable (law : P.Lawful stage) {s t u : State σ} (hs : P.ready s)
include law hs

theorem begun_ready : P.ready (s.begun stage) :=
  law.told _ (law.ready hs (law.prepared hs))

theorem closes (ht : P.moves (s.begun stage) t) : P.moves s (t.emit stage .closed) := by
  have prepared := law.prepared hs
  exact law.trans prepared (law.suite (law.ready hs prepared) ht)

theorem chained (ht : P.moves (s.begun stage) t)
    (hu : P.moves (t.emit stage .closed).chainCalled u) : P.moves s u := by
  have closed := closes law hs ht
  have called := law.trans closed (law.chainCalled (law.ready hs closed))
  exact law.trans called hu

theorem ended (ht : P.moves s t) : P.whole s (t.ended stage) := by
  have released := law.released hs ht
  rw [State.ended]
  split
  · exact law.stopSeen hs released ‹_›
  · exact released

theorem failed {l m : String} (ht : P.moves (s.emit stage (.started l)) t)
    (hu : P.moves (t.emit stage (.failure m)) u) : P.moves s (u.emit stage .ended) := by
  have told := law.failure m (law.ready (law.told _ hs) ht)
  exact law.step hs (law.trans ht (law.trans told hu))

theorem raised {l : String} {f : Fault} (ht : P.moves (s.emit stage (.started l)) t)
    (hu : P.moves (t.emit stage (.error f)) u) : P.moves s (u.emit stage .ended) := by
  have told := law.error f (law.ready (law.told _ hs) ht)
  exact law.step hs (law.trans ht (law.trans told hu))

end Path

theorem course_order (law : P.Lawful stage) : P.course.toConduct.Order where
  refl := law.refl
  trans := law.trans
  overlook := id
  goes_fails := law.trans
  fails_goes := law.trans
  goes_raises := law.trans
  goes_rejects := law.trans_rejects
  goes_spoils := law.trans
  ready := law.ready

theorem course_conduct (law : P.Lawful stage) : P.course.toConduct.Lawful stage where
  toOrder := course_order law
  able := law.able
  move := law.move
  raises_standing := fun i hs ht => law.trans ht (law.move (law.ready hs ht) (.stand i))
  told := law.told
  advice := fun p k hs hi hc => law.advice p k hs hi (Interceptor.mem_cases_of_part hc)
  hookAnswered := law.hookAnswered
  hookRaised := by
    intro s i f k hs hi hh
    have raised := law.hookRaised k f hs hi hh
    cases k <;> exact raised
  adviceDone := by
    intro s i c p k b v hs _ _ hv
    have done := law.adviceDone hs hv
    exact law.trans done (law.caseAnswered k b (law.ready hs done))
  adviceRaised := by
    intro s i c p k f v hs _ _ hv
    have done := law.adviceDone hs hv
    have raised := law.caseRaised k f (law.ready hs done)
    cases k with
    | after => exact law.trans_rejects done raised
    | before => exact law.trans done raised
    | failure => exact law.trans done raised
  passed := law.step
  failed := fun hs ht hu => ⟨failed law hs ht hu, failed law hs ht hu⟩
  failedRaises := fun hs ht hu => failed law hs ht hu
  raised := by
    rintro s t u l f hs _ ht (hu | ⟨g, hu⟩)
    · exact raised law hs ht hu
    · exact raised law hs ht hu
  reported := law.step
  rejected := law.rejected

theorem course_lawful (law : P.Lawful stage) : P.course.Lawful stage where
  toLawful := course_conduct law
  begun := fun hs => begun_ready law hs
  chainCalled := fun hs => law.ready hs (law.chainCalled hs)
  halted := by
    intro s t f hs ht _
    have aborted := law.aborted (law.ready (begun_ready law hs) ht)
    exact law.released hs (closes law hs (law.trans ht aborted))
  fatal := fun hs ht _ => law.released hs (closes law hs ht)
  unchained := by
    intro s t b hs ht _
    cases b <;> exact ended law hs (closes law hs ht)
  chained := by
    intro s t u b c hs ht _ _ hu
    cases b <;> exact ended law hs (chained law hs ht hu)
  chainBroke := by
    intro s t u b f hs ht _ _ hu
    cases b <;> exact law.released hs (chained law hs ht hu)
  finished := id
  beyond := fun hs => law.released hs (law.error _ hs)
  link_refl := law.refl
  link_trans := law.trans
  link_ready := fun hs ht _ => law.ready hs ht
  reached := fun i passed hs => law.reached i passed hs
  reports := fun hs _ => law.error _ hs
  rows_refl := law.refl
  rows_trans := law.trans
  rows_ready := fun hs ht _ => law.ready hs ht
  rowReady := law.rowReady
  rowLeft := law.rowLeft
  rowDone := law.rowDone
  rowRaised := law.rowRaised
  left_trans := law.left_trans
  grouped := fun hs _ _ ht => law.suite hs ht
  ungrouped := fun _ _ _ ht => ht
  groupedLeft := fun hs _ _ ht => law.left_suite hs ht
  ungroupedLeft := fun _ _ _ ht => ht
  held_ready := law.left_ready
  dropped := law.dropped
  deferred := fun hs ht _ => law.deferred hs ht

theorem finish_ends (law : P.Lawful stage) (depth : Nat) {s : State σ} (hs : P.ready s) :
    Act.Ends (finishWith stage (innerAt stage depth)) s fun _ t => P.whole s t :=
  Course.finish_ends (course_lawful law) depth hs

end Plain

end Scenario
