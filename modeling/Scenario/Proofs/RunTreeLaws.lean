import Scenario.Proofs.LawfulSteps

/-!
# Course of a tree of runs

A run as a whole is its steps between the events of its suite, then its chain,
and at last its browser is given back. A course adds to a conduct what is said
of whole runs and of chains. Whatever the depth of nesting, the runs below a run
keep a lawful course.
-/

set_option autoImplicit false

namespace Scenario
open Scenario.Act

variable {σ : Type}

theorem World.quit_signals (stage : Stage σ) (w : World σ) (k : Session) :
    (w.quit stage k).signals = w.signals := by
  simp only [quit]
  split <;> rfl

namespace State

def quit (stage : Stage σ) (s : State σ) (k : Session) : State σ :=
  { s with world := s.world.quit stage k }

def prepared (stage : Stage σ) (s : State σ) : State σ :=
  let row := (s.run.row.put "_testCaseName" s.run.name).putAll stage.reserved
  { s with run := { s.run with row, aspect := Aspect.freeze row s.run.aspect } }

def begun (stage : Stage σ) (s : State σ) : State σ :=
  let t := s.prepared stage
  t.emit stage (.opened t.run.name t.run.case.script t.run.row)

def aborted (s : State σ) : State σ := { s with run := { s.run with aborted := true } }

def chainCalled (s : State σ) : State σ :=
  { s with run := { s.run with cursor := s.run.cursor.chainCalled } }

def released (stage : Stage σ) (s : State σ) : State σ where
  world := if s.run.ownsSession then s.world.quit stage s.run.session else s.world
  run := { s.run with cursor := s.run.cursor.finish }

def ended (stage : Stage σ) (s : State σ) : State σ :=
  if (s.released stage).isStopped then (s.released stage).record .endedStopped
  else s.released stage

theorem released_signals (stage : Stage σ) (s : State σ) :
    (s.released stage).world.signals = s.world.signals := by
  simp only [released]
  split
  · exact World.quit_signals stage s.world _
  · rfl

theorem isStopped_released (stage : Stage σ) (s : State σ) :
    (s.released stage).isStopped = s.isStopped := by
  rw [isStopped, released_signals]
  rfl

theorem ended_run (stage : Stage σ) (s : State σ) :
    (s.ended stage).run = (s.released stage).run := by
  rw [ended]
  split <;> rfl

end State

namespace Execution

def rowStart (stage : Stage σ) (rows : Rows) (n : Nat) (row : Row) (isLast : Bool)
    (s : State σ) : State σ :=
  let (session, w) := if rows.case.sharesState then (s.run.session, s.world)
    else s.world.newSession
  let (signal, w) := w.childSignal s.run.signal
  let (run, w) := Run.build stage w (rowSetup rows session signal n row isLast)
  ⟨w, run⟩

def rowRaised (stage : Stage σ) (c : Case) (s v : State σ) : State σ :=
  if !v.run.ownsSession && !c.sharesState then (s.after v).quit stage v.run.session
  else s.after v

theorem rowRaised_run (stage : Stage σ) (c : Case) (s v : State σ) :
    (rowRaised stage c s v).run = s.run := by
  rw [rowRaised]
  split <;> rfl

def givenBack (stage : Stage σ) (c : Case) (last : Run) (s : State σ) : State σ :=
  if c.sharesState then s else s.quit stage last.session

def rowsOf (stage : Stage σ) (parent : Run) (index : Nat) (c : Case) (seed : Row) : Rows where
  case := c
  name := parent.name ++ "_" ++ Text.natText index ++ "_" ++ c.name
  multiLine := c.effectiveLoader.isMultiLine stage.sources
  seed := seed
  aspect := parent.chainAspect

def grouped (stage : Stage σ) (rows : Rows) (s : State σ) : State σ :=
  if rows.multiLine then s.emit stage (.opened rows.name rows.case.script rows.seed) else s

def ungrouped (stage : Stage σ) (rows : Rows) (s : State σ) : State σ :=
  if rows.multiLine then s.emit stage .closed else s

theorem grouped_run (stage : Stage σ) (rows : Rows) (s : State σ) :
    (grouped stage rows s).run = s.run := by
  rw [grouped]
  split <;> rfl

theorem ungrouped_run (stage : Stage σ) (rows : Rows) (s : State σ) :
    (ungrouped stage rows s).run = s.run := by
  rw [ungrouped]
  split <;> rfl

/-- What rows must be for a run to have them below it: those of a chained case
that is known by its place in the chain. -/
structure Suits (stage : Stage σ) (rows : Rows) (s : State σ) : Prop where
  aspect : rows.aspect = s.run.chainAspect
  child : ∃ i child, s.run.case.chain[i]? = some child ∧
    child.materialize rows.seed = .ok rows.case ∧
    rows.name = s.run.name ++ "_" ++ Text.natText (i + 1) ++ "_" ++ rows.case.name
  multiLine : rows.multiLine = rows.case.effectiveLoader.isMultiLine stage.sources

/-- A fault of its own, or one that a chained case of the run answers with when it is read. -/
def Unread (f : Fault) (s : State σ) : Prop :=
  f.isOriginal = true ∨ ∃ child ∈ s.run.case.chain, ∃ seed, child.materialize seed = .error f

end Execution

open Execution

structure Course (σ : Type) extends Conduct σ where
  /-- How a run may end that is not beyond the allowed depth. -/
  finishes : Except Fault Bool → State σ → State σ → Prop
  /-- How a part of the rows of a chained case ends. -/
  rowed : Rows → Except Fault Bool → State σ → State σ → Prop
  /-- How the rows of a case end, given the last run. -/
  left : Rows → Run → Bool → State σ → State σ → Prop
  /-- How they end together with the suite around them, given the last run. -/
  held : Rows → Run → Bool → State σ → State σ → Prop
  /-- How a part of a chain ends; `ok` answers whether it succeeded. -/
  links : Except Fault Bool → State σ → State σ → Prop

namespace Course
variable (K : Course σ)

structure Lawful (stage : Stage σ) : Prop extends K.toConduct.Lawful stage where
  begun : ∀ {s}, K.ready s → K.ready (s.begun stage)
  chainCalled : ∀ {s}, K.ready s → K.ready s.chainCalled
  halted : ∀ {s t f}, K.ready s → K.raises f (s.begun stage) t → f.isVerification = true →
    K.finishes (.ok false) s ((t.aborted.emit stage .closed).released stage)
  fatal : ∀ {s t f}, K.ready s → K.raises f (s.begun stage) t → f.isVerification = false →
    K.finishes (.error (f.inRun t.run.name)) s ((t.emit stage .closed).released stage)
  unchained : ∀ {s t b}, K.ready s → K.answers (s.begun stage) (.ok b) t →
    t.run.cursor.needsChain = false →
    K.finishes (.ok (b && !((t.emit stage .closed).released stage).isStopped)) s
      ((t.emit stage .closed).ended stage)
  chained : ∀ {s t u b c}, K.ready s → K.answers (s.begun stage) (.ok b) t →
    t.run.cursor.needsChain = true → u.run = (t.emit stage .closed).chainCalled.run →
    K.links (.ok c) (t.emit stage .closed).chainCalled u →
    K.finishes (.ok (b && c && !(u.released stage).isStopped)) s (u.ended stage)
  chainBroke : ∀ {s t u b f}, K.ready s → K.answers (s.begun stage) (.ok b) t →
    t.run.cursor.needsChain = true → u.run = (t.emit stage .closed).chainCalled.run →
    K.links (.error f) (t.emit stage .closed).chainCalled u →
    K.finishes (.error (f.inRun t.run.name)) s (u.released stage)
  finished : ∀ {r s t}, K.finishes r s t → K.whole r s t
  beyond : ∀ {s}, K.ready s → K.whole (.error ((Execution.beyond s.run.name).inRun s.run.name)) s
    ((s.emit stage (.error (Execution.beyond s.run.name))).released stage)
  link_refl : ∀ {s}, K.ready s → K.links (.ok true) s s
  link_trans : ∀ {s t u a r}, K.links (.ok a) s t → K.links r t u →
    K.links (r.map (· && a)) s u
  link_ready : ∀ {s t b}, K.ready s → K.links (.ok b) s t → t.run = s.run → K.ready t
  reached : ∀ {s} (i : Nat) (passed : Bool), K.ready s →
    K.links (.ok true) s (s.record (.reached i passed))
  reports : ∀ {s f}, K.ready s → Unread f s → K.links (.error f) s (s.emit stage (.error f))
  rows_refl : ∀ {s rows}, K.ready s → K.rowed rows (.ok true) s s
  rows_trans : ∀ {s t u rows a r}, K.rowed rows (.ok a) s t → K.rowed rows r t u →
    K.rowed rows (r.map (· && a)) s u
  rows_ready : ∀ {s t rows b}, K.ready s → K.rowed rows (.ok b) s t → t.run = s.run → K.ready t
  rowReady : ∀ {s rows} (n : Nat) (row : Row) (isLast : Bool), K.ready s → Suits stage rows s →
    K.ready (rowStart stage rows n row isLast s)
  rowLeft : ∀ {s v rows n row isLast b}, K.ready s → Suits stage rows s →
    K.whole (.ok b) (rowStart stage rows n row isLast s) v → K.left rows v.run b s (s.after v)
  rowDone : ∀ {s v rows n row isLast b}, K.ready s → Suits stage rows s →
    K.whole (.ok b) (rowStart stage rows n row isLast s) v →
    (isDeferred rows.case && isLast) = false → K.rowed rows (.ok b) s (s.after v)
  rowRaised : ∀ {s v rows n row isLast f}, K.ready s → Suits stage rows s →
    K.whole (.error f) (rowStart stage rows n row isLast s) v →
    K.rowed rows (.error f) s (rowRaised stage rows.case s v)
  left_trans : ∀ {s t u rows last a b}, K.rowed rows (.ok a) s t → K.left rows last b t u →
    K.left rows last (b && a) s u
  grouped : ∀ {s t rows r}, K.ready s → Suits stage rows s → rows.multiLine = true →
    K.rowed rows r (s.emit stage (.opened rows.name rows.case.script rows.seed)) t →
    K.links r s (t.emit stage .closed)
  ungrouped : ∀ {s t rows r}, K.ready s → Suits stage rows s → rows.multiLine = false →
    K.rowed rows r s t → K.links r s t
  groupedLeft : ∀ {s t rows last b}, K.ready s → Suits stage rows s → rows.multiLine = true →
    K.left rows last b (s.emit stage (.opened rows.name rows.case.script rows.seed)) t →
    K.held rows last b s (t.emit stage .closed)
  ungroupedLeft : ∀ {s t rows last b}, K.ready s → Suits stage rows s → rows.multiLine = false →
    K.left rows last b s t → K.held rows last b s t
  held_ready : ∀ {s t rows last b}, K.ready s → K.held rows last b s t → K.ready ⟨t.world, last⟩
  dropped : ∀ {s t rows last b}, K.ready s → K.held rows last b s t →
    K.links (.ok b) s (givenBack stage rows.case last t)
  deferred : ∀ {s t v rows last b r}, K.ready s → K.held rows last b s t →
    isDeferred rows.case = true → v.run = last → K.links r ⟨t.world, last⟩ v →
    K.links (r.map (· && b)) s (givenBack stage rows.case last (t.after v))

variable {K} {stage : Stage σ} {inner : Inner σ}

/-- How a chain ends in the run that it belongs to. -/
def Chained (K : Course σ) (s : State σ) (r : Except Fault Bool) (t : State σ) : Prop :=
  t.run = s.run ∧ K.links r s t

theorem release_ends (s : State σ) (Q : Except Fault Unit → State σ → Prop) :
    Ends (release stage) s Q ↔ Q (.ok ()) (s.released stage) := by
  simp only [release, Act.quitOwned, ends_bind, ends_getRun]
  cases h : s.run.ownsSession <;>
    simp [State.released, h, ends_modifyWorld, ends_modifyRun, ends_pure]

theorem settle_ends (b : Bool) (s : State σ) (Q : Except Fault Bool → State σ → Prop) :
    Ends (settle stage b) s Q ↔
      Q (.ok (b && !(s.released stage).isStopped)) (s.ended stage) := by
  simp only [settle, ends_bind, release_ends, ends_isStopped, State.ended]
  cases h : (s.released stage).isStopped with
  | true =>
    rw [State.isStopped] at h
    simp only [h, if_true]
    rfl
  | false =>
    rw [State.isStopped] at h
    simp only [h, Bool.false_eq_true, if_false]
    rfl

theorem start_ends (s : State σ) (Q : Except Fault Unit → State σ → Prop) :
    Ends (start stage) s Q ↔ Q (.ok ()) (s.begun stage) := Iff.rfl

theorem leave_ends (s : State σ) (Q : Except Fault Unit → State σ → Prop) :
    Ends (leave stage) s Q ↔ Q (.ok ()) ((s.emit stage .closed).released stage) :=
  release_ends (s.emit stage .closed) Q

theorem halt_iff (f : Fault) (s : State σ) (Q : Except Fault Bool → State σ → Prop) :
    Ends (halt stage f) s Q ↔
      if f.isVerification then Q (.ok false) ((s.aborted.emit stage .closed).released stage)
      else Q (.error (f.inRun s.run.name)) ((s.emit stage .closed).released stage) := by
  simp only [halt]
  split
  · simp only [ends_bind, ends_modifyRun, leave_ends]
    rfl
  · simp only [ends_bind, ends_getRun, leave_ends]
    rfl

theorem endRun_iff (chain : Act σ Fault Bool) (b : Bool) (s : State σ)
    (Q : Except Fault Bool → State σ → Prop) :
    Ends (endRun stage chain b) s Q ↔
      if s.run.cursor.needsChain then
        Ends chain (s.emit stage .closed).chainCalled fun r u =>
          match r with
          | .ok c => Q (.ok (b && c && !(u.released stage).isStopped)) (u.ended stage)
          | .error f => Q (.error (f.inRun s.run.name)) (u.released stage)
      else
        Q (.ok (b && !((s.emit stage .closed).released stage).isStopped))
          ((s.emit stage .closed).ended stage) := by
  simp only [endRun, Act.emit, ends_bind, ends_modifyWorld, ends_getRun]
  cases s.run.cursor.needsChain with
  | false =>
    simp only [Bool.false_eq_true, if_false, ends_bind, ends_pure, settle_ends, Bool.and_true]
    rfl
  | true =>
    simp only [if_true, ends_bind, ends_modifyRun, ends_outcome]
    refine iff_of_eq (congrArg (Ends chain _) (funext fun r => funext fun u => ?_))
    cases r with
    | ok c => exact propext (settle_ends (b && c) u Q)
    | error f =>
      simp only [ends_bind, release_ends]
      rfl

section Finish
variable (law : K.Lawful stage)
  (hin : ∀ s, K.ready s → Ends inner.finish s fun r t => K.whole r s t)
  (hchain : ∀ s, K.ready s → Ends inner.chain s (K.Chained s))

theorem halt_ends (law : K.Lawful stage) {s t : State σ} {f : Fault} (hs : K.ready s)
    (ht : K.raises f (s.begun stage) t) :
    Ends (halt stage f) t fun r u => K.finishes r s u := by
  rw [halt_iff]
  split
  · rename_i hf
    exact law.halted hs ht hf
  · rename_i hf
    rw [Bool.not_eq_true] at hf
    exact law.fatal hs ht hf

theorem endRun_ends (law : K.Lawful stage) {chain : Act σ Fault Bool}
    (hchain : ∀ s, K.ready s → Ends chain s (K.Chained s)) {s t : State σ} {b : Bool}
    (hs : K.ready s) (ht : K.answers (s.begun stage) (.ok b) t) (htr : K.ready t) :
    Ends (endRun stage chain b) t fun r u => K.finishes r s u := by
  rw [endRun_iff]
  split
  · rename_i hc
    refine ends_mono (hchain _ (law.chainCalled (law.told .closed htr))) fun r u hu => ?_
    cases r with
    | ok c => exact law.chained hs ht hc hu.1 hu.2
    | error f => exact law.chainBroke hs ht hc hu.1 hu.2
  · rename_i hc
    rw [Bool.not_eq_true] at hc
    exact law.unchained hs ht hc

end Finish

section Rows
variable (law : K.Lawful stage)
  (hin : ∀ s, K.ready s → Ends inner.finish s fun r t => K.whole r s t)
include law hin

def Ranged (K : Course σ) (rows : Rows) (s : State σ) (r : Except Fault (Bool × Option Run))
    (t : State σ) : Prop :=
  t.run = s.run ∧
    match r with
    | .ok (b, none) => K.rowed rows (.ok b) s t
    | .ok (b, some last) =>
      K.left rows last b s t ∧ (isDeferred rows.case = false → K.rowed rows (.ok b) s t)
    | .error f => K.rowed rows (.error f) s t

def Grouped (K : Course σ) (rows : Rows) (s : State σ) (r : Except Fault (Bool × Option Run))
    (t : State σ) : Prop :=
  t.run = s.run ∧
    match r with
    | .ok (b, none) => K.links (.ok b) s t
    | .ok (b, some last) =>
      K.held rows last b s t ∧ (isDeferred rows.case = false → K.links (.ok b) s t)
    | .error f => K.links (.error f) s t

omit law hin in
theorem runRow_iff (rows : Rows) (n : Nat) (row : Row) (isLast : Bool) (s : State σ)
    (Q : Except Fault (Bool × Run) → State σ → Prop) :
    Ends (runRow stage inner rows n row isLast) s Q ↔
      Ends inner.finish (rowStart stage rows n row isLast s) fun r v =>
        match r with
        | .ok b => Q (.ok (b, v.run)) (s.after v)
        | .error f => Q (.error f) (rowRaised stage rows.case s v) := by
  have start : Ends (runRow stage inner rows n row isLast) s Q ↔
      Ends inner.finish (rowStart stage rows n row isLast s) fun r v =>
        Ends (settleRow stage rows.case v.run r) (s.after v) Q := by
    simp only [runRow, openSession, ends_bind, ends_getRun, rowStart]
    cases rows.case.sharesState <;> rfl
  rw [start]
  refine iff_of_eq (congrArg (Ends inner.finish _) (funext fun r => funext fun v => ?_))
  cases r with
  | ok b => rfl
  | error f =>
    simp only [settleRow, Execution.rowRaised]
    split <;> rfl

theorem runRow_ends {s : State σ} {rows : Rows} (n : Nat) (row : Row) (isLast : Bool)
    (hs : K.ready s) (hr : Suits stage rows s) :
    Ends (runRow stage inner rows n row isLast) s fun r t =>
      match r with
      | .ok (b, run) => ∃ v, v.run = run ∧ t = s.after v ∧
          K.whole (.ok b) (rowStart stage rows n row isLast s) v
      | .error f => t.run = s.run ∧ K.rowed rows (.error f) s t := by
  have whole := hin _ (law.rowReady n row isLast hs hr)
  rw [runRow_iff]
  refine ends_mono whole fun r v hv => ?_
  cases r with
  | ok b => exact ⟨v, rfl, rfl, hv⟩
  | error f =>
    exact ⟨rowRaised_run stage rows.case s v, law.rowRaised hs hr hv⟩

omit law hin in
theorem suits_of_run {s t : State σ} {rows : Rows} (hr : Suits stage rows s)
    (same : t.run = s.run) :
    Suits stage rows t := by
  refine ⟨?_, ?_, hr.multiLine⟩
  · rw [same]
    exact hr.aspect
  · rw [same]
    exact hr.child

omit law hin in
theorem runRows_iff (rows : Rows) (n : Nat) (row : Row) (rest : List Row) (b : Bool)
    (last : Option Run) (s : State σ) (Q : Except Fault (Bool × Option Run) → State σ → Prop) :
    Ends (runRows stage inner rows n (row :: rest) b last) s Q ↔
      if s.world.signals.isStopped s.run.signal then Q (.ok (b, last)) s
      else Ends inner.finish (rowStart stage rows n row rest.isEmpty s) fun r v =>
        match r with
        | .ok c => Ends (runRows stage inner rows (n + 1) rest (c && b) (some v.run)) (s.after v) Q
        | .error f => Q (.error f) (rowRaised stage rows.case s v) := by
  simp only [runRows, ends_bind, ends_getRun, ends_get]
  cases s.world.signals.isStopped s.run.signal with
  | true => rfl
  | false =>
    simp only [Bool.false_eq_true, if_false, ends_bind, runRow_iff]

theorem runRows_ends {s : State σ} {rows : Rows} (hs : K.ready s) (hr : Suits stage rows s)
    (l : List Row) (n : Nat) (success : Bool) (last : Option Run) {t : State σ}
    (ht : K.Ranged rows s (.ok (success, last)) t)
    (hl : l ≠ [] → K.rowed rows (.ok success) s t) :
    Ends (runRows stage inner rows n l success last) t (K.Ranged rows s) := by
  induction l generalizing n success last t with
  | nil => exact ht
  | cons row rest ih =>
    have linked := hl (by simp)
    have ready := law.rows_ready hs linked ht.1
    have suits : Suits stage rows t := suits_of_run hr ht.1
    simp only [runRows, ends_bind, ends_getRun, ends_get]
    split
    · exact ht
    · rw [ends_bind]
      refine ends_mono (runRow_ends law hin n row rest.isEmpty ready suits) fun r u hu => ?_
      cases r with
      | error f => exact ⟨hu.1.trans ht.1, law.rows_trans linked hu.2⟩
      | ok p =>
        obtain ⟨v, hv, rfl, whole⟩ := hu
        have same : (t.after v).run = s.run := ht.1
        have left := law.left_trans linked (law.rowLeft ready suits whole)
        have done : (isDeferred rows.case && rest.isEmpty) = false →
            K.rowed rows (.ok (p.1 && success)) s (t.after v) :=
          fun h => law.rows_trans linked (law.rowDone ready suits whole h)
        rw [hv] at left
        refine ih (n + 1) (p.1 && success) (some p.2) ⟨same, left, fun h => done ?_⟩
          fun h => done ?_
        · rw [h, Bool.false_and]
        · cases rest with
          | nil => exact absurd rfl h
          | cons _ _ => exact Bool.and_false _

omit law hin in
theorem runGroup_iff (rows : Rows) (list : List Row) (s : State σ)
    (Q : Except Fault (Bool × Option Run) → State σ → Prop) :
    Ends (runGroup stage inner rows list) s Q ↔
      Ends (runRows stage inner rows 1 list true none) (grouped stage rows s) fun r t =>
        Q r (ungrouped stage rows t) := by
  simp only [runGroup, grouped, ungrouped]
  cases rows.multiLine with
  | false => rfl
  | true => rfl

theorem runGroup_ends {s : State σ} {rows : Rows} (list : List Row) (hs : K.ready s)
    (hr : Suits stage rows s) :
    Ends (runGroup stage inner rows list) s (K.Grouped rows s) := by
  have rowsEnd : ∀ t, K.ready t → t.run = s.run →
      Ends (runRows stage inner rows 1 list true none) t (K.Ranged rows t) := by
    intro t ht same
    have begin : K.rowed rows (.ok true) t t := law.rows_refl ht
    exact runRows_ends law hin ht (suits_of_run hr same) list 1 true none ⟨rfl, begin⟩
      fun _ => begin
  simp only [runGroup]
  cases hm : rows.multiLine with
  | false =>
    simp only [Bool.false_eq_true, if_false, ends_bind, ends_outcome]
    refine ends_mono (rowsEnd s hs rfl) ?_
    rintro r t ⟨same, ht⟩
    refine ⟨same, ?_⟩
    rcases r with f | ⟨b, _ | last⟩
    · exact law.ungrouped hs hr hm ht
    · exact law.ungrouped hs hr hm ht
    · exact ⟨law.ungroupedLeft hs hr hm ht.1, fun h => law.ungrouped hs hr hm (ht.2 h)⟩
  | true =>
    simp only [if_true, Act.emit, ends_bind, ends_modifyWorld, ends_outcome]
    refine ends_mono (rowsEnd _ (law.told (.opened rows.name rows.case.script rows.seed) hs) rfl) ?_
    rintro r t ⟨same, ht⟩
    refine ⟨same, ?_⟩
    rcases r with f | ⟨b, _ | last⟩
    · exact law.grouped hs hr hm ht
    · exact law.grouped hs hr hm ht
    · exact ⟨law.groupedLeft hs hr hm ht.1, fun h => law.grouped hs hr hm (ht.2 h)⟩

end Rows

section Chain
variable (law : K.Lawful stage)
  (hin : ∀ s, K.ready s → Ends inner.finish s fun r t => K.whole r s t)
  (hchain : ∀ s, K.ready s → Ends inner.chain s (K.Chained s))
include law hchain

omit law hchain in
theorem giveBack_ends (c : Case) (last : Run) (s : State σ)
    (Q : Except Fault Unit → State σ → Prop) :
    Ends (giveBack stage c last) s Q ↔ Q (.ok ()) (givenBack stage c last s) := by
  cases h : c.sharesState <;> simp [giveBack, givenBack, h, State.quit, ends_pure, ends_modifyWorld]

omit law hchain in
theorem givenBack_run (c : Case) (last : Run) (s : State σ) :
    (givenBack stage c last s).run = s.run := by
  rw [givenBack]
  split <;> rfl

omit law hchain in
theorem runDeferred_iff (c : Case) (last : Run) (s : State σ)
    (Q : Except Fault Bool → State σ → Prop) :
    Ends (runDeferred stage inner c last) s Q ↔
      if last.aborted || State.isStopped ⟨s.world, last⟩ then
        Q (.ok true) (givenBack stage c last s)
      else
        Ends inner.chain ⟨s.world, last⟩ fun r v => Q r (givenBack stage c last (s.after v)) := by
  cases h : last.aborted || State.isStopped ⟨s.world, last⟩ with
  | true =>
    rw [State.isStopped] at h
    simp only [runDeferred, ends_bind, ends_get, h, if_true, giveBack_ends, ends_pure]
  | false =>
    rw [State.isStopped] at h
    simp only [runDeferred, ends_bind, ends_get, h, Bool.false_eq_true, if_false, ends_inside,
      giveBack_ends, ends_conclude]
    rfl

omit law hchain in
theorem runDeferred_run (c : Case) (last : Run) (s : State σ) :
    Ends (runDeferred stage inner c last) s fun _ t => t.run = s.run := by
  rw [runDeferred_iff]
  split
  · exact givenBack_run c last s
  · exact ends_mono (P := fun _ _ => True) trivial fun _ v _ => givenBack_run c last (s.after v)

omit law hchain in
theorem settleChild_iff (d : Case) (b : Bool) (last : Run) (s : State σ)
    (Q : Except Fault (Bool × Option Row) → State σ → Prop) :
    Ends (settleChild stage inner d b (some last)) s Q ↔
      if isDeferred d then
        Ends (runDeferred stage inner d last) s fun r t =>
          Q (r.map fun c => (c && b, some last.row)) t
      else Q (.ok (b, some last.row)) s := by
  simp only [settleChild]
  split
  · rw [ends_bind]
    refine iff_of_eq (congrArg (Ends _ s) (funext fun r => funext fun t => ?_))
    cases r <;> rfl
  · rfl

theorem runDeferred_ends {s t : State σ} {rows : Rows} {last : Run} {b : Bool} (hs : K.ready s)
    (hd : isDeferred rows.case = true) (same : t.run = s.run) (ht : K.held rows last b s t) :
    Ends (runDeferred stage inner rows.case last) t
      fun r u => u.run = s.run ∧ K.links (r.map (· && b)) s u := by
  rw [runDeferred_iff]
  split
  · exact ⟨(givenBack_run rows.case last t).trans same, law.dropped hs ht⟩
  · refine ends_mono (hchain _ (law.held_ready hs ht)) fun r v hv => ?_
    exact ⟨(givenBack_run rows.case last (t.after v)).trans same, law.deferred hs ht hd hv.1 hv.2⟩

theorem settleChild_ends {s t : State σ} {rows : Rows} {b : Bool} {last : Option Run}
    (hs : K.ready s) (ht : K.Grouped rows s (.ok (b, last)) t) :
    Ends (settleChild stage inner rows.case b last) t
      fun r u => u.run = s.run ∧ K.links (r.map (·.1)) s u := by
  cases last with
  | none => exact ht
  | some last =>
    rw [settleChild]
    split
    · rename_i h
      rw [ends_bind]
      refine ends_mono (runDeferred_ends law hchain hs h ht.1 ht.2.1) fun r u hu => ?_
      cases r <;> exact hu
    · rename_i h
      rw [Bool.not_eq_true] at h
      exact ⟨ht.1, ht.2.2 h⟩

include hin

theorem runChild_ends (i : Nat) {child : Case} (seed : Row) {s : State σ} (hs : K.ready s)
    (hc : s.run.case.chain[i]? = some child) :
    Ends (runChild stage inner (i + 1) child seed) s
      fun r t => t.run = s.run ∧ K.links (r.map (·.1)) s t := by
  rw [runChild, ends_bind, ends_getRun]
  cases hm : child.materialize seed with
  | error f =>
    exact ⟨rfl, law.reports hs (.inr ⟨child, List.mem_of_getElem? hc, seed, hm⟩)⟩
  | ok c =>
    simp only [report, ends_bind, ends_pure]
    cases hl : c.effectiveLoader.load stage.sources stage.dataDir seed with
    | error f => exact ⟨rfl, law.reports hs (.inl (Loader.isOriginal_of_load hl))⟩
    | ok list =>
      simp only [ends_pure]
      refine ends_mono (runGroup_ends law hin list hs ⟨rfl, ⟨i, child, hc, hm, rfl⟩, rfl⟩)
        fun r t ht => ?_
      rcases r with f | ⟨b, last⟩
      · exact ht
      · exact settleChild_ends law hchain hs ht

omit law hin hchain in
theorem runChild_loaded {c d : Case} {seed : Row} {list : List Row} {i : Nat} {s : State σ}
    (read : c.materialize seed = .ok d)
    (loaded : d.effectiveLoader.load stage.sources stage.dataDir seed = .ok list)
    (Q : Except Fault (Bool × Option Row) → State σ → Prop) :
    Ends (runChild stage inner i c seed) s Q ↔
      Ends (runGroup stage inner (rowsOf stage s.run i d seed) list) s fun r t =>
        match r with
        | .ok p => Ends (settleChild stage inner d p.1 p.2) t Q
        | .error f => Q (.error f) t := by
  simp only [runChild, ends_bind, ends_getRun, read, report, ends_pure, loaded]
  refine iff_of_eq (congrArg (Ends _ _) (funext fun r => funext fun t => ?_))
  cases r <;> rfl

omit law hin hchain in
theorem runChildren_iff (i : Nat) (c : Case) (rest : List Case) (seed : Row) (success : Bool)
    (s : State σ) (Q : Except Fault Bool → State σ → Prop) :
    Ends (runChildren stage inner i (c :: rest) seed success) s Q ↔
      if s.world.signals.isStopped s.run.signal then Q (.ok success) s
      else if isPassed c seed then
        Ends (runChildren stage inner (i + 1) rest seed success) (s.record (.reached i true)) Q
      else
        Ends (runChild stage inner i c seed) (s.record (.reached i false)) fun r t =>
          match r with
          | .ok p => Ends (runChildren stage inner (i + 1) rest
              (nextSeed s.run.case.takesOver seed p.2) (p.1 && success)) t Q
          | .error f => Q (.error f) t := by
  simp only [runChildren, ends_bind, ends_getRun, ends_get]
  cases s.world.signals.isStopped s.run.signal with
  | true => rfl
  | false =>
    cases isPassed c seed with
    | true => rfl
    | false =>
      simp only [Bool.false_eq_true, if_false, ends_bind, ends_modifyWorld]
      refine iff_of_eq (congrArg (Ends _ _) (funext fun r => funext fun t => ?_))
      cases r <;> rfl

theorem runChildren_ends {s : State σ} (hs : K.ready s) (l : List Case) (i : Nat)
    (hl : s.run.case.chain.drop i = l) (seed : Row) (success : Bool)
    {t : State σ} (ht : K.Chained s (.ok success) t) :
    Ends (runChildren stage inner (i + 1) l seed success) t (K.Chained s) := by
  induction l generalizing i seed success t with
  | nil => exact ht
  | cons child rest ih =>
    have hrest : s.run.case.chain.drop (i + 1) = rest := by
      rw [← List.tail_drop, hl]
      rfl
    have hchild : t.run.case.chain[i]? = some child := by
      rw [ht.1, ← List.head?_drop, hl]
      rfl
    have ready := law.link_ready hs ht.2 ht.1
    have came : ∀ passed, K.Chained s (.ok success) (t.record (.reached (i + 1) passed)) :=
      fun passed => ⟨ht.1, law.link_trans ht.2 (law.reached (i + 1) passed ready)⟩
    rw [runChildren_iff]
    split
    · exact ht
    · split
      · exact ih _ hrest _ _ (came true)
      · have linked := came false
        have ready := law.link_ready hs linked.2 linked.1
        refine ends_mono (runChild_ends law hin hchain i seed ready hchild) fun r u hu => ?_
        have same := hu.1.trans linked.1
        cases r with
        | error f => exact ⟨same, law.link_trans linked.2 hu.2⟩
        | ok p => exact ih _ hrest _ _ ⟨same, law.link_trans linked.2 hu.2⟩

theorem chain_ends {s : State σ} (hs : K.ready s) :
    Ends (chain stage inner) s (K.Chained s) := by
  rw [chain, ends_bind, ends_getRun]
  exact runChildren_ends law hin hchain hs _ 0 rfl _ true ⟨rfl, law.link_refl hs⟩

omit law hin hchain in
theorem finishWith_iff (s : State σ) (Q : Except Fault Bool → State σ → Prop) :
    Ends (finishWith stage inner) s Q ↔
      Ends (steps stage inner (s.run.case.steps.length + 1) true) (s.begun stage) fun r t =>
        match r with
        | .ok b => Ends (endRun stage (chain stage inner) b) t Q
        | .error f => Ends (halt stage f) t Q := by
  rw [finishWith, ends_bind, start_ends]
  simp only [ends_bind, ends_getRun, ends_outcome]
  refine iff_of_eq (congrArg (Ends _ _) (funext fun r => funext fun t => ?_))
  cases r <;> rfl

theorem finishWith_ends {s : State σ} (hs : K.ready s) :
    Ends (finishWith stage inner) s fun r t => K.finishes r s t := by
  have begun := law.begun hs
  rw [finishWith_iff]
  refine ends_mono (Conduct.steps_ends law.toMobile (Conduct.turns law.toLawful hin) begun _ true
    (law.refl begun)) ?_
  intro r t ht
  cases r with
  | error f => exact halt_ends law hs ht
  | ok b =>
    have goes : K.goes (s.begun stage) t := by
      cases b with
      | true => exact ht
      | false => exact law.overlook ht
    exact endRun_ends law (fun _ h => chain_ends law hin hchain h) hs ht (law.ready begun goes)

end Chain

theorem beyond_iff (s : State σ) (Q : Except Fault Bool → State σ → Prop) :
    Ends (innerAt stage 0).finish s Q ↔ Q (.error ((beyond s.run.name).inRun s.run.name))
      ((s.emit stage (.error (beyond s.run.name))).released stage) := by
  simp only [innerAt, beyondDepth, Act.emit, ends_bind, ends_getRun, ends_modifyWorld, release_ends]
  rfl

theorem beyondDepth_ends (law : K.Lawful stage) {s : State σ} (hs : K.ready s) :
    Ends (innerAt stage 0).finish s fun r t => K.whole r s t := by
  rw [beyond_iff]
  exact law.beyond hs

/-- Runs and chains at any depth keep a lawful course. -/
theorem innerAt_ends (law : K.Lawful stage) (depth : Nat) :
    (∀ s, K.ready s → Ends (innerAt stage depth).finish s fun r t => K.whole r s t) ∧
      ∀ s, K.ready s → Ends (innerAt stage depth).chain s (K.Chained s) := by
  induction depth with
  | zero =>
    exact ⟨fun s hs => beyondDepth_ends law hs, fun s hs => ⟨rfl, law.reports hs (.inl rfl)⟩⟩
  | succ depth ih =>
    refine ⟨fun s hs => ?_, fun s hs => chain_ends law ih.1 ih.2 hs⟩
    exact ends_mono (finishWith_ends law ih.1 ih.2 hs) fun _ _ h => law.finished h

theorem finish_ends (law : K.Lawful stage) (depth : Nat) {s : State σ} (hs : K.ready s) :
    Ends (finishWith stage (innerAt stage depth)) s fun r t => K.finishes r s t :=
  finishWith_ends law (innerAt_ends law depth).1 (innerAt_ends law depth).2 hs

end Course

end Scenario
