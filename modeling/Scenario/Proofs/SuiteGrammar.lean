import Scenario.Proofs.RecordedEntries

/-!
# Suites of a tree of runs

What listeners are told of suites follows a grammar, however the runs end. The
suite of a run holds the suites of its advice and is closed before its chain.
The rows of a chained case of several lines lie in a suite around them, and a
chain that waits for the last row comes after that suite.
-/

set_option autoImplicit false

namespace Scenario
open Scenario.Execution

variable {σ : Type} {stage : Stage σ}

/-- What is told of suites, and where the run of an advice case is asked for. -/
inductive Mark where
  | opened (suite : String)
  | closed
  | advice
  deriving DecidableEq, Repr

def TraceEntry.mark? : TraceEntry → Option Mark
  | .event (.opened n _ _) => some (.opened n)
  | .event .closed => some .closed
  | .adviceBegun _ => some .advice
  | _ => none

namespace Mark

def next : List String → Mark → Option (List String)
  | st, .opened n => some (n :: st)
  | _ :: st, .closed => some st
  | [], .closed => none
  | st, .advice => some st

def after (st : List String) (ms : List Mark) : Option (List String) := ms.foldlM next st

def Balanced (ms : List Mark) : Prop := ∀ st, after st ms = some st

theorem after_append (st : List String) (ms ms' : List Mark) :
    after st (ms ++ ms') = (after st ms).bind fun st => after st ms' :=
  List.foldlM_append

theorem balanced_nil : Balanced [] := fun _ => rfl

theorem Balanced.append {ms ms' : List Mark} (h : Balanced ms) (h' : Balanced ms') :
    Balanced (ms ++ ms') := by
  intro st
  rw [after_append, h st]
  exact h' st

theorem Balanced.suite {ms : List Mark} (h : Balanced ms) (n : String) :
    Balanced (.opened n :: (ms ++ [.closed])) := by
  intro st
  show after (n :: st) (ms ++ [.closed]) = some st
  rw [after_append, h]
  rfl

theorem Balanced.advice {ms : List Mark} (h : Balanced ms) : Balanced (.advice :: ms) := h

end Mark

def Run.waiting (r : Run) : List Case := if r.cursor.pending then r.case.chain else []

namespace Suites
open Mark

def marks (l : List TraceEntry) : List Mark := l.reverse.filterMap TraceEntry.mark?

/-- What suites belong to. -/
inductive Part where
  | run (name : String) (chain : List Case)
  | advice (run : String)
  | rows (case : Case) (name : String)
  | chain (run : String) (cases : List Case)

namespace Part

def repeats : Part → Bool
  | .run _ _ => false
  | _ => true

end Part

section Grammar
variable (sources : String → Option DataSource)

def isGrouped (c : Case) : Bool := c.effectiveLoader.isMultiLine sources

def childName (run : String) (i : Nat) (c : Case) : String :=
  run ++ "_" ++ Text.natText (i + 1) ++ "_" ++ c.name

def rowName (c : Case) (name : String) (n : Nat) : String :=
  if isGrouped sources c then name ++ "_row_" ++ Text.natText n else name

def group (c : Case) (name : String) (ms : List Mark) : List Mark :=
  if isGrouped sources c then .opened name :: (ms ++ [.closed]) else ms

def nestedChain (c : Case) : List Case := if c.nestedChain then c.chain else []

def deferredChain (c : Case) : List Case := if c.nestedChain then [] else c.chain

theorem deferredChain_eq_chain {c : Case} (h : isDeferred c = true) :
    deferredChain c = c.chain := by
  rw [isDeferred, Bool.and_eq_true, Bool.not_eq_true'] at h
  rw [deferredChain, h.2]
  rfl

theorem deferredChain_eq_nil {c : Case} (h : isDeferred c = false) : deferredChain c = [] := by
  rw [isDeferred, Case.hasChain] at h
  rw [deferredChain]
  cases hn : c.nestedChain with
  | true => rfl
  | false =>
    rw [hn] at h
    simpa using h

/-- The suites that a part of a run may tell of, in their order. -/
inductive Word : Part → List Mark → Prop
  | none {p : Part} (h : p.repeats = true) : Word p []
  | append {p : Part} {ms ms' : List Mark} (h : p.repeats = true) :
      Word p ms → Word p ms' → Word p (ms ++ ms')
  | run {name : String} {chain : List Case} {advised chained : List Mark} :
      Word (.advice name) advised → Word (.chain name chain) chained →
      Word (.run name chain) (.opened name :: (advised ++ .closed :: chained))
  | advice {run : String} {chain : List Case} {ms : List Mark} (place : String) :
      Word (.run (run ++ "_" ++ place) chain) ms → Word (.advice run) (.advice :: ms)
  /-- Advice beyond the allowed depth opens no suite. -/
  | unopened {run : String} : Word (.advice run) [.advice]
  | row {c : Case} {name : String} {ms : List Mark} (n : Nat) :
      Word (.run (rowName sources c name n) (nestedChain c)) ms → Word (.rows c name) ms
  | child {run : String} {cases : List Case} {child c : Case} {rows deferred : List Mark}
      {seed : Row} (i n : Nat) (place : cases[i]? = some child)
      (read : child.materialize seed = .ok c) :
      Word (.rows c (childName run i c)) rows →
      Word (.chain (rowName sources c (childName run i c) n) (deferredChain c)) deferred →
      Word (.chain run cases) (group sources c (childName run i c) rows ++ deferred)

variable {sources}

theorem balanced_group {ms : List Mark} (h : Balanced ms) (c : Case) (name : String) :
    Balanced (group sources c name ms) := by
  rw [group]
  split
  · exact h.suite name
  · exact h

theorem Word.balanced {p : Part} {ms : List Mark} (h : Word sources p ms) : Balanced ms := by
  induction h with
  | none _ => exact balanced_nil
  | append _ _ _ h h' => exact h.append h'
  | @run name _ advised chained _ _ ha hc =>
    have suite : Balanced (.opened name :: (advised ++ [.closed])) := ha.suite name
    have both := suite.append hc
    rwa [List.cons_append, List.append_assoc] at both
  | advice _ _ h => exact h.advice
  | unopened => exact balanced_nil.advice
  | row _ _ h => exact h
  | child _ _ _ _ _ _ hr hd => exact (balanced_group hr _ _).append hd

/-- The suite of a run is closed before its chain. -/
theorem word_run {name : String} {cases : List Case} {ms : List Mark}
    (h : Word sources (.run name cases) ms) :
    ∃ advised chained, ms = .opened name :: (advised ++ .closed :: chained) ∧
      Word sources (.advice name) advised ∧ Word sources (.chain name cases) chained := by
  cases h with
  | none h => cases h
  | append h _ _ => cases h
  | run ha hc => exact ⟨_, _, rfl, ha, hc⟩

end Grammar

section Marks

theorem marks_excerpt : Excerpt marks := by
  refine excerpt_entries fun e silent => ?_
  cases e with
  | event _ => cases silent
  | adviceBegun _ => cases silent
  | _ => rfl

theorem marks_around (n : String) (p : Script) (x : Row) (l : List TraceEntry) :
    marks (.event .closed :: (l ++ [.event (.opened n p x)])) =
      .opened n :: (marks l ++ [.closed]) := by
  rw [marks_excerpt.cons, marks_excerpt.append]
  rfl

end Marks

/-- What was told of suites from one state to another belongs to a part. -/
def Adds (stage : Stage σ) (p : Part) : State σ → State σ → Prop :=
  Along fun l => Word stage.sources p (marks l)

theorem additive {p : Part} (hp : p.repeats = true) :
    Additive fun l => Word stage.sources p (marks l) where
  append := by
    intro l l' h h'
    rw [marks_excerpt.append]
    exact .append hp h h'
  silent := by
    intro l h
    rw [marks_excerpt.silent h]
    exact .none hp

section Adds
variable {p : Part} {s t u : State σ}

theorem adds_trans (hp : p.repeats = true) (h : Adds stage p s t) (h' : Adds stage p t u) :
    Adds stage p s u := along_trans (additive hp) h h'

theorem adds_record (hp : p.repeats = true) (s : State σ) {e : TraceEntry} (he : marks [e] = []) :
    Adds stage p s (s.record e) := by
  refine along_record ?_
  rw [he]
  exact .none hp

theorem adds_emit (hp : p.repeats = true) (s : State σ) {e : Event} (he : marks [.event e] = []) :
    Adds stage p s (s.emit stage e) := by
  refine along_emit ?_
  rw [he]
  exact .none hp

theorem adds_around (hp : p.repeats = true) {e e' : Event} (h : Adds stage p (s.emit stage e) t)
    (he : marks [.event e] = []) (he' : marks [.event e'] = []) :
    Adds stage p s (t.emit stage e') :=
  adds_trans hp (adds_trans hp (adds_emit hp s he) h) (adds_emit hp t he')

theorem adds_ended (hp : p.repeats = true) (h : Adds stage p s t) :
    Adds stage p s (t.ended stage) :=
  adds_trans hp h (along_ended (additive hp) (.none hp) t)

end Adds

def below (s : State σ) : Part := .run s.run.name s.run.waiting

/-- How a whole run may tell of suites. Beyond the allowed depth no suite is opened. -/
def Whole (stage : Stage σ) (s t : State σ) : Prop :=
  Adds stage (below s) s t ∨ Along (fun l => marks l = []) s t

structure Bears (s t : State σ) : Prop where
  name : t.run.name = s.run.name
  case : t.run.case = s.run.case

theorem Bears.trans {s t u : State σ} (h : Bears s t) (h' : Bears t u) : Bears s u :=
  ⟨h'.name.trans h.name, h'.case.trans h.case⟩

def Steps (stage : Stage σ) (s t : State σ) : Prop :=
  Adds stage (.advice s.run.name) s t ∧ s.run.Kept t.run

/-- The last run of the rows of a chained case. -/
structure Left (stage : Stage σ) (rows : Rows) (last : Run) : Prop where
  case : last.case = rows.case
  name : ∃ n, last.name = rowName stage.sources rows.case rows.name n

def Rowed (stage : Stage σ) (rows : Rows) (s t : State σ) : Prop :=
  Adds stage (.rows rows.case rows.name) s t ∧ t.run = s.run

structure Held (stage : Stage σ) (rows : Rows) (last : Run) (s t : State σ) : Prop where
  told : Along (fun l => ∃ ms, marks l = group stage.sources rows.case rows.name ms ∧
    Word stage.sources (.rows rows.case rows.name) ms) s t
  same : t.run = s.run
  suits : Suits stage rows s
  left : Left stage rows last

def Linked (stage : Stage σ) (s t : State σ) : Prop :=
  Adds stage (.chain s.run.name s.run.case.chain) s t ∧ t.run = s.run

def course (stage : Stage σ) : Course σ where
  ready := fun _ => True
  able := fun _ => True
  goes := Steps stage
  fails := Steps stage
  raises := fun _ => Steps stage
  rejects := fun _ => Steps stage
  spoils := fun _ => Steps stage
  whole := fun _ s t => Whole stage s t ∧ Bears s t
  finishes := fun _ s t => Adds stage (below s) s t ∧ Bears s t
  rowed := fun rows _ => Rowed stage rows
  left := fun rows last _ s t => Rowed stage rows s t ∧ Left stage rows last
  held := fun rows last _ => Held stage rows last
  links := fun _ => Linked stage

section Parts
variable {s t u : State σ}

theorem Steps.refl (s : State σ) : Steps stage s s := ⟨along_same (additive rfl) rfl, .refl _⟩

theorem Steps.trans (h : Steps stage s t) (h' : Steps stage t u) : Steps stage s u := by
  obtain ⟨later, kept⟩ := h'
  rw [h.2.name] at later
  exact ⟨adds_trans rfl h.1 later, h.2.trans kept⟩

theorem Steps.step {l : String} (h : Steps stage (s.emit stage (.started l)) t) :
    Steps stage s (t.emit stage .ended) := ⟨adds_around rfl h.1 rfl rfl, h.2⟩

theorem steps_emit (s : State σ) {e : Event} (he : marks [.event e] = []) :
    Steps stage s (s.emit stage e) := ⟨adds_emit rfl s he, .refl _⟩

theorem steps_record (s : State σ) {e : TraceEntry} (he : marks [e] = []) :
    Steps stage s (s.record e) := ⟨adds_record rfl s he, .refl _⟩

theorem Steps.around {l : String} {e : Event} (ht : Steps stage (s.emit stage (.started l)) t)
    (he : marks [.event e] = []) (hu : Steps stage (t.emit stage e) u) :
    Steps stage s (u.emit stage .ended) :=
  (ht.trans ((steps_emit t he).trans hu)).step

theorem Linked.trans (h : Linked stage s t) (h' : Linked stage t u) : Linked stage s u := by
  obtain ⟨later, same⟩ := h'
  rw [h.2] at later same
  exact ⟨adds_trans rfl h.1 later, same⟩

theorem Rowed.trans {rows : Rows} (h : Rowed stage rows s t) (h' : Rowed stage rows t u) :
    Rowed stage rows s u := ⟨adds_trans rfl h.1 h'.1, h'.2.trans h.2⟩

theorem adviceStart_name (stage : Stage σ) (s : State σ) (c : Case) (p : Step) (k : AdviceKind) :
    ∃ place, (adviceStart stage s c p k).run.name = s.run.name ++ "_" ++ place := by
  refine ⟨Text.padded 2 (s.run.cursor.current?.getD 0) ++ "_" ++ p.kind.name ++ "_" ++ k.name, ?_⟩
  simp [adviceStart, adviceSetup, Run.build, String.append_assoc]

theorem steps_advice {v : State σ} {c : Case} {p : Step} {k : AdviceKind}
    (h : Whole stage (adviceStart stage s c p k) v) : Steps stage s (s.after v) := by
  have begun : Along (fun l => marks l = [.advice]) s (adviceStart stage s c p k) :=
    along_record rfl
  refine ⟨?_, .refl _⟩
  rcases h with run | beyond
  · obtain ⟨place, name⟩ := adviceStart_name stage s c p k
    refine along_seq begun run fun l l' hl hl' => ?_
    rw [below, name] at hl'
    rw [marks_excerpt.append, hl]
    exact .advice place hl'
  · refine along_seq begun beyond fun l l' hl hl' => ?_
    rw [marks_excerpt.append, hl, hl']
    exact .unopened

theorem adds_below (h : Steps stage (s.begun stage) t) {chain : List Case}
    (hchain : chain = s.run.waiting)
    (hu : Adds stage (.chain s.run.name chain) (t.emit stage .closed) u) :
    Adds stage (below s) s u := by
  subst hchain
  have suite : Along (fun l => ∃ ms, marks l = .opened s.run.name :: (ms ++ [.closed]) ∧
      Word stage.sources (.advice s.run.name) ms) (s.prepared stage) (t.emit stage .closed) := by
    refine along_around h.1 fun l hl => ⟨marks l, marks_around _ _ _ l, hl⟩
  have opened : Along (fun l => ∃ ms, marks l = .opened s.run.name :: (ms ++ [.closed]) ∧
      Word stage.sources (.advice s.run.name) ms) s (t.emit stage .closed) := suite
  refine along_seq opened hu ?_
  rintro l l' ⟨ms, hl, hms⟩ hl'
  rw [marks_excerpt.append, hl, List.cons_append, List.append_assoc]
  exact .run hms hl'

theorem bears_ended : Bears t (t.ended stage) := by
  rw [State.ended]
  split <;> exact ⟨rfl, rfl⟩

theorem bears_chained (h : Steps stage (s.begun stage) t)
    (same : u.run = (t.emit stage .closed).chainCalled.run) : Bears s u := by
  refine ⟨?_, ?_⟩
  · rw [same]
    exact h.2.name
  · rw [same]
    exact h.2.case

theorem steps_of_answers {b : Bool} (h : (course stage).answers s (.ok b) t) : Steps stage s t := by
  cases b <;> exact h

theorem waiting_of_needsChain (h : Steps stage (s.begun stage) t)
    (hc : t.run.cursor.needsChain = true) : s.run.waiting = s.run.case.chain := by
  have pending : t.run.cursor.pending = true := by
    rw [Cursor.needsChain, Bool.and_eq_true] at hc
    exact hc.1
  rw [h.2.pending] at pending
  exact if_pos pending

/-- What the chain of a run tells, once the suite of the run is closed. -/
theorem adds_chained (h : Steps stage (s.begun stage) t) (hc : t.run.cursor.needsChain = true)
    (hu : Adds stage (.chain t.run.name t.run.case.chain) (t.emit stage .closed).chainCalled u) :
    Adds stage (below s) s u := by
  have chained : Adds stage (.chain s.run.name s.run.case.chain) (t.emit stage .closed) u := by
    rw [h.2.name, h.2.case] at hu
    exact hu
  exact adds_below h (waiting_of_needsChain h hc).symm chained

end Parts

section Rows
variable {s t : State σ} {rows : Rows}

theorem word_child (hr : Suits stage rows s) (n : Nat) {ms ms' : List Mark}
    (h : Word stage.sources (.rows rows.case rows.name) ms)
    (h' : Word stage.sources (.chain (rowName stage.sources rows.case rows.name n)
      (deferredChain rows.case)) ms') :
    Word stage.sources (.chain s.run.name s.run.case.chain)
      (group stage.sources rows.case rows.name ms ++ ms') := by
  obtain ⟨i, child, hc, hm, hn⟩ := hr.child
  have name : rows.name = childName s.run.name i rows.case := hn
  rw [name] at h h' ⊢
  exact .child i n hc hm h h'

theorem grouped_told (hr : Suits stage rows s) (hm : rows.multiLine = true)
    (h : Adds stage (.rows rows.case rows.name)
      (s.emit stage (.opened rows.name rows.case.script rows.seed)) t) :
    Along (fun l => ∃ ms, marks l = group stage.sources rows.case rows.name ms ∧
      Word stage.sources (.rows rows.case rows.name) ms) s (t.emit stage .closed) := by
  have grouped : isGrouped stage.sources rows.case = true := by rw [isGrouped, ← hr.multiLine, hm]
  refine along_around h fun l hl => ⟨marks l, ?_, hl⟩
  rw [marks_around, group, if_pos grouped]

theorem ungrouped_told (hr : Suits stage rows s) (hm : rows.multiLine = false)
    (h : Adds stage (.rows rows.case rows.name) s t) :
    Along (fun l => ∃ ms, marks l = group stage.sources rows.case rows.name ms ∧
      Word stage.sources (.rows rows.case rows.name) ms) s t := by
  have ungrouped : ¬ isGrouped stage.sources rows.case = true := by
    rw [isGrouped, ← hr.multiLine, hm]
    exact Bool.false_ne_true
  refine along_mono h fun l hl => ⟨marks l, ?_, hl⟩
  rw [group, if_neg ungrouped]

theorem linked_of_group (hr : Suits stage rows s) (same : t.run = s.run)
    (h : Along (fun l => ∃ ms, marks l = group stage.sources rows.case rows.name ms ∧
      Word stage.sources (.rows rows.case rows.name) ms) s t) : Linked stage s t := by
  refine ⟨along_mono h ?_, same⟩
  rintro l ⟨ms, hl, hms⟩
  have child := word_child hr 1 hms (.none rfl)
  rw [List.append_nil] at child
  rw [hl]
  exact child

theorem givenBack_adds {p : Part} (hp : p.repeats = true) (c : Case) (last : Run) (s : State σ) :
    Adds stage p s (givenBack stage c last s) := along_givenBack (additive hp) c last s

theorem Linked.givenBack (h : Linked stage s t) (c : Case) (last : Run) :
    Linked stage s (givenBack stage c last t) :=
  ⟨adds_trans rfl h.1 (givenBack_adds rfl c last t), (Course.givenBack_run c last t).trans h.2⟩

theorem Held.deferred {last : Run} {v : State σ} (h : Held stage rows last s t)
    (hd : isDeferred rows.case = true) (hv : Linked stage ⟨t.world, last⟩ v) :
    Linked stage s (t.after v) := by
  refine ⟨?_, h.same⟩
  obtain ⟨n, name⟩ := h.left.name
  have chained : Adds stage (.chain last.name last.case.chain) t (t.after v) := hv.1
  rw [name, h.left.case, ← deferredChain_eq_chain hd] at chained
  refine along_seq h.told chained ?_
  rintro l l' ⟨ms, hl, hms⟩ hl'
  rw [marks_excerpt.append, hl]
  exact word_child h.suits n hms hl'

theorem rowStart_run (stage : Stage σ) (rows : Rows) (n : Nat) (row : Row) (isLast : Bool)
    (s : State σ) :
    let r := (rowStart stage rows n row isLast s).run
    r.case = rows.case ∧ r.cursor.pending = (rows.case.nestedChain && rows.case.hasChain) ∧
      r.name = if rows.multiLine then rows.name ++ "_row_" ++ Text.natText n else rows.name := by
  simp only [rowStart]
  cases rows.case.sharesState <;> exact ⟨rfl, rfl, rfl⟩

theorem rowStart_waiting (rows : Rows) (n : Nat) (row : Row) (isLast : Bool) (s : State σ) :
    (rowStart stage rows n row isLast s).run.waiting = nestedChain rows.case := by
  obtain ⟨case, pending, _⟩ := rowStart_run stage rows n row isLast s
  rw [Run.waiting, case, pending, nestedChain, Case.hasChain]
  cases rows.case.nestedChain <;> cases rows.case.chain <;> rfl

theorem rowStart_name (multi : rows.multiLine = isGrouped stage.sources rows.case) (n : Nat)
    (row : Row) (isLast : Bool) (s : State σ) :
    (rowStart stage rows n row isLast s).run.name =
      rowName stage.sources rows.case rows.name n := by
  obtain ⟨_, _, name⟩ := rowStart_run stage rows n row isLast s
  rw [name, multi]
  rfl

theorem below_rowStart (hr : Suits stage rows s) (n : Nat) (row : Row) (isLast : Bool) :
    below (rowStart stage rows n row isLast s) =
      .run (rowName stage.sources rows.case rows.name n) (nestedChain rows.case) := by
  rw [below, rowStart_waiting, rowStart_name hr.multiLine]

theorem rowed_of_whole {v : State σ} {n : Nat} {row : Row} {isLast : Bool}
    (hr : Suits stage rows s) (h : Whole stage (rowStart stage rows n row isLast s) v) :
    Rowed stage rows s (s.after v) := by
  have told : Adds stage (.rows rows.case rows.name) (rowStart stage rows n row isLast s) v := by
    rcases h with run | beyond
    · rw [below_rowStart hr] at run
      exact along_mono run fun l hl => .row n hl
    · refine along_mono beyond fun l hl => ?_
      rw [hl]
      exact .none rfl
  exact ⟨along_row told, rfl⟩

theorem left_of_bears {v : State σ} {n : Nat} {row : Row} {isLast : Bool}
    (hr : Suits stage rows s) (h : Bears (rowStart stage rows n row isLast s) v) :
    Left stage rows v.run := by
  obtain ⟨case, _, _⟩ := rowStart_run stage rows n row isLast s
  exact ⟨h.case.trans case, n, h.name.trans (rowStart_name hr.multiLine n row isLast s)⟩

end Rows

theorem conduct (stage : Stage σ) : (course stage).toConduct.Lawful stage where
  refl := fun _ => .refl _
  trans := .trans
  overlook := id
  goes_fails := .trans
  fails_goes := .trans
  goes_raises := .trans
  goes_rejects := .trans
  goes_spoils := .trans
  ready := fun _ _ => trivial
  able := fun _ _ => trivial
  move := fun _ h => ⟨along_move (additive rfl) h, Run.kept_move h⟩
  raises_standing := by
    intro f s t i _ h
    have stands : Move stage t (t.standing i) := .stand i
    exact ⟨adds_trans rfl h.1 (along_move (additive rfl) stands), h.2.trans (Run.kept_move stands)⟩
  told := fun _ _ => trivial
  advice := fun _ _ _ _ _ => trivial
  hookAnswered := by
    intro s _ k b _ _ _
    exact steps_record s rfl
  hookRaised := by
    intro s _ f k _ _ _
    cases k <;> exact steps_record s rfl
  adviceDone := fun _ _ _ h => (steps_advice h.1).trans (steps_record _ rfl)
  adviceRaised := by
    intro s i c p k f v _ _ _ h
    cases k <;> exact (steps_advice h.1).trans (steps_record _ rfl)
  passed := fun _ h => h.step
  failed := fun _ ht hu => ⟨ht.around rfl hu, ht.around rfl hu⟩
  failedRaises := fun _ ht hu => ht.around rfl hu
  raised := by
    rintro s t u l f _ _ ht (hu | ⟨_, hu⟩)
    · exact ht.around rfl hu
    · exact ht.around rfl hu
  reported := fun _ h => h.step
  rejected := fun {s} _ _ l _ _ ht hu => by
    have started : Steps stage s (s.emit stage (.started l)) := steps_emit s rfl
    exact (started.trans ht).trans hu

theorem lawful (stage : Stage σ) : (course stage).Lawful stage where
  toLawful := conduct stage
  begun := fun _ => trivial
  chainCalled := fun _ => trivial
  halted := fun _ ht _ =>
    ⟨adds_below ht rfl (along_released (additive rfl) _), ⟨ht.2.name, ht.2.case⟩⟩
  fatal := fun _ ht _ =>
    ⟨adds_below ht rfl (along_released (additive rfl) _), ⟨ht.2.name, ht.2.case⟩⟩
  unchained := by
    intro s t b _ ht _
    have steps := steps_of_answers ht
    have closed : Adds stage (.chain s.run.name s.run.waiting) (t.emit stage .closed)
        (t.emit stage .closed) := along_same (additive rfl) rfl
    refine ⟨adds_below steps rfl (adds_ended rfl closed), .trans ?_ bears_ended⟩
    exact ⟨steps.2.name, steps.2.case⟩
  chained := by
    intro s t u b c _ ht hc same hu
    have steps := steps_of_answers ht
    exact ⟨adds_chained steps hc (adds_ended rfl hu.1), (bears_chained steps same).trans bears_ended⟩
  chainBroke := by
    intro s t u b f _ ht hc same hu
    have steps := steps_of_answers ht
    have left : Adds stage (.chain t.run.name t.run.case.chain) (t.emit stage .closed).chainCalled
        (u.released stage) := adds_trans rfl hu.1 (along_released (additive rfl) u)
    exact ⟨adds_chained steps hc left, (bears_chained steps same).trans ⟨rfl, rfl⟩⟩
  finished := fun h => ⟨.inl h.1, h.2⟩
  beyond := by
    intro s _
    have error : Along (fun l => marks l = []) s (s.emit stage (.error (beyond s.run.name))) :=
      along_emit rfl
    exact ⟨.inr (marks_excerpt.along error (along_released marks_excerpt.additive _)), ⟨rfl, rfl⟩⟩
  link_refl := fun {s} _ => ⟨along_same (additive rfl) rfl, rfl⟩
  link_trans := .trans
  link_ready := fun _ _ _ => trivial
  reached := fun {s} i passed _ => ⟨adds_record rfl s rfl, rfl⟩
  reports := fun {s f} _ _ => ⟨adds_emit rfl s rfl, rfl⟩
  rows_refl := fun {s _} _ => ⟨along_same (additive rfl) rfl, rfl⟩
  rows_trans := .trans
  rows_ready := fun _ _ _ => trivial
  rowReady := fun _ _ _ _ _ => trivial
  rowLeft := fun _ hr h => ⟨rowed_of_whole hr h.1, left_of_bears hr h.2⟩
  rowDone := fun _ hr h _ => rowed_of_whole hr h.1
  rowRaised := by
    intro s v rows n row isLast f _ hr h
    have rowed := rowed_of_whole hr h.1
    have dropped : Rowed stage rows (s.after v) (rowRaised stage rows.case s v) :=
      ⟨along_rowDropped (additive rfl) _ _ _, rowRaised_run stage rows.case s v⟩
    exact rowed.trans dropped
  left_trans := fun h h' => ⟨h.trans h'.1, h'.2⟩
  grouped := fun _ hr hm h => linked_of_group hr h.2 (grouped_told hr hm h.1)
  ungrouped := fun _ hr hm h => linked_of_group hr h.2 (ungrouped_told hr hm h.1)
  groupedLeft := fun _ hr hm h => ⟨grouped_told hr hm h.1.1, h.1.2, hr, h.2⟩
  ungroupedLeft := fun _ hr hm h => ⟨ungrouped_told hr hm h.1.1, h.1.2, hr, h.2⟩
  held_ready := fun _ _ => trivial
  dropped := fun _ h => (linked_of_group h.suits h.same h.told).givenBack _ _
  deferred := fun _ h hd _ hv => (h.deferred hd hv).givenBack _ _

/-- The suites of a run are balanced, and however the run ends they follow the
grammar of its parts: its own suite, closed before those of its chain. -/
theorem finish_suites (stage : Stage σ) (depth : Nat) (s : State σ) :
    let t := ((finishWith stage (innerAt stage depth)).exec s).2
    let ms := marks (World.since s.world t.world)
    Balanced ms ∧ ∃ advised chained,
      ms = .opened s.run.name :: (advised ++ .closed :: chained) ∧ Balanced advised ∧
        Word stage.sources (.advice s.run.name) advised ∧
        Word stage.sources (.chain s.run.name s.run.waiting) chained := by
  intro t ms
  have run : Adds stage (below s) s t := (Course.finish_ends (lawful stage) depth trivial).1
  have word : Word stage.sources (below s) ms := along_since run
  obtain ⟨advised, chained, split, ha, hc⟩ := word_run word
  exact ⟨word.balanced, advised, chained, split, ha.balanced, ha, hc⟩

end Suites

end Scenario
