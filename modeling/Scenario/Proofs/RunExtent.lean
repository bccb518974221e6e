import Scenario.Proofs.DescendantRuns
import Scenario.Proofs.StoppedStep

/-!
# What happens below a run happens in it

What is carried out for a run or a chain begins after the run at the top of its
line does and ends before it. Where the run at the top and those below it were
not stopped, neither was this one nor one below it. A fault that ends it ends
the run at the top.
-/

set_option autoImplicit false

namespace Scenario
open Scenario.Act Scenario.Execution Scenario.Seeds Scenario.State

variable {σ : Type} {stage : Stage σ} {inner : Inner σ}

namespace Lineage
open Blame Scenario.Frame Scenario.State.Frame

theorem framed_exec {ε α : Type} {x : Act σ ε α} {s t : State σ} {r : Except ε α} (h : Framed x)
    (executed : x.exec s = (r, t)) : Frame s t := by
  have frame := h s
  rwa [Ends, executed] at frame

section Framed
variable (finishes : Framed inner.finish) (chains : Framed inner.chain)
include finishes

theorem runRows_framed (rows : Rows) (l : List Row) (n : Nat) (b : Bool) (last : Option Run) :
    Framed (runRows stage inner rows n l b last) := by
  induction l generalizing n b last with
  | nil => exact fun s => .refl s
  | cons row rest ih =>
    intro s
    rw [Course.runRows_iff]
    split
    · exact .refl s
    · refine ends_mono (finishes (rowStart stage rows n row rest.isEmpty s)) fun r v hv => ?_
      have after : Frame s (s.after v) := child_frame (child_row rows n row rest.isEmpty s) hv
      cases r with
      | ok c => exact ends_mono (ih _ _ _ _) fun _ _ h => after.trans h
      | error f => exact after.trans (frame_rowRaised rows.case s v)

theorem runGroup_framed (rows : Rows) (list : List Row) :
    Framed (runGroup stage inner rows list) := by
  intro s
  rw [Course.runGroup_iff]
  refine ends_mono (runRows_framed finishes rows list 1 true none _) fun r t h => ?_
  exact ((frame_grouped rows s).trans h).trans (frame_ungrouped rows t)

omit finishes
include chains

theorem settleChild_framed (c : Case) (b : Bool) (last : Option Run) :
    Framed (settleChild stage inner c b last) := by
  intro s
  cases last with
  | none => exact .refl s
  | some last =>
    rw [Course.settleChild_iff]
    split
    · rw [Course.runDeferred_iff]
      split
      · exact frame_givenBack (.refl s) c last
      · refine ends_mono (chains ⟨s.world, last⟩) fun r v hv => ?_
        exact frame_givenBack (frame_world s hv.world) c last
    · exact .refl s

include finishes

theorem runChild_framed (i : Nat) (c : Case) (seed : Row) :
    Framed (runChild stage inner i c seed) := by
  intro s
  cases read : c.materialize seed with
  | error f =>
    simp only [runChild, ends_bind, ends_getRun, read, report]
    exact frame_emit s _
  | ok d =>
    cases loaded : d.effectiveLoader.load stage.sources stage.dataDir seed with
    | error f =>
      simp only [runChild, ends_bind, ends_getRun, read, report, ends_pure, loaded]
      exact frame_emit s _
    | ok list =>
      rw [Course.runChild_loaded read loaded]
      refine ends_mono (runGroup_framed finishes _ list s) fun r t h => ?_
      cases r with
      | error f => exact h
      | ok p => exact ends_mono (settleChild_framed chains d p.1 p.2 t) fun _ _ h' => h.trans h'

theorem runChildren_framed (l : List Case) (i : Nat) (seed : Row) (b : Bool) :
    Framed (runChildren stage inner i l seed b) := by
  induction l generalizing i seed b with
  | nil => exact fun s => .refl s
  | cons c rest ih =>
    intro s
    have reached : ∀ passed, Frame s (s.record (.reached i passed)) := fun _ => frame_record s _
    rw [Course.runChildren_iff]
    split
    · exact .refl s
    · split
      · exact ends_mono (ih _ _ _ _) fun _ _ h => (reached true).trans h
      · refine ends_mono (runChild_framed finishes chains i c seed _) fun r t h => ?_
        have after := (reached false).trans h
        cases r with
        | error f => exact after
        | ok p => exact ends_mono (ih _ _ _ _) fun _ _ h' => after.trans h'

end Framed

/-- What happens from `x` to `v` lies within what happens from `s` to `t`. -/
structure Spans (s t x v : State σ) : Prop where
  before : s.world.Grows x.world
  after : v.world.Grows t.world
  calm : Undisturbed s t → Undisturbed x v

theorem Spans.refl (s t : State σ) : Spans s t s t := ⟨.refl _, .refl _, id⟩

theorem Spans.trans {s t x v y u : State σ} (h : Spans s t x v) (h' : Spans x v y u) :
    Spans s t y u :=
  ⟨h.before.trans h'.before, h'.after.trans h.after, h'.calm ∘ h.calm⟩

theorem Spans.recorded {s t x v : State σ} (h : Spans s t x v) {P : List TraceEntry → Prop}
    (part : Along P x v) : ∃ l ⊆ World.since s.world t.world, P l := by
  obtain ⟨l, hv, hl⟩ := part
  obtain ⟨k, hk⟩ := h.before.trace
  obtain ⟨m, hm⟩ := h.after.trace
  have whole : t.world.trace = (m ++ (l ++ k)) ++ s.world.trace := by
    rw [← hm, hv, ← hk]
    simp only [List.append_assoc]
  rw [World.since_eq whole]
  exact ⟨l, fun e he => by simp [he], hl⟩

theorem spans_frame {s t x v : State σ} (before : Frame s x) (after : Frame v t) :
    Spans s t x v :=
  ⟨before.world, after.world, fun calm =>
    (calm.right before).left after⟩

section Ways
variable (finishes : Framed inner.finish) (chains : Framed inner.chain) {y u : State σ}

include finishes chains in
theorem reaches_frame {i : Nat} {rest : List Case} {seed : Row} {b : Bool}
    {past : List (List Run)} {t : State σ} (h : Reaches stage inner y i rest seed b past t) :
    Frame y t := by
  induction h with
  | first => exact .refl y
  | passed before running passed ih => exact ih.trans (frame_record _ _)
  | @ran i c rest seed _ _ _ _ _ t _ before running included ran answer ih =>
    have reached : Frame t (t.record (.reached i false)) := frame_record t _
    have went := framed_exec (runChild_framed finishes chains i c seed) answer
    exact (ih.trans reached).trans went

include finishes in
theorem rowing_frame {rows : Rows} {list l : List Row} {n : Nat} {b : Bool} {done : List Run}
    {g t : State σ} (h : Rowing stage inner rows list g n l b done t) : Frame g t := by
  induction h with
  | first => exact .refl g
  | @next n row rest b c done t v before running executed ih =>
    have row : Frame t (t.after v) :=
      child_frame (child_row rows n row rest.isEmpty t) (framed_exec finishes executed)
    exact ih.trans row

omit finishes chains in
theorem settled_after {c : Case} {b : Bool} {last : Run} {s v q : State σ}
    {r : Except Fault (Bool × Option Row)} {a : Except Fault Bool} (deferred : isDeferred c = true)
    (awaited : (last.aborted || isStopped ⟨s.world, last⟩) = false)
    (executed : inner.chain.exec ⟨s.world, last⟩ = (a, q))
    (settled : (settleChild stage inner c b (some last)).exec s = (r, v)) :
    Frame (s.after q) v := by
  rw [exec_eq_iff, Course.settleChild_iff, deferred, if_pos rfl, Course.runDeferred_iff, awaited,
    if_neg Bool.false_ne_true, Ends, executed] at settled
  rw [← settled.2]
  exact frame_givenBack (.refl _) c last

theorem Arrives.course {i : Nat} {rows : Rows} {list : List Row} {g : State σ}
    (h : Arrives stage inner y i rows list g) :
    ∃ (t : State σ) (next : Bool × Option Row → Act σ Fault Bool), g = grouped stage rows t ∧
      (Framed inner.finish → Framed inner.chain → Frame y t ∧ ∀ p, Framed (next p)) ∧
      ∀ Q, Ends (chain stage inner) y Q ↔
        Ends (runRows stage inner rows 1 list true none) g fun r w =>
          match r with
          | .error f => Q (.error f) (ungrouped stage rows w)
          | .ok p => Ends (settleChild stage inner rows.case p.1 p.2) (ungrouped stage rows w)
              fun a v => match a with
                | .error f => Q (.error f) v
                | .ok p => Ends (next p) v Q := by
  cases h with
  | @intro c d rest seed b past t _ reached running included read loaded =>
    refine ⟨_, fun p => runChildren stage inner (i + 1) rest
      (nextSeed t.run.case.takesOver seed p.2) (p.1 && b), rfl, fun finishes chains => ?_, ?_⟩
    · exact ⟨(reaches_frame finishes chains reached).trans (frame_record t _),
        fun _ => runChildren_framed finishes chains rest _ _ _⟩
    · intro Q
      have same : (t.record (.reached i false)).run = t.run := rfl
      rw [ends_congr reached.exec, Course.runChildren_iff, running, if_neg Bool.false_ne_true,
        included, if_neg Bool.false_ne_true, Course.runChild_loaded read loaded,
        Course.runGroup_iff, same]
      refine iff_of_eq (congrArg (Ends _ _) (funext fun r => funext fun w => ?_))
      cases r with
      | error f => rfl
      | ok p =>
        refine congrArg (Ends _ _) (funext fun a => funext fun v => ?_)
        cases a <;> rfl

include finishes chains

theorem Arrives.frames {i : Nat} {rows : Rows} {list : List Row} {g w : State σ}
    {o : Except Fault Bool} {r : Except Fault (Bool × Option Run)}
    (h : Arrives stage inner y i rows list g) (whole : (chain stage inner).exec y = (o, u))
    (executed : (runRows stage inner rows 1 list true none).exec g = (r, w)) :
    ∃ t, Frame y t ∧ g = grouped stage rows t ∧ Frame (ungrouped stage rows w) u ∧
      (∀ f, r = .error f → o = .error f) ∧ ∀ b last a q, r = .ok (b, some last) →
        isDeferred rows.case = true →
        (last.aborted || isStopped ⟨(ungrouped stage rows w).world, last⟩) = false →
        inner.chain.exec ⟨(ungrouped stage rows w).world, last⟩ = (a, q) →
        Frame ((ungrouped stage rows w).after q) u := by
  obtain ⟨t, next, grouped, framed, course⟩ := h.course
  obtain ⟨come, later⟩ := framed finishes chains
  refine ⟨t, come, grouped, ?_⟩
  have went := exec_eq_iff.1 whole
  rw [course, Ends, executed] at went
  rcases r with f | ⟨e, last⟩
  · rw [← went.2]
    refine ⟨.refl _, ?_, by simp⟩
    rintro _ ⟨⟩
    exact went.1.symm
  -- the rows answered: their deferred chain comes next, then the cases after them
  · rcases settled : (settleChild stage inner rows.case e last).exec (ungrouped stage rows w)
      with ⟨a, v⟩
    have before := framed_exec (settleChild_framed chains rows.case e last) settled
    have left : Frame v u := by
      dsimp only at went
      rw [Ends, settled] at went
      cases a with
      | error f =>
        rw [← went.2]
        exact .refl v
      | ok p => exact framed_exec (later p) (exec_eq_iff.2 went)
    refine ⟨before.trans left, by simp, ?_⟩
    rintro b' last a' q ⟨⟩ deferred awaited answer
    exact (settled_after deferred awaited answer settled).trans left

theorem Begins.spans {i n : Nat} {x v : State σ} {o r : Except Fault Bool}
    (h : Begins stage inner y i n x) (whole : (chain stage inner).exec y = (o, u))
    (executed : inner.finish.exec x = (r, v)) : Spans y u x v := by
  cases h with
  | @intro rows list rest row b done g t arrived went running =>
    rcases rowed : (runRows stage inner rows 1 list true none).exec g with ⟨a, w⟩
    obtain ⟨t', come, rfl, left, _, _⟩ := arrived.frames finishes chains whole rowed
    have before : Frame y t :=
      (come.trans (frame_grouped rows t')).trans (rowing_frame finishes went)
    have after : Frame (t.after v) w := by
      rw [went.exec, exec_eq_iff, Course.runRows_iff, running, if_neg Bool.false_ne_true, Ends,
        executed] at rowed
      cases r with
      | ok c => exact framed_exec (runRows_framed finishes rows rest _ _ _) (exec_eq_iff.2 rowed)
      | error f =>
        rw [← rowed.2]
        exact frame_rowRaised rows.case t v
    have ended : Frame (t.after v) u := (after.trans (frame_ungrouped rows w)).trans left
    have child : Child t (rowStart stage rows n row rest.isEmpty t) := child_row ..
    exact ⟨before.world.trans child.world, ended.world, fun calm =>
      child_undisturbed child ((calm.right before).left ended) (framed_exec finishes executed)⟩

theorem Defers.spans {i n : Nat} {x z q : State σ} {o r : Except Fault Bool}
    (h : Defers stage inner y i n x z) (whole : (chain stage inner).exec y = (o, u))
    (executed : inner.chain.exec z = (r, q)) : Spans y u z q := by
  cases h with
  | @intro rows list rest row b c done g t v arrived went running answer last deferred awaited =>
    have rowed : (runRows stage inner rows 1 list true none).exec g =
        (.ok (c && b, some v.run), t.after v) := by
      rw [(went.next running answer).exec, runRows_halted last]
      rfl
    obtain ⟨t', come, rfl, _, _, left⟩ := arrived.frames finishes chains whole rowed
    have ended := left _ _ _ _ rfl deferred awaited executed
    have row : Below t v.run (t.after v) :=
      child_below (child_row rows n _ _ t) (framed_exec finishes answer)
    have below : Below y v.run (ungrouped stage rows (t.after v)) :=
      below_after come (below_grouped (below_after (rowing_frame finishes went) row))
    exact ⟨below.frame.world, ended.world, fun calm =>
      (calm.left ended).below below (framed_exec chains executed) rfl⟩

end Ways

theorem framed_innerAt (stage : Stage σ) (depth : Nat) :
    Framed (innerAt stage depth).finish ∧ Framed (innerAt stage depth).chain := by
  have law : (Plain.course (plain σ)).Lawful stage := Plain.course_lawful Frame.lawful
  obtain ⟨finishes, chains⟩ := Course.innerAt_ends law depth
  exact ⟨fun s => (finishes s trivial).frame, fun s => (chains s trivial).2.frame⟩

theorem chain_spans {depth : Nat} {x t : State σ} {b : Bool}
    (went : (steps stage (innerAt stage depth) (x.run.case.steps.length + 1) true).exec
      (x.begun stage) = (.ok b, t)) (waiting : t.run.cursor.needsChain = true) :
    let y := (t.emit stage .closed).chainCalled
    Spans x ((finishWith stage (innerAt stage depth)).exec x).2 y
      ((chain stage (innerAt stage depth)).exec y).2 := by
  intro y
  have begun : Frame (x.begun stage) t := by
    have onward := steps_onward stage depth (x.run.case.steps.length + 1) (x.begun stage)
    rw [Ends, went] at onward
    exact onward.frame
  have called : Frame t y := (frame_emit t .closed).trans ⟨.refl _, rfl, rfl, rfl, id, id⟩
  refine spans_frame (((frame_begun x).trans begun).trans called) ?_
  rcases executed : (chain stage (innerAt stage depth)).exec y with ⟨r, u⟩
  show Ends (finishWith stage (innerAt stage depth)) x fun _ e => Frame u e
  rw [Course.finishWith_iff, Ends, went]
  dsimp only
  rw [Course.endRun_iff, if_pos waiting, Ends, executed]
  cases r with
  | ok c => exact frame_ended u
  | error f => exact frame_released (.refl u)

/-- What is carried out for a run or a chain lies within what the run at the top does. -/
theorem Descends.spans {depth k : Nat} {s x : State σ} {part : Part} {line : List (Place σ)}
    (h : Descends stage depth s part k line x) :
    Spans s ((act stage (depth + 1) .run).exec s).2 x ((act stage k part).exec x).2 := by
  induction h with
  | top => exact .refl _ _
  | chain run went waiting ih => exact ih.trans (chain_spans went waiting)
  | @row k _ _ _ _ _ chain begins ih =>
    obtain ⟨finishes, chains⟩ := framed_innerAt stage k
    exact ih.trans (begins.spans finishes chains rfl rfl)
  | @deferred k _ _ _ _ _ _ chain defers ih =>
    obtain ⟨finishes, chains⟩ := framed_innerAt stage k
    exact ih.trans (defers.spans finishes chains rfl rfl)

theorem Begins.raises {i n : Nat} {x y v : State σ} {f : Fault} (h : Begins stage inner y i n x)
    (executed : inner.finish.exec x = (.error f, v)) :
    ((chain stage inner).exec y).1 = .error f := by
  cases h with
  | @intro rows list rest row b done g t arrived went running =>
    obtain ⟨_, _, _, _, course⟩ := arrived.course
    refine (course fun r _ => r = .error f).2 ?_
    rw [ends_congr went.exec, Course.runRows_iff, running, if_neg Bool.false_ne_true, Ends,
      executed]

theorem Defers.raises {i n : Nat} {x y z q : State σ} {f : Fault}
    (h : Defers stage inner y i n x z) (executed : inner.chain.exec z = (.error f, q)) :
    ((chain stage inner).exec y).1 = .error f := by
  cases h with
  | @intro rows list rest row b c done g t v arrived went running answer last deferred awaited =>
    obtain ⟨_, _, _, _, course⟩ := arrived.course
    refine (course fun r _ => r = .error f).2 ?_
    rw [Ends, (went.next running answer).exec, runRows_halted last]
    show Ends (settleChild stage inner rows.case (c && b) (some v.run)) _ _
    rw [Course.settleChild_iff, deferred, if_pos rfl, Course.runDeferred_iff, awaited,
      if_neg Bool.false_ne_true, Ends, executed]
    rfl

theorem chain_raises {x t v : State σ} {b : Bool} {f : Fault}
    (went : (steps stage inner (x.run.case.steps.length + 1) true).exec (x.begun stage) =
      (.ok b, t)) (waiting : t.run.cursor.needsChain = true)
    (executed : (chain stage inner).exec (t.emit stage .closed).chainCalled = (.error f, v)) :
    ((finishWith stage inner).exec x).1 = .error (f.inRun t.run.name) := by
  show Ends (finishWith stage inner) x fun r _ => r = .error (f.inRun t.run.name)
  rw [Course.finishWith_iff, Ends, went]
  dsimp only
  rw [Course.endRun_iff, if_pos waiting, Ends, executed]

/-- A fault that ends what is carried out for a run or a chain ends the run at the top. -/
theorem Descends.raises {depth k : Nat} {s x : State σ} {part : Part} {line : List (Place σ)}
    (h : Descends stage depth s part k line x) {f : Fault}
    (raised : ((act stage k part).exec x).1 = .error f) :
    ∃ g, ((act stage (depth + 1) .run).exec s).1 = .error g ∧ g.root = f.root := by
  induction h generalizing f with
  | top => exact ⟨f, raised, rfl⟩
  | chain run went waiting ih =>
    obtain ⟨g, ended, same⟩ := ih (chain_raises went waiting (Prod.ext raised rfl))
    exact ⟨g, ended, same.trans (f.root_inRun _)⟩
  | row chain begins ih => exact ih (begins.raises (Prod.ext raised rfl))
  | deferred chain defers ih => exact ih (defers.raises (Prod.ext raised rfl))

end Lineage

end Scenario
