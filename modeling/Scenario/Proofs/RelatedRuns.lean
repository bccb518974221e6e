import Scenario.Proofs.RelatedSteps

/-!
# Runs side by side

Rows and chains below two runs that go abreast are the same, and so are the runs
themselves as a whole.
-/

set_option autoImplicit false

namespace Scenario
open Scenario.Act Scenario.Execution

variable {σ ε α : Type} {stage : Stage σ} {inner : Inner σ} {D : Discipline}
  {K : World σ → World σ → Prop} {V : Run → Run → Prop}

namespace Run

structure Parents (D : Discipline) (V : Run → Run → Prop) : Prop extends Paired V where
  takesOver : ∀ {r r'}, V r r' → r'.case.takesOver = r.case.takesOver
  chainAspect : ∀ {r r'}, V r r' → r'.chainAspect = r.chainAspect
  under : ∀ {r r'}, V r r' → Aspect.Under D r.chainAspect

/-- Nothing makes a difference to the runs as a whole but their steps, their filters and the
advice around the steps. -/
structure Whole (D : Discipline) (V : Run → Run → Prop) : Prop extends Moving V, Parents D V where
  script : ∀ {r r'}, V r r' → r'.case.script = r.case.script
  chain : ∀ {r r'}, V r r' → r'.case.chain = r.case.chain
  children : ∀ {r r'}, V r r' → ∀ c ∈ r.case.chain, c.Under D
  ownsSession : ∀ {r r'}, V r r' → r'.ownsSession = r.ownsSession
  cursor : ∀ {r r'}, V r r' → r'.cursor = r.cursor
  frozen : ∀ {r r'} (row : Row), V r r' → V { r with row, aspect := Aspect.freeze row r.aspect }
    { r' with row, aspect := Aspect.freeze row r'.aspect }
  turned : ∀ {r r'} (c : Cursor), V r r' → V { r with cursor := c } { r' with cursor := c }
  aborted : ∀ {r r'}, V r r' → V { r with aborted := true } { r' with aborted := true }

theorem Under.chainAspect {r : Run} (h : r.Under D) : Aspect.Under D r.chainAspect :=
  ((h.case.aspect.append h.inherited).frozen _).inherited

theorem whole_same : Whole D (Same D) where
  toMoving := moving_same
  takesOver h := congrArg (·.case.takesOver) h.eq
  chainAspect h := congrArg Run.chainAspect h.eq
  under h := h.under.chainAspect
  script h := congrArg (·.case.script) h.eq
  chain h := congrArg (·.case.chain) h.eq
  children h _ hc := h.under.case.chain hc
  ownsSession h := congrArg Run.ownsSession h.eq
  cursor h := congrArg Run.cursor h.eq
  frozen row h := ⟨by rw [h.eq], h.under.case, h.under.aspect.frozen row, h.under.inherited⟩
  turned c h := ⟨by rw [h.eq], h.under.same rfl rfl rfl⟩
  aborted h := ⟨by rw [h.eq], h.under.same rfl rfl rfl⟩

end Run

namespace Abreast

section Rows
variable (kin : World.Kin stage D K) (paired : Run.Paired V)
include kin paired

theorem respects_openSession (c : Case) :
    Respects (Abreast K V) (openSession c : Act σ Fault Session) := by
  simp only [openSession]
  split
  · refine leads_getRun fun {r r'} h => ?_
    rw [paired.session h]
    exact respects_pure _
  · exact respects_onWorld kin.newSession

omit paired in
theorem yields_settleRow (c : Case) {run : Run} (under : run.Under D) (r : Except Fault Bool) :
    Yields (fun p => p.2.Under D) (Abreast K V) (Abreast K V) (settleRow stage c run r)
      (settleRow stage c run r) := by
  cases r with
  | ok b => exact yields_pure under
  | error f =>
    simp only [settleRow]
    split
    · exact yields_bind (respects_quit kin _).yields fun _ _ => yields_throw f
    · exact yields_throw f

omit paired in
theorem yields_report (a : Except Fault α) :
    Yields (fun x => a = .ok x) (Abreast K V) (Abreast K V) (report stage a) (report stage a) := by
  cases a with
  | ok x => exact yields_pure rfl
  | error f => exact yields_bind (respects_emit kin _).yields fun _ _ => yields_throw f

variable (hstage : Aspect.Under D stage.aspect)
  (hin : Respects (Abreast K (Run.Same D)) inner.finish) (rows : Rows)
  (case : rows.case.Under D) (aspect : Aspect.Under D rows.aspect)
include hstage hin case aspect

theorem yields_runRow (n : Nat) (row : Row) (isLast : Bool) :
    Yields (fun p => p.2.Under D) (Abreast K V) (Abreast K V)
      (runRow stage inner rows n row isLast) (runRow stage inner rows n row isLast) := by
  refine fun s s' h => both_getRun ?_
  rw [paired.signal h.run]
  refine yields_bind (respects_openSession kin paired rows.case).yields (fun session _ => ?_) s s' h
  refine yields_bind (respects_childSignal kin s.run.signal).yields fun signal _ => ?_
  refine yields_bind (yields_built kin hstage case aspect) fun run below => ?_
  exact yields_bind (yields_inside below hin) fun p left => yields_settleRow kin _ left _

theorem yields_runRows (n : Nat) (list : List Row) (success : Bool) {last : Option Run}
    (under : ∀ r ∈ last, r.Under D) :
    Yields (fun p => ∀ r ∈ p.2, r.Under D) (Abreast K V) (Abreast K V)
      (runRows stage inner rows n list success last)
      (runRows stage inner rows n list success last) := by
  induction list generalizing n success last with
  | nil => exact yields_pure under
  | cons row rest ih =>
    refine fun s s' h => both_getRun (both_get ?_)
    dsimp only
    rw [kin.signals h.world, paired.signal h.run]
    split
    · exact yields_pure under s s' h
    · have first := yields_runRow kin paired hstage hin rows case aspect n row rest.isEmpty
      refine yields_bind first (fun p left => ih _ _ ?_) s s' h
      rintro _ ⟨⟩
      exact left

theorem yields_runGroup (list : List Row) :
    Yields (fun p => ∀ r ∈ p.2, r.Under D) (Abreast K V) (Abreast K V)
      (runGroup stage inner rows list) (runGroup stage inner rows list) := by
  have start : ∀ r ∈ (none : Option Run), r.Under D := by
    rintro _ ⟨⟩
  have all := yields_outcome (δ := Fault)
    (yields_runRows kin paired hstage hin rows case aspect 1 list true start)
  simp only [runGroup]
  split
  · refine yields_bind (respects_emit kin _).yields fun _ _ => yields_bind all fun r known => ?_
    exact yields_bind (respects_emit kin _).yields fun _ _ => yields_conclude known
  · exact yields_bind all fun r known => yields_conclude known

end Rows

section Deferred
variable (kin : World.Kin stage D K) (hchain : Respects (Abreast K (Run.Same D)) inner.chain)
include kin

theorem respects_giveBack (c : Case) (last : Run) :
    Respects (Abreast K V) (giveBack stage c last) := by
  simp only [giveBack]
  split
  · exact respects_pure ()
  · exact respects_quit kin _

include hchain

theorem respects_runDeferred (c : Case) {last : Run} (under : last.Under D) :
    Respects (Abreast K V) (runDeferred stage inner c last) := by
  refine fun s s' h => both_get ?_
  dsimp only
  rw [kin.signals h.world]
  split
  · exact respects_bind (respects_giveBack kin c last) (fun _ => respects_pure true) s s' h
  · refine Yields.leads (A := fun _ => True) (yields_bind (yields_inside under hchain) fun r _ => ?_)
      s s' h
    exact (leads_bind (respects_giveBack kin c last) fun _ => leads_conclude _).yields

theorem respects_settleChild (c : Case) (success : Bool) {last : Option Run}
    (under : ∀ r ∈ last, r.Under D) :
    Respects (Abreast K V) (settleChild stage inner c success last) := by
  cases last with
  | none => exact respects_pure _
  | some last =>
    simp only [settleChild]
    split
    · have deferred := respects_runDeferred (V := V) kin hchain c (under last rfl)
      exact respects_bind deferred fun _ => respects_pure _
    · exact respects_pure _

end Deferred

section Chain
variable (kin : World.Kin stage D K) (hstage : Aspect.Under D stage.aspect)
  (hin : Respects (Abreast K (Run.Same D)) inner.finish)
  (hchain : Respects (Abreast K (Run.Same D)) inner.chain)
include kin hstage hin hchain

section Parents
variable (parents : Run.Parents D V)
include parents

theorem respects_runChild (index : Nat) {child : Case} (under : child.Under D) (seed : Row) :
    Respects (Abreast K V) (runChild stage inner index child seed) := by
  refine fun s s' h => both_getRun ?_
  rw [parents.name h.run, parents.chainAspect h.run]
  have inherited := parents.under h.run
  refine Yields.leads (A := fun _ => True) (yields_bind (yields_report kin _) fun c read => ?_) s s' h
  refine yields_bind (yields_report kin _) fun list _ => ?_
  have rows := yields_runGroup kin parents.toPaired hstage hin (rowsOf stage s.run index c seed)
    (under.read read) inherited list
  exact yields_bind rows fun p left => (respects_settleChild kin hchain c p.1 left).yields

theorem respects_runChildren (index : Nat) {list : List Case} (under : ∀ c ∈ list, c.Under D)
    (seed : Row) (success : Bool) :
    Respects (Abreast K V) (runChildren stage inner index list seed success) := by
  induction list generalizing index seed success with
  | nil => exact respects_pure success
  | cons child rest ih =>
    obtain ⟨first, others⟩ := List.forall_mem_cons.1 under
    refine fun s s' h => both_getRun (both_get ?_)
    rw [kin.signals h.world, parents.signal h.run, parents.takesOver h.run]
    split
    · exact ⟨rfl, h⟩
    · refine respects_bind (respects_record kin _) (fun _ => ?_) s s' h
      split
      · exact ih _ others _ _
      · have ran := respects_runChild kin hstage hin hchain parents index first seed
        exact respects_bind ran fun _ => ih _ others _ _

end Parents

variable (parents : Run.Parents D V) (same : ∀ {r r'}, V r r' → r'.case.chain = r.case.chain)
  (children : ∀ {r r'}, V r r' → ∀ c ∈ r.case.chain, c.Under D)
include parents same children

theorem respects_chain : Respects (Abreast K V) (chain stage inner) := by
  refine fun s s' h => both_getRun ?_
  rw [same h.run, parents.row h.run]
  exact respects_runChildren kin hstage hin hchain parents 1 (children h.run) s.run.row true s s' h

end Chain

section Whole
variable (kin : World.Kin stage D K) (whole : Run.Whole D V)
include whole

theorem respects_turned (f : Cursor → Cursor) :
    Respects (Abreast K V) (Act.modifyRun fun r => { r with cursor := f r.cursor } :
      Act σ ε Unit) := by
  intro s s' h
  refine ⟨rfl, h.world, ?_⟩
  show V { s.run with cursor := f s.run.cursor } { s'.run with cursor := f s'.run.cursor }
  rw [whole.cursor h.run]
  exact whole.turned _ h.run

include kin

theorem respects_start : Respects (Abreast K V) (start stage : Act σ ε Unit) := by
  refine respects_bind (fun s s' h => ⟨rfl, h.world, ?_⟩) fun _ => leads_getRun fun {r r'} h => ?_
  · show V (s.prepared stage).run (s'.prepared stage).run
    have row : (s'.run.row.put "_testCaseName" s'.run.name).putAll stage.reserved =
        (s.run.row.put "_testCaseName" s.run.name).putAll stage.reserved := by
      rw [whole.name h.run, whole.row h.run]
    simp only [State.prepared, row]
    exact whole.frozen _ h.run
  · rw [whole.name h, whole.script h, whole.row h]
    exact respects_emit kin _

theorem respects_release : Respects (Abreast K V) (release stage : Act σ ε Unit) := by
  refine respects_bind (leads_getRun fun {r r'} h => ?_) fun _ => respects_turned whole _
  rw [whole.ownsSession h, whole.session h]
  split
  · exact respects_quit kin _
  · exact respects_pure ()

theorem respects_settle (success : Bool) : Respects (Abreast K V) (settle stage success) := by
  refine respects_bind (respects_release kin whole) fun _ => ?_
  refine respects_bind (respects_isStopped kin whole.toPaired) fun stopped => ?_
  cases stopped with
  | true => exact respects_bind (respects_record kin _) fun _ => respects_pure _
  | false => exact respects_pure _

theorem respects_leave : Respects (Abreast K V) (leave stage : Act σ ε Unit) :=
  respects_bind (respects_emit kin _) fun _ => respects_release kin whole

theorem respects_endRun {chain : Act σ Fault Bool} (hchain : Respects (Abreast K V) chain)
    (success : Bool) : Respects (Abreast K V) (endRun stage chain success) := by
  refine respects_bind (respects_emit kin _) fun _ => leads_getRun fun {r r'} h => ?_
  rw [whole.cursor h, whole.name h]
  split
  · refine respects_bind (respects_turned whole _) fun _ => ?_
    refine respects_bind (respects_outcome hchain) fun c => ?_
    cases c with
    | ok b => exact respects_settle kin whole _
    | error f => exact respects_bind (respects_release kin whole) fun _ => respects_throw _
  · exact respects_settle kin whole _

theorem respects_halt (f : Fault) : Respects (Abreast K V) (halt stage f) := by
  simp only [halt]
  split
  · refine respects_bind (fun s s' h => ⟨rfl, h.world, whole.aborted h.run⟩) fun _ => ?_
    exact respects_bind (respects_leave kin whole) fun _ => respects_pure false
  · refine respects_bind (respects_leave kin whole) fun _ => leads_getRun fun {r r'} h => ?_
    rw [whole.name h]
    exact respects_throw _

variable (hstage : Aspect.Under D stage.aspect)
  (hin : Respects (Abreast K (Run.Same D)) inner.finish)
  (hchain : Respects (Abreast K (Run.Same D)) inner.chain)
include hstage hin hchain

theorem respects_finishWith (turns : Turns stage inner K V) :
    Respects (Abreast K V) (finishWith stage inner) := by
  have chain := respects_chain kin hstage hin hchain whole.toParents whole.chain whole.children
  refine respects_bind (respects_start kin whole) fun _ => leads_getRun fun {r r'} h => ?_
  rw [whole.length h]
  have steps := respects_steps kin whole.toMoving turns (r.case.steps.length + 1) true
  refine respects_bind (respects_outcome steps) fun x => ?_
  cases x with
  | ok success => exact respects_endRun kin whole chain success
  | error f => exact respects_halt kin whole f

end Whole

/-- One run does the same in both worlds at any depth, and so does its chain. -/
theorem respects_innerAt (kin : World.Kin stage D K) (hstage : Aspect.Under D stage.aspect)
    (depth : Nat) : Respects (Abreast K (Run.Same D)) (innerAt stage depth).finish ∧
      Respects (Abreast K (Run.Same D)) (innerAt stage depth).chain := by
  have whole := Run.whole_same (D := D)
  induction depth with
  | zero =>
    refine ⟨leads_getRun fun {r r'} h => ?_, leads_getRun fun {r r'} h => ?_⟩
    · rw [whole.name h]
      refine respects_bind (respects_emit kin _) fun _ => ?_
      exact respects_bind (respects_release kin whole) fun _ => respects_throw _
    · rw [whole.name h]
      exact respects_bind (respects_emit kin _) fun _ => respects_throw _
  | succ depth ih =>
    exact ⟨respects_finishWith kin whole hstage ih.1 ih.2 (turns_same kin hstage ih.1),
      respects_chain kin hstage ih.1 ih.2 whole.toParents whole.chain whole.children⟩

end Abreast

end Scenario
