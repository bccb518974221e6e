import Scenario.Proofs.RelatedTrees
import Scenario.Proofs.StepsUnderAdvice

/-!
# Passing advice is transparent

The chain of a run under passing advice is set beside that of the run without,
row by row and case by case, and from it a whole tree of runs beside the tree
without advice. Where that is not too deep, its advice needs at most one level
more and leaves nothing but the record of its cases.
-/

set_option autoImplicit false

namespace Scenario
open Scenario.Act Scenario.Execution

variable {σ ε α : Type} [Sinks ε] {stage : Stage σ} {w₀ : World σ}

namespace Attended
open State Seeds

section Ends
variable (unwatched : stage.watch = none)

theorem matched_modifyWorld {f : World σ → World σ}
    (hf : ∀ w w', World.Attended w₀ w w' → World.Attended w₀ (f w) (f w')) :
    Matched stage w₀ (modifyWorld f : Act σ ε Unit) (modifyWorld f) :=
  fun _ _ h => .inr ⟨rfl, h.onWorld (hf _ _ h.world)⟩

theorem matched_aborted :
    Matched stage w₀ (modifyRun fun r => { r with aborted := true } : Act σ ε Unit)
      (modifyRun fun r => { r with aborted := true }) := by
  rintro _ _ ⟨⟨own, advice, inherited, signal, bare, unadvised, ho, ha, hi, hr, hr'⟩, world⟩
  exact .inr ⟨rfl, .intro _ own advice inherited signal ⟨bare.case, bare.inherited⟩ unadvised ho ha
    hi hr hr', world⟩

theorem matched_prepared :
    let prepare : Run → Run := fun r =>
      let row := (r.row.put "_testCaseName" r.name).putAll stage.reserved
      { r with row, aspect := Aspect.freeze row r.aspect }
    Matched stage w₀ (modifyRun prepare : Act σ ε Unit) (modifyRun prepare) := by
  rintro prepare _ _ ⟨⟨own, advice, inherited, signal, bare, unadvised, ho, ha, hi, hr, hr'⟩, world⟩
  refine .inr ⟨rfl, .intro (prepare _) own (advice.freeze _) inherited signal
    ⟨bare.case, bare.inherited⟩ ?_ ho (ha.freeze _) hi hr hr', world⟩
  simp only [prepare, unadvised]
  rfl

theorem matched_quitOwned : Matched stage w₀ (Act.quitOwned stage : Act σ ε Unit)
    (Act.quitOwned stage) := by
  refine matched_getRun fun r r' attended => ?_
  obtain ⟨⟩ := attended
  dsimp only
  split
  · exact matched_modifyWorld fun _ _ h => h.quit stage _
  · exact matched_pure _

theorem matched_release : Matched stage w₀ (release stage : Act σ ε Unit) (release stage) :=
  matched_bind matched_quitOwned fun _ => matched_cursor Cursor.finish

theorem matched_settle (success : Bool) :
    Matched stage w₀ (settle stage success) (settle stage success) := by
  refine matched_bind matched_release fun _ => ?_
  refine matched_bind matched_isStopped fun stopped => ?_
  split
  · exact matched_bind (matched_record rfl) fun _ => matched_pure _
  · exact matched_pure _

theorem halt_sunk {f : Fault} (deep : Sinks.deep f) (s : State σ) :
    Ends (halt stage f) s fun r _ => Sunk r := by
  have fatal : f.isVerification = false := by
    obtain ⟨name, root⟩ := deep
    cases f with
    | verification _ => cases root
    | _ => rfl
  rw [Course.halt_iff, fatal]
  exact ⟨_, rfl, deep.imp fun _ root => (f.root_inRun _).trans root⟩

include unwatched

theorem matched_start : Matched stage w₀ (start stage : Act σ ε Unit) (start stage) := by
  refine matched_bind matched_prepared fun _ => ?_
  refine matched_getRun fun r r' attended => ?_
  obtain ⟨⟩ := attended
  exact matched_emit unwatched _

theorem matched_leave : Matched stage w₀ (leave stage : Act σ ε Unit) (leave stage) := by
  refine matched_bind (matched_emit unwatched _) fun _ => ?_
  exact matched_bind matched_quitOwned fun _ => matched_cursor Cursor.finish

theorem matched_halt (f : Fault) : Matched stage w₀ (halt stage f) (halt stage f) := by
  simp only [halt]
  split
  · refine matched_bind matched_aborted fun _ => ?_
    exact matched_bind (matched_leave unwatched) fun _ => matched_pure _
  · refine matched_bind (matched_leave unwatched) fun _ => ?_
    refine matched_getRun fun r r' attended => ?_
    obtain ⟨⟩ := attended
    exact matched_throw _

theorem matched_endRun {chain chain' : Act σ Fault Bool} (hchain : Matched stage w₀ chain chain')
    (success : Bool) :
    Matched stage w₀ (endRun stage chain success) (endRun stage chain' success) := by
  refine matched_bind (matched_emit unwatched _) fun _ => ?_
  refine matched_getRun fun r r' attended => ?_
  have same : r'.cursor = r.cursor ∧ r'.name = r.name := by
    obtain ⟨⟩ := attended
    exact ⟨rfl, rfl⟩
  rw [same.1, same.2]
  dsimp only
  split
  · refine matched_bind (matched_cursor Cursor.chainCalled) fun _ => ?_
    refine matched_attempt hchain (fun o => ?_) fun f t deep => ?_
    · cases o with
      | ok b => exact matched_bind (matched_pure b) fun _ => matched_settle _
      | error f =>
        refine matched_bind matched_release fun _ => ?_
        exact matched_bind (matched_throw _) fun _ => matched_settle _
    · simp only [ends_bind, Course.release_ends]
      exact ⟨_, rfl, deep.imp fun _ root => (f.root_inRun _).trans root⟩
  · exact matched_bind (matched_pure true) fun _ => matched_settle _

end Ends

end Attended

inductive Execution.Rows.Attended (stage : Stage σ) : Rows → Rows → Prop
  | intro (q : Rows) (aspect : Aspect) (bare : q.case.Bare stage fun _ => True)
      (unadvised : q.aspect = []) (passing : aspect.Passing) : Attended stage q { q with aspect }

namespace Attended
open State Seeds

section States
variable {s s' v v' : State σ} {q q' : Rows} (unwatched : stage.watch = none)

theorem attended_swap (h : s.Attended stage w₀ s') (hv : v.Attended stage w₀ v') :
    State.Attended stage w₀ ⟨s.world, v.run⟩ ⟨s'.world, v'.run⟩ :=
  ⟨hv.run, h.world⟩

theorem attended_quit (h : s.Attended stage w₀ s') (k : Session) :
    (s.quit stage k).Attended stage w₀ (s'.quit stage k) :=
  h.onWorld (h.world.quit stage k)

theorem attended_rowsOf (h : s.Attended stage w₀ s') {c d : Case} {seed : Row} (i : Nat)
    (bare : c.Bare stage fun _ => True) (read : c.materialize seed = .ok d) :
    (rowsOf stage s.run i d seed).Attended stage (rowsOf stage s'.run i d seed) := by
  obtain ⟨⟨own, advice, inherited, signal, parent, unadvised, ho, ha, hi, hr, hr'⟩, world⟩ := h
  exact .intro (rowsOf stage _ i d seed) _ (bare.read read) parent.chainAspect
    ((ho.append hi).freeze _).inherited

theorem attended_build {w w' : World σ} (world : World.Attended w₀ w w') (setup : Run.Setup)
    (case : Case) (inherited : Aspect) (signal : Signal)
    (bare : setup.case.Bare stage fun _ => True) (root : setup.inherited = [])
    (same : case = { setup.case with aspect := case.aspect }) (hown : Aspect.Passing case.aspect)
    (hinherited : inherited.Passing) (running : w₀.signals.isStopped setup.signal = false)
    (running' : w₀.signals.isStopped signal = false) :
    let built := Run.build stage w setup
    let built' := Run.build stage w' { setup with case, inherited, signal }
    State.Attended stage w₀ ⟨built.2, built.1⟩ ⟨built'.2, built'.1⟩ := by
  obtain ⟨c, g, name, row, session, handed, chainEnabled⟩ := setup
  generalize case.aspect = own at same hown
  obtain rfl := same
  obtain rfl : handed = [] := root
  have unadvised : c.aspect ++ [] ++ (if c.preventsContext then [] else stage.aspect) = [] := by
    rw [bare.aspect, bare.imposed]
    rfl
  have advised : Aspect.Passing (own ++ inherited ++
      (if c.preventsContext then [] else stage.aspect)) := by
    rw [bare.imposed, List.append_nil]
    exact hown.append hinherited
  cases session with
  | some p =>
    exact ⟨.intro _ own _ inherited signal ⟨bare, rfl⟩ unadvised hown advised hinherited running
      running', world⟩
  | none =>
    have opened := world.newSession.2
    obtain ⟨⟩ := world
    exact ⟨.intro _ own _ inherited signal ⟨bare, rfl⟩ unadvised hown advised hinherited running
      running', opened⟩

theorem attended_rowStart (hq : q.Attended stage q') (h : s.Attended stage w₀ s') (n : Nat)
    (row : Row) (isLast : Bool) :
    (rowStart stage q n row isLast s).Attended stage w₀ (rowStart stage q' n row isLast s') := by
  obtain ⟨aspect, bare, unadvised, passing⟩ := hq
  obtain @⟨w, w', r, _, run, world⟩ := h
  obtain ⟨_, _, _, signal, _, _, _, _, _, running, running'⟩ := run
  obtain ⟨kept, kept'⟩ := world.kept
  obtain ⟨fresh, fresh'⟩ := world.fresh
  rw [kept] at fresh
  rw [kept'] at fresh'
  have own : Aspect.Passing q.case.aspect := by
    rw [bare.aspect]
    exact Aspect.passing_nil
  have same : q.case = { q.case with aspect := q.case.aspect } := by
    cases q.case
    rfl
  have built : ∀ {v v'}, World.Attended w₀ v v' → v.signals = w.signals → v'.signals = w'.signals →
      ∀ session, let x := v.childSignal r.signal; let x' := v'.childSignal signal
        let b := Run.build stage x.2 (rowSetup q session x.1 n row isLast)
        let b' := Run.build stage x'.2 (rowSetup { q with aspect } session x'.1 n row isLast)
        State.Attended stage w₀ ⟨b.2, b.1⟩ ⟨b'.2, b'.1⟩ := by
    intro v v' opened given given' session
    refine attended_build (opened.childSignal r.signal signal)
      (rowSetup q session (v.childSignal r.signal).1 n row isLast) q.case aspect
      (v'.childSignal signal).1 bare unadvised same own passing ?_ ?_
    · exact isStopped_child running (by rwa [given])
    · exact isStopped_child running' (by rwa [given'])
  simp only [rowStart]
  cases q.case.sharesState with
  | true => exact built world rfl rfl r.session
  | false =>
    obtain ⟨session, opened⟩ := world.newSession
    simp only [Bool.false_eq_true, if_false, session]
    exact built opened rfl rfl w.newSession.1

theorem attended_rowRaised (h : s.Attended stage w₀ s') (hv : v.Attended stage w₀ v') (c : Case) :
    (rowRaised stage c s v).Attended stage w₀ (rowRaised stage c s' v') := by
  have after : (s.after v).Attended stage w₀ (s'.after v') := attended_swap hv h
  have same : v'.run.ownsSession = v.run.ownsSession ∧ v'.run.session = v.run.session := by
    obtain ⟨⟨⟩, _⟩ := hv
    exact ⟨rfl, rfl⟩
  rw [rowRaised, rowRaised, same.1, same.2]
  split
  · exact attended_quit after _
  · exact after

theorem attended_givenBack (h : s.Attended stage w₀ s') {r r' : Run} (hr : r.Attended stage w₀ r')
    (c : Case) : (givenBack stage c r s).Attended stage w₀ (givenBack stage c r' s') := by
  have same : r'.session = r.session := by
    obtain ⟨⟩ := hr
    rfl
  rw [givenBack, givenBack, same]
  split
  · exact h
  · exact attended_quit h _

include unwatched

theorem attended_emit (h : s.Attended stage w₀ s') (e : Event) :
    (s.emit stage e).Attended stage w₀ (s'.emit stage e) :=
  h.onWorld (h.world.emit unwatched e)

theorem attended_grouped (hq : q.Attended stage q') (h : s.Attended stage w₀ s') :
    (grouped stage q s).Attended stage w₀ (grouped stage q' s') := by
  obtain ⟨⟩ := hq
  simp only [grouped]
  split
  · exact attended_emit unwatched h _
  · exact h

theorem attended_ungrouped (hq : q.Attended stage q') (h : s.Attended stage w₀ s') :
    (ungrouped stage q s).Attended stage w₀ (ungrouped stage q' s') := by
  obtain ⟨⟩ := hq
  simp only [ungrouped]
  split
  · exact attended_emit unwatched h _
  · exact h

end States

/-- What rows answer with, where both runs of the last row are alike. -/
inductive Answers (stage : Stage σ) (w₀ : World σ) :
    Except Fault (Bool × Option Run) → Except Fault (Bool × Option Run) → Prop
  | raised (f : Fault) : Answers stage w₀ (.error f) (.error f)
  | none (b : Bool) : Answers stage w₀ (.ok (b, none)) (.ok (b, none))
  | last (b : Bool) {r r' : Run} (last : r.Attended stage w₀ r') :
      Answers stage w₀ (.ok (b, some r)) (.ok (b, some r'))

section Chain
variable {inner inner' : Inner σ} {s s' : State σ} (unwatched : stage.watch = none)
  (finishes : Matched stage w₀ inner.finish inner'.finish)
  (chains : Matched stage w₀ inner.chain inner'.chain)

include finishes in
theorem matched_runRows {q q' : Rows} (hq : q.Attended stage q') (l : List Row) (n : Nat)
    {b : Bool} {last last' : Option Run} (hlast : Answers stage w₀ (.ok (b, last)) (.ok (b, last')))
    (h : s.Attended stage w₀ s') :
    Both (runRows stage inner q n l b last) (runRows stage inner' q' n l b last') s s'
      fun r t r' t' => Sunk r ∨ Answers stage w₀ r r' ∧ t.Attended stage w₀ t' := by
  induction l generalizing n b last last' s s' with
  | nil => exact .inr ⟨hlast, h⟩
  | cons row rest ih =>
    have same : q'.case = q.case := by
      obtain ⟨⟩ := hq
      rfl
    obtain ⟨live, live'⟩ := h.live
    have went := finishes _ _ (attended_rowStart hq h n row rest.isEmpty)
    rcases executed : inner.finish.exec (rowStart stage q n row rest.isEmpty s) with ⟨r, v⟩
    rcases executed' : inner'.finish.exec (rowStart stage q' n row rest.isEmpty s') with ⟨r', v'⟩
    rw [Both, Ends, executed, Ends, executed'] at went
    rcases went with ⟨f, rfl, deep⟩ | ⟨rfl, ended⟩
    · refine .inl ?_
      rw [runRows_raised live.running executed]
      exact ⟨f, rfl, deep⟩
    · cases r' with
      | error f =>
        refine .inr ?_
        rw [runRows_raised live.running executed, runRows_raised live'.running executed', same]
        exact ⟨.raised f, attended_rowRaised h ended _⟩
      | ok c =>
        rw [both_congr (runRows_next live.running executed last)
          (runRows_next live'.running executed' last')]
        exact ih (n + 1) (.last _ ended.run) (attended_swap ended h)

include unwatched finishes in
theorem matched_runGroup {q q' : Rows} (hq : q.Attended stage q') (list : List Row)
    (h : s.Attended stage w₀ s') :
    Both (runGroup stage inner q list) (runGroup stage inner' q' list) s s'
      fun r t r' t' => Sunk r ∨ Answers stage w₀ r r' ∧ t.Attended stage w₀ t' := by
  have went := matched_runRows finishes hq list 1 (.none true) (attended_grouped unwatched hq h)
  simp only [Both, Course.runGroup_iff]
  refine both_mono went ?_
  rintro r t r' t' (sunk | ⟨alike, left⟩)
  · exact .inl sunk
  · exact .inr ⟨alike, attended_ungrouped unwatched hq left⟩

include chains in
theorem matched_settleChild (c : Case) {b : Bool} {last last' : Option Run}
    (hlast : Answers stage w₀ (.ok (b, last)) (.ok (b, last'))) :
    Matched stage w₀ (settleChild stage inner c b last) (settleChild stage inner' c b last') := by
  intro s s' h
  cases hlast with
  | none => exact .inr ⟨rfl, h⟩
  | @last _ r r' hr =>
    have left : State.Attended stage w₀ ⟨s.world, r⟩ ⟨s'.world, r'⟩ := ⟨hr, h.world⟩
    have aborted : r'.aborted = r.aborted ∧ r'.row = r.row := by
      obtain ⟨⟩ := hr
      exact ⟨rfl, rfl⟩
    simp only [Both, Course.settleChild_iff, Course.runDeferred_iff, aborted.1, aborted.2,
      isStopped_attended _ _ left]
    split
    · split
      · exact .inr ⟨trivial, attended_givenBack h hr c⟩
      · refine both_mono (chains _ _ left) ?_
        rintro a v a' v' (⟨f, rfl, deep⟩ | ⟨rfl, ended⟩)
        · exact .inl ⟨f, rfl, deep⟩
        · exact .inr ⟨rfl, attended_givenBack (attended_swap ended h) hr c⟩
    · exact .inr ⟨trivial, h⟩

include unwatched finishes chains

theorem matched_runChild {c : Case} (bare : c.Bare stage fun _ => True) (i : Nat) (seed : Row) :
    Matched stage w₀ (runChild stage inner i c seed) (runChild stage inner' i c seed) := by
  intro s s' h
  cases read : c.materialize seed with
  | error f =>
    simp only [Both, runChild, ends_bind, ends_getRun, read, report]
    exact .inr ⟨rfl, attended_emit unwatched h _⟩
  | ok d =>
    cases loaded : d.effectiveLoader.load stage.sources stage.dataDir seed with
    | error f =>
      simp only [Both, runChild, ends_bind, ends_getRun, read, report, ends_pure, loaded]
      exact .inr ⟨rfl, attended_emit unwatched h _⟩
    | ok list =>
      rw [both_congr (runChild_exec read loaded s) (runChild_exec read loaded s')]
      refine both_bind
        (matched_runGroup unwatched finishes (attended_rowsOf h i bare read) list h) ?_
      rintro r t r' t' (⟨f, rfl, deep⟩ | ⟨alike, left⟩)
      · exact .inl ⟨f, rfl, deep⟩
      · cases alike with
        | raised f => exact .inr ⟨rfl, left⟩
        | none b => exact matched_settleChild chains d (.none b) _ _ left
        | last b hr => exact matched_settleChild chains d (.last b hr) _ _ left

theorem matched_runChildren (l : List Case) (i : Nat) (seed : Row) (b : Bool)
    (hl : ∀ c ∈ l, c.Bare stage fun _ => True) :
    Matched stage w₀ (runChildren stage inner i l seed b)
      (runChildren stage inner' i l seed b) := by
  induction l generalizing i seed b with
  | nil => exact matched_pure b
  | cons c rest ih =>
    intro s s' h
    have others : ∀ c ∈ rest, c.Bare stage fun _ => True := fun c hc => hl c (by simp [hc])
    obtain ⟨live, live'⟩ := h.live
    have takes : s'.run.case.takesOver = s.run.case.takesOver := by
      obtain ⟨⟨⟩, _⟩ := h
      rfl
    have reached : ∀ passed, (s.record (.reached i passed)).Attended stage w₀
        (s'.record (.reached i passed)) := fun _ => h.onWorld (h.world.record rfl)
    cases passed : isPassed c seed with
    | true =>
      rw [both_congr (runChildren_passed live.running passed)
        (runChildren_passed live'.running passed)]
      exact ih _ _ _ others _ _ (reached true)
    | false =>
      rw [both_congr (runChildren_next live.running passed) (runChildren_next live'.running passed),
        takes]
      refine both_bind
        (matched_runChild unwatched finishes chains (hl c (by simp)) i seed _ _ (reached false)) ?_
      rintro _ t r t' (⟨f, rfl, deep⟩ | ⟨rfl, left⟩)
      · exact .inl ⟨f, rfl, deep⟩
      · cases r with
        | error f => exact .inr ⟨rfl, left⟩
        | ok p => exact ih _ _ _ others _ _ left

theorem matched_chain : Matched stage w₀ (chain stage inner) (chain stage inner') := by
  refine matched_getRun fun r r' attended => ?_
  obtain ⟨_, _, _, _, bare⟩ := attended
  exact matched_runChildren unwatched finishes chains _ _ _ _ fun c hc => bare.case.chain hc

end Chain

section Finish
open Lineage

variable (unwatched : stage.watch = none)
include unwatched

theorem matched_finishWith {depth : Nat}
    (hchain : Matched stage w₀ (chain stage (innerAt stage depth))
      (chain stage (innerAt stage (depth + 1)))) :
    Matched stage w₀ (finishWith stage (innerAt stage depth))
      (finishWith stage (innerAt stage (depth + 1))) := by
  refine matched_bind (matched_start unwatched) fun _ => ?_
  refine matched_getRun fun r r' attended => ?_
  have same : r'.case.steps = r.case.steps := by
    obtain ⟨⟩ := attended
    rfl
  rw [same]
  refine matched_attempt (matched_steps unwatched depth _ true) (fun o => ?_)
    fun f t deep => halt_sunk deep t
  cases o with
  | ok b => exact matched_endRun unwatched hchain b
  | error f => exact matched_halt unwatched f

omit unwatched in
theorem beyond_sunk (part : Part) (s : State σ) : Sunk ((act stage 0 part).exec s).1 := by
  cases part with
  | run =>
    show Ends (innerAt stage 0).finish s fun r _ => Sunk r
    rw [Course.beyond_iff]
    exact ⟨_, rfl, _, Fault.root_inRun _ _⟩
  | chain => exact ⟨_, rfl, _, rfl⟩

/-- One level deeper a run under passing advice goes as it does without, and so does its chain. -/
theorem matched_innerAt (depth : Nat) :
    Matched stage w₀ (innerAt stage depth).finish (innerAt stage (depth + 1)).finish ∧
      Matched stage w₀ (innerAt stage depth).chain (innerAt stage (depth + 1)).chain := by
  induction depth with
  | zero => exact ⟨fun s _ _ => .inl (beyond_sunk .run s), fun s _ _ => .inl (beyond_sunk .chain s)⟩
  | succ depth ih =>
    have chains := matched_chain unwatched ih.1 ih.2
    exact ⟨matched_finishWith unwatched chains, chains⟩

end Finish

section Trees
open Mirror Lineage

variable (unwatched : stage.watch = none)
include unwatched

theorem kept_attended :
    Kept stage (State.Attended stage w₀) (Rows.Attended stage) where
  stopped h := isStopped_attended _ _ h
  running h := by
    obtain ⟨live, live'⟩ := h.live
    rw [live.running, live'.running]
  aborted := by
    rintro _ _ ⟨⟨⟩, _⟩
    rfl
  waiting := by
    rintro _ _ ⟨⟨⟩, _⟩
    rfl
  chain := by
    rintro _ _ ⟨⟨⟩, _⟩
    exact ⟨rfl, rfl⟩
  row := by
    rintro _ _ ⟨⟨⟩, _⟩
    rfl
  rows := by
    rintro _ _ ⟨⟩
    rfl
  reached i passed h := h.onWorld (h.world.record rfl)
  called h := by
    have closed := attended_emit unwatched h .closed
    exact ⟨attended_cursor closed.run Cursor.chainCalled, closed.world⟩
  rowsOf := by
    intro s s' c d seed i h hc read
    refine attended_rowsOf h i ?_ read
    obtain ⟨⟨_, _, _, _, bare⟩, _⟩ := h
    exact bare.case.chain hc
  grouped hq h := attended_grouped unwatched hq h
  ungrouped hq h := attended_ungrouped unwatched hq h
  rowStart n row isLast hq h := attended_rowStart hq h n row isLast
  swap h hv := attended_swap h hv

theorem attended_begun {s s' : State σ} (h : s.Attended stage w₀ s') :
    (s.begun stage).Attended stage w₀ (s'.begun stage) := by
  have started : Matched stage w₀ (start stage : Act σ Fault Unit) (start stage) :=
    matched_start unwatched
  rcases started s s' h with ⟨_, ended, _⟩ | ⟨_, begun⟩
  · cases ended
  · exact begun

omit unwatched

theorem same_of_matched {a a' : Act σ ε α} (hm : Matched stage w₀ a a') {s s' : State σ}
    (h : s.Attended stage w₀ s') (afloat : ¬ Sunk (a.exec s).1) :
    Same (State.Attended stage w₀) a a' s s' :=
  (hm s s' h).resolve_left afloat

section Sinking
variable {inner : Inner σ} {x y t : State σ}

theorem finishWith_sunk
    (sunk : Sunk ((steps stage inner (x.run.case.steps.length + 1) true).exec (x.begun stage)).1) :
    Sunk ((finishWith stage inner).exec x).1 := by
  obtain ⟨f, raised, deep⟩ := sunk
  show Ends (finishWith stage inner) x fun r _ => Sunk r
  rw [Course.finishWith_iff, Ends, raised]
  exact halt_sunk deep _

theorem chain_sunk {i : Nat} {c : Case} {rest : List Case} {seed : Row} {b : Bool}
    {past : List (List Run)} (reached : Reaches stage inner y i (c :: rest) seed b past t)
    (running : t.world.signals.isStopped t.run.signal = false) (included : isPassed c seed = false)
    (sunk : Sunk ((runChild stage inner i c seed).exec (t.record (.reached i false))).1) :
    Sunk ((chain stage inner).exec y).1 := by
  rcases executed : (runChild stage inner i c seed).exec (t.record (.reached i false)) with ⟨r, u⟩
  rw [executed] at sunk
  obtain ⟨f, rfl, deep⟩ := sunk
  rw [reached.exec, runChildren_next running included, exec_bind, executed]
  exact ⟨f, rfl, deep⟩

end Sinking

variable {depth : Nat} {s s' : State σ} (h : s.Attended stage w₀ s')
  (shallow : ¬ Sunk ((finishWith stage (innerAt stage depth)).exec s).1)
include shallow

theorem afloat {k : Nat} {part : Part} {line : List (Place σ)} {x : State σ}
    (below : Descends stage depth s part k line x) : ¬ Sunk ((act stage k part).exec x).1 := by
  rintro ⟨f, raised, deep⟩
  obtain ⟨g, ended, same⟩ := below.raises raised
  exact shallow ⟨g, ended, deep.imp fun _ root => same.trans root⟩

include unwatched

/-- A run at the same place of both trees goes alike. -/
theorem finish_attended {k : Nat} {line : List (Place σ)} {x x' : State σ}
    (below : Descends stage depth s .run k line x) (related : x.Attended stage w₀ x') :
    Same (State.Attended stage w₀) (act stage k .run) (act stage (k + 1) .run) x x' :=
  same_of_matched (matched_innerAt unwatched k).1 related (afloat shallow below)

include h

theorem trees_attended : Trees stage depth (depth + 1) (State.Attended stage w₀) s s' where
  start := h
  steps := by
    intro k k' line line' x x' level below below' related
    obtain rfl : k' = k + 1 := by omega
    have same : x'.run.case.steps = x.run.case.steps := by
      obtain ⟨⟨⟩, _⟩ := related
      rfl
    have left := afloat shallow below
    have begun := attended_begun unwatched related
    rw [same]
    exact same_of_matched (matched_steps unwatched k _ true) begun fun sunk =>
      left (finishWith_sunk sunk)
  chains := by
    intro k k' line line' y y' level below below' related
    obtain rfl : k' = k + 1 := by omega
    have finishes : Matched stage w₀ _ _ := (matched_innerAt unwatched k).1
    have chains : Matched stage w₀ _ _ := (matched_innerAt unwatched k).2
    refine ⟨related, ?_, fun begins begins' started =>
      finish_attended unwatched shallow (.row below begins) started⟩
    intro i c rest seed b past past' t t' reached reached' included running come
    have bare : c.Bare stage fun _ => True := by
      have member := reached.member
      obtain ⟨⟨_, _, _, _, bare⟩, _⟩ := related
      exact bare.case.chain member
    refine same_of_matched (matched_runChild unwatched finishes chains bare i seed)
      (come.onWorld (come.world.record rfl)) fun sunk => ?_
    exact afloat shallow below (chain_sunk reached running included sunk)

end Trees

end Attended

namespace Transparency
open Lineage Mirror Attended

/-- Each run below the first has a counterpart at its place below the second, which has the same
result and ends with the same variables. -/
def Counterparts (stage : Stage σ) (depth depth' : Nat) (s s' : State σ) : Prop :=
  ∀ k line x, Descends stage depth s .run k line x →
    ∃ k' line' x', Descends stage depth' s' .run k' line' x' ∧
      line'.map Place.address = line.map Place.address ∧
      let v := (act stage k .run).exec x
      let v' := (act stage k' .run).exec x'
      v'.1 = v.1 ∧ v'.2.run.row = v.2.run.row

def built (stage : Stage σ) (w : World σ) (setup : Run.Setup) : State σ :=
  let (run, w) := Run.build stage w setup
  ⟨w, run⟩

def advised (setup : Run.Setup) (l : Aspect) : Run.Setup :=
  { setup with case := { setup.case with aspect := l } }

section Counterparts
variable (unwatched : stage.watch = none) {depth : Nat} {s s' : State σ}
  (h : s.Attended stage w₀ s')
  (shallow : ¬ Sunk ((finishWith stage (innerAt stage depth)).exec s).1)
include unwatched h shallow

theorem counterparts_attended : Counterparts stage depth (depth + 1) s s' := by
  intro k line x below
  obtain ⟨k', line', x', level, below', places, related⟩ :=
    descends_mirrored (kept_attended unwatched) (trees_attended unwatched h shallow)
      (fun level _ => by omega) below
  obtain rfl : k' = k + 1 := by omega
  obtain ⟨same, ended⟩ := finish_attended unwatched shallow below related
  exact ⟨_, line', x', below', places, same, (kept_attended unwatched).row ended⟩

theorem counterparts_bare : Counterparts stage (depth + 1) depth s' s := by
  intro k' line' x' below'
  have kept : Kept stage (State.Attended stage w₀) _ := kept_attended unwatched
  have enough : Suffices stage (depth + 1) depth s := by
    intro _ k part line x level below
    refine Nat.pos_of_ne_zero ?_
    rintro rfl
    exact afloat shallow below (beyond_sunk part x)
  obtain ⟨k, line, x, level, below, places, related⟩ :=
    descends_mirrored kept.flip ((trees_attended unwatched h shallow).flip kept) enough below'
  obtain rfl : k' = k + 1 := by omega
  obtain ⟨same, ended⟩ := finish_attended unwatched shallow below related
  exact ⟨k, line, x, below, places, same.symm, (kept.row ended).symm⟩

end Counterparts

/-- A tree of runs without interceptors is set beside the same tree with passing advice for the
steps of its first case. Where nobody stops a run and the runs are not nested beyond some
depth, one level more is enough for the advice. The result and the final variables are the
same, and so are the record but for the advice cases and what happened in them, the calls of
browsers and their state. Below both are the same runs, with the same results and the same
final variables. -/
theorem advice_transparent (stage : Stage σ) (unwatched : stage.watch = none) (depth : Nat)
    (w : World σ) (known : ∀ m ∈ w.signals.stopped, m < w.signals.next) (setup : Run.Setup)
    (running : w.signals.isStopped setup.signal = false)
    (bare : setup.case.Bare stage fun _ => True) (root : setup.inherited = []) (l : Aspect)
    (passing : l.Passing) :
    let s := built stage w setup
    let s' := built stage w (advised setup l)
    let e := (finishWith stage (innerAt stage depth)).exec s
    let e' := (finishWith stage (innerAt stage (depth + 1))).exec s'
    ¬ Sunk e.1 →
      e'.1 = e.1 ∧ e'.2.run.row = e.2.run.row ∧
      unadvised (World.since w e'.2.world) = World.since w e.2.world ∧
      (World.since w e'.2.world).filter TraceEntry.isCall =
        (World.since w e.2.world).filter TraceEntry.isCall ∧
      e'.2.world.browser = e.2.world.browser ∧
      Counterparts stage depth (depth + 1) s s' ∧ Counterparts stage (depth + 1) depth s' s := by
  intro s s' e e' shallow
  have alike : World.Attended w w w :=
    .intro w w.signals.next w.trace rfl known known (filled_refl w.trace)
  have start : s.Attended stage w s' := by
    obtain ⟨c, g, name, row, session, inherited, chainEnabled⟩ := setup
    obtain rfl : inherited = [] := root
    exact attended_build alike _ { c with aspect := l } [] g bare rfl rfl passing
      Aspect.passing_nil running running
  -- one level more for the run under advice, whose advice cases are runs themselves
  obtain ⟨same, ended⟩ :=
    finish_attended unwatched shallow (k := depth + 1) .top start
  obtain ⟨k, k', left, left', skimmed, called⟩ := ended.world.filled
  have since : World.since w e.2.world = k := World.since_eq left
  have since' : World.since w e'.2.world = k' := World.since_eq left'
  rw [since, since', unadvised, skimmed]
  exact ⟨same, (kept_attended unwatched).row ended, rfl, called, ended.world.browser,
    counterparts_attended unwatched start shallow, counterparts_bare unwatched start shallow⟩

section Example
open Brackets Blame Seeds

def salute : Case where
  script := { name := "salute" }
  steps := [{ kind := .echo, texts := [("text", "hi")] }]

def setupOf (c : Case) : Run.Setup where
  case := c
  signal := ⟨0, []⟩

def before (c : Case) : Aspect := [.script (some .any) (some c) none none true]

def household : Case := { salute with chain := [storing] }

/-- A run that hands down passing advice to the rows of its chained case, which read and store
variables, does not show it. -/
theorem advised_household_alike :
    let w : World Unit := { browser := () }
    let s := built lettered w (setupOf household)
    let s' := built lettered w (advised (setupOf household) (before farewell))
    let e := (finishWith lettered (innerAt lettered 2)).exec s
    let e' := (finishWith lettered (innerAt lettered 3)).exec s'
    (World.since w e'.2.world).count (.adviceBegun .before) = 3 ∧ e.1.toOption = some true ∧
      e'.1 = e.1 ∧ unadvised (World.since w e'.2.world) = World.since w e.2.world ∧
      Counterparts lettered 2 3 s s' := by
  intro w
  have bare : household.Bare lettered fun _ => True := by
    refine .intro rfl (.inr rfl) (by simp) ?_ (fun _ none => by cases none)
    simp only [household, List.mem_cons, List.not_mem_nil, or_false, forall_eq]
    exact .intro rfl (.inr rfl) (by simp) (by simp [storing]) (fun _ none => by cases none)
  have passing : Aspect.Passing (before farewell) := by
    have bye : farewell.Passing := by
      refine ⟨rfl, rfl, ?_⟩
      simp only [farewell, List.mem_cons, List.not_mem_nil, or_false, forall_eq]
      exact ⟨rfl, ⟨_, rfl⟩, .inl rfl⟩
    simp only [Aspect.Passing, before, List.mem_cons, List.not_mem_nil, or_false, forall_eq]
    exact .intro (by simpa using bye) (by simp)
  have asked : (World.since w ((finishWith lettered (innerAt lettered 3)).exec
      (built lettered w (advised (setupOf household) (before farewell)))).2.world).count
        (.adviceBegun .before) = 3 := by
    decide +kernel
  have succeeds : ((finishWith lettered (innerAt lettered 2)).exec
      (built lettered w (setupOf household))).1.toOption = some true := by
    decide +kernel
  have shallow : ¬ Sunk ((finishWith lettered (innerAt lettered 2)).exec
      (built lettered w (setupOf household))).1 := by
    rintro ⟨f, raised, _⟩
    rw [raised] at succeeds
    cases succeeds
  have transparent := advice_transparent lettered rfl 2 w (by simp [w]) (setupOf household) rfl
    bare rfl (before farewell) passing shallow
  dsimp only [Nat.reduceAdd] at transparent ⊢
  obtain ⟨result, _, same, _, _, counterparts, _⟩ := transparent
  exact ⟨asked, succeeds, result, same, counterparts⟩

/-- Advice that fails in its own run refuses the step, although it consists of an echo step that has
its text; and so does advice in which a listener stops the run. The step is then passed
over. -/
theorem failing_advice_shows :
    let w : World Unit := { browser := () }
    let refusal : Case :=
      { farewell with steps := farewell.steps.map fun p => { p with negated := true } }
    let watched : Stage Unit := { bare with
      watch := some ⟨⟨0, []⟩, fun l => l.any fun e => match e with
        | .event (.started _) => true
        | _ => false⟩ }
    let events := fun stage setup =>
      told (unadvised (World.since w ((finishWith stage (innerAt stage 2)).exec
        (built stage w setup)).2.world))
    .started "echo text:hi" ∈ events bare (setupOf salute) ∧
      .started "echo text:hi" ∉ events bare (advised (setupOf salute) (before refusal)) ∧
      .started "echo text:hi" ∈ events watched (setupOf salute) ∧
      .started "echo text:hi" ∉ events watched (advised (setupOf salute) (before farewell)) := by
  decide +kernel

end Example

end Transparency

end Scenario
