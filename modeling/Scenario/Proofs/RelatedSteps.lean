import Scenario.Proofs.RelatedWorlds

/-!
# Steps side by side

What a step does, the advice around it, the steps inside it and all steps of a
run are the same in two runs that go abreast, where each step that is left out of
the one is left out of the other.
-/

set_option autoImplicit false

namespace Scenario.Abreast
open Scenario.Act Scenario.Execution

variable {σ ε α : Type} {stage : Stage σ} {D : Discipline} {inner : Inner σ}
  {K : World σ → World σ → Prop} {V : Run → Run → Prop}

section Actions
variable (kin : World.Kin stage D K) (paired : Run.Paired V)

include paired in
theorem reads : Agrees (Abreast K (Run.Level V)) where
  row h := paired.row h.run.pair
  step h := h.run.step
  remaining h := paired.remaining h.run.pair
  assigned row h := ⟨h.world, paired.rowed row h.run.pair, h.run.step⟩

include kin paired in
theorem blind : Blind stage (Abreast K (Run.Level V)) where
  toAgrees := reads paired
  driver := by
    intro s s' h
    rw [paired.session h.run.pair]
    obtain ⟨same, kept⟩ := kin.driver s.run.session h.world
    exact ⟨same, kept, h.run⟩
  performed := by
    intro s s' d c h
    obtain ⟨same, kept⟩ := kin.perform d c h.world
    exact ⟨same, kept, h.run⟩
  elapsed ms h := ⟨kin.elapse ms h.world, h.run⟩

include kin paired

variable {block : Nat → Act σ Problem Bool} (hblock : ∀ n, Respects (Abreast K V) (block n))
include hblock

theorem respects_rounds (size left i : Nat) (success : Bool) :
    Respects (Abreast K V) (Action.rounds block size left i success) := by
  induction left generalizing i success with
  | zero => exact respects_pure success
  | succ left ih =>
    simp only [Action.rounds]
    refine respects_bind (respects_isStopped kin paired) fun stopped => ?_
    split
    · exact respects_pure success
    · refine respects_bind (respects_record kin _) fun _ => ?_
      refine respects_bind (respects_rowed paired fun row => row.put _ _) fun _ => ?_
      exact respects_bind (hblock size) fun b => ih _ _

theorem leads_action (p : Step.Kind) : Leads (Abreast K (Run.Level V)) (Abreast K V)
    (Action.perform stage block p) (Action.perform stage block p) := by
  have loose : ∀ {s s' : State σ}, Abreast K (Run.Level V) s s' → Abreast K V s s' :=
    fun h => ⟨h.world, h.run.pair⟩
  have inert : ∀ {a : Act σ Problem Bool}, Respects (Abreast K (Run.Level V)) a →
      Leads (Abreast K (Run.Level V)) (Abreast K V) a a := fun ha s s' h =>
    both_mono (ha s s' h) fun _ _ _ _ both => ⟨both.1, loose both.2⟩
  have reads := reads (K := K) paired
  have blind := blind kin paired
  cases p with
  | loop =>
    refine leads_seq (reads.respects_text _) (fun m => ?_) loose
    refine leads_seq (Agrees.respects_number m) (fun count => ?_) loose
    refine leads_seq reads.respects_currentStep (fun p => ?_) loose
    refine leads_getRun fun h s s' both => ?_
    rw [paired.owned h.pair]
    exact respects_rounds kin paired hblock _ _ _ _ s s' (loose both)
  | branch =>
    refine leads_seq (reads.respects_rawText _) (fun condition => ?_) loose
    refine leads_seq reads.respects_currentStep (fun p => ?_) loose
    refine leads_getRun fun h s s' both => ?_
    rw [paired.owned h.pair, paired.row h.pair]
    split
    · exact hblock _ s s' (loose both)
    · exact respects_pure true s s' (loose both)
  | reading m g =>
    cases m with
    | waitFor => exact inert (blind.respects_waitFor (fun _ _ => isStopped_eq kin paired.level) g)
    | _ => exact inert (blind.respects_steady rfl rfl)
  | _ => exact inert (blind.respects_steady rfl rfl)

end Actions

section Advice
variable (kin : World.Kin stage D K)
include kin

theorem respects_recorded (byHook : Bool) (k : AdviceKind) {a : Act σ Fault Bool}
    (ha : Respects (Abreast K V) a) : Respects (Abreast K V) (recorded byHook k a) := by
  refine respects_bind (respects_outcome ha) fun r => ?_
  cases r with
  | ok b => exact respects_bind (respects_record kin _) fun _ => respects_pure b
  | error f => exact respects_bind (respects_record kin _) fun _ => respects_throw f

variable (paired : Run.Paired V)
include paired

theorem respects_callHook {p : Pointcut} {b a f : Option Hook} {t : Bool}
    (able : D.able (.hooks p b a f t)) {k : AdviceKind} {h : Hook} (part : pick k b a f = some h)
    (x : Step) : Respects (Abreast K V) (callHook h k x : Act σ Fault Bool) := by
  have follows : ∀ answer : HookAnswer, Respects (Abreast K V) (do
      Act.modifyWorld fun w => w.hookCalled answer.note
      Act.modifyRun fun r => { r with row := r.row.putAll answer.assign }
      if answer.stop then
        Act.stop
        let r ← Act.getRun
        Act.modifyWorld fun w => w.record (.stopped r.signal k x)
      Act.conclude answer.result : Act σ Fault Bool) := by
    intro answer
    refine respects_bind (respects_modifyWorld (kin.hookCalled _)) fun _ => ?_
    refine respects_bind (respects_rowed paired fun row => row.putAll answer.assign) fun _ => ?_
    cases answer.stop with
    | true =>
      refine respects_bind (respects_stop kin paired) fun _ => leads_getRun fun h => ?_
      rw [paired.signal h]
      exact respects_bind (respects_record kin _) fun _ => respects_conclude _
    | false => exact respects_conclude _
  refine fun s s' both => both_get ?_
  have same := kin.answers both.world able part ⟨s.run.name, k, x, s.run.row, 0⟩
  dsimp only at same ⊢
  rw [paired.name both.run, paired.row both.run, same]
  exact follows _ s s' both

variable (hstage : Aspect.Under D stage.aspect)
  (hin : Respects (Abreast K (Run.Same D)) inner.finish)
include hstage hin

theorem respects_runAdvice {c : Case} (under : c.Under D) (k : AdviceKind) (x : Step) :
    Respects (Abreast K V) (runAdvice stage inner c k x) := by
  refine leads_getRun fun {r r'} h => ?_
  have setup : ∀ g, adviceSetup r' g c x k = adviceSetup r g c x k := by
    intro g
    rw [adviceSetup, adviceSetup, paired.current h, paired.row h, paired.name h, paired.session h]
  simp only [setup, paired.signal h]
  refine respects_bind (respects_record kin _) fun _ => ?_
  refine respects_bind (respects_childSignal kin r.signal) fun signal => ?_
  have settled : ({ c with preventsContext := true } : Case).settled.Under D :=
    under.same rfl rfl rfl
  refine Yields.leads (A := fun _ => True)
    (yields_bind (yields_built kin hstage settled Aspect.under_nil) fun nested below => ?_)
  exact yields_bind (yields_inside below hin) fun _ _ => (leads_conclude _).yields

theorem respects_advise {i : Interceptor Case} (under : i.Under D) (k : AdviceKind) (x : Step) :
    Respects (Abreast K V) (advise stage inner k x i) := by
  cases i with
  | script p b a f t =>
    simp only [advise]
    split
    · rename_i c part
      have below := under.cases c (Interceptor.mem_cases_of_part part)
      exact respects_recorded kin false k (respects_runAdvice kin paired hstage hin below k x)
    · exact respects_pure true
  | hooks p b a f t =>
    simp only [advise]
    split
    · exact respects_recorded kin true k (respects_callHook kin paired under.able ‹_› x)
    · exact respects_pure true

theorem respects_adviseAll {l : List (Interceptor Case)} (under : Aspect.Under D l)
    (k : AdviceKind) (x : Step) : Respects (Abreast K V) (adviseAll stage inner k x l) := by
  induction l with
  | nil => exact respects_pure true
  | cons i l ih =>
    obtain ⟨first, rest⟩ := List.forall_mem_cons.1 under
    refine respects_bind (respects_advise kin paired hstage hin first k x) fun b => ?_
    cases b with
    | true => exact ih rest
    | false => exact respects_pure false

theorem respects_adviseEvery {l : List (Interceptor Case)} (under : Aspect.Under D l)
    (k : AdviceKind) (x : Step) (b : Bool) :
    Respects (Abreast K V) (adviseEvery stage inner k x l b) := by
  induction l generalizing b with
  | nil => exact respects_pure b
  | cons i l ih =>
    obtain ⟨first, rest⟩ := List.forall_mem_cons.1 under
    exact respects_bind (respects_advise kin paired hstage hin first k x) fun _ => ih rest _

end Advice

/-- Two lists of interceptors that say the same about a step in all runs that go abreast. -/
structure Concerted (stage : Stage σ) (inner : Inner σ) (K : World σ → World σ → Prop) (x : Step)
    (l l' : List (Interceptor Case)) : Prop where
  all : ∀ {V}, Run.Paired V → ∀ k,
    Leads (Abreast K V) (Abreast K V) (adviseAll stage inner k x l) (adviseAll stage inner k x l')
  every : ∀ {V}, Run.Paired V → ∀ b,
    Leads (Abreast K V) (Abreast K V) (adviseEvery stage inner .failure x l b)
      (adviseEvery stage inner .failure x l' b)

theorem concerted_self (kin : World.Kin stage D K) (hstage : Aspect.Under D stage.aspect)
    (hin : Respects (Abreast K (Run.Same D)) inner.finish) {l : List (Interceptor Case)}
    (under : Aspect.Under D l) (x : Step) : Concerted stage inner K x l l where
  all paired k := respects_adviseAll kin paired hstage hin under k x
  every paired b := respects_adviseEvery kin paired hstage hin under .failure x b

section Judgement
variable (kin : World.Kin stage D K) (paired : Run.Paired V) {x : Step}
  {l l' : List (Interceptor Case)} (advice : Concerted stage inner K x l l')
include kin paired advice

theorem leads_failed (label : String) : Leads (Abreast K V) (Abreast K V)
    (failed stage inner l x label) (failed stage inner l' x label) := by
  refine leads_bind (respects_emit kin _) fun _ => ?_
  refine leads_bind (leads_outcome (advice.every paired true)) fun r => ?_
  refine leads_bind (respects_emit kin _) fun _ => ?_
  cases r with
  | error f => exact leads_throw f
  | ok b =>
    dsimp only
    split
    · exact leads_pure false
    · exact leads_throw _

theorem leads_succeeded (label : String) : Leads (Abreast K V) (Abreast K V)
    (succeeded stage inner l x label) (succeeded stage inner l' x label) := by
  have answered : ∀ b, Leads (Abreast K V) (Abreast K V)
      (if b = true then do Act.emit stage .ended; pure true
        else failed stage inner l x label)
      (if b = true then do Act.emit stage .ended; pure true
        else failed stage inner l' x label) := by
    intro b
    cases b with
    | true => exact leads_bind (respects_emit kin _) fun _ => leads_pure true
    | false => exact leads_failed kin paired advice label
  simp only [succeeded]
  split
  · exact leads_bind (advice.all paired .after) answered
  · exact leads_bind (leads_pure true) answered

theorem leads_raised (f : Fault) : Leads (Abreast K V) (Abreast K V)
    (raised stage inner l x f) (raised stage inner l' x f) := by
  refine leads_bind (respects_emit kin _) fun _ => ?_
  refine leads_bind (leads_outcome (advice.every paired true)) fun _ => ?_
  exact leads_bind (respects_emit kin _) fun _ => leads_throw f

theorem leads_judge (label : String) (r : Except Problem Bool) :
    Leads (Abreast K V) (Abreast K V) (judge stage inner l x label r)
      (judge stage inner l' x label r) := by
  rcases r with (f | f | t) | b
  · exact leads_bind (respects_emit kin _) fun _ => leads_throw f
  · exact leads_raised kin paired advice f
  · exact leads_raised kin paired advice _
  · simp only [judge]
    split
    · exact leads_succeeded kin paired advice label
    · exact leads_failed kin paired advice label

end Judgement

section Steps
variable (kin : World.Kin stage D K)
include kin

section Step
variable {block : Nat → Act σ Problem Bool} {s s' : State σ}

theorem executeStep_abreast (paired : Run.Paired V) (hblock : ∀ n, Respects (Abreast K V) (block n))
    (h : Abreast K (Run.Level V) s s') (x : Step)
    (advice : Concerted stage inner K x (Aspect.advice s.run.aspect x s.run.row)
      (Aspect.advice s'.run.aspect x s'.run.row)) :
    Both (executeStep stage inner block x) (executeStep stage inner block x) s s'
      fun r t r' t' => r' = r ∧ Abreast K V t t' := by
  have level := paired.level
  have loose : ∀ {t t' : State σ}, Abreast K (Run.Level V) t t' → Abreast K V t t' :=
    fun h => ⟨h.world, h.run.pair⟩
  unfold executeStep
  refine both_getRun ?_
  dsimp only
  rw [level.consumed h.run, level.row h.run]
  split
  · exact ⟨rfl, loose h⟩
  · rw [level.row h.run] at advice
    refine leads_seq (advice.all level .before) (fun b => ?_) loose s s' h
    split
    · refine leads_getRun fun {r r'} pair => ?_
      rw [level.row pair]
      refine leads_seq (respects_emit kin _) (fun _ => ?_) loose
      refine leads_bind (leads_outcome (leads_action kin paired hblock x.kind)) fun result => ?_
      exact leads_bind (leads_judge kin paired advice _ result) fun _ => leads_pure _
    · exact fun t t' h => ⟨rfl, loose h⟩

end Step

end Steps

/-- Both runs stand on one step, and filters and interceptors treat it alike in both. -/
structure Meets (stage : Stage σ) (inner : Inner σ) (K : World σ → World σ → Prop) (r r' : Run) :
    Prop where
  step : r'.step? = r.step?
  included : ∀ x, r.step? = some x → r'.case.includes x r.row = r.case.includes x r.row
  advice : ∀ x, r.step? = some x → Concerted stage inner K x (Aspect.advice r.aspect x r.row)
    (Aspect.advice r'.aspect x r'.row)

/-- Wherever two runs stand, they meet, or the step of each is done with alike. -/
def Turns (stage : Stage σ) (inner : Inner σ) (K : World σ → World σ → Prop)
    (V : Run → Run → Prop) : Prop :=
  ∀ s s' : State σ, Abreast K V s s' → Meets stage inner K s.run s'.run ∨
    ∀ block, Both (executeCurrent stage inner block) (executeCurrent stage inner block) s s'
      fun r t r' t' => r' = r ∧ Abreast K V t t'

theorem turns_same (kin : World.Kin stage D K) (hstage : Aspect.Under D stage.aspect)
    (hin : Respects (Abreast K (Run.Same D)) inner.finish) :
    Turns stage inner K (Run.Same D) := by
  rintro ⟨w, r⟩ ⟨w', _⟩ ⟨_, rfl, under⟩
  refine .inl ⟨rfl, fun _ _ => rfl, fun x _ => concerted_self kin hstage hin ?_ x⟩
  exact fun i hi => under.aspect i (List.mem_filter.1 hi).1

section Turns
variable (kin : World.Kin stage D K) (moving : Run.Moving V) (turns : Turns stage inner K V)
include kin moving

omit kin in
theorem respects_stand (i : Int) :
    Respects (Abreast K V)
      (Act.modifyRun fun r => { r with cursor := { r.cursor with index := i } } : Act σ ε Unit) :=
  fun _ _ h => ⟨rfl, h.world, moving.stood i h.run⟩

section Block
variable {block : Nat → Act σ Problem Bool} (hblock : ∀ n, Respects (Abreast K V) (block n))

include turns

section Current
include hblock

theorem respects_executeCurrent : Respects (Abreast K V) (executeCurrent stage inner block) := by
  intro s s' h
  rcases turns s s' h with meets | passed
  · have paired := moving.toPaired
    unfold executeCurrent
    refine both_getRun ?_
    rw [meets.step, paired.current h.run, paired.row h.run]
    split
    · rename_i x step
      refine both_modifyWorld ?_
      have turned : Abreast K V { s with world := s.world.record (.turned _) }
          { s' with world := s'.world.record (.turned _) } :=
        ⟨kin.record (.turned (s.run.cursor.current?.getD 0)) h.world, h.run⟩
      rw [meets.included x step]
      split
      · have advice := meets.advice x step
        exact executeStep_abreast kin paired hblock ⟨turned.world, h.run, meets.step⟩ x advice
      · exact ⟨rfl, turned⟩
    · exact ⟨rfl, h⟩
  · exact passed block

theorem respects_walk (origin last steps index : Nat) (success : Bool) :
    Respects (Abreast K V) (walk stage inner block origin last steps index success) := by
  have move : ∀ i, Respects (Abreast K V) (moveTo i : Act σ Problem Unit) := fun _ =>
    respects_stand moving _
  induction steps generalizing index success with
  | zero => exact respects_bind (move _) fun _ => respects_pure _
  | succ steps ih =>
    simp only [walk]
    refine respects_bind (respects_isStopped kin moving.toPaired) fun stopped => ?_
    split
    · exact respects_bind (move _) fun _ => respects_pure _
    · refine respects_bind (move _) fun _ => ?_
      have current := respects_executeCurrent kin moving turns hblock
      refine respects_bind (respects_outcome current) fun r => ?_
      cases r with
      | ok o => exact ih _ _
      | error f => exact respects_bind (move _) fun _ => respects_throw _

end Current

theorem respects_blockAt (depth count : Nat) :
    Respects (Abreast K V) (blockAt stage inner depth count) := by
  induction depth generalizing count with
  | zero => exact respects_pure true
  | succ depth ih =>
    refine leads_getRun fun {r r'} h => ?_
    rw [moving.current h, moving.length h]
    split
    · exact Agrees.respects_trouble _
    · exact respects_walk kin moving turns ih _ _ _ _ _

theorem respects_block (count : Nat) : Respects (Abreast K V) (Execution.block stage inner count) := by
  refine leads_getRun fun {r r'} h => ?_
  rw [moving.length h]
  exact respects_blockAt kin moving turns _ _

end Block

theorem respects_hasNext : Respects (Abreast K V) (hasNext : Act σ ε Bool) := by
  have looked : Respects (Abreast K V) (do
      let r ← Act.getRun
      return r.cursor.needsRunning r.lastIndex : Act σ ε Bool) := by
    refine leads_getRun fun {r r'} h => ?_
    rw [Cursor.needsRunning, Cursor.needsRunning, Run.lastIndex, Run.lastIndex, moving.length h,
      moving.index h, moving.stopped h]
    exact respects_pure _
  refine fun s s' h => both_get ?_
  dsimp only
  rw [running_eq kin moving.toPaired h, moving.stopped h.run]
  split
  · refine respects_bind (fun t t' h => ⟨rfl, h.world, moving.halted h.run⟩) (fun _ => looked) s s' h
  · exact looked s s' h

omit kin in
theorem respects_forward (n : Nat) :
    Respects (Abreast K V) (Act.modifyRun fun r => { r with cursor := r.cursor.forward n } :
      Act σ ε Unit) := by
  intro s s' h
  refine ⟨rfl, h.world, ?_⟩
  show V { s.run with cursor := s.run.cursor.forward n }
    { s'.run with cursor := s'.run.cursor.forward n }
  rw [Cursor.forward, Cursor.forward, moving.index h.run]
  exact moving.stood _ h.run

include turns

theorem respects_next : Respects (Abreast K V) (next stage inner) := by
  refine respects_bind (respects_forward moving 1) fun _ => ?_
  have block := respects_block kin moving turns
  refine respects_bind (respects_executeCurrent kin moving turns block) fun o => ?_
  exact respects_bind (respects_forward moving _) fun _ => respects_pure _

/-- All steps that are left do the same. -/
theorem respects_steps (left : Nat) (success : Bool) :
    Respects (Abreast K V) (steps stage inner left success) := by
  induction left generalizing success with
  | zero => exact respects_pure success
  | succ left ih =>
    refine respects_bind (respects_hasNext kin moving) fun b => ?_
    cases b with
    | true => exact respects_bind (respects_next kin moving turns) fun _ => ih _
    | false => exact respects_pure success

end Turns

end Scenario.Abreast
