import Scenario.Proofs.FailedSteps
import Scenario.Proofs.InheritedAdvice
import Scenario.Proofs.OmittedSteps
import Scenario.Proofs.ResultConjunction

/-!
# Verifications that pass

A run is set beside the same run in which verifications pass, and so do the steps that stand
for the steps they own. Wherever its steps do not end it, the run does what the lenient one
does. A verification that fails on its own does not end it, but one that stands in a loop or
a branch makes the step around it fail, and that does.
-/

set_option autoImplicit false

namespace Scenario
open Scenario.Act Scenario.Execution

variable {σ ε β : Type} {stage : Stage σ} {inner : Inner σ}

namespace Execution

abbrev Way (σ : Type) := (Nat → Act σ Problem Bool) → Step → Act σ Fault Outcome

section Way
variable (way : Way σ)

def currentBy (block : Nat → Act σ Problem Bool) : Act σ Fault Outcome := do
  let r ← Act.getRun
  match r.step? with
  | some s =>
    Act.modifyWorld fun w => w.record (.turned (r.cursor.current?.getD 0))
    if r.case.includes s r.row then way block s else pure ⟨true, 1⟩
  | none => pure ⟨true, 1⟩

def walkBy (block : Nat → Act σ Problem Bool) (origin last : Nat) :
    Nat → Nat → Bool → Act σ Problem Bool
  | 0, _, success => do
    moveTo origin
    pure success
  | steps + 1, index, success => do
    if last < index ∨ (← Act.isStopped) then
      moveTo origin
      pure success
    else
      moveTo index
      match ← Act.outcome (currentBy way block) with
      | .ok o => walkBy block origin last steps (index + o.consumed) (o.success && success)
      | .error f => do
        moveTo origin
        throw (.reported f)

def blockAtBy : Nat → Nat → Act σ Problem Bool
  | 0, _ => pure true
  | depth + 1, count => do
    let r ← Act.getRun
    match r.cursor.current? with
    | none => Act.trouble "no step is running"
    | some origin =>
      let last := min (origin + count) (r.case.steps.length - 1)
      walkBy way (blockAtBy depth) origin last (last - origin + 1) (origin + 1) true

def blockBy (count : Nat) : Act σ Problem Bool := do
  blockAtBy way ((← Act.getRun).case.steps.length + 1) count

def nextBy : Act σ Fault Bool := do
  Act.modifyRun fun r => { r with cursor := r.cursor.startStep }
  let o ← currentBy way (blockBy way)
  Act.modifyRun fun r => { r with cursor := r.cursor.forward (o.consumed - 1) }
  pure o.success

def stepsBy : Nat → Bool → Act σ Fault Bool
  | 0, success => pure success
  | left + 1, success => do
    if ← hasNext then
      let r ← nextBy way
      stepsBy left (r && success)
    else pure success

/-- Executes the whole case, its own steps in another way. -/
def finishBy (stage : Stage σ) (inner : Inner σ) : Act σ Fault Bool := do
  start stage
  let r ← Act.getRun
  match ← Act.outcome (stepsBy way (r.case.steps.length + 1) true) with
  | .ok success => endRun stage (chain stage inner) success
  | .error f => halt stage f

theorem finishBy_iff (stage : Stage σ) (inner : Inner σ) (s : State σ)
    (Q : Except Fault Bool → State σ → Prop) :
    Ends (finishBy way stage inner) s Q ↔
      Ends (stepsBy way (s.run.case.steps.length + 1) true) (s.begun stage) fun r t =>
        match r with
        | .ok b => Ends (endRun stage (chain stage inner) b) t Q
        | .error f => Ends (halt stage f) t Q := by
  rw [finishBy, ends_bind, Course.start_ends]
  simp only [ends_bind, ends_getRun, ends_outcome]
  refine iff_of_eq (congrArg (Ends _ _) (funext fun r => funext fun t => ?_))
  cases r <;> rfl

end Way

section Own
variable (stage : Stage σ) (inner : Inner σ)

theorem walkBy_executeStep (block : Nat → Act σ Problem Bool)
    (origin last steps index : Nat) (success : Bool) :
    walkBy (executeStep stage inner) block origin last steps index success =
      walk stage inner block origin last steps index success := by
  induction steps generalizing index success with
  | zero => rfl
  | succ steps ih =>
    simp only [walkBy, ih]
    rfl

theorem blockAtBy_executeStep (depth : Nat) :
    blockAtBy (executeStep stage inner) depth = blockAt stage inner depth := by
  induction depth with
  | zero => rfl
  | succ depth ih =>
    funext count
    simp only [blockAtBy, ih, walkBy_executeStep]
    rfl

theorem nextBy_executeStep : nextBy (executeStep stage inner) = next stage inner := by
  have same : blockBy (executeStep stage inner) = block stage inner := by
    funext count
    simp only [blockBy, block, blockAtBy_executeStep]
  rw [nextBy, same]
  rfl

theorem stepsBy_executeStep (left : Nat) (success : Bool) :
    stepsBy (executeStep stage inner) left success = steps stage inner left success := by
  induction left generalizing success with
  | zero => rfl
  | succ left ih => simp only [stepsBy, steps, ih, nextBy_executeStep]

/-- The way in which steps are carried out is one of the ways. -/
theorem finishBy_executeStep :
    finishBy (executeStep stage inner) stage inner = finishWith stage inner := by
  simp only [finishBy, stepsBy_executeStep]
  rfl

end Own

end Execution

/-- Verifications pass, and so do the steps that stand for the steps they own. -/
def Step.lenient (x : Step) (b : Bool) : Bool :=
  if x.kind.goesOn || x.kind.isFlow then !x.negated else b

namespace Execution

/-- Executes a step as it is, but judges what it did leniently. -/
def lenientStep (stage : Stage σ) (inner : Inner σ) : Way σ := fun block s => do
  let r ← Act.getRun
  let consumed := Action.consumed r s
  if s.isSkipped r.row then pure ⟨true, consumed⟩
  else
    let advice := Aspect.advice r.aspect s r.row
    if ← adviseAll stage inner .before s advice then
      let label := s.label (← Act.getRun).row
      Act.emit stage (.started label)
      let result ← Act.outcome (Action.perform stage block s.kind)
      let success ← judge stage inner advice s label (result.map s.lenient)
      pure ⟨success, consumed⟩
    else pure ⟨true, consumed⟩

end Execution

namespace TraceEntry

def unfailed : TraceEntry → Bool
  | .event (.failure _) => false
  | _ => true

end TraceEntry

def Discipline.unadvised : Discipline where
  able _ := False
  refuses _ := True
  freeze _ able := able

theorem Aspect.eq_nil_of_under {a : Aspect} (h : Under .unadvised a) : a = [] :=
  List.eq_nil_iff_forall_not_mem.2 fun i hi => (h i hi).able

abbrev State.Near (s s' : State σ) : Prop :=
  Abreast (World.Seems TraceEntry.unfailed) (Run.Same .unadvised) s s'

theorem State.Near.unadvised {s s' : State σ} (h : s.Near s') :
    s.run.aspect = [] ∧ s'.run.aspect = [] := by
  have none := Aspect.eq_nil_of_under h.run.under.aspect
  exact ⟨none, by rw [h.run.eq, none]⟩

namespace Lenience
variable (overlooks : stage.Overlooks TraceEntry.unfailed)
include overlooks

theorem kin_near : World.Kin stage .unadvised (World.Seems (σ := σ) TraceEntry.unfailed) :=
  (World.kin_seems overlooks.heeds).stricter fun _ none => none.elim

section Judgement
variable {s s' : State σ} (near : s.Near s')
include near

theorem near_emit (e : Event) : (s.emit stage e).Near (s'.emit stage e) :=
  ⟨near.world.emit overlooks.heeds e, near.run⟩

theorem near_failure (m : String) : s.Near (s'.emit stage (.failure m)) :=
  ⟨near.world.emit_unseen overlooks rfl, near.run⟩

end Judgement

theorem judge_follows {x : Step} {label : String} {r r' : Except Problem Bool} {t t' : State σ}
    (known : ∀ b', r' = .ok b' → ∃ b, r = .ok b ∧ (x.kind.isFlow = false → b = b') ∧ t.Near t') :
    Both (judge stage inner [] x label (r.map x.lenient)) (judge stage inner [] x label r') t t'
      fun q u q' u' => ∀ c', q' = .ok c' → ∃ c, q = .ok c ∧ c = true ∧ u.Near u' := by
  rcases r' with (f | f | m) | b'
  · rintro _ ⟨⟩
  · rintro _ ⟨⟩
  · rintro _ ⟨⟩
  · obtain ⟨b, rfl, same, near⟩ := known b' rfl
    simp only [Except.map, judge, Both]
    by_cases lenient : (x.kind.goesOn || x.kind.isFlow) = true
    · have holds : (x.lenient b != x.negated) = true := by
        rw [Step.lenient, if_pos lenient]
        cases x.negated <;> rfl
      rw [if_pos holds, succeeded_iff]
      split
      · rw [succeeded_iff]
        exact fun c' _ => ⟨true, rfl, rfl, near_emit overlooks near _⟩
      · rw [failed_iff]
        intro c' _
        exact ⟨true, rfl, rfl, near_emit overlooks (near_failure overlooks near _) _⟩
    · have plain : x.kind.goesOn = false ∧ x.kind.isFlow = false := by simpa using lenient
      obtain rfl := same plain.2
      rw [Step.lenient, if_neg lenient]
      split
      · rw [succeeded_iff, succeeded_iff]
        exact fun c' _ => ⟨true, rfl, rfl, near_emit overlooks near _⟩
      · rw [failed_iff, failed_iff, plain.1]
        rintro _ ⟨⟩

section Actions

omit overlooks in
theorem level_same {K : World σ → World σ → Prop} {D : Discipline} {s s' : State σ}
    (h : Abreast K (Run.Same D) s s') : Abreast K (Run.Level (Run.Same D)) s s' :=
  ⟨h.world, h.run, congrArg Run.step? h.run.eq⟩

omit overlooks in
theorem agrees_near : Agrees (State.Near (σ := σ)) where
  row h := congrArg Run.row h.run.eq
  step h := congrArg Run.step? h.run.eq
  remaining h := congrArg Run.remaining h.run.eq
  assigned row h := ⟨h.world, Run.moving_same.rowed row h.run⟩

omit overlooks in
theorem follows_getRun {W : β → β → Prop} {f f' : Run → Act σ ε β}
    (hf : ∀ r, Follows W State.Near (f r) (f' r)) :
    Follows W State.Near (Act.getRun >>= f) (Act.getRun >>= f') := by
  intro s s' near
  refine both_getRun ?_
  rw [near.run.eq]
  exact hf _ s s' near

variable {block block' : Nat → Act σ Problem Bool}
  (hblock : ∀ n, Follows (fun b _ => b = true) State.Near (block n) (block' n))
include hblock

theorem follows_rounds (size left i : Nat) (success : Bool) :
    Follows (fun b _ => b = true) State.Near (Action.rounds block size left i true)
      (Action.rounds block' size left i success) := by
  have kin := kin_near overlooks
  have paired := (Run.moving_same (D := .unadvised)).toPaired
  induction left generalizing i success with
  | zero => exact follows_pure rfl
  | succ left ih =>
    simp only [Action.rounds]
    refine follows_bind (Abreast.respects_isStopped kin paired).follows ?_
    rintro stopped _ rfl
    split
    · exact follows_pure rfl
    · refine follows_bind (Abreast.respects_record kin _).follows fun _ _ _ => ?_
      refine follows_bind (agrees_near.respects_assign _ _).follows fun _ _ _ => ?_
      refine follows_bind (hblock size) ?_
      rintro _ b' rfl
      exact ih _ _

theorem follows_flow {k : Step.Kind} (flow : k.isFlow = true) :
    Follows (fun b _ => b = true) State.Near (Action.perform stage block k)
      (Action.perform stage block' k) := by
  cases k with
  | loop =>
    refine follows_bind (agrees_near.respects_text _).follows ?_
    rintro m _ rfl
    refine follows_bind (Agrees.respects_number m).follows ?_
    rintro count _ rfl
    refine follows_bind agrees_near.respects_currentStep.follows ?_
    rintro p _ rfl
    exact follows_getRun fun r => follows_rounds overlooks hblock _ _ _ _
  | branch =>
    refine follows_bind (agrees_near.respects_rawText _).follows ?_
    rintro condition _ rfl
    refine follows_bind agrees_near.respects_currentStep.follows ?_
    rintro p _ rfl
    refine follows_getRun fun r => ?_
    split
    · exact hblock _
    · exact follows_pure rfl
  | _ => cases flow

theorem follows_action (k : Step.Kind) :
    Follows (fun b b' => k.isFlow = false → b = b') State.Near (Action.perform stage block k)
      (Action.perform stage block' k) := by
  cases flow : k.isFlow with
  | true =>
    intro s s' near b' answer
    obtain ⟨b, answers, _, near⟩ := follows_flow overlooks hblock flow s s' near b' answer
    exact ⟨b, answers, nofun, near⟩
  | false =>
    rw [Conduct.perform_alone flow block, Conduct.perform_alone flow block']
    have kin := kin_near overlooks
    have paired := (Run.moving_same (D := .unadvised)).toPaired
    have acts := Abreast.leads_action kin paired (fun _ => respects_pure true) k
    intro s s' near b' answer
    obtain ⟨same, near⟩ := acts s s' (level_same near)
    exact ⟨b', same.symm.trans answer, fun _ => rfl, near⟩

end Actions

def Passed (o o' : Outcome) : Prop := o.success = true ∧ o.consumed = o'.consumed

omit overlooks in
theorem lenientStep_unadvised {block : Nat → Act σ Problem Bool} {x : Step} {s : State σ}
    (unadvised : s.run.aspect = []) (Q : Except Fault Outcome → State σ → Prop) :
    Ends (lenientStep stage inner block x) s Q ↔
      if x.isSkipped s.run.row then Q (.ok ⟨true, Action.consumed s.run x⟩) s
      else Ends (Action.perform stage block x.kind) (s.emit stage (.started (x.label s.run.row)))
        fun r t => Ends (judge stage inner [] x (x.label s.run.row) (r.map x.lenient)) t fun q u =>
          Q (q.map fun c => ⟨c, Action.consumed s.run x⟩) u := by
  have none : s.run.aspect.advice x s.run.row = [] := by
    rw [unadvised]
    rfl
  rw [lenientStep, ends_bind, ends_getRun]
  dsimp only
  rw [none]
  generalize Action.consumed s.run x = n
  split
  · rfl
  · simp only [adviseAll, ends_bind, ends_pure, if_true, ends_getRun, Act.emit, ends_modifyWorld,
      ends_outcome]
    refine iff_of_eq (congrArg (Ends _ _) (funext fun r => funext fun t => ?_))
    refine congrArg (Ends _ t) (funext fun q => funext fun u => ?_)
    cases q <;> rfl

section Block
variable {block block' : Nat → Act σ Problem Bool}
  (hblock : ∀ n, Follows (fun b _ => b = true) State.Near (block n) (block' n))
include hblock

theorem follows_step (x : Step) :
    Follows Passed State.Near (lenientStep stage inner block x)
      (executeStep stage inner block' x) := by
  intro s s' near
  obtain ⟨unadvised, unadvised'⟩ := near.unadvised
  simp only [Both, lenientStep_unadvised unadvised, executeStep_unadvised unadvised', near.run.eq]
  generalize Action.consumed s.run x = n
  generalize x.label s.run.row = label
  split
  · rintro _ ⟨⟩
    exact ⟨_, rfl, ⟨rfl, rfl⟩, near⟩
  · -- the two runs are looked at in turns: what they carry out, then how it is judged
    show Both (Action.perform stage block x.kind) (Action.perform stage block' x.kind)
      (s.emit stage (.started label)) (s'.emit stage (.started label)) fun r t r' t' =>
        Both (judge stage inner [] x label (r.map x.lenient)) (judge stage inner [] x label r') t t'
          fun q u q' u' => ∀ o', q'.map (fun c => (⟨c, n⟩ : Outcome)) = .ok o' →
            ∃ o, q.map (fun c => (⟨c, n⟩ : Outcome)) = .ok o ∧ Passed o o' ∧ u.Near u'
    have acted := follows_action overlooks hblock x.kind _ _
      (near_emit overlooks near (.started label))
    refine both_mono acted fun r t r' t' known => ?_
    refine both_mono (judge_follows overlooks known) fun q u q' u' passed => ?_
    rcases q' with f | c'
    · rintro _ ⟨⟩
    · obtain ⟨c, rfl, held, near⟩ := passed c' rfl
      rintro _ ⟨⟩
      exact ⟨_, rfl, ⟨held, rfl⟩, near⟩

theorem follows_current :
    Follows Passed State.Near (currentBy (lenientStep stage inner) block)
      (executeCurrent stage inner block') := by
  refine follows_getRun fun r => ?_
  cases r.step? with
  | none => exact follows_pure ⟨rfl, rfl⟩
  | some x =>
    refine follows_bind (Abreast.respects_record (kin_near overlooks) _).follows fun _ _ _ => ?_
    split
    · exact follows_step overlooks hblock x
    · exact follows_pure ⟨rfl, rfl⟩

theorem follows_walk (origin last steps index : Nat) (success : Bool) :
    Follows (fun b _ => b = true) State.Near
      (walkBy (lenientStep stage inner) block origin last steps index true)
      (walk stage inner block' origin last steps index success) := by
  have moving := Run.moving_same (D := .unadvised)
  have stopped : Respects (State.Near (σ := σ)) (Act.isStopped : Act σ Problem Bool) :=
    Abreast.respects_isStopped (kin_near overlooks) moving.toPaired
  have move : ∀ i, Respects (State.Near (σ := σ)) (moveTo i) := fun _ =>
    Abreast.respects_stand moving _
  have back : ∀ b : Bool, Follows (fun b _ => b = true) (State.Near (σ := σ))
      (do moveTo origin; pure true) (do moveTo origin; pure b) :=
    fun b => follows_bind (move origin).follows fun _ _ _ => follows_pure rfl
  induction steps generalizing index success with
  | zero => exact back success
  | succ steps ih =>
    simp only [walkBy, walk]
    refine follows_bind stopped.follows ?_
    rintro stopped _ rfl
    split
    · exact back success
    · refine follows_bind (move index).follows fun _ _ _ => ?_
      refine follows_outcome (follows_current overlooks hblock) (fun f t => ?_) ?_
      · rintro _ ⟨⟩
      · rintro ⟨_, n⟩ ⟨b, _⟩ ⟨⟨⟩, ⟨⟩⟩
        exact ih _ _

end Block

theorem follows_blockAt (depth count : Nat) : Follows (fun b _ => b = true) State.Near
    (blockAtBy (lenientStep stage inner) depth count) (blockAt stage inner depth count) := by
  induction depth generalizing count with
  | zero => exact follows_pure rfl
  | succ depth ih =>
    refine follows_getRun fun r => ?_
    cases r.cursor.current? with
    | none => exact follows_throw _ _
    | some origin => exact follows_walk overlooks ih _ _ _ _ _

theorem follows_block (count : Nat) : Follows (fun b _ => b = true) State.Near
    (blockBy (lenientStep stage inner) count) (block stage inner count) :=
  follows_getRun fun _ => follows_blockAt overlooks _ _

theorem follows_next : Follows (fun b _ => b = true) State.Near
    (nextBy (lenientStep stage inner)) (next stage inner) := by
  have forward : ∀ n, Respects (State.Near (σ := σ))
      (Act.modifyRun fun r => { r with cursor := r.cursor.forward n } : Act σ Fault Unit) :=
    Abreast.respects_forward Run.moving_same
  refine follows_bind (forward 1).follows fun _ _ _ => ?_
  refine follows_bind (follows_current overlooks (follows_block overlooks)) ?_
  rintro ⟨_, n⟩ ⟨b, _⟩ ⟨⟨⟩, ⟨⟩⟩
  exact follows_bind (forward _).follows fun _ _ _ => follows_pure rfl

theorem follows_steps (left : Nat) (success : Bool) : Follows (fun b _ => b = true) State.Near
    (stepsBy (lenientStep stage inner) left true) (steps stage inner left success) := by
  have more : Respects (State.Near (σ := σ)) (hasNext : Act σ Fault Bool) :=
    Abreast.respects_hasNext (kin_near overlooks) Run.moving_same
  induction left generalizing success with
  | zero => exact follows_pure rfl
  | succ left ih =>
    refine follows_bind more.follows ?_
    rintro more _ rfl
    split
    · refine follows_bind (follows_next overlooks) ?_
      rintro _ b rfl
      exact ih _
    · exact follows_pure rfl

omit overlooks in
theorem endRun_answered (chain : Act σ Fault Bool) (b : Bool) (s : State σ)
    (Q : Except Fault Bool → State σ → Prop) :
    Ends (endRun stage chain b) s Q ↔
      Ends (endRun stage chain true) s fun r t => Q (r.map (· && b)) t := by
  rw [Course.endRun_iff, Course.endRun_iff]
  split
  · refine iff_of_eq (congrArg (Ends chain _) (funext fun r => funext fun u => ?_))
    cases r with
    | error f => rfl
    | ok c =>
      show Q (.ok (b && c && _)) _ = Q (.ok (true && c && _ && b)) _
      rw [Bool.true_and, Bool.and_assoc, Bool.and_comm b]
  · show Q (.ok (b && _)) _ ↔ Q (.ok (true && _ && b)) _
    rw [Bool.true_and, Bool.and_comm b]

/-- A run ends as another one, but for failures on record and for its result, which does not hold
where its steps did not; and it is not aborted. -/
structure Unhalted (b : Bool) (e e' : Except Fault Bool × State σ) : Prop where
  result : e'.1 = e.1.map (· && b)
  run : e'.2.run = e.2.run
  world : e.2.world.Seems TraceEntry.unfailed e'.2.world
  unaborted : e'.2.run.aborted = false

section Finish
variable {k : Nat} {x t : State σ} {b : Bool} (under : x.run.Under .unadvised)
  (went : (steps stage (innerAt stage k) (x.run.case.steps.length + 1) true).exec
    (x.begun stage) = (.ok b, t))
include under went

/-- Where the steps of a run answer, they all hold if they are judged leniently. -/
theorem steps_lenient : ∃ u, (stepsBy (lenientStep stage (innerAt stage k))
    (x.run.case.steps.length + 1) true).exec (x.begun stage) = (.ok true, u) ∧ u.Near t := by
  have begun : (x.begun stage).Near (x.begun stage) :=
    (Abreast.respects_start (ε := Fault) (kin_near overlooks) Run.whole_same x x
      ⟨.refl _, rfl, under⟩).2
  rcases lenient : (stepsBy (lenientStep stage (innerAt stage k))
    (x.run.case.steps.length + 1) true).exec (x.begun stage) with ⟨q, u⟩
  have follows : Both (stepsBy (lenientStep stage (innerAt stage k)) (x.run.case.steps.length + 1)
      true) (steps stage (innerAt stage k) (x.run.case.steps.length + 1) true) (x.begun stage)
      (x.begun stage) fun q u r' u' => ∀ b', r' = .ok b' → ∃ b, q = .ok b ∧ b = true ∧ u.Near u' :=
    follows_steps overlooks _ true _ _ begun
  simp only [Both, Ends, lenient, went] at follows
  obtain ⟨_, rfl, rfl, near⟩ := follows b rfl
  exact ⟨u, rfl, near⟩

theorem finish_unhalted (unimposed : stage.aspect = []) (unaborted : x.run.aborted = false) :
    Unhalted b ((finishBy (lenientStep stage (innerAt stage k)) stage (innerAt stage k)).exec x)
      ((finishWith stage (innerAt stage k)).exec x) := by
  obtain ⟨u, lenient, near⟩ := steps_lenient overlooks under went
  have passing : (finishBy (lenientStep stage (innerAt stage k)) stage (innerAt stage k)).exec x =
      (endRun stage (chain stage (innerAt stage k)) true).exec u :=
    exec_eq_of_ends fun Q => by rw [finishBy_iff, Ends, lenient]
  have failing : Ends (finishWith stage (innerAt stage k)) x fun r v =>
      r = ((endRun stage (chain stage (innerAt stage k)) true).exec t).1.map (· && b) ∧
        v = ((endRun stage (chain stage (innerAt stage k)) true).exec t).2 := by
    rw [Course.finishWith_iff, Ends, went]
    exact (endRun_answered ..).2 ⟨rfl, rfl⟩
  have own := Lineage.steps_onward stage k (x.run.case.steps.length + 1) (x.begun stage)
  rw [Ends, went] at own
  have kept : Ends (endRun stage (chain stage (innerAt stage k)) true) t
      fun _ v => v.run.aborted = t.run.aborted := Blame.endRun_unaborted true t
  have hstage : Aspect.Under .unadvised stage.aspect := by
    rw [unimposed]
    exact Aspect.under_nil
  have kin := kin_near overlooks
  obtain ⟨_, hchain⟩ := Abreast.respects_innerAt kin hstage (k + 1)
  obtain ⟨same, ended⟩ := Abreast.respects_endRun kin Run.whole_same hchain true _ _ near
  rw [passing, exec_eq_iff.2 failing]
  exact ⟨congrArg (Except.map (· && b)) same, ended.run.eq, ended.world,
    kept.trans (own.kept.aborted.trans unaborted)⟩

end Finish

end Lenience

namespace Lineage
variable {D : Discipline} {depth k : Nat} {s x : State σ} {part : Part} {line : List (Place σ)}

theorem descends_unadvised (unimposed : stage.aspect = []) {q : Run.Setup} {w : World σ}
    (case : q.case.Under .unadvised) (inherited : q.inherited = [])
    (h : Descends stage depth ⟨(Run.build stage w q).2, (Run.build stage w q).1⟩ .run k line x) :
    x.run.Under .unadvised ∧ x.run.aborted = false := by
  have root : Aspect.Under .unadvised (Run.build stage w q).1.inherited := by
    show Aspect.Under .unadvised q.inherited
    rw [inherited]
    exact Aspect.under_nil
  have under := descends_under case root h
  obtain ⟨built, _⟩ := Inheritance.descends_built rfl h
  refine ⟨⟨under.1, ?_, under.2⟩, ?_⟩
  · rw [built, unimposed, ite_self]
    exact (under.1.aspect.append under.2).append Aspect.under_nil
  · cases h with
    | top => rfl
    | row _ begins =>
      obtain ⟨_, _, _⟩ := begins
      simp only [rowStart]
      split <;> rfl

end Lineage

namespace Lenience
open Lineage

/-- A run in a tree without interceptors, in whose steps no error was raised. If only
verifications failed in it, then it is not aborted. It does what it does if its verifications
pass, and so does its chain; only the failures are on record, and the result is false unless
the steps around them are negated. But if a step failed that is no verification, and be it for
a verification inside it, then the run is aborted. -/
theorem verifications_go_on (overlooks : stage.Overlooks TraceEntry.unfailed)
    (unimposed : stage.aspect = []) {q : Run.Setup} (case : q.case.Under .unadvised)
    (inherited : q.inherited = []) (w : World σ) {depth k : Nat} {line : List (Place σ)}
    {x : State σ} (h : let (run, v) := Run.build stage w q
      Descends stage depth ⟨v, run⟩ .run (k + 1) line x) :
    let own := (steps stage (innerAt stage k) (x.run.case.steps.length + 1) true).exec
      (x.begun stage)
    let l := World.since (x.begun stage).world own.2.world
    let passing := (finishBy (lenientStep stage (innerAt stage k)) stage (innerAt stage k)).exec x
    let e := (finishWith stage (innerAt stage k)).exec x
    (∀ f, .event (.error f) ∉ l) →
      ((∀ places ∈ failures l, x.run.case.Forgives places) →
        ∃ b, own.1 = .ok b ∧ Unhalted b passing e ∧
          ((∀ p ∈ x.run.case.steps, Conjunction.Affirmed p) → failures l ≠ [] → b = false)) ∧
      ((∃ places ∈ failures l, x.run.case.Condemns places) →
        e.1 = .ok false ∧ e.2.run.aborted = true) := by
  obtain ⟨under, unaborted⟩ := descends_unadvised unimposed case inherited h
  have unadvised : (x.begun stage).run.aspect = [] := Aspect.eq_nil_of_under under.prepared.aspect
  rcases went : (steps stage (innerAt stage k) (x.run.case.steps.length + 1) true).exec
    (x.begun stage) with ⟨r, t⟩
  intro own l passing e errorless
  have verdict := Charges.steps_verdict stage (innerAt stage k) unadvised went errorless
  -- steps either come to their end, where all failures were forgiven, or end in one that was not
  cases r with
  | ok b =>
    refine ⟨fun _ => ⟨b, rfl, finish_unhalted overlooks under went unimposed unaborted, ?_⟩, ?_⟩
    · intro affirmed failed
      have settled := Conjunction.steps_settled stage (innerAt stage k) ⟨unadvised, affirmed⟩
        (x.run.case.steps.length + 1) true ((Conjunction.went_refl _).congr (by simp))
      rw [Ends, went] at settled
      rw [← Bool.not_eq_true]
      rintro rfl
      have flawless := (along_since settled.tally).1.1 rfl
      exact failed (failures_eq_nil fun m hm => by cases flawless _ hm)
    · rintro ⟨places, hp, condemns⟩
      exact absurd condemns (Case.not_condemns (verdict places hp))
  | error f =>
    obtain ⟨verification, places, hp, condemns⟩ := verdict
    refine ⟨fun forgiven => absurd condemns (Case.not_condemns (forgiven places hp)), fun _ => ?_⟩
    have halted : Ends (finishWith stage (innerAt stage k)) x fun r u =>
        r = .ok false ∧ u.run.aborted = true := by
      rw [Course.finishWith_iff, Ends, went]
      dsimp only
      rw [Course.halt_iff, if_pos verification]
      exact ⟨rfl, rfl⟩
    exact halted

section Example
open Brackets Seeds Omission

def refuted : Step where
  kind := .reading .verify .expression
  texts := [("expression", "false")]

def farewell : Step where
  kind := .echo
  texts := [("text", "bye")]

def verifying : Case where
  script := { name := "verifying" }
  steps := [refuted, farewell]
  chain := [{ script := { name := "chained" }, steps := [farewell] }]

def verifyingLoop : Case where
  script := { name := "verifying loop" }
  steps := [{ kind := .loop, texts := [("count", "1"), ("subStep", "1")] }, refuted,
    farewell]

def executed (c : Case) : Except Fault Bool × State Unit :=
  (finishWith lettered (innerAt lettered 1)).exec (firstState c)

def passed (c : Case) : Except Fault Bool × State Unit :=
  (finishBy (lenientStep lettered (innerAt lettered 1)) lettered (innerAt lettered 1)).exec
    (firstState c)

theorem verification_goes_on :
    Unhalted false (passed verifying) (executed verifying) ∧
      startedIn (executed verifying) = [.started "verifyExpression expression:false",
        .started "echo text:bye", .started "echo text:bye", .started "echo text:bye"] := by
  have overlooks : lettered.Overlooks TraceEntry.unfailed := ⟨by rintro _ ⟨⟩, by rintro _ ⟨⟩⟩
  have case : verifying.Under .unadvised := by
    have chained : ∀ d ∈ verifying.chain, d.Under .unadvised := by
      intro d hd
      rw [List.mem_singleton.1 hd]
      refine .intro ?_ ?_ ?_ ?_ ?_ <;> simp
    refine .intro ?_ ?_ chained ?_ ?_ <;> simp [verifying]
  let q : Run.Setup := { case := verifying, signal := ⟨0, []⟩ }
  let start := (firstState verifying).begun lettered
  let own := (steps lettered (innerAt lettered 1) 3 true).exec start
  have told : World.since start.world own.2.world =
      [.event .ended, .event (.started "echo text:bye"), .turned 1, .event .ended,
        .event (.failure "verifyExpression expression:false failed"),
        .event (.started "verifyExpression expression:false"), .turned 0] := by
    decide +kernel
  have errorless : ∀ f, .event (.error f) ∉ World.since start.world own.2.world := by
    rw [told]
    simp
  have forgiven : ∀ places ∈ failures (World.since start.world own.2.world),
      verifying.Forgives places := by
    have failed : failures (World.since start.world own.2.world) = [[0]] := by rw [told]; rfl
    rw [failed]
    exact List.forall_mem_singleton.2 ⟨refuted, rfl, rfl⟩
  have affirmed : ∀ p ∈ verifying.steps, Conjunction.Affirmed p := by
    simp [verifying, refuted, farewell, Conjunction.Affirmed, Step.Kind.isFlow]
  obtain ⟨b, _, unhalted, failed⟩ := (verifications_go_on (q := q) overlooks rfl case rfl
    { browser := () } .top errorless).1 forgiven
  obtain rfl := failed affirmed (by decide +kernel)
  exact ⟨unhalted, by decide +kernel⟩

/-- The failure of a verification in a loop is the loop's as well, and halts the run. -/
theorem verification_in_loop_halts :
    (executed verifyingLoop).2.run.aborted = true ∧
      startedIn (executed verifyingLoop) = [.started "loop count:1 subStep:1",
        .started "verifyExpression expression:false"] ∧
      (passed verifyingLoop).2.run.aborted = false ∧
      startedIn (passed verifyingLoop) = [.started "loop count:1 subStep:1",
        .started "verifyExpression expression:false", .started "echo text:bye"] := by
  decide +kernel

end Example

end Lenience

end Scenario
