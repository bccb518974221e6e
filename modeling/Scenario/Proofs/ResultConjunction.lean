import Scenario.Proofs.PassingAdvice
import Scenario.Proofs.ReportSuccess
import Scenario.Proofs.RunExtent

/-!
# A result stands for everything that was run

Without interceptors a run succeeds if and only if nothing went wrong in it or
below it: no step failed, none could not be carried out, and no run came to its
end stopped. A result that is false cuts nobody else off. Whatever its rows and
its cases answer, a chain goes on to its end unless it is stopped or a fault is
raised.
-/

set_option autoImplicit false

namespace Scenario
open Scenario.Act Scenario.Execution

variable {σ : Type} {stage : Stage σ} {inner : Inner σ}

namespace TraceEntry

/-- A step failed or could not be carried out, or a run came to its end stopped. -/
def flaws : TraceEntry → Bool
  | .event (.failure _) => true
  | .event (.error _) => true
  | .endedStopped => true
  | _ => false

theorem flaws_event (e : Event) : (event e).flaws = e.isProblem := by
  cases e <;> rfl

theorem flaws_of_silent {e : TraceEntry} (h : e.silent = true) : e.flaws = false := by
  cases e with
  | event _ => cases h
  | endedStopped => cases h
  | _ => rfl

end TraceEntry

namespace Conjunction
open Lineage

def Flawless (l : List TraceEntry) : Prop := ∀ e ∈ l, e.flaws = false

/-- What a part of a run put on record is flawless if and only if the part is good. No hook took
part in it. -/
def Tally (good : Prop) : State σ → State σ → Prop :=
  Along fun l => (good ↔ Flawless l) ∧ Reports.Unhooked l

section Tally
variable {s t u : State σ} {p q : Prop}

theorem flawless_append {l l' : List TraceEntry} :
    Flawless (l' ++ l) ↔ Flawless l ∧ Flawless l' := by
  rw [and_comm]
  exact List.forall_mem_append

theorem Tally.trans (h : Tally p s t) (h' : Tally q t u) : Tally (p ∧ q) s u :=
  along_seq h h' fun _ _ hp hq =>
    ⟨(and_congr hp.1 hq.1).trans flawless_append.symm, Reports.additive.append hp.2 hq.2⟩

theorem Tally.congr (h : Tally p s t) (same : p ↔ q) : Tally q s t :=
  along_mono h fun _ hp => ⟨same.symm.trans hp.1, hp.2⟩

theorem tally_silent (h : Along Silent s t) : Tally True s t :=
  along_mono h fun _ silent =>
    ⟨iff_of_true trivial fun e he => TraceEntry.flaws_of_silent (silent e he),
      Reports.additive.silent silent⟩

theorem tally_same (h : t.world.trace = s.world.trace) : Tally True s t :=
  tally_silent (along_same silently h)

theorem Tally.after (h : Tally p t u) (before : Tally True s t) : Tally p s u :=
  (before.trans h).congr (by simp)

theorem Tally.before (h : Tally p s t) (after : Tally True t u) : Tally p s u :=
  (h.trans after).congr (by simp)

theorem tally_record (s : State σ) {e : TraceEntry} (he : ∀ k f, e ≠ .adviceRaised true k f) :
    Tally (e.flaws = false) s (s.record e) :=
  along_record ⟨by simp [Flawless], Reports.unhooked_single he⟩

theorem tally_emit (s : State σ) (e : Event) : Tally (e.isProblem = false) s (s.emit stage e) :=
  along_emit ⟨by simp [Flawless, TraceEntry.flaws_event], Reports.unhooked_single (by simp)⟩

end Tally

structure Went (good : Prop) (s t : State σ) : Prop where
  tally : Tally good s t
  kept : s.run.Kept t.run

section Went
variable {s t u : State σ} {p q : Prop}

theorem Went.trans (h : Went p s t) (h' : Went q t u) : Went (p ∧ q) s u :=
  ⟨h.tally.trans h'.tally, h.kept.trans h'.kept⟩

theorem Went.congr (h : Went p s t) (same : p ↔ q) : Went q s t := ⟨h.tally.congr same, h.kept⟩

theorem Went.after (h : Went p t u) (before : Went True s t) : Went p s u :=
  (before.trans h).congr (by simp)

theorem Went.before (h : Went p s t) (after : Went True t u) : Went p s u :=
  (h.trans after).congr (by simp)

theorem went_quiet (h : Blame.Quiet s t) : Went True s t := ⟨tally_silent h.silent, h.onward.kept⟩

theorem went_move (h : Move stage s t) : Went True s t := went_quiet (Blame.quiet_move h)

theorem went_refl (s : State σ) : Went True s s := ⟨tally_same rfl, .refl _⟩

theorem went_emit (s : State σ) (e : Event) : Went (e.isProblem = false) s (s.emit stage e) :=
  ⟨tally_emit s e, .refl _⟩

theorem Went.problem (h : Went p s t) (e : Event) (he : e.isProblem = true) :
    Went False s (t.emit stage e) :=
  (h.trans (went_emit t e)).congr (by simp [he])

theorem Went.told (h : Went p s t) (e : Event) (he : e.isProblem = false) :
    Went p s (t.emit stage e) :=
  (h.trans (went_emit t e)).congr (by simp [he])

end Went

/-- A run without advice whose flow steps are not negated. -/
structure Direct (r : Run) : Prop where
  unadvised : r.aspect = []
  affirmed : ∀ p ∈ r.case.steps, p.kind.isFlow = true → p.negated = false

theorem Direct.kept {r r' : Run} (h : Direct r) (kept : r.Kept r') : Direct r' where
  unadvised := kept.aspect.trans h.unadvised
  affirmed := by
    rw [kept.case]
    exact h.affirmed

def Judged (s : State σ) : Except Problem Bool → State σ → Prop
  | .ok b, t => Went (b = true) s t
  | .error (.reported _), t => Went False s t
  | .error _, t => ∃ p, Went p s t

def Judges (a : Act σ Problem Bool) : Prop := ∀ s, Direct s.run → Ends a s (Judged s)

section Judges
variable {α : Type} {s t u : State σ}

theorem Judged.some {r : Except Problem Bool} (h : Judged s r t) : ∃ p, Went p s t := by
  rcases r with (f | f | t') | b
  · exact ⟨_, h⟩
  · exact h
  · exact h
  · exact ⟨_, h⟩

theorem Judged.after {r : Except Problem Bool} (h : Judged t r u) (before : Went True s t) :
    Judged s r u := by
  rcases r with (f | f | t') | b
  · exact Went.after h before
  · exact h.imp fun _ went => went.after before
  · exact h.imp fun _ went => went.after before
  · exact Went.after h before

def unreported (σ : Type) : Conduct σ where
  ready := fun _ => True
  able := fun _ => True
  goes := Blame.Quiet
  fails := Blame.Quiet
  raises := fun _ _ _ => False
  rejects := fun _ _ _ => False
  spoils := fun _ _ _ => False
  whole := fun _ _ _ => True

theorem unreported_mobile : (unreported σ).Mobile stage where
  refl := Blame.quietly_order.refl
  trans := Blame.quiet_trans
  overlook := id
  goes_fails := Blame.quiet_trans
  fails_goes := Blame.quiet_trans
  goes_raises := fun _ h => h
  goes_rejects := fun _ h => h
  goes_spoils := fun _ h => h
  ready := fun _ _ => trivial
  move := fun _ h => Blame.quiet_move h
  raises_standing := fun _ _ h => h

theorem judges_bind {a : Act σ Problem α} {f : α → Act σ Problem Bool}
    (ha : (unreported σ).Keeps a) (hf : ∀ x, Judges (f x)) : Judges (a >>= f) := by
  intro s direct
  refine ends_seq (ha s trivial) ?_ ?_
  · intro x t quiet
    have before := went_quiet quiet
    exact ends_mono (hf x t (direct.kept before.kept)) fun _ _ h => h.after before
  · rintro (f | f | t') t h
    · exact h.elim
    · exact ⟨_, went_quiet h.2⟩
    · exact ⟨_, went_quiet h⟩

end Judges

section Actions
variable {block : Nat → Act σ Problem Bool} (hblock : ∀ n, Judges (block n))
include hblock

theorem rounds_judged (stage : Stage σ) {s t : State σ} (direct : Direct s.run)
    (size left i : Nat) (success : Bool) (ht : Went (success = true) s t) :
    Ends (Action.rounds block size left i success) t (Judged s) := by
  induction left generalizing i success t with
  | zero => exact ht
  | succ left ih =>
    rw [Action.rounds, ends_bind, ends_isStopped]
    dsimp only
    split
    · exact ht
    · rename_i running
      rw [Bool.not_eq_true] at running
      simp only [ends_bind, ends_modifyWorld, Act.assign, ends_modifyRun]
      have began : Went True t (t.record (.round i)) :=
        went_move (.progress (.round i) rfl running : Move stage _ _)
      have counted := began.before (went_move
        (.row (t.run.row.put "_loopCount" (Text.natText i)) rfl : Move stage (t.record _) _))
      have before := ht.before counted
      refine ends_mono (hblock size _ (direct.kept before.kept)) fun r u hu => ?_
      rcases r with (f | f | t') | b
      · exact (before.trans hu).congr (by simp)
      · exact hu.elim fun _ went => ⟨_, before.trans went⟩
      · exact hu.elim fun _ went => ⟨_, before.trans went⟩
      · refine ih (i + 1) (b && success) ((before.trans hu).congr ?_)
        rw [Bool.and_eq_true, and_comm]

theorem flow_judged (stage : Stage σ) {k : Step.Kind} (hk : k.isFlow = true) :
    Judges (Action.perform stage block k) := by
  have order : (unreported σ).Order := (unreported_mobile : (unreported σ).Mobile stage).toOrder
  cases k with
  | loop =>
    refine judges_bind (Conduct.keeps_text order _) fun m => ?_
    refine judges_bind (Conduct.keeps_number order m) fun count => ?_
    refine judges_bind (Conduct.keeps_currentStep order) fun p => ?_
    refine judges_bind (Conduct.keeps_getRun order) fun r s direct => ?_
    exact rounds_judged hblock stage direct _ _ _ _ ((went_refl s).congr (by simp))
  | branch =>
    refine judges_bind (Conduct.keeps_rawText order _) fun condition => ?_
    refine judges_bind (Conduct.keeps_currentStep order) fun p => ?_
    refine judges_bind (Conduct.keeps_getRun order) fun r => ?_
    split
    · exact hblock _
    · exact fun s _ => (went_refl s).congr (by simp)
  | _ => cases hk

omit hblock in
theorem action_unreported (stage : Stage σ) {k : Step.Kind} (hk : k.isFlow = false) (s : State σ) :
    Ends (Action.perform stage block k) s fun r t =>
      Went True s t ∧ ∀ f, r ≠ .error (.reported f) := by
  have mobile : (unreported σ).Mobile stage := unreported_mobile
  have keeps := Conduct.keeps_action mobile
    (fun _ => Conduct.judges_true mobile.toOrder (C := unreported σ)) k
  rw [Conduct.perform_alone hk]
  refine ends_mono (keeps s trivial) ?_
  rintro ((f | f | t') | b) t h
  · exact False.elim h
  · exact ⟨went_quiet h.2, by simp⟩
  · exact ⟨went_quiet h, by simp⟩
  · exact ⟨went_quiet h, by simp⟩

structure Acted (p : Step) (s : State σ) (r : Except Problem Bool) (t : State σ) : Prop where
  some : ∃ q, Went q s t
  holds : ∀ b, r = .ok b → (b != p.negated) = true → Went True s t
  reported : ∀ f, r = .error (.reported f) → Went False s t

theorem action_acted (stage : Stage σ) (p : Step)
    (affirmed : p.kind.isFlow = true → p.negated = false) {s : State σ} (direct : Direct s.run) :
    Ends (Action.perform stage block p.kind) s (Acted p s) := by
  cases flow : p.kind.isFlow with
  | false =>
    refine ends_mono (action_unreported stage flow s) fun r t ⟨went, unreported⟩ => ?_
    exact ⟨⟨_, went⟩, fun _ _ _ => went, fun f h => absurd h (unreported f)⟩
  | true =>
    refine ends_mono (flow_judged hblock stage flow s direct) fun r t judged => ?_
    refine ⟨judged.some, ?_, ?_⟩
    · rintro b rfl holds
      rw [affirmed flow, Bool.bne_false] at holds
      exact Went.congr judged (by simp [holds])
    · rintro f rfl
      exact judged

end Actions

section Judgement
variable {s t : State σ} {p : Step} {label : String} {q : Prop}

def Settled (s : State σ) (r : Except Fault Bool) (t : State σ) : Prop := Went (r = .ok true) s t

theorem failed_settled (ht : Went q s t) :
    Ends (failed stage inner [] p label) t (Settled s) := by
  have flawed : Went False s ((t.emit stage (.failure (label ++ " failed"))).emit stage .ended) :=
    (ht.problem _ rfl).told _ rfl
  rw [failed_iff]
  split <;> exact flawed.congr (by simp)

theorem judge_settled {r : Except Problem Bool} (acted : Acted p s r t) :
    Ends (judge stage inner [] p label r) t (Settled s) := by
  obtain ⟨q, some⟩ := acted.some
  have flawed : ∀ f, Settled s (.error f) ((t.emit stage (.error f)).emit stage .ended) :=
    fun f => ((some.problem _ rfl).told _ rfl).congr (by simp)
  rcases r with (f | f | t') | b
  · have ended : Settled s (.error f) (t.emit stage .ended) :=
      ((acted.reported f rfl).told .ended rfl).congr (by simp)
    exact ended
  · exact flawed f
  · exact flawed (.step label t')
  · simp only [judge]
    split
    · rename_i holds
      rw [succeeded_iff]
      exact ((acted.holds b rfl holds).told .ended rfl).congr (by simp)
    · exact failed_settled some

end Judgement

section Turns
variable {block : Nat → Act σ Problem Bool} (hblock : ∀ n, Judges (block n))

include hblock

theorem executeStep_settled {p : Step} (affirmed : p.kind.isFlow = true → p.negated = false)
    {s : State σ} (direct : Direct s.run) :
    Ends (executeStep stage inner block p) s fun r t => Settled s (r.map Outcome.success) t := by
  rw [executeStep_unadvised direct.unadvised]
  split
  · exact (went_refl s).congr (by simp [Except.map])
  · have started : Went True s (s.emit stage (.started (p.label s.run.row))) :=
      (went_refl s).told _ rfl
    refine ends_mono (action_acted hblock stage p affirmed (direct.kept started.kept))
      fun r t acted => ?_
    refine ends_mono (judge_settled acted) fun r' u settled => ?_
    refine (Went.after settled started).congr ?_
    cases r' <;> simp [Except.map]

theorem executeCurrent_settled {s : State σ} (direct : Direct s.run)
    (running : s.isStopped = false) :
    Ends (executeCurrent stage inner block) s fun r t => Settled s (r.map Outcome.success) t := by
  rw [Blame.executeCurrent_iff]
  cases here : s.run.step? with
  | none => exact (went_refl s).congr (by simp [Except.map])
  | some p =>
    have turned : Went True s (s.record (.turned (s.run.cursor.current?.getD 0))) :=
      went_move (.progress _ rfl running : Move stage _ _)
    have member : p ∈ s.run.case.steps := by
      obtain ⟨i, _, hi⟩ := Option.bind_eq_some_iff.1 here
      exact List.mem_of_getElem? hi
    dsimp only
    split
    · refine ends_mono (executeStep_settled hblock (direct.affirmed p member)
        (direct.kept turned.kept)) fun r t settled => ?_
      exact Went.after settled turned
    · exact turned.congr (by simp [Except.map])

end Turns

section Blocks
variable (stage) (inner)

theorem walk_judged {block : Nat → Act σ Problem Bool} (hblock : ∀ n, Judges (block n))
    {s t : State σ} (direct : Direct s.run) (origin last steps index : Nat) (success : Bool)
    (ht : Went (success = true) s t) :
    Ends (walk stage inner block origin last steps index success) t (Judged s) := by
  have stands : ∀ (u : State σ) (i : Int), Went True u (u.standing i) :=
    fun u i => went_move (.stand i : Move stage _ _)
  induction steps generalizing index success t with
  | zero =>
    rw [Blame.walk_zero]
    exact ht.before (stands t _)
  | succ steps ih =>
    rw [Blame.walk_iff]
    split
    · exact ht.before (stands t _)
    · rename_i more
      rw [not_or, Bool.not_eq_true] at more
      have there := ht.before (stands t ((index : Int).bmod Text.word))
      have running := (t.isStopped_standing ((index : Int).bmod Text.word)).trans more.2
      generalize t.standing _ = v at there running
      rw [ends_bind, ends_outcome]
      refine ends_mono (executeCurrent_settled hblock (direct.kept there.kept) running)
        fun r u settled => ?_
      have went := there.trans settled
      cases r with
      | error f =>
        have back : Judged s (.error (.reported f)) (u.standing ((origin : Int).bmod Text.word)) :=
          (went.before (stands u _)).congr (by simp [Except.map])
        simp only [Blame.proceed, ends_bind, Conduct.moveTo_iff]
        exact back
      | ok o =>
        refine ih _ _ (went.congr ?_)
        simp [Except.map, and_comm]

theorem blockAt_judged (levels count : Nat) : Judges (blockAt stage inner levels count) := by
  have order : (unreported σ).Order := (unreported_mobile : (unreported σ).Mobile stage).toOrder
  induction levels generalizing count with
  | zero => exact fun s _ => (went_refl s).congr (by simp)
  | succ levels ih =>
    refine judges_bind (Conduct.keeps_getRun order) fun r => ?_
    cases r.cursor.current? with
    | none => exact fun s _ => ⟨_, went_refl s⟩
    | some origin =>
      exact fun s direct =>
        walk_judged stage inner ih direct _ _ _ _ _ ((went_refl s).congr (by simp))

theorem block_judged (count : Nat) : Judges (block stage inner count) := by
  have order : (unreported σ).Order := (unreported_mobile : (unreported σ).Mobile stage).toOrder
  exact judges_bind (Conduct.keeps_getRun order) fun r => blockAt_judged stage inner _ _

theorem next_settled {s : State σ} (direct : Direct s.run) (running : s.isStopped = false) :
    Ends (next stage inner) s (Settled s) := by
  have stood : Went True s (s.standing s.run.cursor.startStep.index) :=
    went_move (.stand _ : Move stage _ _)
  rw [Blame.next_iff, ends_bind]
  refine ends_mono (executeCurrent_settled (block_judged stage inner) (direct.kept stood.kept)
    running) fun r t settled => ?_
  have went := Went.after settled stood
  cases r with
  | error f => exact went
  | ok o =>
    have passed : Went True t (t.standing (t.run.cursor.forward (o.consumed - 1)).index) :=
      went_move (.stand _ : Move stage _ _)
    exact went.before passed

/-- The steps that are left answer for those before them, which began in `s`. -/
theorem steps_settled {s t : State σ} (direct : Direct s.run) (left : Nat) (success : Bool)
    (ht : Went (success = true) s t) :
    Ends (steps stage inner left success) t (Settled s) := by
  have answered : ∀ {b u}, Went (b = true) s u → Settled s (.ok b) u :=
    fun went => went.congr (by simp)
  induction left generalizing success t with
  | zero => exact answered ht
  | succ left ih =>
    have mobile : (unreported σ).Mobile stage := unreported_mobile
    refine ends_seq (Conduct.hasNext_ends mobile trivial) ?_ fun f u ⟨⟨_, h, _⟩, _⟩ => by cases h
    rintro b u ⟨⟨_, ⟨⟩, running⟩, noticed⟩
    have before := ht.before (went_quiet noticed)
    split
    · rename_i more
      refine ends_seq (next_settled stage inner (direct.kept before.kept) (running more)) ?_ ?_
      · intro c v settled
        refine ih (c && success) ((before.trans settled).congr ?_)
        simp [and_comm]
      · exact fun f v settled => (before.trans settled).congr (by simp)
    · exact answered before

end Blocks

def Affirmed (p : Step) : Prop := p.kind.isFlow = true → p.negated = false

/-- How a run or a part of a chain ends. -/
def Whole (s : State σ) (r : Except Fault Bool) (t : State σ) : Prop := Tally (r = .ok true) s t

section Ends
variable {s t : State σ} {p : Prop} {b : Bool}

theorem tally_prepared (s : State σ) : Tally True s (s.begun stage) :=
  (tally_emit (s.prepared stage) _).congr (by simp [Event.isProblem])

theorem Tally.answers (h : Tally (b = true) s t) : Whole s (.ok b) t := h.congr (by simp)

theorem Tally.told (h : Tally p s t) (e : Event) (he : e.isProblem = false) :
    Tally p s (t.emit stage e) :=
  (h.trans (tally_emit t e)).congr (by simp [he])

theorem Tally.problem (h : Tally p s t) (e : Event) (he : e.isProblem = true) :
    Tally False s (t.emit stage e) :=
  (h.trans (tally_emit t e)).congr (by simp [he])

theorem Tally.released (h : Tally p s t) : Tally p s (t.released stage) :=
  h.before (tally_silent (along_released silently t))

theorem Tally.givenBack (h : Tally p s t) (c : Case) (last : Run) :
    Tally p s (givenBack stage c last t) :=
  h.before (tally_silent (along_givenBack silently c last t))

theorem Tally.ended (h : Tally (b = true) s t) :
    Whole s (.ok (b && !(t.released stage).isStopped)) (t.ended stage) := by
  have released : Tally (b = true) s (t.released stage) := h.released
  rw [State.ended]
  split
  · rename_i stopped
    refine (released.trans (tally_record (e := .endedStopped) _ (by simp))).congr ?_
    simp [TraceEntry.flaws, stopped]
  · rename_i running
    exact released.congr (by simp [running])

end Ends

/-- Runs and chains inside a run stand for what is in them. -/
structure Sound (stage : Stage σ) (inner : Inner σ) : Prop where
  finish : ∀ s, s.run.Bare stage Affirmed → s.run.aspect = [] → Ends inner.finish s (Whole s)
  stays : ∀ s, Ends inner.finish s fun _ t => Stays s t
  chain : ∀ s, s.run.Bare stage Affirmed → Ends inner.chain s (Whole s)

theorem bare_stays {s t : State σ} {P : Step → Prop} (bare : s.run.Bare stage P)
    (stays : Stays s t) : t.run.Bare stage P := by
  refine ⟨?_, stays.inherited.trans bare.inherited⟩
  rw [stays.case]
  exact bare.case

section Rows
variable (sound : Sound stage inner) {rows : Rows} {s t : State σ}
include sound

theorem row_whole (bare : rows.case.Bare stage Affirmed) (inherited : rows.aspect = []) (n : Nat)
    (row : Row) (isLast : Bool) (s : State σ) :
    Ends inner.finish (rowStart stage rows n row isLast s) fun r v =>
      Whole s r (s.after v) ∧ v.run.Bare stage Affirmed := by
  obtain ⟨own, unadvised⟩ : (rowStart stage rows n row isLast s).run.Bare stage Affirmed ∧ _ :=
    rowStart_bare bare inherited n row isLast s
  have ends := ends_and (sound.finish _ own unadvised) (sound.stays _)
  exact ends_mono ends fun r v h => ⟨along_row h.1, bare_stays own h.2⟩

theorem runRows_whole (bare : rows.case.Bare stage Affirmed) (inherited : rows.aspect = [])
    (l : List Row) (n : Nat) (b : Bool) (last : Option Run)
    (before : ∀ r ∈ last, r.Bare stage Affirmed) (ht : Tally (b = true) s t) :
    Ends (runRows stage inner rows n l b last) t fun r u =>
      Whole s (r.map (·.1)) u ∧ u.run = t.run ∧
        ∀ c q, r = .ok (c, some q) → q.Bare stage Affirmed := by
  induction l generalizing n b last t with
  | nil =>
    refine ⟨ht.answers, rfl, ?_⟩
    rintro c q ⟨⟩
    exact before q rfl
  | cons row rest ih =>
    rw [Course.runRows_iff]
    split
    · refine ⟨ht.answers, rfl, ?_⟩
      rintro c q ⟨⟩
      exact before q rfl
    · refine ends_mono (row_whole sound bare inherited n row rest.isEmpty t) fun r v h => ?_
      have went := ht.trans h.1
      cases r with
      | ok c =>
        refine ends_mono (ih (n + 1) (c && b) (some v.run) ?_ (went.congr ?_)) fun _ _ h => h
        · rintro _ ⟨⟩
          exact h.2
        · simp [and_comm]
      | error f =>
        have dropped : Tally True (t.after v) (rowRaised stage rows.case t v) :=
          tally_silent (along_rowDropped silently _ _ _)
        refine ⟨(went.before dropped).congr (by simp [Except.map]), rowRaised_run .., ?_⟩
        rintro c q ⟨⟩

theorem runGroup_whole (bare : rows.case.Bare stage Affirmed) (inherited : rows.aspect = [])
    (list : List Row) (s : State σ) :
    Ends (runGroup stage inner rows list) s fun r u =>
      Whole s (r.map (·.1)) u ∧ u.run = s.run ∧
        ∀ c q, r = .ok (c, some q) → q.Bare stage Affirmed := by
  have opened : Tally True s (grouped stage rows s) := by
    rw [grouped]
    split
    · exact (tally_same rfl).told _ rfl
    · exact tally_same rfl
  rw [Course.runGroup_iff]
  refine ends_mono (runRows_whole sound bare inherited list 1 true none (by simp)
    (opened.congr (by simp))) ?_
  rintro r u ⟨whole, same, lasts⟩
  refine ⟨?_, ?_, lasts⟩
  · rw [ungrouped]
    split
    · exact Tally.told whole _ rfl
    · exact whole
  · rw [ungrouped_run, same, grouped_run]

theorem runDeferred_whole {last : Run} (bare : last.Bare stage Affirmed) (c : Case) (s : State σ) :
    Ends (runDeferred stage inner c last) s (Whole s) := by
  rw [Course.runDeferred_iff]
  split
  · exact ((tally_same rfl : Tally True s s).givenBack c last).congr (by simp)
  · refine ends_mono (sound.chain ⟨s.world, last⟩ bare) fun r v whole => ?_
    have went : Tally (r = .ok true) s (s.after v) := whole
    exact went.givenBack c last

theorem settleChild_whole {c : Case} {b : Bool} {last : Option Run}
    (before : ∀ r ∈ last, r.Bare stage Affirmed) (ht : Tally (b = true) s t) :
    Ends (settleChild stage inner c b last) t fun r u => Whole s (r.map (·.1)) u := by
  cases last with
  | none => exact ht.answers
  | some last =>
    rw [Course.settleChild_iff]
    split
    · refine ends_mono (runDeferred_whole sound (before last rfl) c t) fun r u whole => ?_
      refine (ht.trans whole).congr ?_
      cases r <;> simp [Except.map, and_comm]
    · exact ht.answers

end Rows

section Chain
variable (sound : Sound stage inner) {s t : State σ}
include sound

theorem runChild_whole (bare : s.run.Bare stage Affirmed) {c : Case}
    (hc : c.Bare stage Affirmed) (i : Nat) (seed : Row) :
    Ends (runChild stage inner i c seed) s fun r u =>
      Whole s (r.map (·.1)) u ∧ u.run = s.run := by
  have flawed : ∀ f, Whole s (.error f) (s.emit stage (.error f)) := fun f =>
    ((tally_same rfl : Tally True s s).problem _ rfl).congr (by simp)
  cases read : c.materialize seed with
  | error f =>
    simp only [runChild, ends_bind, ends_getRun, read, report]
    exact ⟨flawed f, rfl⟩
  | ok d =>
    cases loaded : d.effectiveLoader.load stage.sources stage.dataDir seed with
    | error f =>
      simp only [runChild, ends_bind, ends_getRun, read, report, ends_pure, loaded]
      exact ⟨flawed f, rfl⟩
    | ok list =>
      rw [Course.runChild_loaded read loaded]
      refine ends_mono (runGroup_whole sound (hc.read read) bare.chainAspect list s) ?_
      rintro (f | ⟨b, last⟩) t ⟨whole, same, lasts⟩
      · exact ⟨whole, same⟩
      · have went : Tally (b = true) s t := whole.congr (by simp [Except.map])
        have settled : Ends (settleChild stage inner d b last) t _ :=
          settleChild_whole sound (fun r hr => lasts b r (by rw [hr])) went
        have kept : Ends (settleChild stage inner d b last) t _ := Seeds.settleChild_last d b last t
        exact ends_mono (ends_and settled kept) fun r u h => ⟨h.1, h.2.1.trans same⟩

theorem runChildren_whole (bare : t.run.Bare stage Affirmed) (l : List Case)
    (hl : ∀ c ∈ l, c.Bare stage Affirmed) (i : Nat) (seed : Row) (b : Bool)
    (ht : Tally (b = true) s t) :
    Ends (runChildren stage inner i l seed b) t (Whole s) := by
  induction l generalizing i seed b t with
  | nil => exact ht.answers
  | cons c rest ih =>
    have later : ∀ d ∈ rest, d.Bare stage Affirmed := fun d hd => hl d (by simp [hd])
    have reached : ∀ passed, Tally (b = true) s (t.record (.reached i passed)) := fun passed =>
      ht.before (tally_silent (along_reached silently t i passed))
    rw [Course.runChildren_iff]
    split
    · exact ht.answers
    · split
      · exact ih (t := t.record (.reached i true)) bare later _ _ _ (reached true)
      · refine ends_mono (runChild_whole sound (s := t.record (.reached i false)) bare
          (hl c (by simp)) i seed) fun r u ⟨whole, same⟩ => ?_
        have went := (reached false).trans whole
        cases r with
        | error f => exact went.congr (by simp [Except.map])
        | ok p =>
          refine ih (same ▸ bare) later _ _ _ (went.congr ?_)
          simp [Except.map, and_comm]

theorem chain_whole (bare : s.run.Bare stage Affirmed) :
    Ends (chain stage inner) s (Whole s) := by
  rw [chain, ends_bind, ends_getRun]
  exact runChildren_whole sound bare _ (fun _ hc => bare.case.chain hc) 1 _ true
    ((tally_same rfl).congr (by simp))

theorem endRun_whole {b : Bool} (bare : t.run.Bare stage Affirmed) (ht : Tally (b = true) s t) :
    Ends (endRun stage (chain stage inner) b) t (Whole s) := by
  have closed : Tally (b = true) s (t.emit stage .closed) := ht.told _ rfl
  rw [Course.endRun_iff]
  split
  · have called : (t.emit stage .closed).chainCalled.run.Bare stage Affirmed :=
      ⟨bare.case, bare.inherited⟩
    refine ends_mono (chain_whole sound called) fun r u whole => ?_
    have went : Tally (b = true ∧ r = .ok true) s u := closed.trans whole
    cases r with
    | error f => exact went.released.congr (by simp)
    | ok c => exact (went.congr (q := (b && c) = true) (by simp)).ended
  · exact closed.ended

theorem finishWith_whole (bare : s.run.Bare stage Affirmed) (unadvised : s.run.aspect = []) :
    Ends (finishWith stage inner) s (Whole s) := by
  have direct : Direct (s.begun stage).run := by
    refine ⟨?_, bare.case.steps⟩
    show Aspect.freeze _ s.run.aspect = []
    rw [unadvised]
    rfl
  have begun : Tally True s (s.begun stage) := tally_prepared s
  rw [Course.finishWith_iff]
  refine ends_mono (steps_settled stage inner direct _ true ((went_refl _).congr (by simp)))
    fun r t settled => ?_
  have went : Tally (r = .ok true) s t := settled.tally.after begun
  cases r with
  | ok b =>
    have own : t.run.Bare stage Affirmed := by
      refine bare_stays bare ⟨?_, ?_⟩
      · exact settled.kept.case
      · exact settled.kept.inherited
    exact endRun_whole sound own (went.congr (by simp))
  | error f =>
    have flawed : Tally False s (t.emit stage .closed) := (went.told _ rfl).congr (by simp)
    have aborted : Tally False s (t.aborted.emit stage .closed) := flawed
    dsimp only
    rw [Course.halt_iff]
    split
    · exact aborted.released.congr (by simp)
    · exact flawed.released.congr (by simp)

end Chain

theorem sound_innerAt (stage : Stage σ) (depth : Nat) : Sound stage (innerAt stage depth) := by
  induction depth with
  | zero =>
    refine ⟨fun s _ _ => ?_, finish_stays stage 0, fun s _ => ?_⟩
    · rw [Course.beyond_iff]
      have flawed : Tally False s (s.emit stage (.error (beyond s.run.name))) :=
        (tally_same rfl : Tally True s s).problem _ rfl
      exact flawed.released.congr (by simp)
    · have flawed : Tally False s (s.emit stage (.error (beyond s.run.name))) :=
        (tally_same rfl : Tally True s s).problem _ rfl
      have raised : Whole s (.error (beyond s.run.name))
          (s.emit stage (.error (beyond s.run.name))) := flawed.congr (by simp)
      exact raised
  | succ depth ih =>
    exact ⟨fun _ => finishWith_whole ih, finish_stays stage (depth + 1), fun _ => chain_whole ih⟩

open Blame Seeds State

theorem mem_told {e : Event} {l : List TraceEntry} : e ∈ told l ↔ .event e ∈ l := by
  simp only [told, List.mem_filterMap, List.mem_reverse]
  constructor
  · rintro ⟨entry, mem, is⟩
    cases entry with
    | event _ =>
      cases is
      exact mem
    | _ => cases is
  · exact fun mem => ⟨_, mem, rfl⟩

section Onward
variable {depth : Nat} {y u : State σ} {r : Except Fault Bool}

theorem chain_linked (executed : (innerAt stage depth).chain.exec y = (r, u)) :
    Telling.Linked r y u := by
  have law : (Telling.course σ).Lawful stage := Telling.lawful
  have ends := (Course.innerAt_ends law depth).2 y trivial
  rw [Ends, executed] at ends
  exact ends.2

/-- A chain that is neither stopped nor broken off comes to its end, and so do the rows of every
case that it comes to. -/
theorem chain_onward (calm : Undisturbed y u) {d : Bool}
    (whole : (chain stage (innerAt stage depth)).exec y = (.ok d, u)) :
    (∃ n seed past, Reaches stage (innerAt stage depth) y n [] seed d past u) ∧
      ∀ i rows list g, Arrives stage (innerAt stage depth) y i rows list g →
        ∃ n b done t, Rowing stage (innerAt stage depth) rows list g n [] b done t := by
  obtain ⟨finishes, chains⟩ := framed_innerAt stage depth
  constructor
  · have frame : Frame y u := framed_exec (framed_innerAt stage (depth + 1)).2 whole
    have running := (Bool.or_eq_false_iff.1 (calm.isStopped frame)).2
    have start : Reaches stage (innerAt stage depth) y 1 _ _ _ [] y := .first
    obtain ⟨n, rest, seed, e, past, v, reached, ended | ⟨_, _, f, w, _, _, raised⟩⟩ := start.ends
    · obtain ⟨halted, answer⟩ := ended
      rw [whole] at answer
      cases answer
      rw [running] at halted
      obtain rfl := halted.resolve_right Bool.false_ne_true
      exact ⟨n, seed, past, reached⟩
    · rw [whole] at raised
      cases raised
  · intro i rows list g arrived
    rcases executed : (runRows stage (innerAt stage depth) rows 1 list true none).exec g
      with ⟨a, w⟩
    obtain ⟨t, come, rfl, left, raised, _⟩ := arrived.frames finishes chains whole executed
    rcases a with f | ⟨c, last⟩
    · cases raised f rfl
    · have before : Frame y w := (come.trans (Frame.frame_grouped rows t)).trans
        (framed_exec (runRows_framed finishes rows list _ _ _) executed)
      have after : Frame w u := (Frame.frame_ungrouped rows w).trans left
      have running := (Bool.or_eq_false_iff.1 ((calm.left after).isStopped before)).2
      obtain ⟨n, rest, done, went, _, halted⟩ := Rowing.first.ends executed
      rw [running] at halted
      obtain rfl := halted.resolve_right Bool.false_ne_true
      exact ⟨n, c, done, w, went⟩

end Onward

/-- A run without interceptors whose flow steps are not negated, in which nothing was stopped and
of no error was told, succeeds if and only if no step failed in it or below it. Every chain
in it comes to its end, and so do the rows of every case in the chain, whatever the results
of the rows and of the cases before. -/
theorem result_stands (stage : Stage σ) (depth : Nat) (s : State σ)
    (bare : s.run.Bare stage Affirmed) (unadvised : s.run.aspect = []) :
    let e := (finishWith stage (innerAt stage depth)).exec s
    let events := told (World.since s.world e.2.world)
    Undisturbed s e.2 → (∀ f, .error f ∉ events) →
      (e.1 = .ok true ↔ ∀ m, .failure m ∉ events) ∧
      ∀ k line y, Descends stage depth s .chain k line y →
        ∃ j b u, k = j + 1 ∧ (chain stage (innerAt stage j)).exec y = (.ok b, u) ∧
          (∃ n seed past, Reaches stage (innerAt stage j) y n [] seed b past u) ∧
          ∀ i rows list g, Arrives stage (innerAt stage j) y i rows list g →
            ∃ n c done t, Rowing stage (innerAt stage j) rows list g n [] c done t := by
  intro e events calm untold
  have whole : Whole s e.1 e.2 := finishWith_whole (sound_innerAt stage depth) bare unadvised
  obtain ⟨flawless, unhooked⟩ := along_since whole
  -- without a stop and without an error only failures are flaws
  have unstopped := Frame.finish_unstopped stage depth s calm
  constructor
  · rw [flawless]
    constructor
    · intro clean m failed
      cases clean _ (mem_told.1 failed)
    · intro unfailed entry mem
      cases entry with
      | event told =>
        cases told with
        | failure m => exact absurd (mem_told.2 mem) (unfailed m)
        | error f => exact absurd (mem_told.2 mem) (untold f)
        | _ => rfl
      | endedStopped => exact absurd mem unstopped
      | _ => rfl
  · intro k line y below
    have within : Spans s e.2 y ((innerAt stage k).chain.exec y).2 := below.spans
    rcases executed : (innerAt stage k).chain.exec y with ⟨f | b, u⟩
    · rw [executed] at within
      obtain ⟨l, part, linked⟩ := within.recorded (chain_linked executed)
      rcases linked.known with ⟨k, f, hook, _⟩ | ⟨⟨f, hf⟩, _⟩
      · exact absurd (part hook) (unhooked k f)
      · exact absurd (mem_told.2 (part (mem_told.1 hf))) (untold f)
    · rw [executed] at within
      cases k with
      | zero => cases executed
      | succ j => exact ⟨j, b, u, rfl, executed, chain_onward (within.calm calm) executed⟩

section Example
open Brackets

def refusing : Case where
  script := { name := "refusing" }
  steps := [{ kind := .echo, texts := [("text", "no")], negated := true }]

def divided : State Unit :=
  firstState { script := { name := "divided" }, chain := [refusing, storing] }

theorem divided_bare : divided.run.Bare lettered Affirmed := by
  have own : ∀ c ∈ [refusing, storing], c.Bare lettered Affirmed := by
    simp only [List.mem_cons, List.not_mem_nil, or_false, forall_eq_or_imp, forall_eq]
    constructor
    · refine .intro rfl (.inr rfl) ?_ (by simp [refusing]) (fun _ none => by cases none)
      simp [refusing, Affirmed, Step.Kind.isFlow]
    · refine .intro rfl (.inr rfl) ?_ (by simp [storing]) (fun _ none => by cases none)
      simp [storing, Affirmed, Step.Kind.isFlow]
  exact ⟨.intro rfl (.inr rfl) (fun _ none => by cases none) own (fun _ none => by cases none), rfl⟩

/-- Both rows of the first case fail, and the chain comes to its end all the same. -/
theorem failed_rows_cut_nobody_off :
    let e := (finishWith lettered (innerAt lettered 1)).exec divided
    e.1 ≠ .ok true ∧
      (told (World.since divided.world e.2.world)).filter Event.isProblem =
        [.failure "not echo text:no failed", .failure "not echo text:no failed"] ∧
      ∃ y b u n seed past, Descends lettered 1 divided .chain 2 [⟨0, 0, divided⟩] y ∧
        Reaches lettered (innerAt lettered 1) y n [] seed b past u := by
  intro e
  have problems : (told (World.since divided.world e.2.world)).filter Event.isProblem =
      [.failure "not echo text:no failed", .failure "not echo text:no failed"] := by
    decide +kernel
  have problem : ∀ p, p ∈ told (World.since divided.world e.2.world) → p.isProblem = true →
      p = .failure "not echo text:no failed" := by
    intro p hp flaw
    have mem := List.mem_filter.2 ⟨hp, flaw⟩
    rw [problems] at mem
    simpa using mem
  have calm : Undisturbed divided e.2 := by
    have unstopped : e.2.world.signals.stopped = [] := by decide +kernel
    refine ⟨by decide +kernel, ?_⟩
    rw [unstopped]
    simp
  have untold : ∀ f, .error f ∉ told (World.since divided.world e.2.world) :=
    fun f hf => by cases problem _ hf rfl
  obtain ⟨succeeds, onward⟩ := result_stands lettered 1 divided divided_bare rfl calm untold
  refine ⟨fun success => ?_, problems, ?_⟩
  · have failed : .failure "not echo text:no failed" ∈
        (told (World.since divided.world e.2.world)).filter Event.isProblem := by
      rw [problems]
      simp
    exact succeeds.1 success _ (List.mem_filter.1 failed).1
  · have chain : Descends lettered 1 divided .chain 2 [⟨0, 0, divided⟩] _ := .chain .top rfl rfl
    obtain ⟨j, b, u, ⟨⟩, _, ⟨n, seed, past, reached⟩, _⟩ := onward _ _ _ chain
    exact ⟨_, b, u, n, seed, past, chain, reached⟩

end Example

end Conjunction

end Scenario
