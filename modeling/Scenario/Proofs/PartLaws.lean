import Scenario.Proofs.ActionEffects
import Scenario.Proofs.AdviceEffects
import Scenario.Proofs.StepVisits

/-!
# Parts of a run

What a part of a run leaves follows from what its moves leave and from the steps
that it visits. A passage relates the state in which a part begins to one that it
comes to. It is lawful when it is kept up by the moves of a run, by the steps that
begin, and by parts whose visits are visits of the whole.
-/

set_option autoImplicit false

namespace Scenario
open Scenario.Act Scenario.Execution

variable {σ : Type} {stage : Stage σ} {depth : Nat}

namespace Visiting

inductive Shift (s : State σ) : State σ → Prop
  | heeded {t : State σ} (h : ∀ key, Heeds key s t) : Shift s t
  | noticed : Shift s { s with run := { s.run with cursor := s.run.cursor.stop } }
  | stood (i : Int) : Shift s (s.standing i)
  | turned (i : Nat) : Shift s (s.record (.turned i))
  | counted (i : Nat) : Shift s (Blame.counted s i)

theorem shift_refl (s : State σ) : Shift s s := .heeded fun _ => .refl s

inductive Acted (s : State σ) : State σ → Prop
  | worked {t : State σ} (h : Works s t) : Acted s t
  | assigned {t : State σ} {name : String} (known : s.run.assigned? = some name)
      (h : Assigns name s t) : Acted s t

theorem idle_calls {l : List TraceEntry} (h : Calls l) : Idle l := by
  apply idle_silent
  · intro e he
    have call := h e he
    cases e <;> simp_all [TraceEntry.isCall, TraceEntry.silent]
  · intro e he
    have call := h e he
    cases e <;> simp_all [TraceEntry.isCall, TraceEntry.proceeds]

theorem Acted.calls {s t : State σ} (h : Acted s t) : Along Idle s t := by
  cases h with
  | worked h => exact along_mono h.calls fun _ => idle_calls
  | assigned _ h => exact along_mono h.calls fun _ => idle_calls

def Inside (stage : Stage σ) (inner : Inner σ) (part : Part) (s : State σ) (part' : Part)
    (u : State σ) : Prop :=
  ∀ o v, Visits stage inner part' u o v → ∃ o, Visits stage inner part s o v

structure Passage (stage : Stage σ) (inner : Inner σ) (K : Part → State σ → State σ → Prop) :
    Prop where
  shift : ∀ {part s t}, Shift s t → K part s t
  later : ∀ {part s u t}, K part s u → Shift u t → K part s t
  chain : ∀ {part part' s u t}, K part s u → Inside stage inner part s part' u →
    K part' u t → K part s t
  begins : ∀ {level s p u}, Begins stage inner s p u → K (.current level) s (started stage p u)
  acts : ∀ {level s p u t}, Begins stage inner s p u → Acted (started stage p u) t →
    K (.current level) s t

section Begins
variable {s u : State σ} {p : Step}

theorem Begins.heeds (begins : Begins stage (innerAt stage depth) s p u) (key : String) :
    Heeds key (s.record (.turned (s.run.cursor.current?.getD 0))) u :=
  ends_executed (adviseAll_heeds stage depth key
    (s := s.record (.turned (s.run.cursor.current?.getD 0)))
    (fun _ => Aspect.mem_of_mem_advice) .before p) begins.allowed

theorem Begins.current (begins : Begins stage (innerAt stage depth) s p u) :
    (started stage p u).run.step? = some p :=
  (begins.heeds "").step.trans begins.here

end Begins

namespace Passage
variable {K : Part → State σ → State σ → Prop}

def Blocks (stage : Stage σ) (depth : Nat) (K : Part → State σ → State σ → Prop)
    (level : Option Nat) : Prop :=
  ∀ (size : Nat) (s : State σ),
    Ends (blockOf stage (innerAt stage depth) level size) s fun _ t => K (.block level size) s t

variable (law : Passage stage (innerAt stage depth) K)
include law

theorem stays (part : Part) (s : State σ) : K part s s := law.shift (shift_refl s)

section Parts
variable {level : Option Nat} (blocks : Blocks stage depth K level) {s : State σ}
include blocks

theorem round_ends (size left i : Nat) (running : s.isStopped = false) :
    Ends (blockOf stage (innerAt stage depth) level size) (Blame.counted s i)
      fun _ t => K (.rounds level size (left + 1) i) s t :=
  ends_mono (blocks size (Blame.counted s i)) fun _ _ block =>
    law.chain (law.shift (.counted i)) (fun _ _ visit => ⟨_, .round running visit⟩) block

theorem rounds_ends (size left i : Nat) (success : Bool) :
    Ends (Action.rounds (blockOf stage (innerAt stage depth) level) size left i success) s
      fun _ t => K (.rounds level size left i) s t := by
  induction left generalizing s i success with
  | zero => exact law.stays _ s
  | succ left ih =>
    rw [Blame.rounds_iff]
    by_cases stopped : s.isStopped = true
    · rw [if_pos stopped]
      exact law.stays _ s
    · rw [if_neg stopped]
      rw [Bool.not_eq_true] at stopped
      apply ends_seq (ends_exec (law.round_ends blocks size left i stopped))
      · rintro c u ⟨past, first⟩
        exact ends_mono (ih (i + 1) (c && success)) fun _ _ rest =>
          law.chain first (fun _ _ visit => ⟨_, .again stopped past visit⟩) rest
      · rintro _ _ ⟨_, first⟩
        exact first

theorem action_ends {p : Step} {u : State σ} (begins : Begins stage (innerAt stage depth) s p u) :
    Ends (Action.perform stage (blockOf stage (innerAt stage depth) level) p.kind)
      (started stage p u) fun _ t => K (.current level) s t := by
  have here := begins.current
  have came : K (.current level) s (started stage p u) := law.begins begins
  cases kind : p.kind with
  | loop =>
    rw [← kind]
    apply loop_ends here kind
    · exact fun _ _ => came
    · intro n count
      exact ends_mono (law.rounds_ends blocks _ n 1 true) fun _ _ rounds =>
        law.chain came (fun _ _ visit => ⟨_, .loop begins kind count visit⟩) rounds
  | branch =>
    rw [← kind]
    apply branch_ends here kind
    · exact fun _ _ => came
    · exact fun _ _ _ => came
    · intro condition text holds
      exact ends_mono (blocks _ _) fun _ _ block =>
        law.chain came (fun _ _ visit => ⟨_, .branch begins kind text holds visit⟩) block
  | _ =>
    rw [← kind]
    refine ends_mono (Scenario.action_ends here (by rw [kind]; rfl)) fun _ t done => ?_
    rcases done with worked | ⟨name, known, assigns⟩
    · exact law.acts begins (.worked worked)
    · exact law.acts begins (.assigned known assigns)

theorem carry_ends {p : Step} {u : State σ} (begins : Begins stage (innerAt stage depth) s p u)
    (n : Nat) :
    Ends (Blame.carry stage (innerAt stage depth) (blockOf stage (innerAt stage depth) level)
      (s.run.aspect.advice p s.run.row) p n) u fun _ t => K (.current level) s t := by
  have kept : ∀ key, Heeds key (s.record (.turned (s.run.cursor.current?.getD 0))) u := begins.heeds
  simp only [Blame.carry, Act.emit, ends_bind, ends_getRun, ends_modifyWorld, ends_outcome]
  have acts := law.action_ends blocks begins
  refine ends_mono (ends_and acts (kept_action stage depth level _ p.kind)) ?_
  rintro r t ⟨acted, same⟩
  have aspect : t.run.aspect = s.run.aspect := same.aspect.trans (kept "").aspect
  have advice : ∀ i ∈ s.run.aspect.advice p s.run.row, i ∈ t.run.aspect :=
    fun i hi => aspect ▸ Aspect.mem_of_mem_advice hi
  have judged := fun key => judge_heeds stage depth key advice p (p.label u.run.row) r
  refine ends_mono (P := fun _ v => ∀ key, Heeds key t v) judged fun q v heeded => ?_
  cases q with
  | ok c => exact law.later acted (.heeded heeded)
  | error f => exact law.later acted (.heeded heeded)

theorem current_ends :
    Ends (executeCurrent stage (innerAt stage depth) (blockOf stage (innerAt stage depth) level)) s
      fun _ t => K (.current level) s t := by
  rw [Blame.executeCurrent_iff]
  have turned : K (.current level) s (s.record (.turned (s.run.cursor.current?.getD 0))) :=
    law.shift (.turned _)
  cases here : s.run.step? with
  | none => exact law.stays _ s
  | some p =>
    dsimp only
    by_cases included : s.run.case.includes p s.run.row = true
    · rw [if_pos included, Blame.executeStep_iff]
      split
      · exact turned
      · rename_i wanted
        rw [Bool.not_eq_true] at wanted
        have heard : Ends (adviseAll stage (innerAt stage depth) .before p
              (s.run.aspect.advice p s.run.row))
            (s.record (.turned (s.run.cursor.current?.getD 0)))
            fun _ u => ∀ key, Heeds key (s.record (.turned (s.run.cursor.current?.getD 0))) u :=
          fun key => adviseAll_heeds stage depth key (fun _ => Aspect.mem_of_mem_advice) .before p
        apply ends_seq (ends_exec heard)
        · rintro c u ⟨allowed, heeded⟩
          cases c with
          | true => exact law.carry_ends blocks ⟨here, included, wanted, allowed⟩ _
          | false => exact law.later turned (.heeded heeded)
        · rintro _ u ⟨_, heeded⟩
          exact law.later turned (.heeded heeded)
    · rw [if_neg included]
      exact turned

end Parts

section Blocks
variable {s : State σ}

theorem step_ends {level : Nat} (blocks : Blocks stage depth K (some level)) {last index : Nat}
    (left : Nat) (within : index ≤ last) (running : s.isStopped = false) :
    Ends (executeCurrent stage (innerAt stage depth)
        (blockOf stage (innerAt stage depth) (some level)))
      (s.standing ((index : Int).bmod Text.word))
      fun _ t => K (.walk level last (left + 1) index) s t :=
  ends_mono (law.current_ends blocks) fun _ _ current =>
    law.chain (law.shift (.stood _)) (fun _ _ visit => ⟨_, .step within running visit⟩) current

theorem walk_ends {level : Nat} (blocks : Blocks stage depth K (some level))
    (origin last left index : Nat) (success : Bool) :
    Ends (walk stage (innerAt stage depth) (blockOf stage (innerAt stage depth) (some level))
      origin last left index success) s fun _ t => K (.walk level last left index) s t := by
  induction left generalizing s index success with
  | zero =>
    rw [Blame.walk_zero]
    exact law.shift (.stood _)
  | succ left ih =>
    rw [Blame.walk_iff]
    by_cases gone : last < index ∨ s.isStopped = true
    · rw [if_pos gone]
      exact law.shift (.stood _)
    · rw [if_neg gone]
      obtain ⟨within, running⟩ : index ≤ last ∧ s.isStopped = false := by simpa using gone
      rw [ends_bind, ends_outcome]
      refine ends_mono (ends_exec (law.step_ends blocks left within running)) ?_
      rintro r u ⟨executed, first⟩
      cases r with
      | error f => exact law.later first (.stood _)
      | ok done =>
        exact ends_mono (ih (index + done.consumed) (done.success && success)) fun _ _ rest =>
          law.chain first (fun _ _ visit => ⟨_, .past within running executed visit⟩) rest

theorem blockAt_ends (level : Nat) : Blocks stage depth K (some level) := by
  induction level with
  | zero => exact fun _ s => law.stays _ s
  | succ level ih =>
    intro size s
    show Ends (blockAt stage (innerAt stage depth) (level + 1) size) s _
    rw [blockAt, ends_bind, ends_getRun]
    cases stands : s.run.cursor.current? with
    | none =>
      simp only [stands]
      exact law.stays _ s
    | some origin =>
      simp only [stands]
      exact ends_mono (law.walk_ends ih origin _ _ _ true) fun _ _ walked =>
        law.chain (law.stays _ s) (fun _ _ visit => ⟨_, .block stands visit⟩) walked

theorem blocks (level : Option Nat) : Blocks stage depth K level := by
  cases level with
  | some level => exact law.blockAt_ends level
  | none =>
    intro size s
    show Ends (block stage (innerAt stage depth) size) s _
    rw [block, ends_bind, ends_getRun]
    have own : Ends (blockAt stage (innerAt stage depth) (s.run.case.steps.length + 1) size) s
        fun _ t => K (.block (some (s.run.case.steps.length + 1)) size) s t :=
      law.blockAt_ends _ size s
    exact ends_mono own fun _ _ inside =>
      law.chain (law.stays _ s) (fun _ _ visit => ⟨_, .top visit⟩) inside

theorem next_ends {left : Nat} {u : State σ} (came : K (.steps (left + 1)) s u)
    (more : (hasNext : Act σ Fault Bool).exec s = (.ok true, u)) :
    Ends (Execution.next stage (innerAt stage depth)) u fun _ t => K (.steps (left + 1)) s t := by
  have stood := law.later came (.stood u.run.cursor.startStep.index)
  have inside : ∀ t, K (.current none) (u.standing u.run.cursor.startStep.index) t →
      K (.steps (left + 1)) s t := fun t current =>
    law.chain stood (fun _ _ visit => ⟨_, .next more visit⟩) current
  rw [Blame.next_iff]
  apply ends_seq (law.current_ends (law.blocks none))
  · exact fun _ t current => law.later (inside t current) (.stood _)
  · exact fun _ t current => inside t current

theorem hasNext_ends (part : Part) : Ends (hasNext : Act σ Fault Bool) s fun _ t => K part s t := by
  simp only [hasNext, ends_bind, ends_get]
  split
  · exact law.shift .noticed
  · exact law.stays part s

/-- The steps that are left of a run. -/
theorem steps_ends (left : Nat) (success : Bool) :
    Ends (steps stage (innerAt stage depth) left success) s fun _ t => K (.steps left) s t := by
  induction left generalizing s success with
  | zero => exact law.stays _ s
  | succ left ih =>
    rw [steps]
    apply ends_seq (ends_exec (law.hasNext_ends (.steps (left + 1))))
    · rintro b u ⟨more, came⟩
      cases b with
      | false => exact came
      | true =>
        apply ends_seq (ends_exec (law.next_ends came more))
        · rintro c v ⟨past, went⟩
          exact ends_mono (ih (c && success)) fun _ _ rest =>
            law.chain went (fun _ _ visit => ⟨_, .onward more past visit⟩) rest
        · rintro _ _ ⟨_, went⟩
          exact went
    · rintro _ _ ⟨_, came⟩
      exact came

end Blocks

end Passage

/-- From the beginning of the innermost round to a visit the passage is kept, or else from the
beginning of the part. -/
def Reached (K : Part → State σ → State σ → Prop) (part : Part) (s t : State σ) :
    Option (Round σ) → Prop
  | none => K part s t
  | some r => K r.part r.began t

namespace Passage
variable {K : Part → State σ → State σ → Prop} (law : Passage stage (innerAt stage depth) K)
include law

theorem reached_before {part part' : Part} {s u t : State σ} {o : Option (Round σ)}
    (came : K part s u) (inside : Inside stage (innerAt stage depth) part s part' u)
    (h : Reached K part' u t o) : Reached K part s t o := by
  cases o with
  | none => exact law.chain came inside h
  | some r => exact h

theorem visited {part : Part} {s t : State σ} {o : Option (Round σ)}
    (visit : Visits stage (innerAt stage depth) part s o t) : Reached K part s t o := by
  -- along the way to the visit; the passage is kept by what was executed before it
  induction visit with
  | @next left _ _ _ _ more _ ih =>
    have came := ends_executed (law.hasNext_ends (.steps (left + 1))) more
    exact law.reached_before (law.later came (.stood _)) (fun _ _ visit => ⟨_, .next more visit⟩) ih
  | @onward left _ _ _ _ _ _ more past _ ih =>
    have came := ends_executed (law.hasNext_ends (.steps (left + 1))) more
    exact law.reached_before (ends_executed (law.next_ends came more) past)
      (fun _ _ visit => ⟨_, .onward more past visit⟩) ih
  | here begins => exact law.begins begins
  | loop begins kind count _ ih =>
    exact law.reached_before (law.begins begins)
      (fun _ _ visit => ⟨_, .loop begins kind count visit⟩) ih
  | branch begins kind text holds _ ih =>
    exact law.reached_before (law.begins begins)
      (fun _ _ visit => ⟨_, .branch begins kind text holds visit⟩) ih
  | @round _ _ _ _ _ _ o _ _ ih =>
    cases o with
    | none => exact ih
    | some r => exact ih
  | again running past _ ih =>
    exact law.reached_before
      (ends_executed (law.round_ends (law.blocks _) _ _ _ running) past)
      (fun _ _ visit => ⟨_, .again running past visit⟩) ih
  | top _ ih => exact law.reached_before (law.stays _ _) (fun _ _ visit => ⟨_, .top visit⟩) ih
  | block stands _ ih =>
    exact law.reached_before (law.stays _ _) (fun _ _ visit => ⟨_, .block stands visit⟩) ih
  | step within running _ ih =>
    exact law.reached_before (law.shift (.stood _))
      (fun _ _ visit => ⟨_, .step within running visit⟩) ih
  | past within running past _ ih =>
    exact law.reached_before (ends_executed (law.step_ends (law.blocks _) _ within running) past)
      (fun _ _ visit => ⟨_, .past within running past visit⟩) ih

end Passage

end Visiting

end Scenario
