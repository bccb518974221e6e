import Scenario.Proofs.StoppedStep

/-!
# What a stop is blamed for

A step that succeeds where no hook stops its run succeeds in the stopped run
too, and so does a run up to its end, which the stop makes a run without
success. Only a case that advises after the stopped step and a step that waits
tell the listeners of a failure.
-/

set_option autoImplicit false

namespace Scenario.Blame
open Scenario.Act Scenario.Execution State Ceasing Marks

variable {σ : Type} {stage : Stage σ} {depth : Nat}

section Judgement
variable {ε α β : Type} {advice : List (Interceptor Case)} {p : Step} {label : String}
  {b a : State σ}

theorem soundly_hurts {x : Act σ ε α} {x' : Act σ ε β}
    {P : Except ε α → State σ → Except ε β → State σ → Prop}
    (h : Ends x' a fun _ t' => Hurts a t') : Soundly x x' b a P := by
  have both : Both x x' b a fun _ _ _ t' => Hurts a t' := h
  exact both_mono both fun _ _ _ _ hurts sound => (hurts.unsound sound).elim

variable (stage depth)

theorem ended_beside {good : Except Fault Bool → Prop} (beside : Beside b a) :
    Soundly (do Act.emit stage .ended; pure true : Act σ Fault Bool)
      (do Act.emit stage .ended; pure true : Act σ Fault Bool) b a (Fares good b) :=
  fun _ => .together rfl (emit_beside beside .ended) (along_emit (by simp [Sound, TraceEntry.mars]))

theorem succeeded_beside (beside : Beside b a) :
    Soundly (succeeded stage (innerAt stage depth) advice p label)
      (succeeded stage (innerAt stage depth) (Aspect.muted advice) p label) b a
      (Fares (· = .ok true) b) := by
  have accept : ∀ (l : List (Interceptor Case)) (c : Bool),
      Framed (if c = true then do Act.emit stage .ended; pure true
        else failed stage (innerAt stage depth) l p label : Act σ Fault Bool) := by
    intro l c
    cases c with
    | true => exact fun s => Frame.frame_emit s _
    | false => exact fun s => ends_mono (failed_rests stage depth l p label s) fun _ _ h => h.frame
  by_cases takes : p.kind.takesAfter = true
  · have first : Soundly (adviseAll stage (innerAt stage depth) .after p advice)
        (adviseAll stage (innerAt stage depth) .after p (Aspect.muted advice)) b a
        fun r t r' t' => Heard .after p b a r t r' t' ∧ Frame b t :=
      both_mono (both_left (adviseAll_beside stage depth advice .after p beside)
        (framed_adviseAll stage depth advice .after p b)) fun _ _ _ _ h sound => ⟨h.1 sound, h.2⟩
    simp only [succeeded, takes, if_true]
    refine soundly_bind first (framed_adviseAll stage depth _ .after p) (accept _) ?_
    rintro r t r' t' ⟨heard, before⟩
    cases heard with
    | refused past sound veto refusal =>
      have excused : Excused b t :=
        along_mono refusal fun l hl => ⟨_, hl, rfl⟩
      refine soundly_alone (framed_resume (accept advice) r t) fun _ _ _ _ after => ?_
      exact .excused (excused_before excused after)
    | together same beside' sound _ =>
      subst same
      rcases r' with f | _ | _
      · exact fun _ => .together rfl beside' sound
      · exact soundly_hurts (failed_hurts stage depth _ p label t')
      · exact both_mono (ended_beside stage beside') fun _ _ _ _ h sound' =>
          (h sound').after before sound
  · rw [Bool.not_eq_true] at takes
    simp only [succeeded, takes, Bool.false_eq_true, if_false]
    exact ended_beside stage beside

theorem judge_beside (r : Except Problem Bool) (beside : Beside b a) :
    Soundly (judge stage (innerAt stage depth) advice p label r)
      (judge stage (innerAt stage depth) (Aspect.muted advice) p label r) b a
      (Fares (· = .ok true) b) := by
  rcases r with (f | f | m) | c
  · exact fun _ => .together rfl (emit_beside beside .ended)
      (along_emit (by simp [Sound, TraceEntry.mars]))
  · exact soundly_hurts (raised_hurts stage depth _ p a f)
  · exact soundly_hurts (raised_hurts stage depth _ p a _)
  · simp only [judge]
    split
    · exact succeeded_beside stage depth beside
    · exact soundly_hurts (failed_hurts stage depth _ p label a)

theorem judge_parted (flow : p.kind.isFlow = true) (past : Over b) {r' : Except Problem Bool}
    (unreported : ∀ f, r' ≠ .error (.reported f)) (holds : ∀ c, r' = .ok c → c = true) :
    Soundly (judge stage (innerAt stage depth) advice p label (.ok true))
      (judge stage (innerAt stage depth) (Aspect.muted advice) p label r') b a
      (Fares (· = .ok true) b) := by
  rcases r' with (f | f | m) | c
  · exact absurd rfl (unreported f)
  · exact soundly_hurts (raised_hurts stage depth _ p a f)
  · exact soundly_hurts (raised_hurts stage depth _ p a _)
  · cases holds c rfl
    have left : p.kind.takesAfter = false := by
      cases hk : p.kind <;> simp_all [Step.Kind.isFlow, Step.Kind.takesAfter]
    simp only [judge]
    split
    · simp only [succeeded, left, Bool.false_eq_true, if_false]
      refine soundly_alone (A := fun q u => q = .ok true ∧ u = b.emit stage .ended) ⟨rfl, rfl⟩ ?_
      rintro _ _ _ _ ⟨rfl, rfl⟩
      exact .parted (over_frame (Frame.frame_emit b _) past)
        (along_emit (by simp [Sound, TraceEntry.mars])) rfl
    · exact soundly_hurts (failed_hurts stage depth _ p label a)

end Judgement

section Step
variable {block : Nat → Act σ Problem Bool} {b a : State σ}

def Held (r : Except Fault Outcome) : Prop := r.map Outcome.success = .ok true

def carry (stage : Stage σ) (inner : Inner σ) (block : Nat → Act σ Problem Bool)
    (advice : List (Interceptor Case)) (p : Step) (n : Nat) : Act σ Fault Outcome := do
  let label := p.label (← Act.getRun).row
  Act.emit stage (.started label)
  let r ← Act.outcome (Action.perform stage block p.kind)
  let c ← judge stage inner advice p label r
  pure ⟨c, n⟩

theorem executeStep_iff (inner : Inner σ) (p : Step) (s : State σ)
    (Q : Except Fault Outcome → State σ → Prop) :
    Ends (executeStep stage inner block p) s Q ↔
      if p.isSkipped s.run.row then Q (.ok ⟨true, Action.consumed s.run p⟩) s
      else Ends (adviseAll stage inner .before p (s.run.aspect.advice p s.run.row) >>= fun c =>
        if c then carry stage inner block (s.run.aspect.advice p s.run.row) p
          (Action.consumed s.run p)
        else pure ⟨true, Action.consumed s.run p⟩) s Q := by
  rw [executeStep, ends_bind, ends_getRun]
  dsimp only
  split <;> rfl

theorem executeCurrent_iff (inner : Inner σ) (s : State σ)
    (Q : Except Fault Outcome → State σ → Prop) :
    Ends (executeCurrent stage inner block) s Q ↔
      match s.run.step? with
      | some p =>
        if s.run.case.includes p s.run.row then
          Ends (executeStep stage inner block p)
            (s.record (.turned (s.run.cursor.current?.getD 0))) Q
        else Q (.ok ⟨true, 1⟩) (s.record (.turned (s.run.cursor.current?.getD 0)))
      | none => Q (.ok ⟨true, 1⟩) s := by
  rw [executeCurrent, ends_bind, ends_getRun]
  dsimp only
  cases s.run.step? with
  | none => rfl
  | some p =>
    rw [ends_bind, ends_modifyWorld]
    dsimp only
    split <;> rfl

section Carry
variable (stage depth) (marks : ∀ n, (marking σ).Judges (block n))
  (hblock : ∀ n, Tracks (· = .ok true) (block n))
  (advice : List (Interceptor Case)) (p : Step) (n : Nat)

theorem framed_judge (label : String) (r : Except Problem Bool) :
    Framed (judge stage (innerAt stage depth) advice p label r) := fun s =>
  ends_mono (judge_rests stage depth advice p label s r) fun _ _ h => h.frame

theorem fares_outcome {x x' : Act σ Fault Bool}
    (first : Soundly x x' b a (Fares (· = .ok true) b)) (hx : Framed x) (hx' : Framed x') :
    Soundly (x >>= fun c => pure ⟨c, n⟩) (x' >>= fun c => pure ⟨c, n⟩) b a (Fares Held b) := by
  have ends : ∀ c, Framed (pure ⟨c, n⟩ : Act σ Fault Outcome) := fun c => framed_conclude _
  refine fares_bind (A := fun _ => True) (both_mono first fun _ _ _ _ h sound => ⟨h sound, trivial⟩)
    hx hx' ends ends ?_ ?_
  · rintro (f | c) t t' - beside
    · exact fun _ => .together rfl beside (sound_same rfl)
    · exact fun _ => .together rfl beside (sound_same rfl)
  · rintro _ t rfl past
    exact ⟨past, sound_same rfl, rfl⟩

include marks

theorem framed_carry : Framed (carry stage (innerAt stage depth) block advice p n) := by
  refine framed_bind (fun s => .refl s) fun r => ?_
  refine framed_bind (fun s => Frame.frame_emit s _) fun _ => ?_
  refine framed_bind (framed_action marks p.kind) fun r => ?_
  exact framed_bind (framed_judge stage depth advice p _ r) fun c => framed_conclude _

theorem action_sound (k : Step.Kind) (s : State σ) :
    Ends (Action.perform stage block k) s fun r t => Along Sound s t →
      (∀ f, r ≠ .error (.reported f)) ∧ (k.isFlow = true → ∀ c, r = .ok c → c = true) := by
  have mobile : (marking σ).Mobile stage := marking_lawful.toMobile
  have unreported : Ends (Action.perform stage block k) s fun r t => Along Sound s t →
      ∀ f, r ≠ .error (.reported f) := by
    refine ends_mono (Conduct.keeps_action mobile marks k s trivial) ?_
    rintro _ t hurts sound f rfl
    exact Hurts.unsound hurts sound
  by_cases flow : k.isFlow = true
  · refine ends_mono (ends_and unreported (Conduct.judges_flow mobile marks flow s trivial)) ?_
    rintro r t ⟨unreported, verdict⟩ sound
    refine ⟨unreported sound, ?_⟩
    rintro - c rfl
    exact sound_verdicts verdict sound
  · exact ends_mono unreported fun r t unreported sound =>
      ⟨unreported sound, fun flows => absurd flows flow⟩

include hblock

theorem acted_beside (label : String) (beside : Beside b a) :
    Soundly
      (Act.outcome (Action.perform stage block p.kind) >>= fun r =>
        judge stage (innerAt stage depth) advice p label r >>= fun c =>
          (pure ⟨c, n⟩ : Act σ Fault Outcome))
      (Act.outcome (Action.perform stage block p.kind) >>= fun r =>
        judge stage (innerAt stage depth) (Aspect.muted advice) p label r >>= fun c =>
          (pure ⟨c, n⟩ : Act σ Fault Outcome))
      b a fun r t r' t' => Fares Held b r t r' t' ∨ (p.kind.waits = true ∧ a ≠ b.muted) := by
  have judged : ∀ (l : List (Interceptor Case)) (r : Except Problem Bool),
      Framed (judge stage (innerAt stage depth) l p label r >>= fun c =>
        (pure ⟨c, n⟩ : Act σ Fault Outcome)) := fun l r =>
    framed_bind (framed_judge stage depth l p label r) fun c => framed_conclude _
  have framed : Framed (Action.perform stage block p.kind) := framed_action marks p.kind
  have fares :
      Soundly (Action.perform stage block p.kind) (Action.perform stage block p.kind) b a _ :=
    action_beside marks hblock p.kind beside
  have both := both_right (both_left fares (framed b)) (action_sound stage marks p.kind a)
  have first : Soundly (Act.outcome (Action.perform stage block p.kind) : Act σ Fault _)
      (Act.outcome (Action.perform stage block p.kind) : Act σ Fault _) b a fun r t r' t' =>
        ∃ q q', r = .ok q ∧ r' = .ok q' ∧ Frame b t ∧
          (Fares (fun r => p.kind.isFlow = true ∧ r = .ok true) b q t q' t' ∨
            (p.kind.waits = true ∧ a ≠ b.muted)) ∧
          (∀ f, q' ≠ .error (.reported f)) ∧
          (p.kind.isFlow = true → ∀ c, q' = .ok c → c = true) := by
    obtain ⟨⟨fares, frame⟩, answer⟩ := both
    exact fun sound => ⟨_, _, rfl, rfl, frame, fares sound, answer sound⟩
  refine soundly_bind first framed (judged _) ?_
  rintro _ t _ t' ⟨q, q', rfl, rfl, before, fares | waits, unreported, holds⟩
  · cases fares with
    | together same beside sound =>
      subst same
      refine both_mono (fares_outcome n (judge_beside stage depth q' beside)
        (framed_judge stage depth _ p label _) (framed_judge stage depth _ p label _)) ?_
      exact fun _ _ _ _ h sound' => .inl ((h sound').after before sound)
    | parted past sound good =>
      obtain ⟨flow, rfl⟩ := good
      refine both_mono (fares_outcome n (judge_parted stage depth flow past unreported (holds flow))
        (framed_judge stage depth _ p label _) (framed_judge stage depth _ p label _)) ?_
      exact fun _ _ _ _ h sound' => .inl ((h sound').after before sound)
    | excused h =>
      exact soundly_alone (judged advice q t) fun _ _ _ _ after =>
        .inl (.excused (excused_before h after))
  · exact fun _ => .inr waits

theorem carry_beside (beside : Beside b a) :
    Soundly (carry stage (innerAt stage depth) block advice p n)
      (carry stage (innerAt stage depth) block (Aspect.muted advice) p n) b a
      fun r t r' t' => Fares Held b r t r' t' ∨ (p.kind.waits = true ∧ a ≠ b.muted) := by
  have row : a.run.row = b.run.row := reads.row beside
  generalize hl : p.label b.run.row = label
  have framed : ∀ l : List (Interceptor Case), Framed
      (Act.outcome (Action.perform stage block p.kind) >>= fun r =>
        judge stage (innerAt stage depth) l p label r >>= fun c =>
          (pure ⟨c, n⟩ : Act σ Fault Outcome)) := fun l =>
    framed_bind (framed_action marks p.kind) fun r =>
      framed_bind (framed_judge stage depth l p label r) fun c => framed_conclude _
  have told : Along Sound b (b.emit stage (.started label)) :=
    along_emit (by simp [Sound, TraceEntry.mars])
  have started : Beside (b.emit stage (.started label)) (a.emit stage (.started label)) :=
    emit_beside beside _
  have acted := soundly_from (acted_beside stage depth marks hblock advice p n label started)
    (Frame.frame_emit a _) (framed _)
  have whole : Soundly (carry stage (innerAt stage depth) block advice p n)
      (carry stage (innerAt stage depth) block (Aspect.muted advice) p n) b a
      fun r t r' t' => Fares Held (b.emit stage (.started label)) r t r' t' ∨
        (p.kind.waits = true ∧
          a.emit stage (.started label) ≠ (b.emit stage (.started label)).muted) := by
    simp only [Soundly, carry, Both, ends_bind, ends_getRun, row, hl] at acted ⊢
    exact acted
  refine both_mono whole fun _ _ _ _ h sound => ?_
  rcases h sound with h | ⟨waits, differs⟩
  · exact .inl (h.after (Frame.frame_emit b _) told)
  · refine .inr ⟨waits, ?_⟩
    rintro rfl
    exact differs rfl

theorem executeStep_beside (b : State σ) :
    Soundly (executeStep stage (innerAt stage depth) block p)
      (executeStep stage (innerAt stage depth) block p) b b.muted (Fares Held b) := by
  simp only [Soundly, Both, executeStep_iff]
  have row : b.muted.run.row = b.run.row := rfl
  have consumed : Action.consumed b.muted.run p = Action.consumed b.run p := rfl
  have muted : b.muted.run.aspect.advice p b.run.row =
      Aspect.muted (b.run.aspect.advice p b.run.row) := b.run.aspect.advice_muted p b.run.row
  rw [row, consumed, muted]
  generalize b.run.aspect.advice p b.run.row = advice
  generalize Action.consumed b.run p = n
  split
  · exact fun _ => .together rfl .same (sound_same rfl)
  · have framed : ∀ (l : List (Interceptor Case)) (c : Bool), Framed
        (if c = true then carry stage (innerAt stage depth) block l p n else pure ⟨true, n⟩) := by
      intro l c
      cases c with
      | true => exact framed_carry stage depth marks l p n
      | false => exact framed_conclude _
    -- the advice before the step may already stop the run, or refuse the step because it is over
    have first : Soundly (adviseAll stage (innerAt stage depth) .before p advice)
        (adviseAll stage (innerAt stage depth) .before p (Aspect.muted advice)) b b.muted
        fun r t r' t' => Heard .before p b b.muted r t r' t' ∧ Frame b t :=
      both_mono (both_left (adviseAll_beside stage depth advice .before p .same)
        (framed_adviseAll stage depth advice .before p b)) fun _ _ _ _ h sound => ⟨h.1 sound, h.2⟩
    have whole := soundly_bind (Q := Fares Held b) first (framed_adviseAll stage depth _ .before p)
      (framed (Aspect.muted advice)) (f := fun c => if c = true then
        carry stage (innerAt stage depth) block advice p n else pure ⟨true, n⟩) ?_
    · exact whole
    rintro r t r' t' ⟨heard, before⟩
    cases heard with
    | refused past sound veto refusal =>
      subst veto
      refine soundly_alone (A := fun q u => q = .ok ⟨true, n⟩ ∧ u = t) ⟨rfl, rfl⟩ ?_
      rintro _ _ _ _ ⟨rfl, rfl⟩
      exact .parted past sound rfl
    | together same beside sound stopped =>
      subst same
      rcases r' with f | _ | _
      · exact fun _ => .together rfl beside sound
      · exact fun _ => .together rfl beside sound
      · refine both_mono (both_left (carry_beside stage depth marks hblock advice p n beside)
          (framed_carry stage depth marks advice p n t)) ?_
        rintro q u q' u' ⟨fares, after⟩ sound'
        rcases fares sound' with fares | ⟨waits, differs⟩
        · exact fares.after before sound
        · have stop := (stopped rfl).resolve_left differs
          have excused : Excused b t := along_mono stop fun l hl =>
            ⟨_, hl, by simp [TraceEntry.excuses, waits]⟩
          exact .excused (excused_before excused after)

end Carry

section Current
variable (stage depth) (marks : ∀ n, (marking σ).Judges (block n))
include marks

theorem framed_executeStep (p : Step) : Framed (executeStep stage (innerAt stage depth) block p) :=
  fun _ => ends_mono (Conduct.executeStep_ends marking_lawful
    (fun s _ => frame_innerAt stage depth s) marks p trivial) fun _ _ h => (onward_answers h).frame

theorem framed_executeCurrent : Framed (executeCurrent stage (innerAt stage depth) block) := by
  intro s
  rw [executeCurrent_iff]
  cases s.run.step? with
  | none => exact .refl s
  | some p =>
    have turned := Frame.frame_record s (.turned (s.run.cursor.current?.getD 0))
    dsimp only
    split
    · exact ends_mono (framed_executeStep stage depth marks p _) fun _ _ h => turned.trans h
    · exact turned

theorem executeCurrent_sound {s : State σ} (running : s.isStopped = false) :
    Ends (executeCurrent stage (innerAt stage depth) block) s fun r t =>
      Along Sound s t → Held r :=
  ends_mono (Conduct.executeCurrent_ends marking_lawful (fun s _ => frame_innerAt stage depth s)
    marks trivial running) fun _ _ h => sound_answers h

variable (hblock : ∀ n, Tracks (· = .ok true) (block n))
include hblock

theorem executeCurrent_beside (b : State σ) :
    Soundly (executeCurrent stage (innerAt stage depth) block)
      (executeCurrent stage (innerAt stage depth) block) b b.muted (Fares Held b) := by
  have step : b.muted.run.step? = b.run.step? := rfl
  have row : b.muted.run.row = b.run.row := rfl
  have case : b.muted.run.case = b.run.case := rfl
  have cursor : b.muted.run.cursor = b.run.cursor := rfl
  simp only [Soundly, Both, executeCurrent_iff, step, row, case, cursor]
  cases b.run.step? with
  | none => exact fun _ => .together rfl .same (sound_same rfl)
  | some p =>
    have turned : Along Sound b (b.record (.turned (b.run.cursor.current?.getD 0))) :=
      along_record (by simp [Sound, TraceEntry.mars])
    dsimp only
    split
    · refine both_mono (soundly_from (executeStep_beside stage depth marks hblock p
        (b.record (.turned (b.run.cursor.current?.getD 0)))) (Frame.frame_record b.muted _)
        (framed_executeStep stage depth marks p)) fun _ _ _ _ h sound => ?_
      exact (h sound).after (Frame.frame_record b _) turned
    · exact fun _ => .together rfl .same turned

end Current

section Standing
variable (s : State σ) (i : Int)

theorem frame_standing : Frame s (s.standing i) := ⟨.refl _, rfl, rfl, rfl, id, id⟩

theorem trace_standing : (s.standing i).world.trace = s.world.trace := rfl

theorem muted_standing : s.muted.standing i = (s.standing i).muted := rfl

theorem frame_muted : Frame s.muted (s.standing i).muted := frame_standing s.muted i

end Standing

section Walk
variable (stage depth) (origin last : Nat)

def proceed (stage : Stage σ) (inner : Inner σ) (block : Nat → Act σ Problem Bool)
    (origin last steps index : Nat) (success : Bool) : Except Fault Outcome → Act σ Problem Bool
  | .ok o => walk stage inner block origin last steps (index + o.consumed) (o.success && success)
  | .error f => do
    moveTo origin
    throw (.reported f)

theorem walk_zero (inner : Inner σ) (index : Nat) (success : Bool) (s : State σ)
    (Q : Except Problem Bool → State σ → Prop) :
    Ends (walk stage inner block origin last 0 index success) s Q ↔
      Q (.ok success) (s.standing ((origin : Int).bmod Text.word)) := by
  rw [walk, ends_bind, Conduct.moveTo_iff]
  rfl

theorem walk_iff (inner : Inner σ) (steps index : Nat) (success : Bool) (s : State σ)
    (Q : Except Problem Bool → State σ → Prop) :
    Ends (walk stage inner block origin last (steps + 1) index success) s Q ↔
      if last < index ∨ s.isStopped = true then
        Q (.ok success) (s.standing ((origin : Int).bmod Text.word))
      else Ends (Act.outcome (executeCurrent stage inner block) >>=
        proceed stage inner block origin last steps index success)
        (s.standing ((index : Int).bmod Text.word)) Q := by
  rw [walk, ends_bind, ends_isStopped]
  show Ends (if last < index ∨ s.isStopped = true then _ else _) s Q ↔ _
  split
  · rw [ends_bind, Conduct.moveTo_iff]
    rfl
  · rw [ends_bind, Conduct.moveTo_iff]
    rfl

theorem walk_stopped {s : State σ} (inner : Inner σ) (h : s.isStopped = true) (steps index : Nat) :
    Ends (walk stage inner block origin last steps index true) s fun r t =>
      r = .ok true ∧ t = s.standing ((origin : Int).bmod Text.word) := by
  cases steps with
  | zero =>
    rw [walk_zero]
    exact ⟨rfl, rfl⟩
  | succ steps =>
    rw [walk_iff, if_pos (.inr h)]
    exact ⟨rfl, rfl⟩

theorem framed_proceed {steps : Nat} (rest : ∀ index success,
      Framed (walk stage (innerAt stage depth) block origin last steps index success))
    (index : Nat) (success : Bool) (r : Except Fault Outcome) :
    Framed (proceed stage (innerAt stage depth) block origin last steps index success r) := by
  cases r with
  | error f => exact fun t => frame_standing t _
  | ok o => exact rest _ _

variable (marks : ∀ n, (marking σ).Judges (block n))
include marks

theorem framed_walk (steps index : Nat) (success : Bool) :
    Framed (walk stage (innerAt stage depth) block origin last steps index success) := by
  induction steps generalizing index success with
  | zero =>
    intro s
    rw [walk_zero]
    exact frame_standing s _
  | succ steps ih =>
    intro s
    rw [walk_iff]
    split
    · exact frame_standing s _
    · have whole := framed_bind
        (x := Act.outcome (executeCurrent stage (innerAt stage depth) block))
        (framed_executeCurrent stage depth marks)
        (framed_proceed stage depth origin last ih index success)
      exact ends_mono (whole (s.standing _)) fun _ _ h => (frame_standing s _).trans h

variable (hblock : ∀ n, Tracks (· = .ok true) (block n))
include hblock

theorem proceed_beside {steps : Nat} (index : Nat)
    (ih : ∀ index b a, Beside b a → Soundly
      (walk stage (innerAt stage depth) block origin last steps index true)
      (walk stage (innerAt stage depth) block origin last steps index true) b a
      (Fares (· = .ok true) b)) (b : State σ) (running : ¬ b.isStopped = true) :
    Soundly (Act.outcome (executeCurrent stage (innerAt stage depth) block) >>=
        proceed stage (innerAt stage depth) block origin last steps index true)
      (Act.outcome (executeCurrent stage (innerAt stage depth) block) >>=
        proceed stage (innerAt stage depth) block origin last steps index true) b b.muted
      (Fares (· = .ok true) b) := by
  rw [Bool.not_eq_true] at running
  have running' : b.muted.isStopped = false := running
  -- the step on the second side is sound, so it held; what follows goes by that
  have first : Soundly
      (Act.outcome (executeCurrent stage (innerAt stage depth) block) : Act σ Problem _)
      (Act.outcome (executeCurrent stage (innerAt stage depth) block) : Act σ Problem _) b b.muted
      fun r t r' t' => ∃ q q', r = .ok q ∧ r' = .ok q' ∧ Frame b t ∧ Fares Held b q t q' t' ∧
        Held q' := by
    have fares := executeCurrent_beside stage depth marks hblock b
    have frame := framed_executeCurrent stage depth marks b
    have holds := executeCurrent_sound stage depth marks running'
    exact fun sound => ⟨_, _, rfl, rfl, frame, fares sound, holds sound⟩
  have framed := framed_proceed stage depth origin last
    (framed_walk stage depth origin last marks steps) index true
  refine soundly_bind first (framed_executeCurrent stage depth marks) framed ?_
  rintro _ t _ t' ⟨q, q', rfl, rfl, before, fares, held⟩
  cases fares with
  | together same beside sound =>
    subst same
    rcases q' with f | ⟨_ | _, n⟩
    · cases held
    · cases held
    · exact both_mono (ih (index + n) t t' beside) fun _ _ _ _ h sound' =>
        (h sound').after before sound
  | parted past sound good =>
    rcases q with f | ⟨_ | _, n⟩
    · cases good
    · cases good
    · refine soundly_alone (walk_stopped stage origin last (innerAt stage depth)
        (isStopped_over past) steps (index + n)) ?_
      rintro _ _ _ _ ⟨rfl, rfl⟩
      exact .parted (over_frame (frame_standing t _) past)
        (sound_trans sound (sound_same (trace_standing t _))) rfl
  | excused h =>
    exact soundly_alone (framed_resume framed (.ok q) t) fun _ _ _ _ after =>
      .excused (excused_before h after)

theorem tracks_walk (steps index : Nat) :
    Tracks (· = .ok true)
      (walk stage (innerAt stage depth) block origin last steps index true) := by
  refine ⟨framed_walk stage depth origin last marks steps index true, ?_⟩
  induction steps generalizing index with
  | zero =>
    intro b a beside
    simp only [Soundly, Both, walk_zero]
    exact fun _ => .together rfl (stand_beside beside _) (sound_same (trace_standing b _))
  | succ steps ih =>
    intro b a beside
    by_cases stopped : b.isStopped = true
    · exact stopped_beside (State.standing · ((origin : Int).bmod Text.word))
        (fun s h => walk_stopped stage origin last (innerAt stage depth) h (steps + 1) index)
        (muted_standing b _) (over_frame (frame_standing b _)) (trace_standing b _) stopped beside
    · cases beside with
      | apart past _ _ _ => exact absurd (isStopped_over past) stopped
      | same =>
        have running : b.muted.isStopped ≠ true := stopped
        simp only [Soundly, Both, walk_iff, stopped, running]
        split
        · rw [muted_standing]
          exact fun _ => .together rfl .same (sound_same (trace_standing b _))
        · have running : ¬ (b.standing ((index : Int).bmod Text.word)).isStopped = true := by
            rw [State.isStopped_standing]
            exact stopped
          have whole := proceed_beside stage depth origin last marks hblock index ih _ running
          rw [muted_standing]
          refine both_mono (soundly_from whole (frame_muted b _) ?_) fun _ _ _ _ h sound => ?_
          · exact framed_bind (framed_executeCurrent stage depth marks) (framed_proceed stage depth
              origin last (framed_walk stage depth origin last marks steps) index true)
          · exact (h sound).after (frame_standing b _) (sound_same (trace_standing b _))

end Walk

end Step

section Blocks
variable (stage depth)

theorem turns_marking : (marking σ).Turns stage (innerAt stage depth) :=
  Conduct.turns marking_lawful fun s _ => frame_innerAt stage depth s

theorem tracks_blockAt (levels count : Nat) :
    Tracks (· = .ok true) (blockAt stage (innerAt stage depth) levels count) := by
  have mobile : (marking σ).Mobile stage := marking_lawful.toMobile
  induction levels generalizing count with
  | zero => exact tracks_pure true
  | succ levels ih =>
    have marks := Conduct.judges_blockAt mobile (turns_marking stage depth) levels
    refine tracks_getRun (fun r => ?_) ?_
    · cases r.cursor.current? with
      | none =>
        exact tracks_respects (Agrees.respects_trouble _) (Conduct.keeps_trouble quietly_order _)
      | some origin => exact tracks_walk stage depth origin _ marks ih _ _
    · rintro b _ (_ | _) <;> rfl

theorem tracks_block (count : Nat) :
    Tracks (· = .ok true) (block stage (innerAt stage depth) count) := by
  refine tracks_getRun (fun r => tracks_blockAt stage depth _ count) ?_
  rintro b _ (_ | _) <;> rfl

end Blocks

section Steps
variable {b a : State σ}

def pass (o : Outcome) : Act σ Fault Bool := do
  Act.modifyRun fun r => { r with cursor := r.cursor.forward (o.consumed - 1) }
  pure o.success

theorem pass_iff (o : Outcome) (s : State σ) (Q : Except Fault Bool → State σ → Prop) :
    Ends (pass o) s Q ↔
      Q (.ok o.success) (s.standing (s.run.cursor.forward (o.consumed - 1)).index) := Iff.rfl

theorem next_iff (inner : Inner σ) (s : State σ) (Q : Except Fault Bool → State σ → Prop) :
    Ends (next stage inner) s Q ↔
      Ends (executeCurrent stage inner (block stage inner) >>= pass)
        (s.standing s.run.cursor.startStep.index) Q := by
  rw [next, ends_bind, ends_modifyRun]
  rfl

theorem hasNext_iff {ε : Type} {s : State σ} (alive : ¬ Over s)
    (Q : Except ε Bool → State σ → Prop) :
    Ends (hasNext : Act σ ε Bool) s Q ↔ Q (.ok (s.run.cursor.needsRunning s.run.lastIndex)) s := by
  rw [Over, Bool.not_eq_true] at alive
  rw [hasNext, ends_bind, ends_get]
  simp only [alive, Bool.false_and, Bool.false_eq_true, if_false]
  rfl

theorem needed_running {s : State σ} (alive : ¬ Over s)
    (more : s.run.cursor.needsRunning s.run.lastIndex = true) : s.isStopped = false := by
  rw [Cursor.needsRunning, Bool.and_eq_true, Bool.not_eq_true'] at more
  rw [State.isStopped, more.1, Bool.false_or]
  exact Bool.not_eq_true _ |>.mp alive

theorem steps_iff (inner : Inner σ) {s : State σ} (alive : ¬ Over s) (left : Nat) (success : Bool)
    (Q : Except Fault Bool → State σ → Prop) :
    Ends (steps stage inner (left + 1) success) s Q ↔
      if s.run.cursor.needsRunning s.run.lastIndex then
        Ends (next stage inner >>= fun r => steps stage inner left (r && success)) s Q
      else Q (.ok success) s := by
  rw [steps, ends_bind, hasNext_iff alive]
  dsimp only
  split <;> rfl

variable (stage depth)

theorem framed_pass (o : Outcome) : Framed (pass o : Act σ Fault Bool) :=
  fun s => frame_standing s _

theorem framed_next : Framed (next stage (innerAt stage depth)) := by
  have marks := Conduct.judges_block marking_lawful.toMobile (turns_marking stage depth)
  intro s
  rw [next_iff]
  exact ends_mono (framed_bind (framed_executeCurrent stage depth marks) framed_pass _)
    fun _ _ h => (frame_standing s _).trans h

theorem framed_steps (left : Nat) (success : Bool) :
    Framed (steps stage (innerAt stage depth) left success) := fun s =>
  ends_mono (Conduct.steps_ends (ceasing_advised 1).toMobile (turns_ceasing stage depth) trivial
    left success (answers_rests (rests_same (.refl s) rfl))) fun _ _ h => (rests_answers h).frame

theorem next_beside (b : State σ) :
    Soundly (next stage (innerAt stage depth)) (next stage (innerAt stage depth)) b b.muted
      (Fares (· = .ok true) b) := by
  have marks := Conduct.judges_block marking_lawful.toMobile (turns_marking stage depth)
  have framed := framed_executeCurrent stage depth marks
  have cursor : b.muted.run.cursor = b.run.cursor := rfl
  simp only [Soundly, Both, next_iff, cursor]
  generalize b.run.cursor.startStep.index = place
  have first :=
    executeCurrent_beside stage depth marks (tracks_block stage depth) (b.standing place)
  have whole : Soundly
      (executeCurrent stage (innerAt stage depth) (block stage (innerAt stage depth))
      >>= pass) (executeCurrent stage (innerAt stage depth) (block stage (innerAt stage depth))
      >>= pass) (b.standing place) (b.standing place).muted
      (Fares (· = .ok true) (b.standing place)) := by
    refine fares_bind (A := fun _ => True)
      (both_mono first fun _ _ _ _ h sound => ⟨h sound, trivial⟩)
      framed framed framed_pass framed_pass ?_ ?_
    · rintro (f | o) t t' - beside
      · exact fun _ => .together rfl beside (sound_same rfl)
      · have place : (t'.run.cursor.forward (o.consumed - 1)).index =
            (t.run.cursor.forward (o.consumed - 1)).index := by
          cases beside <;> rfl
        have passes : Soundly (pass o) (pass o) t t' (Fares (· = .ok true) t) := by
          simp only [Soundly, Both, pass_iff, place]
          exact fun _ => .together rfl (stand_beside beside _) (sound_same (trace_standing t _))
        exact passes
    · rintro (f | ⟨_ | _, n⟩) t held past
      · cases held
      · cases held
      · exact ⟨over_frame (frame_standing t _) past, sound_same (trace_standing t _), rfl⟩
  exact both_mono (soundly_from whole (frame_muted b place) (framed_bind framed framed_pass))
    fun _ _ _ _ h sound => (h sound).after (frame_standing b place) (sound_same rfl)

/-- The steps of a run fare well beside themselves. -/
theorem steps_beside (left : Nat) {b a : State σ} (beside : Beside b a) :
    Soundly (steps stage (innerAt stage depth) left true)
      (steps stage (innerAt stage depth) left true) b a (Fares (· = .ok true) b) := by
  induction left generalizing b a with
  | zero => exact fun _ => .together rfl beside (sound_same rfl)
  | succ left ih =>
    have leaves : ∀ (t : State σ), Over t → Ends (steps stage (innerAt stage depth) left true) t
        fun q u => Over u ∧ Along Sound t u ∧ q = .ok true := fun t past =>
      ends_mono (steps_over past left true) fun _ _ ⟨answer, world, past⟩ =>
        ⟨past, sound_same (congrArg World.trace world), answer⟩
    by_cases past : Over b
    · refine soundly_alone (steps_over past (left + 1) true) ?_
      rintro _ _ _ _ ⟨rfl, world, past⟩
      exact .parted past (sound_same (congrArg World.trace world)) rfl
    · cases beside with
      | apart ended _ _ _ => exact absurd ended past
      | same =>
        have alive : ¬ Over b.muted := past
        have cursor : b.muted.run.cursor = b.run.cursor := rfl
        have last : b.muted.run.lastIndex = b.run.lastIndex := rfl
        simp only [Soundly, Both, steps_iff _ past, steps_iff _ alive, cursor, last]
        split
        · rename_i more
          have running : b.muted.isStopped = false := needed_running past more
          have answers := Conduct.next_ends marking_lawful.toMobile (turns_marking stage depth)
            trivial running
          have first : Soundly (next stage (innerAt stage depth)) (next stage (innerAt stage depth))
              b b.muted fun r t r' t' => Fares (· = .ok true) b r t r' t' ∧ r' = .ok true := by
            refine both_mono (both_right (next_beside stage depth b) answers) ?_
            rintro _ _ _ _ ⟨fares, answer⟩ sound
            exact ⟨fares sound, sound_answers answer sound⟩
          refine fares_bind first (framed_next stage depth) (framed_next stage depth)
            (fun _ => framed_steps stage depth left _) (fun _ => framed_steps stage depth left _) ?_ ?_
          · rintro _ t t' rfl beside
            exact ih beside
          · rintro _ t rfl past
            exact leaves t past
        · exact fun _ => .together rfl .same (sound_same rfl)

end Steps

section Finish
variable {s t v : State σ}

theorem sound_closes {l : List TraceEntry} (h : Closes l) : Sound l := by
  obtain ⟨l, rfl, closes⟩ := h
  intro e he
  rcases List.mem_append.1 he with he | he
  · rcases closes e he with rfl | ⟨d, rfl⟩ <;> rfl
  · rw [List.mem_singleton.1 he]
    rfl

theorem endRun_unaborted (b : Bool) (t : State σ) :
    Ends (endRun stage (chain stage (innerAt stage depth)) b) t
      fun _ v => v.run.aborted = t.run.aborted := by
  rw [Course.endRun_iff]
  split
  · refine ends_mono ((Course.innerAt_ends (Plain.course_lawful Frame.lawful) (depth + 1)).2 _
      trivial) fun r u hu => ?_
    have same : u.run.aborted = t.run.aborted := by
      rw [hu.1]
      rfl
    cases r with
    | error f => exact same
    | ok c =>
      rw [State.ended_run]
      exact same
  · rw [State.ended_run]
    rfl

/-- The run was stopped by a hook on one of its steps. -/
def Stopped (s t : State σ) : Prop := Along (fun l => ∃ k p, .stopped s.run.signal k p ∈ l) s t

def ending (stage : Stage σ) (inner : Inner σ) : Except Fault Bool → Act σ Fault Bool
  | .ok b => endRun stage (chain stage inner) b
  | .error f => halt stage f

theorem finishWith_iff (inner : Inner σ) (s : State σ) (Q : Except Fault Bool → State σ → Prop) :
    Ends (finishWith stage inner) s Q ↔
      Ends (steps stage inner (s.run.case.steps.length + 1) true) (s.begun stage) fun r t =>
        Ends (ending stage inner r) t Q := by
  rw [Course.finishWith_iff]
  refine iff_of_eq (congrArg (Ends _ _) (funext fun r => funext fun t => ?_))
  cases r <;> rfl

theorem ending_unstopped (stage : Stage σ) (depth : Nat) (r : Except Fault Bool) (t : State σ) :
    Ends (ending stage (innerAt stage depth) r) t fun _ v =>
      Frame t v ∧ Along (fun l => ∀ k p, .stopped t.run.signal k p ∉ l) t v := by
  have below : ∀ l, Deep (t.run.signal.ancestors.length + 1) l →
      ∀ k p, .stopped t.run.signal k p ∉ l := fun l deep k p stopped =>
    absurd (deep _ k p stopped) (Nat.not_succ_le_self _)
  cases r with
  | ok b =>
    refine ends_mono (ends_and (Frame.frame_endRun stage depth t b) (endRun_within stage depth t b)) ?_
    exact fun _ _ ⟨frame, deep⟩ => ⟨frame, along_mono deep below⟩
  | error f =>
    have closes : Ends (halt stage f) t fun _ v => Along Closes t v := halt_closes f t
    refine ends_mono (ends_and (Frame.frame_halt f t) closes) ?_
    exact fun _ _ ⟨frame, closes⟩ => ⟨frame, along_mono closes fun l h => below l (deep_closes h)⟩

theorem over_of_stopped {n : Nat} (rests : Rests n (s.begun stage) t)
    (after : Frame t v ∧ Along (fun l => ∀ k p, .stopped t.run.signal k p ∉ l) t v)
    (h : Stopped s v) : Over t := by
  obtain ⟨l, hl, k, p, stopped⟩ := h
  obtain ⟨_, hbegun, _, _, _, rfl⟩ : Along (fun l => ∃ n p x, l = [.event (.opened n p x)]) s
    (s.begun stage) := opened_begun s
  obtain ⟨steps, hsteps, heeds⟩ := rests.heeds
  obtain ⟨last, hlast, unstopped⟩ := after.2
  rw [hlast, hsteps, hbegun] at hl
  simp only [← List.append_assoc] at hl
  rw [← List.append_cancel_right hl, List.mem_append, List.mem_append] at stopped
  rcases stopped with (stopped | stopped) | stopped
  · rw [rests.frame.signal] at unstopped
    exact absurd stopped (unstopped k p)
  · obtain ⟨later, earlier, split⟩ := List.append_of_mem stopped
    exact (heeds later k p earlier split).1
  · simp at stopped

/-- After a stop in steps that are sound where it is left out, a run ends without success and
with no failure on record, unless the stop was taken for one. -/
theorem finishWith_beside (stage : Stage σ) (depth : Nat) (s : State σ) :
    Both (finishWith stage (innerAt stage depth))
      (steps stage (innerAt stage depth) (s.run.case.steps.length + 1) true) s
      (s.muted.begun stage) fun r v _ t' => Along Sound (s.muted.begun stage) t' → Stopped s v →
        Excused s v ∨ (r = .ok false ∧ Along Sound s v ∧ v.run.aborted = s.run.aborted) := by
  have mobile : (marking σ).Mobile stage := marking_lawful.toMobile
  rw [State.muted_begun, Both, finishWith_iff]
  generalize s.run.case.steps.length + 1 = left
  have answers : ∀ s : State σ, Ends (steps stage (innerAt stage depth) left true) s
      ((marking σ).answers s) := fun s =>
    Conduct.steps_ends mobile (turns_marking stage depth) trivial left true (.refl s)
  have both := both_right (both_left (both_left (steps_beside stage depth left .same)
    (answers (s.begun stage))) (steps_rests stage depth left (s.begun stage)))
    (answers (s.begun stage).muted)
  -- the steps of both sides come before the end of the stopped one
  have whole : Both (steps stage (innerAt stage depth) left true)
      (steps stage (innerAt stage depth) left true) (s.begun stage) (s.begun stage).muted
      fun r t _ t' => Ends (ending stage (innerAt stage depth) r) t fun q v =>
        Along Sound (s.begun stage).muted t' → Stopped s v →
          Excused s v ∨ (q = .ok false ∧ Along Sound s v ∧ v.run.aborted = s.run.aborted) := by
    refine both_mono both ?_
    rintro r t r' t' ⟨⟨⟨fares, answer⟩, rests⟩, answer'⟩
    have after := ending_unstopped stage depth r t
    by_cases sound : Along Sound (s.begun stage).muted t'
    · have held : Excused (s.begun stage) t ∨ r = .ok true ∧ Along Sound (s.begun stage) t := by
        cases fares sound with
        | together same _ sound' => exact .inr ⟨same ▸ sound_answers answer' sound, sound'⟩
        | parted _ sound' holds => exact .inr ⟨holds, sound'⟩
        | excused h => exact .inl h
      rcases held with excused | ⟨rfl, sound'⟩
      · refine ends_mono after ?_
        rintro _ _ ⟨frame, _⟩ _ _
        exact .inl (excused_after (Frame.frame_begun s) (excused_before excused frame))
      · by_cases past : Over t
        · refine ends_mono (ends_and (endRun_over past true) (endRun_unaborted true t)) ?_
          rintro q v ⟨⟨failed, closes⟩, unaborted⟩ _ _
          have opened : Along Sound s (s.begun stage) := along_mono (opened_begun s) (by
            rintro _ ⟨n, x, y, rfl⟩
            simp [Sound, TraceEntry.mars])
          exact .inr ⟨failed, sound_trans opened (sound_trans sound'
            (along_mono closes fun _ => sound_closes)),
            unaborted.trans (onward_answers answer).kept.aborted⟩
        · exact ends_mono after fun _ _ after _ stopped =>
            absurd (over_of_stopped rests after stopped) past
    · exact ends_mono after fun _ _ _ sound' => absurd sound' sound
  exact whole

end Finish

/-- A stop is no failure. Where a hook on a step of a run stops it, and the steps of the
same run under hooks that do not stop it leave no failure on record, the run ends without
success and its listeners are told of no failure and no error; nor is it aborted. The
stop must not have been taken for a failure: by a case that advises after a step, which
refuses when its own run is stopped, or by a step that waits and gives up. -/
theorem stop_unblamed (stage : Stage σ) (depth : Nat) (s : State σ) (k : AdviceKind) (p : Step) :
    let e := (finishWith stage (innerAt stage depth)).exec s
    let unstopped := (steps stage (innerAt stage depth) (s.run.case.steps.length + 1) true).exec
      (s.muted.begun stage)
    .stopped s.run.signal k p ∈ World.since s.world e.2.world →
    (∀ entry ∈ World.since (s.muted.begun stage).world unstopped.2.world, entry.mars = false) →
    (∀ entry ∈ World.since s.world e.2.world, entry.excuses s.run.signal = false) →
    e.1 = .ok false ∧ (∀ entry ∈ World.since s.world e.2.world, entry.mars = false) ∧
      e.2.run.aborted = s.run.aborted := by
  intro e unstopped stop sound unexcused
  have before : Frame (s.muted.begun stage) unstopped.2 := framed_steps stage depth _ true _
  have whole : Frame s e.2 := (finishWith_heeds stage depth s).1.frame
  have stopped : Stopped s e.2 := Frame.along_of_since whole ⟨k, p, stop⟩
  rcases finishWith_beside stage depth s (Frame.along_of_since before sound) stopped with
    excused | ⟨failed, quiet, kept⟩
  · obtain ⟨entry, recorded, excuses⟩ := along_since excused
    rw [unexcused entry recorded] at excuses
    cases excuses
  · exact ⟨failed, along_since quiet, kept⟩

section Example
open Brackets

/-- A hook stops the run before its only step, which still succeeds. -/
theorem stopped_greeting_unblamed :
    let e := (finishWith bare (innerAt bare 1)).exec (firstState (greeting (some stopping) none))
    e.1 = .ok false ∧
      (∀ entry ∈ World.since (firstState (greeting (some stopping) none)).world e.2.world,
        entry.mars = false) ∧
      e.2.run.aborted = false :=
  stop_unblamed bare 1 (firstState (greeting (some stopping) none)) .before
    { kind := .echo, texts := [("text", "hi")] } (by decide +kernel) (by decide +kernel)
    (by decide +kernel)

def farewell : Case where
  script := { name := "farewell" }
  steps := [{ kind := .echo, texts := [("text", "bye")] }]

def advisedGreeting (before : Hook) : Case :=
  { greeting (some before) none with
    aspect := [.script (some .any) none (some farewell) none false,
      .hooks .any (some before) none none false] }

/-- A hook stops the run before its only step. The case that advises after the step is over
before it begins and refuses it: the listeners are told that the step failed, and the run
is aborted. No step or hook fails when the hook leaves the run alone. -/
theorem stopped_step_blamed :
    let s := firstState (advisedGreeting stopping)
    let e := (finishWith bare (innerAt bare 2)).exec s
    let unstopped := (finishWith bare (innerAt bare 2)).exec s.muted
    unstopped.1.toOption = some true ∧
    (∀ entry ∈ World.since s.muted.world unstopped.2.world, entry.mars = false) ∧
    .stopped s.run.signal .before { kind := .echo, texts := [("text", "hi")] } ∈
      World.since s.world e.2.world ∧
    .event (.failure "echo text:hi failed") ∈ World.since s.world e.2.world ∧
    e.2.run.aborted = true := by
  decide +kernel

end Example

end Scenario.Blame
