import Scenario.Proofs.FailureEntries
import Scenario.Proofs.StepReads
import Scenario.Proofs.StoppedRuns

/-!
# A stopped step beside the same step

A run that its hooks stop is set beside the same run with hooks that answer
alike and never stop it. Both do the same until the stop. From then on the
stopped run does what is left of its step, and this succeeds wherever it does in
the other run. There are two exceptions: a case that advises after the step is
over before it begins and so refuses the step, and a step that waits gives up.
-/

set_option autoImplicit false

namespace Scenario
open Scenario.Act Scenario.Execution

variable {σ : Type} {stage : Stage σ} {depth : Nat}

namespace TraceEntry

/-- Where a stop of the run with this signal passes for a failure. -/
def excuses (g : Signal) : TraceEntry → Bool
  | .advised false .after false => true
  | .stopped h .before p => decide (h = g) && p.kind.waits
  | _ => false

end TraceEntry

/-- A hook that answers alike and never stops a run. -/
def Hook.muted (h : Hook) : Hook := fun call => { h call with stop := false }

namespace Interceptor
variable {C : Type}

def muted : Interceptor C → Interceptor C
  | .script p before after failure t => .script p before after failure t
  | .hooks p before after failure t =>
    .hooks p (before.map Hook.muted) (after.map Hook.muted) (failure.map Hook.muted) t

theorem selects_muted (i : Interceptor C) (p : Step) (row : Row) :
    i.muted.selects p row = i.selects p row := by
  cases i <;> rfl

theorem freeze_muted (row : Row) (i : Interceptor C) :
    (i.freeze row).muted = i.muted.freeze row := by
  cases i <;> rfl

end Interceptor

namespace Aspect

def muted (a : Aspect) : Aspect := a.map Interceptor.muted

theorem advice_muted (a : Aspect) (p : Step) (row : Row) :
    a.muted.advice p row = Aspect.muted (a.advice p row) := by
  simp only [muted, advice, List.filter_map]
  congr 2
  funext i
  exact i.selects_muted p row

theorem freeze_muted (row : Row) (a : Aspect) :
    Aspect.muted (freeze row a) = freeze row a.muted := by
  simp only [muted, freeze, List.map_map]
  congr 1
  funext i
  exact i.freeze_muted row

end Aspect

namespace State

/-- The state of a run whose hooks do not stop it. -/
def muted (s : State σ) : State σ := { s with run := { s.run with aspect := s.run.aspect.muted } }

/-- The same run where it was not stopped, after another history of stops. -/
def astray (s : State σ) (stopped : Bool) (signals : Signals) (trace : List TraceEntry) :
    State σ where
  world := { s.world with signals, trace }
  run := { s.muted.run with cursor := { s.run.cursor with stopped } }

theorem muted_begun (stage : Stage σ) (s : State σ) :
    s.muted.begun stage = (s.begun stage).muted := by
  simp only [begun, prepared, muted, emit, ← Aspect.freeze_muted]

end State

namespace Blame
open State Ceasing Marks

/-- A run beside the one whose hooks do not stop it: the same so far, or over and the
same but for what the stop itself has changed. -/
inductive Beside (b : State σ) : State σ → Prop
  | same : Beside b b.muted
  | apart (past : Over b) (stopped : Bool) (signals : Signals) (trace : List TraceEntry) :
      Beside b (b.astray stopped signals trace)

section Beside

theorem reads : Agrees (Beside : State σ → State σ → Prop) where
  row := by
    rintro _ _ (_ | _) <;> rfl
  step := by
    rintro _ _ (_ | _) <;> rfl
  remaining := by
    rintro _ _ (_ | _) <;> rfl
  assigned := by
    rintro b _ row (_ | ⟨past, stopped, signals, trace⟩)
    · exact .same
    · exact .apart (b := { b with run := { b.run with row } }) past stopped signals trace

/-- What is done to both worlds and looks at neither the stops nor the history. -/
theorem beside_world {b a : State σ} (f : World σ → World σ)
    (kept : Over b → Over { b with world := f b.world })
    (blind : ∀ (w : World σ) signals trace, ∃ signals' trace',
      f { w with signals, trace } = { f w with signals := signals', trace := trace' })
    (h : Beside b a) :
    Beside { b with world := f b.world } { a with world := f a.world } := by
  obtain _ | ⟨past, stopped, signals, trace⟩ := h
  · exact .same
  · obtain ⟨signals', trace', same⟩ := blind b.world signals trace
    have beside := Beside.apart (kept past) stopped signals' trace'
    rw [State.astray, ← same] at beside
    exact beside

theorem record_beside {b a : State σ} (h : Beside b a) (e : TraceEntry) :
    Beside (b.record e) (a.record e) :=
  beside_world (fun w => w.record e) (fun past => past)
    (fun _ signals trace => ⟨signals, e :: trace, rfl⟩) h

theorem emit_beside {b a : State σ} (h : Beside b a) (e : Event) :
    Beside (b.emit stage e) (a.emit stage e) := by
  refine beside_world (fun w => w.emit stage e) (over_frame (Frame.frame_emit b e)) ?_ h
  intro w signals trace
  have told : ∀ w : World σ, ∃ signals trace, w.emit stage e = { w with signals, trace } := by
    intro w
    simp only [World.emit]
    split
    · split
      · exact ⟨_, _, rfl⟩
      · exact ⟨_, _, rfl⟩
    · exact ⟨_, _, rfl⟩
  obtain ⟨_, _, left⟩ := told w
  obtain ⟨signals', trace', right⟩ := told { w with signals, trace }
  exact ⟨signals', trace', by rw [left, right]⟩

theorem hookCalled_beside {b a : State σ} (h : Beside b a) (note : Option String) :
    Beside { b with world := b.world.hookCalled note }
      { a with world := a.world.hookCalled note } := by
  refine beside_world (fun w => w.hookCalled note) ?_ ?_ h
  · exact over_frame (frame_world b (World.grows_hookCalled b.world note))
  · intro w signals trace
    cases note with
    | none => exact ⟨signals, trace, rfl⟩
    | some n => exact ⟨signals, .note n :: trace, rfl⟩

theorem stand_beside {b a : State σ} (h : Beside b a) (i : Int) :
    Beside (b.standing i) (a.standing i) := by
  obtain _ | ⟨past, stopped, signals, trace⟩ := h
  · exact .same
  · exact .apart (b := b.standing i) past stopped signals trace

theorem stop_beside {b a : State σ} (h : Beside b a) (k : AdviceKind) (p : Step) :
    Beside ⟨(b.world.stop b.run.signal).record (.stopped b.run.signal k p),
      { b.run with cursor := b.run.cursor.stop }⟩ a := by
  have past : Over (⟨(b.world.stop b.run.signal).record (.stopped b.run.signal k p),
      { b.run with cursor := b.run.cursor.stop }⟩ : State σ) :=
    isStopped_stop_self b.world b.run.signal
  obtain _ | ⟨_, stopped, signals, trace⟩ := h
  · exact .apart past b.run.cursor.stopped b.world.signals b.world.trace
  · exact .apart past stopped signals trace

theorem driver_blind (stage : Stage σ) (w : World σ) (k : Session) (signals : Signals)
    (trace : List TraceEntry) :
    ∃ trace', ({ w with signals, trace } : World σ).driver stage k =
      ((w.driver stage k).1, { (w.driver stage k).2 with signals, trace := trace' }) := by
  simp only [World.driver, World.driver?, World.record]
  cases (w.slots[k.slot]?).bind id with
  | some d => exact ⟨trace, rfl⟩
  | none =>
    rcases stage.browsers.launch stage.driverConfig w.browser with ⟨_ | _, _⟩
    · exact ⟨.launch stage.driverConfig :: trace, rfl⟩
    · exact ⟨.launch stage.driverConfig :: trace, rfl⟩

theorem driver_beside {b a : State σ} (h : Beside b a) :
    (a.world.driver stage a.run.session).1 = (b.world.driver stage b.run.session).1 ∧
      Beside { b with world := (b.world.driver stage b.run.session).2 }
        { a with world := (a.world.driver stage a.run.session).2 } := by
  have session : a.run.session = b.run.session := by
    obtain _ | _ := h <;> rfl
  rw [session]
  constructor
  · obtain _ | ⟨past, stopped, signals, trace⟩ := h
    · rfl
    · obtain ⟨_, same⟩ := driver_blind stage b.world b.run.session signals trace
      have answer := congrArg Prod.fst same
      exact answer
  · refine beside_world (fun w => (w.driver stage b.run.session).2) ?_ ?_ h
    · exact over_frame (Frame.frame_move .driver)
    · intro w signals trace
      obtain ⟨trace', same⟩ := driver_blind stage w b.run.session signals trace
      exact ⟨signals, trace', congrArg Prod.snd same⟩

theorem blind : Blind stage (Beside : State σ → State σ → Prop) where
  toAgrees := reads
  driver := driver_beside
  performed := by
    intro b a d c h
    constructor
    · obtain _ | _ := h <;> rfl
    · refine beside_world (fun w => (w.perform stage d c).2) (fun past => past) ?_ h
      exact fun _ signals trace => ⟨signals, .command d c :: trace, rfl⟩
  elapsed := fun ms h => beside_world (fun w => w.elapse stage ms) (fun past => past)
    (fun _ signals trace => ⟨signals, trace, rfl⟩) h

end Beside

structure Quiet (s t : State σ) : Prop where
  onward : Onward s t
  silent : Along Silent s t

section Quiet
variable {s t u : State σ}

theorem quiet_trans (h : Quiet s t) (h' : Quiet t u) : Quiet s u :=
  ⟨h.onward.trans h'.onward, along_trans silently h.silent h'.silent⟩

theorem quiet_move (h : Move stage s t) : Quiet s t := ⟨onward_move h, along_move silently h⟩

theorem Quiet.sound (h : Quiet s t) : Along Sound s t :=
  along_mono h.silent fun _ => sound_additive.silent

def quietly (σ : Type) : Conduct σ where
  ready := fun _ => True
  able := fun _ => True
  goes := Quiet
  fails := Quiet
  raises := fun _ => Quiet
  rejects := fun _ => Quiet
  spoils := fun _ => Quiet
  whole := fun _ _ _ => True

theorem quietly_order : (quietly σ).Order where
  refl := fun _ => ⟨.refl _, along_same silently rfl⟩
  trans := quiet_trans
  overlook := id
  goes_fails := quiet_trans
  fails_goes := quiet_trans
  goes_raises := quiet_trans
  goes_rejects := quiet_trans
  goes_spoils := quiet_trans
  ready := fun _ _ => trivial

theorem quietly_mobile : (quietly σ).Mobile stage where
  toOrder := quietly_order
  move := fun _ h => quiet_move h
  raises_standing := fun i _ h => quiet_trans h (quiet_move (.stand i : Move stage _ _))

end Quiet

section Soundly
variable {ε α β ε' α' β' : Type} {s t u a b a' : State σ}

def Soundly (x : Act σ ε α) (x' : Act σ ε' α') (b a : State σ)
    (P : Except ε α → State σ → Except ε' α' → State σ → Prop) : Prop :=
  Both x x' b a fun r t r' t' => Along Sound a t' → P r t r' t'

def Framed (x : Act σ ε α) : Prop := ∀ s, Ends x s fun _ t => Frame s t

theorem soundly_alone {x : Act σ ε α} {x' : Act σ ε' α'} {A : Except ε α → State σ → Prop}
    {P : Except ε α → State σ → Except ε' α' → State σ → Prop} (h : Ends x b A)
    (hp : ∀ r t r' t', A r t → P r t r' t') : Soundly x x' b a P := by
  have both : Both x x' b a fun r t _ _ => A r t := h
  exact both_mono both fun r t r' t' answered _ => hp r t r' t' answered

theorem framed_conclude (r : Except ε α) : Framed (conclude r : Act σ ε α) := fun s => .refl s

theorem framed_resume {f : α → Act σ ε β} (hf : ∀ x, Framed (f x)) (r : Except ε α) :
    Framed (resume f r) := by
  cases r with
  | ok x => exact hf x
  | error e => exact framed_conclude _

theorem framed_bind {x : Act σ ε α} {f : α → Act σ ε β} (hx : Framed x) (hf : ∀ y, Framed (f y)) :
    Framed (x >>= f) := by
  intro s
  rw [ends_resume]
  exact ends_mono (hx s) fun r t ht => ends_mono (framed_resume hf r t) fun _ _ hu => ht.trans hu

theorem soundly_from {x : Act σ ε α} {x' : Act σ ε' α'} {t t' : State σ}
    {P : Except ε α → State σ → Except ε' α' → State σ → Prop} (h : Soundly x x' t t' P)
    (before : Frame a t') (hx : Framed x') :
    Both x x' t t' fun r u r' u' => Along Sound a u' → P r u r' u' :=
  both_mono (both_right h (hx t')) fun _ _ _ _ ⟨h, after⟩ sound =>
    h (sound_parts before after sound).2

theorem soundly_bind {x : Act σ ε α} {x' : Act σ ε' α'} {f : α → Act σ ε β}
    {f' : α' → Act σ ε' β'} {P : Except ε α → State σ → Except ε' α' → State σ → Prop}
    {Q : Except ε β → State σ → Except ε' β' → State σ → Prop} (first : Soundly x x' b a P)
    (hx : Framed x') (hf : ∀ y, Framed (f' y))
    (next : ∀ r t r' t', P r t r' t' → Soundly (resume f r) (resume f' r') t t' Q) :
    Soundly (x >>= f) (x' >>= f') b a Q := by
  refine both_bind (both_right first (hx a)) fun r t r' t' ⟨answered, before⟩ => ?_
  by_cases sound : Along Sound a t'
  · exact soundly_from (next r t r' t' (answered sound)) before (framed_resume hf r')
  · have after : Both (resume f r) (resume f' r') t t' fun _ _ _ u' => Frame t' u' :=
      framed_resume hf r' t'
    exact both_mono after fun _ _ _ _ after whole => absurd (sound_parts before after whole).1 sound

end Soundly

/-- A stop of the run was taken for a failure. -/
def Excused (s t : State σ) : Prop := Along (fun l => ∃ e ∈ l, e.excuses s.run.signal = true) s t

section Excused
variable {s t u : State σ}

theorem excused_after (h : Frame s t) (h' : Excused t u) : Excused s u := by
  obtain ⟨l, hl⟩ := h.world.trace
  obtain ⟨l', hl', e, he, excuses⟩ := h'
  rw [h.signal] at excuses
  exact ⟨l' ++ l, by rw [hl', ← hl, List.append_assoc], e, by simp [he], excuses⟩

theorem excused_before (h : Excused s t) (h' : Frame t u) : Excused s u := by
  obtain ⟨l, hl, e, he, excuses⟩ := h
  obtain ⟨l', hl'⟩ := h'.world.trace
  exact ⟨l' ++ l, by rw [← hl', hl, List.append_assoc], e, by simp [he], excuses⟩

end Excused

/-- How a part of a run fares beside one that is sound: both do the same, or the run is
over and the part holds all the same, or the stop was taken for a failure. -/
inductive Fares {ε α : Type} (good : Except ε α → Prop) (b : State σ) (r : Except ε α)
    (t : State σ) (r' : Except ε α) (t' : State σ) : Prop
  | together (same : r' = r) (beside : Beside t t') (sound : Along Sound b t)
  | parted (past : Over t) (sound : Along Sound b t) (holds : good r)
  | excused (h : Excused b t)

section Fares
variable {ε α β : Type} {a b t t' u u' : State σ} {good : Except ε α → Prop}
  {G : Except ε β → Prop} {r r' : Except ε α}

theorem Fares.after (h : Fares good t r u r' u') (before : Frame b t) (sound : Along Sound b t) :
    Fares good b r u r' u' := by
  cases h with
  | together same beside sound' => exact .together same beside (sound_trans sound sound')
  | parted past sound' holds => exact .parted past (sound_trans sound sound') holds
  | excused h => exact .excused (excused_after before h)

theorem fares_bind {x x' : Act σ ε α} {f f' : α → Act σ ε β} {A : Except ε α → Prop}
    (first : Soundly x x' b a fun r t r' t' => Fares good b r t r' t' ∧ A r')
    (hx : Framed x) (hx' : Framed x') (hf : ∀ y, Framed (f y)) (hf' : ∀ y, Framed (f' y))
    (goesOn : ∀ r t t', A r → Beside t t' →
      Soundly (resume f r) (resume f' r) t t' (Fares G t))
    (leaves : ∀ r t, good r → Over t →
      Ends (resume f r) t fun q u => Over u ∧ Along Sound t u ∧ G q) :
    Soundly (x >>= f) (x' >>= f') b a (Fares G b) := by
  have framed : Soundly x x' b a fun r t r' t' => (Fares good b r t r' t' ∧ A r') ∧ Frame b t :=
    both_mono (both_left first (hx b)) fun _ _ _ _ h sound => ⟨h.1 sound, h.2⟩
  refine soundly_bind framed hx' hf' fun r t r' t' ⟨⟨fares, answer⟩, before⟩ => ?_
  cases fares with
  | together same beside sound =>
    subst same
    exact both_mono (goesOn _ t t' answer beside) fun _ _ _ _ h sound' =>
      (h sound').after before sound
  | parted past sound holds =>
    exact soundly_alone (leaves r t holds past) fun _ _ _ _ ⟨past, sound', holds⟩ =>
      .parted past (sound_trans sound sound') holds
  | excused h =>
    exact soundly_alone (framed_resume hf r t) fun _ _ _ _ after =>
      .excused (excused_before h after)

end Fares

section Advice
variable {k : AdviceKind} {p : Step} {b a : State σ}

theorem callHook_beside (h : Hook) (k : AdviceKind) (p : Step) (beside : Beside b a) :
    Both (callHook h k p) (callHook h.muted k p) b a fun r t r' t' => r' = r ∧ Beside t t' ∧
      (a = b.muted → t' = t.muted ∨ Along (.stopped b.run.signal k p ∈ ·) b t) := by
  have call : (⟨a.run.name, k, p, a.run.row, a.world.hookCalls⟩ : HookCall) =
      ⟨b.run.name, k, p, b.run.row, b.world.hookCalls⟩ := by
    obtain _ | _ := beside <;> rfl
  simp only [Both, callHook, Hook.muted, ends_bind, ends_get, ends_modifyWorld, ends_modifyRun,
    Bool.false_eq_true, if_false, ends_conclude, call]
  generalize h ⟨b.run.name, k, p, b.run.row, b.world.hookCalls⟩ = answer
  have called := hookCalled_beside beside answer.note
  have assigned := reads.assigned (b.run.row.putAll answer.assign) called
  have row : a.run.row = b.run.row := reads.row beside
  simp only [row]
  cases answer.stop with
  | false =>
    simp only [Bool.false_eq_true, if_false, ends_conclude]
    refine ⟨trivial, assigned, ?_⟩
    rintro rfl
    exact .inl rfl
  | true =>
    simp only [if_true, Act.stop, ends_bind, ends_modifyRun, ends_getRun, ends_modifyWorld,
      ends_conclude]
    refine ⟨trivial, stop_beside assigned k p, fun _ => .inr ?_⟩
    obtain ⟨l, hl⟩ := (World.grows_hookCalled b.world answer.note).trace
    refine ⟨.stopped b.run.signal k p :: l, ?_, by simp⟩
    rw [List.cons_append, hl]
    rfl

inductive Heard (k : AdviceKind) (p : Step) (b a : State σ) (r : Except Fault Bool) (t : State σ)
    (r' : Except Fault Bool) (t' : State σ) : Prop
  | together (same : r' = r) (beside : Beside t t') (sound : Along Sound b t)
      (stopped : a = b.muted → t' = t.muted ∨ Along (.stopped b.run.signal k p ∈ ·) b t)
  | refused (past : Over t) (sound : Along Sound b t) (veto : r = .ok false)
      (refusal : Along (.advised false k false ∈ ·) b t)

theorem Heard.after {t t' u u' : State σ} {r r' : Except Fault Bool} (h : Heard k p t t' r u r' u')
    (before : Frame b t) (sound : Along Sound b t)
    (stopped : a = b.muted → t' = t.muted ∨ Along (.stopped b.run.signal k p ∈ ·) b t) :
    Heard k p b a r u r' u' := by
  cases h with
  | refused past sound' veto refusal =>
    exact .refused past (sound_trans sound sound') veto
      (along_seq sound refusal fun _ _ _ hl => by simp [hl])
  | together same beside sound' stopped' =>
    refine .together same beside (sound_trans sound sound') fun start => ?_
    rcases stopped start with still | first
    · rw [before.signal] at stopped'
      exact (stopped' still).imp_right fun second =>
        along_seq sound second fun _ _ _ hl => by simp [hl]
    · exact .inr (along_seq first sound' fun _ _ hl _ => by simp [hl])

theorem hookAdvice_beside (stage : Stage σ) (h : Hook) (k : AdviceKind) (p : Step)
    (beside : Beside b a) :
    Soundly (recorded true k (callHook h k p)) (recorded true k (callHook h.muted k p)) b a
      (Heard k p b a) := by
  have silent : (quietly σ).Mobile stage := quietly_mobile
  have marks : (marking σ).Lawful stage := marking_lawful
  have quiet : Ends (callHook h k p) b fun _ t => Quiet b t :=
    Conduct.callHook_ends silent h k p trivial
  have onward : Ends (callHook h.muted k p) a fun _ t' => Onward a t' :=
    Conduct.callHook_ends marks.toMobile h.muted k p trivial
  have called := both_right (both_left (callHook_beside h k p beside) quiet) onward
  simp only [Soundly, Both, recorded_ends]
  refine both_mono called ?_
  rintro _ t r t' ⟨⟨⟨rfl, beside, stopped⟩, quiet⟩, onward⟩ sound
  cases r with
  | error f => exact (onward_hurts onward (hurts_record t' rfl)).unsound sound |>.elim
  | ok c =>
    have answered : Along Sound t (t.record (.advised true k c)) :=
      along_record (by simp [Sound, TraceEntry.mars])
    refine .together rfl (record_beside beside _) (sound_trans quiet.sound answered) fun same => ?_
    rcases stopped same with rfl | stopped
    · exact .inl rfl
    · refine .inr (along_seq stopped answered fun l l' hl _ => by simp [hl])

variable (stage depth)

omit stage depth in
theorem sound_futile {l : List TraceEntry} (h : Futile l) : Sound l := by
  obtain ⟨l', n, q, x, ⟨l, rfl, closes⟩, rfl⟩ := h
  intro e he
  simp only [List.mem_append, List.mem_singleton] at he
  rcases he with (he | rfl) | rfl
  · rcases closes e he with rfl | ⟨d, rfl⟩ <;> rfl
  · rfl
  · rfl

theorem caseAdvice_beside (c : Case) (k : AdviceKind) (p : Step) (beside : Beside b a) :
    Soundly (recorded false k (runAdvice stage (innerAt stage depth) c k p))
      (recorded false k (runAdvice stage (innerAt stage depth) c k p)) b a (Heard k p b a) := by
  simp only [Soundly, Both, recorded_ends, runAdvice_ends]
  obtain _ | ⟨past, stopped, signals, trace⟩ := beside
  · rcases same : (innerAt stage depth).finish.exec (adviceStart stage b c p k) with ⟨r, v⟩
    have same' : (innerAt stage depth).finish.exec (adviceStart stage b.muted c p k) = (r, v) :=
      same
    simp only [Ends, same, same']
    exact fun sound => .together rfl .same sound fun _ => .inl rfl
  · have onward : ∀ (s v : State σ), Frame (adviceStart stage s c p k) v → Onward s (s.after v) :=
      fun _ _ => onward_advice
    generalize hother : b.astray stopped signals trace = other
    cases depth with
    | zero =>
      have raised : Ends (innerAt stage 0).finish (adviceStart stage other c p k)
          fun r' _ => ∃ f, r' = .error f := by
        rw [Course.beyond_iff]
        exact ⟨_, rfl⟩
      have both : Both (innerAt stage 0).finish (innerAt stage 0).finish
          (adviceStart stage b c p k) (adviceStart stage other c p k)
          fun _ _ r' v' => (∃ f, r' = .error f) ∧ Frame (adviceStart stage other c p k) v' :=
        ends_and raised (frame_innerAt stage 0 _)
      refine both_mono both ?_
      rintro r v _ v' ⟨⟨f, rfl⟩, frame⟩ sound
      exact ((onward_hurts (onward _ _ frame) (hurts_record _ rfl)).unsound sound).elim
    | succ depth =>
      have child : Over (adviceStart stage b c p k) :=
        over_child (Frame.child_advice b c p k) past
      have both : Both (innerAt stage (depth + 1)).finish (innerAt stage (depth + 1)).finish
          (adviceStart stage b c p k) (adviceStart stage other c p k)
          fun r v _ _ => (r = .ok false ∧ Along Futile (adviceStart stage b c p k) v) ∧
            Frame (adviceStart stage b c p k) v :=
        ends_and (finishWith_over child) (frame_innerAt stage (depth + 1) _)
      refine both_mono both ?_
      rintro _ v r' v' ⟨⟨rfl, futile⟩, frame⟩ _
      have asked : Along Sound b (adviceStart stage b c p k) :=
        along_record (by simp [Sound, TraceEntry.mars])
      have inside : Along Sound b v := sound_trans asked (along_mono futile fun _ => sound_futile)
      have answered : Along (· = [.advised false k false]) (b.after v)
          ((b.after v).record (.advised false k false)) := along_record rfl
      refine .refused ?_ (sound_trans (t := b.after v) inside ?_) rfl ?_
      · exact over_frame ((onward b v frame).trans (onward_record _ _)).frame past
      · refine along_mono answered ?_
        rintro _ rfl
        simp [Sound, TraceEntry.mars]
      · exact along_seq (onward b v frame).along answered fun l _ _ hl => by simp [hl]

theorem advise_beside (i : Interceptor Case) (k : AdviceKind) (p : Step) (beside : Beside b a) :
    Soundly (advise stage (innerAt stage depth) k p i)
      (advise stage (innerAt stage depth) k p i.muted) b a (Heard k p b a) := by
  -- a part that is missing is no advice at all
  have silent : Soundly (pure true : Act σ Fault Bool) (pure true : Act σ Fault Bool) b a
      (Heard k p b a) := fun _ => .together rfl beside (sound_same rfl) .inl
  cases i with
  | script q before after failure t =>
    simp only [Interceptor.muted, advise]
    split
    · rename_i c hc
      exact caseAdvice_beside stage depth c k p beside
    · exact silent
  | hooks q before after failure t =>
    have part : pick k (before.map Hook.muted) (after.map Hook.muted) (failure.map Hook.muted) =
        (pick k before after failure).map Hook.muted := by
      cases k <;> rfl
    simp only [Interceptor.muted, advise, part]
    cases pick k before after failure with
    | none => exact silent
    | some h => exact hookAdvice_beside stage h k p beside

theorem framed_advise (i : Interceptor Case) (k : AdviceKind) (p : Step) :
    Framed (advise stage (innerAt stage depth) k p i) := fun _ =>
  ends_mono (Conduct.advise_ends marking_lawful.toAdvised
    (fun x _ => frame_innerAt stage depth x) k p (i := i) trivial trivial)
    fun _ _ h => (onward_heard h).frame

theorem framed_adviseAll (l : List (Interceptor Case)) (k : AdviceKind) (p : Step) :
    Framed (adviseAll stage (innerAt stage depth) k p l) := fun s =>
  ends_mono (adviseAll_rests stage depth l p s k) fun _ _ h => h.frame

theorem adviseAll_beside (l : List (Interceptor Case)) (k : AdviceKind) (p : Step)
    (beside : Beside b a) :
    Soundly (adviseAll stage (innerAt stage depth) k p l)
      (adviseAll stage (innerAt stage depth) k p (Aspect.muted l)) b a (Heard k p b a) := by
  induction l generalizing b a with
  | nil => exact fun _ => .together rfl beside (sound_same rfl) .inl
  | cons i l ih =>
    have first : Soundly (advise stage (innerAt stage depth) k p i)
        (advise stage (innerAt stage depth) k p i.muted) b a
        fun r t r' t' => Heard k p b a r t r' t' ∧ Frame b t :=
      both_mono (both_left (advise_beside stage depth i k p beside)
        (framed_advise stage depth i k p b)) fun _ _ _ _ h sound => ⟨h.1 sound, h.2⟩
    have asks : ∀ (l : List (Interceptor Case)) (c : Bool), Framed (if c = true then
        adviseAll stage (innerAt stage depth) k p l else pure false : Act σ Fault Bool) := by
      intro l c
      cases c with
      | true => exact framed_adviseAll stage depth l k p
      | false => exact framed_conclude _
    refine soundly_bind first (framed_advise stage depth i.muted k p) (asks _) ?_
    rintro r t r' t' ⟨heard, before⟩
    cases heard with
    | refused past sound veto refusal =>
      subst veto
      refine soundly_alone (A := fun q u => q = .ok false ∧ u = t) ⟨rfl, rfl⟩ ?_
      rintro _ _ _ _ ⟨rfl, rfl⟩
      exact .refused past sound rfl refusal
    | together same beside' sound stopped =>
      subst same
      rcases r' with f | _ | _
      · exact fun _ => .together rfl beside' sound stopped
      · exact fun _ => .together rfl beside' sound stopped
      · exact both_mono (ih beside') fun _ _ _ _ h sound' => (h sound').after before sound stopped

end Advice

section Actions
variable {α β : Type} {good : Except Problem Bool → Prop} {b a : State σ}

theorem quiet_of_keeps {x : Act σ Problem α} (h : (quietly σ).Keeps x) (s : State σ) :
    Ends x s fun _ t => Quiet s t := by
  refine ends_mono (h s trivial) fun r t ht => ?_
  rcases r with (f | f | t') | y
  · exact ht
  · exact ht.2
  · exact ht
  · exact ht

theorem framed_of_keeps {x : Act σ Problem α} (h : (marking σ).Keeps x) : Framed x :=
  fun s => ends_mono (h s trivial) fun _ _ ht => (onward_attempts ht).frame

structure Tracks (good : Except Problem Bool → Prop) (x : Act σ Problem Bool) : Prop where
  framed : Framed x
  beside : ∀ b a, Beside b a → Soundly x x b a (Fares good b)

theorem tracks_read {x : Act σ Problem α} {f : α → Act σ Problem Bool}
    (same : Respects Beside x) (quiet : (quietly σ).Keeps x) (next : ∀ y, Tracks good (f y)) :
    Tracks good (x >>= f) := by
  have framed : Framed x := fun s => ends_mono (quiet_of_keeps quiet s) fun _ _ h => h.onward.frame
  have framed' : ∀ y, Framed (f y) := fun y => (next y).framed
  refine ⟨framed_bind framed framed', fun b a beside => ?_⟩
  have first : Soundly x x b a fun r t r' t' =>
      Fares (fun _ => False) b r t r' t' ∧ True := by
    refine both_mono (both_left (same b a beside) (quiet_of_keeps quiet b)) ?_
    rintro r t _ t' ⟨⟨rfl, beside⟩, quiet⟩ _
    exact ⟨.together rfl beside quiet.sound, trivial⟩
  refine fares_bind (A := fun _ => True) first framed framed framed' framed' ?_ ?_
  · intro r t t' _ beside
    cases r with
    | ok y => exact (next y).beside t t' beside
    | error e => exact fun _ => .together rfl beside (sound_same rfl)
  · intro r t impossible
    exact impossible.elim

theorem tracks_getRun {f : Run → Act σ Problem Bool} (next : ∀ r, Tracks good (f r))
    (same : ∀ b a : State σ, Beside b a → f a.run = f b.run) : Tracks good (getRun >>= f) where
  framed := framed_bind (fun s => .refl s) fun r => (next r).framed
  beside := by
    intro b a beside
    have both : Soundly (f b.run) (f a.run) b a (Fares good b) := by
      rw [same b a beside]
      exact (next b.run).beside b a beside
    exact both

theorem tracks_respects {x : Act σ Problem Bool} (same : Respects Beside x)
    (quiet : (quietly σ).Keeps x) : Tracks good x where
  framed := fun s => ends_mono (quiet_of_keeps quiet s) fun _ _ h => h.onward.frame
  beside := by
    intro b a beside
    refine both_mono (both_left (same b a beside) (quiet_of_keeps quiet b)) ?_
    rintro r t _ t' ⟨⟨rfl, beside⟩, quiet⟩ _
    exact .together rfl beside quiet.sound

theorem tracks_pure (c : Bool) : Tracks good (pure c : Act σ Problem Bool) :=
  tracks_respects (respects_pure c) (Conduct.keeps_pure quietly_order c)

theorem stopped_beside {x : Act σ Problem Bool} (f : State σ → State σ)
    (leaves : ∀ s, s.isStopped = true → Ends x s fun r t => r = .ok true ∧ t = f s)
    (muted : f b.muted = (f b).muted) (past : Over b → Over (f b))
    (same : (f b).world.trace = b.world.trace) (stopped : b.isStopped = true)
    (beside : Beside b a) : Soundly x x b a (Fares (· = .ok true) b) := by
  have alone := leaves b stopped
  cases beside with
  | same =>
    have stopped' : b.muted.isStopped = true := stopped
    have both : Both x x b b.muted fun r t r' t' =>
        (r = .ok true ∧ t = f b) ∧ r' = .ok true ∧ t' = f b.muted :=
      ends_and alone (leaves b.muted stopped')
    refine both_mono both ?_
    rintro _ _ _ _ ⟨⟨rfl, rfl⟩, rfl, rfl⟩ _
    rw [muted]
    exact .together rfl .same (sound_same same)
  | apart ended _ _ _ =>
    refine soundly_alone alone ?_
    rintro _ _ _ _ ⟨rfl, rfl⟩
    exact .parted (past ended) (sound_same same) rfl

section Flow
variable {block : Nat → Act σ Problem Bool}

def counted (s : State σ) (i : Nat) : State σ :=
  { s.record (.round i) with
    run := { s.run with row := s.run.row.put "_loopCount" (Text.natText i) } }

theorem rounds_iff (size left i : Nat) (success : Bool) (s : State σ)
    (Q : Except Problem Bool → State σ → Prop) :
    Ends (Action.rounds block size (left + 1) i success) s Q ↔
      if s.isStopped then Q (.ok success) s
      else Ends (block size >>= fun r => Action.rounds block size left (i + 1) (r && success))
        (counted s i) Q := by
  rw [Action.rounds, ends_bind, ends_isStopped]
  show Ends (if s.isStopped = true then _ else _) s Q ↔ _
  split <;> rfl

theorem rounds_stopped {s : State σ} (h : s.isStopped = true) (size left i : Nat) (success : Bool) :
    Ends (Action.rounds block size left i success) s fun r t => r = .ok success ∧ t = s := by
  cases left with
  | zero => exact ⟨rfl, rfl⟩
  | succ left =>
    rw [rounds_iff, if_pos h]
    exact ⟨rfl, rfl⟩

theorem rounds_keep {R : State σ → State σ → Prop} {size : Nat} (refl : ∀ s, R s s)
    (trans : ∀ {s t u}, R s t → R t u → R s u) (counts : ∀ s i, R s (counted s i))
    (blocks : ∀ s, Ends (block size) s fun _ t => R s t) (s : State σ) (left i : Nat)
    (success : Bool) : Ends (Action.rounds block size left i success) s fun _ t => R s t := by
  induction left generalizing s i success with
  | zero => exact refl s
  | succ left ih =>
    rw [rounds_iff]
    split
    · exact refl s
    · apply ends_seq (blocks (counted s i))
      · intro c u first
        exact ends_mono (ih u (i + 1) (c && success)) fun _ _ rest =>
          trans (trans (counts s i) first) rest
      · exact fun _ _ first => trans (counts s i) first

theorem onward_counted (s : State σ) (i : Nat) : Onward s (counted s i) :=
  (onward_record s _).trans
    ⟨⟨.refl _, rfl, rfl, rfl, id, id⟩, ⟨rfl, rfl, rfl, rfl, rfl, rfl, rfl, rfl, rfl, rfl⟩⟩

theorem sound_counted (s : State σ) (i : Nat) : Along Sound s (counted s i) :=
  ⟨[.round i], rfl, by simp [Sound, TraceEntry.mars]⟩

variable (marks : ∀ n, (marking σ).Judges (block n))
  (hblock : ∀ n, Tracks (· = .ok true) (block n))
include hblock

theorem framed_rounds (size left i : Nat) (success : Bool) :
    Framed (Action.rounds block size left i success) := fun s =>
  rounds_keep .refl .trans (fun s i => (onward_counted s i).frame) (hblock size).framed s left i
    success

include marks

theorem tracks_rounds (size left i : Nat) :
    Tracks (· = .ok true) (Action.rounds block size left i true) := by
  refine ⟨framed_rounds hblock size left i true, ?_⟩
  induction left generalizing i with
  | zero => exact (tracks_pure true).beside
  | succ left ih =>
    intro b a beside
    by_cases stopped : b.isStopped = true
    · exact stopped_beside id (fun s h => rounds_stopped h size (left + 1) i true) rfl id rfl
        stopped beside
    · obtain _ | ⟨past, _, _, _⟩ := beside
      · have first : Soundly (block size) (block size) (counted b i) (counted b i).muted
            fun r t r' t' => Fares (· = .ok true) (counted b i) r t r' t' ∧
              ∀ c, r' = .ok c → c = true := by
          refine both_mono (both_right ((hblock size).beside _ _ .same) (marks size _ trivial)) ?_
          rintro r t r' t' ⟨fares, verdict⟩ sound
          refine ⟨fares sound, ?_⟩
          rintro c rfl
          exact sound_verdicts verdict sound
        have rest : ∀ r, Framed (Action.rounds block size left (i + 1) (r && true)) :=
          fun r => framed_rounds hblock size left (i + 1) _
        have whole := fares_bind (G := (· = .ok true)) first (hblock size).framed
          (hblock size).framed rest rest ?_ ?_
        · have running : b.muted.isStopped ≠ true := stopped
          simp only [Soundly, Both, rounds_iff, if_neg stopped, if_neg running]
          refine both_mono (soundly_from whole (onward_counted b.muted i).frame
            (framed_bind (hblock size).framed rest)) fun _ _ _ _ h sound => ?_
          exact (h sound).after (onward_counted b i).frame (sound_counted b i)
        · intro r t t' answer beside
          cases r with
          | error f => exact fun _ => .together rfl beside (sound_same rfl)
          | ok c =>
            cases answer c rfl
            exact ih (i + 1) t t' beside
        · rintro _ t rfl past
          refine ends_mono (rounds_stopped (isStopped_over past) size left (i + 1) true) ?_
          rintro _ _ ⟨rfl, rfl⟩
          exact ⟨past, sound_same rfl, rfl⟩
      · exact absurd (isStopped_over past) stopped

theorem tracks_flow {k : Step.Kind} (hk : k.isFlow = true) :
    Tracks (· = .ok true) (Action.perform stage block k) := by
  have order := quietly_order (σ := σ)
  cases k with
  | loop =>
    refine tracks_read (reads.respects_text _) (Conduct.keeps_text order _) fun m => ?_
    refine tracks_read (Agrees.respects_number m) (Conduct.keeps_number order m) fun count => ?_
    refine tracks_read reads.respects_currentStep (Conduct.keeps_currentStep order) fun p => ?_
    refine tracks_getRun (fun r => tracks_rounds marks hblock _ _ _) fun b a beside => ?_
    rw [Action.owned, Action.owned, reads.row beside, reads.remaining beside]
  | branch =>
    apply tracks_read (reads.respects_rawText _) (Conduct.keeps_rawText order _)
    intro condition
    refine tracks_read reads.respects_currentStep (Conduct.keeps_currentStep order) fun p => ?_
    refine tracks_getRun (fun r => ?_) fun b a beside => ?_
    · split
      · exact hblock _
      · exact tracks_pure true
    · rw [Action.owned, Action.owned, reads.row beside, reads.remaining beside]
  | _ => cases hk

end Flow

section Kinds
variable {block : Nat → Act σ Problem Bool}

theorem sync : Blind stage (fun b a : State σ => a = b.muted) where
  row := by
    rintro _ _ rfl
    rfl
  step := by
    rintro _ _ rfl
    rfl
  remaining := by
    rintro _ _ rfl
    rfl
  assigned := by
    rintro _ _ _ rfl
    rfl
  driver := by
    rintro _ _ rfl
    exact ⟨rfl, rfl⟩
  performed := by
    rintro _ _ _ _ rfl
    exact ⟨rfl, rfl⟩
  elapsed := by
    rintro _ _ _ rfl
    rfl

theorem waitFor_beside (g : Step.Getter) (b : State σ) :
    Soundly (Action.waitFor stage g) (Action.waitFor stage g) b b.muted
      (Fares (fun _ => False) b) := by
  have look : ∀ b a : State σ, a = b.muted → a.isStopped = b.isStopped := by
    rintro _ _ rfl
    rfl
  have blind : Blind stage fun b a : State σ => a = b.muted := sync
  have mobile : (quietly σ).Mobile stage := quietly_mobile
  have quiet := quiet_of_keeps (Conduct.keeps_waitFor mobile g) b
  refine both_mono (both_left (blind.respects_waitFor look g b b.muted rfl) quiet) ?_
  rintro r t _ _ ⟨⟨rfl, rfl⟩, quiet⟩ _
  exact .together rfl .same quiet.sound

variable (marks : ∀ n, (marking σ).Judges (block n))
  (hblock : ∀ n, Tracks (· = .ok true) (block n))
include marks

omit marks in
theorem quiet_action {k : Step.Kind} (hk : k.isFlow = false) (s : State σ) :
    Ends (Action.perform stage block k) s fun _ t => Quiet s t := by
  have mobile : (quietly σ).Mobile stage := quietly_mobile
  rw [Conduct.perform_alone hk]
  exact quiet_of_keeps
    (Conduct.keeps_action mobile (fun _ => Conduct.judges_true quietly_order) k) s

theorem framed_action (k : Step.Kind) : Framed (Action.perform stage block k) :=
  framed_of_keeps (Conduct.keeps_action marking_lawful.toMobile marks k)

include hblock

/-- What a step does. Only a step that waits may end otherwise in a run that is over. -/
theorem action_beside (k : Step.Kind) {b a : State σ} (beside : Beside b a) :
    Soundly (Action.perform stage block k) (Action.perform stage block k) b a
      fun r t r' t' => Fares (fun r => k.isFlow = true ∧ r = .ok true) b r t r' t' ∨
        (k.waits = true ∧ a ≠ b.muted) := by
  by_cases flow : k.isFlow = true
  · refine both_mono ((tracks_flow marks hblock flow).beside b a beside) fun r t r' t' h sound => ?_
    cases h sound with
    | together same beside sound => exact .inl (.together same beside sound)
    | parted past sound holds => exact .inl (.parted past sound ⟨flow, holds⟩)
    | excused h => exact .inl (.excused h)
  · rw [Bool.not_eq_true] at flow
    by_cases waits : k.waits = true
    · by_cases same : a = b.muted
      · subst same
        obtain ⟨g, rfl⟩ : ∃ g, k = .reading .waitFor g := by
          cases k with
          | reading m g => cases m <;> simp_all [Step.Kind.waits]
          | _ => cases waits
        refine both_mono (waitFor_beside g b) fun r t r' t' h sound => ?_
        cases h sound with
        | together same beside sound => exact .inl (.together same beside sound)
        | parted _ _ impossible => exact impossible.elim
        | excused h => exact .inl (.excused h)
      · exact fun _ => .inr ⟨waits, same⟩
    · rw [Bool.not_eq_true] at waits
      have blind : Blind stage (Beside : State σ → State σ → Prop) := blind
      refine both_mono (both_left (blind.respects_steady flow waits b a beside)
        (quiet_action flow b)) ?_
      rintro r t _ t' ⟨⟨rfl, beside⟩, quiet⟩ _
      exact .inl (.together rfl beside quiet.sound)

end Kinds

end Actions

end Blame

end Scenario
