import Scenario.Proofs.RunFrame

/-!
# What marks a run as failed

A step that does not hold, a step that cannot be carried out and advice that
raises a fault leave an entry on record. Steps that leave none succeed.
-/

set_option autoImplicit false

namespace Scenario
open Scenario.Act Scenario.Execution

variable {σ : Type} {stage : Stage σ} {inner : Inner σ}

namespace TraceEntry

/-- A step failed or could not be carried out, or advice raised a fault. -/
def mars : TraceEntry → Bool
  | .event (.failure _) => true
  | .event (.error _) => true
  | .adviceRaised _ _ _ => true
  | _ => false

theorem mars_of_silent {e : TraceEntry} (h : e.silent = true) : e.mars = false := by
  cases e with
  | event _ => cases h
  | adviceRaised _ _ _ => cases h
  | _ => rfl

end TraceEntry

namespace Marks
open State

def Sound (l : List TraceEntry) : Prop := ∀ e ∈ l, e.mars = false

def Marred (l : List TraceEntry) : Prop := ∃ e ∈ l, e.mars = true

theorem sound_additive : Additive Sound where
  append := fun h h' => List.forall_mem_append.2 ⟨h', h⟩
  silent := fun h e he => TraceEntry.mars_of_silent (h e he)

section Sound
variable {s t u : State σ}

theorem sound_trans (h : Along Sound s t) (h' : Along Sound t u) : Along Sound s u :=
  along_trans sound_additive h h'

theorem sound_same (h : t.world.trace = s.world.trace) : Along Sound s t :=
  along_same sound_additive h

theorem sound_parts (h : Frame s t) (h' : Frame t u) (sound : Along Sound s u) :
    Along Sound s t ∧ Along Sound t u :=
  Frame.along_parts h h' sound

end Sound

structure Onward (s t : State σ) : Prop where
  frame : Frame s t
  kept : s.run.Kept t.run

structure Hurts (s t : State σ) : Prop extends Onward s t where
  marred : Along Marred s t

section Onward
variable {s t u v : State σ}

theorem Onward.refl (s : State σ) : Onward s s := ⟨.refl s, .refl _⟩

theorem Onward.trans (h : Onward s t) (h' : Onward t u) : Onward s u :=
  ⟨h.frame.trans h'.frame, h.kept.trans h'.kept⟩

theorem Onward.along (h : Onward s t) : Along (fun _ => True) s t := by
  obtain ⟨l, hl⟩ := h.frame.world.trace
  exact ⟨l, hl.symm, trivial⟩

theorem onward_hurts (h : Onward s t) (h' : Hurts t u) : Hurts s u where
  toOnward := h.trans h'.toOnward
  marred := along_seq h.along h'.marred fun l l' _ ⟨e, he, mars⟩ => ⟨e, by simp [he], mars⟩

theorem hurts_onward (h : Hurts s t) (h' : Onward t u) : Hurts s u where
  toOnward := h.toOnward.trans h'
  marred := along_seq h.marred h'.along fun l l' ⟨e, he, mars⟩ _ => ⟨e, by simp [he], mars⟩

theorem onward_record (s : State σ) (e : TraceEntry) : Onward s (s.record e) :=
  ⟨Frame.frame_record s e, .refl _⟩

theorem onward_emit (s : State σ) (e : Event) : Onward s (s.emit stage e) :=
  ⟨Frame.frame_emit s e, .refl _⟩

theorem hurts_record (s : State σ) {e : TraceEntry} (he : e.mars = true) : Hurts s (s.record e) :=
  ⟨onward_record s e, along_record ⟨e, by simp, he⟩⟩

theorem hurts_emit (s : State σ) {e : Event} (he : TraceEntry.mars (.event e) = true) :
    Hurts s (s.emit stage e) :=
  ⟨onward_emit s e, along_emit ⟨.event e, by simp, he⟩⟩

theorem onward_move (h : Move stage s t) : Onward s t := ⟨Frame.frame_move h, Run.kept_move h⟩

theorem onward_advice {c : Case} {p : Step} {k : AdviceKind}
    (h : Frame (adviceStart stage s c p k) v) : Onward s (s.after v) :=
  ⟨Frame.child_frame (Frame.child_advice s c p k) h, .refl _⟩

theorem Hurts.unsound (h : Hurts s t) (sound : Along Sound s t) : False := by
  obtain ⟨l, hl, e, he, mars⟩ := h.marred
  obtain ⟨l', hl', sound⟩ := sound
  have same : l' = l := List.append_cancel_right (hl'.symm.trans hl)
  subst same
  rw [sound e he] at mars
  cases mars

end Onward

def marking (σ : Type) : Conduct σ where
  ready := fun _ => True
  able := fun _ => True
  goes := Onward
  fails := Hurts
  raises := fun _ => Hurts
  rejects := fun _ => Hurts
  spoils := fun _ => Hurts
  whole := fun _ => Frame

theorem marking_lawful : (marking σ).Lawful stage where
  refl := fun _ => .refl _
  trans := Onward.trans
  overlook := Hurts.toOnward
  goes_fails := onward_hurts
  fails_goes := hurts_onward
  goes_raises := onward_hurts
  goes_rejects := onward_hurts
  goes_spoils := onward_hurts
  ready := fun _ _ => trivial
  able := fun _ _ => trivial
  move := fun _ h => onward_move h
  raises_standing := fun i _ h => hurts_onward h (onward_move (.stand i : Move stage _ _))
  told := fun _ _ => trivial
  advice := fun _ _ _ _ _ => trivial
  hookAnswered := fun _ _ _ _ _ => onward_record _ _
  hookRaised := by
    intro s i f k _ _ _
    cases k <;> exact hurts_record _ rfl
  adviceDone := fun _ _ _ h => (onward_advice h).trans (onward_record _ _)
  adviceRaised := by
    intro s i c p k f v _ _ _ h
    have raised : Hurts s ((s.after v).record (.adviceRaised false k f)) :=
      onward_hurts (onward_advice h) (hurts_record _ rfl)
    cases k <;> exact raised
  passed := fun _ h => ((onward_emit _ _).trans h).trans (onward_emit _ _)
  failed := by
    intro s t u l m _ h h'
    have told : Hurts s (u.emit stage .ended) :=
      onward_hurts ((onward_emit _ _).trans h)
        (hurts_onward (hurts_emit _ rfl) (h'.trans (onward_emit _ _)))
    exact ⟨told, told⟩
  failedRaises := fun _ h h' => hurts_onward
    (onward_hurts ((onward_emit _ _).trans (h.trans (onward_emit _ _))) h') (onward_emit _ _)
  raised := by
    rintro s t u l f _ _ h (h' | ⟨g, h'⟩)
    · exact hurts_onward (onward_hurts ((onward_emit _ _).trans h)
        (hurts_onward (hurts_emit _ rfl) h')) (onward_emit _ _)
    · exact hurts_onward (onward_hurts ((onward_emit _ _).trans (h.trans (onward_emit _ _))) h')
        (onward_emit _ _)
  reported := fun _ h => hurts_onward (onward_hurts (onward_emit _ _) h) (onward_emit _ _)
  rejected := fun _ h h' => onward_hurts ((onward_emit _ _).trans h) h'

theorem frame_innerAt (stage : Stage σ) (depth : Nat) (s : State σ) :
    Ends (innerAt stage depth).finish s fun _ t => Frame s t :=
  ends_mono ((Course.innerAt_ends (Plain.course_lawful Frame.lawful) depth).1 s trivial)
    fun _ _ h => h.frame

section Marked
variable {s t : State σ}

/-- Steps without a failure on record succeeded. -/
theorem sound_answers {r : Except Fault Bool} (h : (marking σ).answers s r t)
    (sound : Along Sound s t) : r = .ok true := by
  rcases r with f | _ | _
  · exact (Hurts.unsound h sound).elim
  · exact (Hurts.unsound h sound).elim
  · rfl

theorem sound_verdicts {b : Bool} (h : (marking σ).verdicts s (.ok b) t)
    (sound : Along Sound s t) : b = true := by
  cases b with
  | false => exact (Hurts.unsound h sound).elim
  | true => rfl

theorem onward_answers {r : Except Fault Bool} (h : (marking σ).answers s r t) : Onward s t := by
  rcases r with f | _ | _
  · exact Hurts.toOnward h
  · exact Hurts.toOnward h
  · exact h

theorem onward_heard {k : AdviceKind} {r : Except Fault Bool} (h : (marking σ).heard k s r t) :
    Onward s t := by
  cases r with
  | ok b => exact h
  | error f => cases k <;> exact Hurts.toOnward h

theorem onward_attempts {α : Type} {r : Except Problem α} (h : (marking σ).attempts s r t) :
    Onward s t := by
  rcases r with (f | f | t') | x
  · exact Hurts.toOnward h
  · exact h.2
  · exact h
  · exact h

end Marked

section Judgement
variable (stage) (depth : Nat) (advice : List (Interceptor Case)) (p : Step) (label : String)
  (t : State σ)

theorem failed_hurts :
    Ends (failed stage (innerAt stage depth) advice p label) t fun _ u => Hurts t u := by
  simp only [failed, Act.emit, ends_bind, ends_modifyWorld, ends_outcome]
  refine ends_mono (Conduct.adviseEvery_ends marking_lawful.toAdvised
    (fun x _ => frame_innerAt stage depth x) .failure p advice (fun _ _ => trivial) true trivial) ?_
  intro r u hu
  have told : Hurts t (u.emit stage .ended) :=
    hurts_onward (hurts_onward (hurts_emit t rfl) (onward_heard hu)) (onward_emit u _)
  cases r with
  | error f => exact told
  | ok b =>
    dsimp only
    split <;> exact told

theorem raised_hurts (f : Fault) :
    Ends (raised stage (innerAt stage depth) advice p f) t fun _ u => Hurts t u := by
  simp only [raised, Act.emit, ends_bind, ends_modifyWorld, ends_outcome]
  refine ends_mono (Conduct.adviseEvery_ends marking_lawful.toAdvised
    (fun x _ => frame_innerAt stage depth x) .failure p advice (fun _ _ => trivial) true trivial) ?_
  intro r u hu
  exact hurts_onward (hurts_onward (hurts_emit t rfl) (onward_heard hu)) (onward_emit u _)

end Judgement

end Marks

end Scenario
