import Scenario.Proofs.PartLaws

/-!
# Starts are visits

Outside of advice cases a run is on record with the start of a step exactly where it visits
a step, so what is said of all visits of a run is said of all steps that it starts.
-/

set_option autoImplicit false

namespace Scenario
open Scenario.Act Scenario.Execution Scenario.Account

variable {σ : Type} {stage : Stage σ} {inner : Inner σ} {depth : Nat}

namespace Visiting

def Outside (l : List TraceEntry) : Prop := (l.foldr TraceEntry.skim (0, [])).1 = 0

section Outside
variable {l l' : List TraceEntry}

theorem outside_append (h : Level l) : Outside (l' ++ l) ↔ Outside l' := by
  have before : l.foldr TraceEntry.skim (0, []) = (0, unadvised l) :=
    Prod.ext (skim_level h 0 []) rfl
  rw [Outside, Outside, List.foldr_append, before, skim_count l' 0 _ false,
    skim_count l' 0 [] false]

theorem mem_unadvised (e : Event) (outside : Outside l) :
    .event e ∈ unadvised (l' ++ .event e :: l) := by
  have kept : ∃ k, (TraceEntry.event e :: l).foldr TraceEntry.skim (0, []) =
      (0, [] ++ (.event e :: k)) := by
    rw [List.foldr_cons]
    rw [Outside] at outside
    generalize l.foldr TraceEntry.skim (0, []) = st at outside
    obtain ⟨n, k⟩ := st
    cases outside
    exact ⟨k, rfl⟩
  obtain ⟨k, kept⟩ := kept
  rw [unadvised, List.foldr_append, kept, skim_later]
  simp

end Outside

structure Startless (l : List TraceEntry) : Prop where
  level : Level l
  unstarted : ∀ label, .event (.started label) ∉ unadvised l

theorem startless_idle {l : List TraceEntry} (h : Idle l) : Startless l :=
  ⟨h.level, fun _ started => by cases h.still _ started⟩

theorem startless_append {l l' : List TraceEntry} (h : Startless l) (h' : Startless l') :
    Startless (l' ++ l) where
  level := (level_append h.level h'.level).1
  unstarted := by
    intro label
    rw [unadvised_append h.level, List.mem_append, not_or]
    exact ⟨h'.unstarted label, h.unstarted label⟩

theorem startless_single {e : TraceEntry} (level : Level [e])
    (other : ∀ label, e ≠ .event (.started label)) : Startless [e] where
  level := level
  unstarted := by
    intro label h
    have started := mem_of_mem_unadvised h
    rw [List.mem_singleton] at started
    exact other label started.symm

theorem startless_turned (i : Nat) : Startless [.turned i] := by
  apply startless_single
  · exact (level_single fun _ _ => by simp [TraceEntry.scan, TraceEntry.halts]).1
  · intro label h
    cases h

theorem startless_round (i : Nat) : Startless [.round i] := by
  apply startless_single
  · exact (level_single fun _ _ => by simp [TraceEntry.scan, TraceEntry.halts]).1
  · intro label h
    cases h

/-- Wherever the run itself starts a step on the way, the part visits one. -/
structure Covers (stage : Stage σ) (inner : Inner σ) (part : Part) (s t : State σ) : Prop where
  level : Along Level s t
  covered : ∀ {label l l'}, Outside l →
    t.world.trace = l' ++ .event (.started label) :: (l ++ s.world.trace) →
      ∃ o u, Visits stage inner part s o u ∧
        u.world.trace = .event (.started label) :: (l ++ s.world.trace)

section Covers
variable {part part' : Part} {s u t : State σ}

theorem covers_startless (h : Along Startless s t) : Covers stage inner part s t where
  level := along_mono h fun _ startless => startless.level
  covered := by
    intro label l l' outside recorded
    obtain ⟨whole, same, startless⟩ := h
    have parts : whole = l' ++ .event (.started label) :: l :=
      List.append_cancel_right (same.symm.trans (by simpa using recorded))
    exact absurd (parts ▸ mem_unadvised (.started label) outside) (startless.unstarted label)

theorem covers_chain (h : Covers stage inner part s u) (inside : Inside stage inner part s part' u)
    (h' : Covers stage inner part' u t) : Covers stage inner part s t where
  level := along_seq h.level h'.level fun _ _ hl hl' => (level_append hl hl').1
  covered := by
    intro label l l' outside recorded
    obtain ⟨first, came, level⟩ := h.level
    obtain ⟨rest, went, _⟩ := h'.level
    have parts : rest ++ first = l' ++ .event (.started label) :: l := by
      refine List.append_cancel_right (?_ : _ ++ s.world.trace = _)
      rw [List.append_assoc, ← came, ← went, recorded]
      simp
    have early : ∀ k, first = k ++ .event (.started label) :: l → ∃ o v,
        Visits stage inner part s o v ∧
          v.world.trace = .event (.started label) :: (l ++ s.world.trace) := by
      rintro k rfl
      have told : u.world.trace = k ++ .event (.started label) :: (l ++ s.world.trace) := by
        simpa using came
      exact h.covered outside told
    rcases List.append_eq_append_iff.1 parts with ⟨k, _, earlier⟩ | ⟨k, same, later⟩
    · exact early k earlier
    · cases k with
      | nil => exact early [] later.symm
      | cons e k =>
        rw [List.cons_append] at later
        obtain ⟨rfl, rfl⟩ := List.cons.inj later
        rw [outside_append level] at outside
        have begun : t.world.trace = l' ++ .event (.started label) :: (k ++ u.world.trace) := by
          rw [went, same]
          simp
        obtain ⟨o, v, visit, told⟩ := h'.covered outside begun
        obtain ⟨o', visit'⟩ := inside o v visit
        exact ⟨o', v, visit', by rw [told, came, List.append_assoc]⟩

theorem startless_shift (h : Shift s t) : Along Startless s t := by
  cases h with
  | heeded h => exact along_mono (h "").idle fun _ => startless_idle
  | noticed => exact ⟨[], rfl, startless_idle idle_nil⟩
  | stood i => exact ⟨[], rfl, startless_idle idle_nil⟩
  | turned i => exact along_record (startless_turned i)
  | counted i => exact ⟨[.round i], rfl, startless_round i⟩

theorem inside_none : Inside stage inner part s (.steps 0) u := by
  rintro o v ⟨⟩

end Covers

theorem covers_begins {s u : State σ} {p : Step} {level : Option Nat}
    (begins : Begins stage (innerAt stage depth) s p u) :
    Covers stage (innerAt stage depth) (.current level) s (started stage p u) := by
  have advised : Along Startless s u :=
    along_seq (along_record (startless_turned (s.run.cursor.current?.getD 0)))
      (along_mono (begins.heeds "").idle fun _ => startless_idle) fun _ _ => startless_append
  obtain ⟨l₀, before, startless⟩ := advised
  have told : (started stage p u).world.trace =
      .event (.started (p.label u.run.row)) :: (l₀ ++ s.world.trace) := by
    rw [← before]
    exact World.emit_trace _ _
  constructor
  · refine ⟨.event (.started (p.label u.run.row)) :: l₀, told, ?_⟩
    exact (level_append startless.level (level_single fun _ _ => by simp [TraceEntry.halts]).1).1
  · intro label l l' outside recorded
    have parts : .event (.started (p.label u.run.row)) :: l₀ =
        l' ++ .event (.started label) :: l := by
      refine List.append_cancel_right (?_ : _ ++ s.world.trace = _)
      rw [List.cons_append, ← told, recorded]
      simp
    cases l' with
    | nil =>
      cases parts
      exact ⟨none, _, .here begins, told⟩
    | cons e l' =>
      rw [List.cons_append] at parts
      obtain ⟨_, rfl⟩ := List.cons.inj parts
      exact absurd (mem_unadvised (.started label) outside) (startless.unstarted label)

theorem covering (stage : Stage σ) (depth : Nat) :
    Passage stage (innerAt stage depth) (Covers stage (innerAt stage depth)) := by
  constructor
  · exact fun moved => covers_startless (startless_shift moved)
  · exact fun came moved => covers_chain came inside_none (covers_startless (startless_shift moved))
  · exact fun came inside went => covers_chain came inside went
  · exact covers_begins
  · intro level s p u t begins acted
    exact covers_chain (covers_begins begins) inside_none
      (covers_startless (along_mono acted.calls fun _ => startless_idle))

/-- The part of a run that begins in `s` goes on from `t`. -/
def Through (stage : Stage σ) (inner : Inner σ) : Part → State σ → State σ → Prop
  | .steps left, s, t => ∀ success,
      Ends (steps stage inner left success) s fun _ v => t.Frame v
  | .current level, s, t =>
      Ends (executeCurrent stage inner (blockOf stage inner level)) s fun _ v => t.Frame v
  | .rounds level size left i, s, t => ∀ success,
      Ends (Action.rounds (blockOf stage inner level) size left i success) s fun _ v => t.Frame v
  | .block level size, s, t => Ends (blockOf stage inner level size) s fun _ v => t.Frame v
  | .walk level last left index, s, t => ∀ origin success,
      Ends (walk stage inner (blockOf stage inner (some level)) origin last left index success) s
        fun _ v => t.Frame v

section Through
variable {s t u : State σ}

theorem onwards {ε α β : Type} {x : Act σ ε α} {f : α → Act σ ε β}
    (first : Ends x s fun _ v => t.Frame v) (framed : ∀ y, Blame.Framed (f y)) :
    Ends (x >>= f) s fun _ v => t.Frame v := by
  apply ends_seq first
  · exact fun y v came => ends_mono (framed y v) fun _ _ => came.trans
  · exact fun _ _ came => came

theorem ends_after {ε α β : Type} {x : Act σ ε α} {f : α → Act σ ε β} {y : α}
    {Q : Except ε β → State σ → Prop} (past : x.exec s = (.ok y, u)) (rest : Ends (f y) u Q) :
    Ends (x >>= f) s Q := by
  rw [ends_bind, Ends, past]
  exact rest

variable (stage depth)

theorem tracks_blockOf (level : Option Nat) (size : Nat) :
    Blame.Tracks (· = .ok true) (blockOf stage (innerAt stage depth) level size) := by
  cases level with
  | none => exact Blame.tracks_block stage depth size
  | some level => exact Blame.tracks_blockAt stage depth level size

variable {stage depth}

theorem through_action {level : Option Nat} {p : Step}
    (begins : Begins stage (innerAt stage depth) s p u)
    (acts : Ends (Action.perform stage (blockOf stage (innerAt stage depth) level) p.kind)
      (started stage p u) fun _ v => t.Frame v) :
    Through stage (innerAt stage depth) (.current level) s t := by
  have wanted : ¬ p.isSkipped s.run.row = true := by simp [begins.wanted]
  rw [Through, Blame.executeCurrent_iff, begins.here]
  dsimp only
  rw [if_pos begins.included, Blame.executeStep_iff]
  show if p.isSkipped s.run.row = true then _ else _
  rw [if_neg wanted]
  apply ends_after begins.allowed
  simp only [if_true, Blame.carry, Act.emit, ends_bind, ends_getRun, ends_modifyWorld, ends_outcome]
  refine ends_mono acts fun r v came => ?_
  have judged := Blame.framed_judge stage depth (s.run.aspect.advice p s.run.row) p
    (p.label u.run.row) r v
  refine ends_mono (P := fun _ w => v.Frame w) judged fun c w later => ?_
  cases c <;> exact came.trans later

/-- A part of a run goes on from each of its visits. -/
theorem Visits.through {part : Part} {o : Option (Round σ)}
    (visit : Visits stage (innerAt stage depth) part s o t) :
    Through stage (innerAt stage depth) part s t := by
  -- along the way to the visit: what comes before it is known, and what comes after it is framed
  induction visit with
  | next more _ ih =>
    intro success
    rw [steps]
    apply ends_after more
    apply onwards
    · rw [Blame.next_iff]
      exact onwards ih Blame.framed_pass
    · exact fun c => Blame.framed_steps stage depth _ (c && success)
  | onward more past _ ih =>
    intro success
    rw [steps]
    apply ends_after more
    exact ends_after past (ih _)
  | here begins =>
    exact through_action begins (Blame.framed_action (judges_blockOf stage depth _) _ _)
  | loop begins kind count _ ih =>
    apply through_action begins
    apply loop_ends begins.current kind
    · intro e read
      rw [count] at read
      cases read
    · intro n read
      rw [count] at read
      cases read
      exact ih true
  | branch begins kind text holds _ ih =>
    apply through_action begins
    apply branch_ends begins.current kind
    · intro none
      rw [text] at none
      cases none
    · intro condition found fails
      rw [text] at found
      cases found
      exact absurd holds fails
    · exact fun _ _ _ => ih
  | round running _ ih =>
    intro success
    rw [Blame.rounds_iff, if_neg (by simp [running])]
    exact onwards ih fun c => Blame.framed_rounds (tracks_blockOf stage depth _) _ _ _ _
  | again running past _ ih =>
    intro success
    rw [Blame.rounds_iff, if_neg (by simp [running])]
    exact ends_after past (ih _)
  | top _ ih =>
    rw [Through, blockOf, Execution.block, ends_bind, ends_getRun]
    exact ih
  | block stands _ ih =>
    rw [Through, blockOf, blockAt, ends_bind, ends_getRun]
    simp only [stands]
    exact ih _ true
  | @step level last _ _ _ _ _ within running _ ih =>
    intro origin success
    have rest := Blame.framed_walk stage depth origin last (judges_blockOf stage depth (some level))
    rw [Blame.walk_iff, if_neg (by simp [running, within])]
    apply onwards
    · rw [ends_outcome]
      exact ih
    · exact Blame.framed_proceed stage depth origin last (rest _) _ _
  | past within running past _ ih =>
    intro origin success
    rw [Blame.walk_iff, if_neg (by simp [running, within]), ends_bind, ends_outcome, Ends, past]
    exact ih origin _

end Through

/-- The starts of steps that are on record, those left out that an advice case made, are the visits
of the run: the record of a visit is that of the run up to the start of its step. -/
theorem start_visited_iff (stage : Stage σ) (depth left : Nat) (success : Bool) (s : State σ)
    {label : String} {l : List TraceEntry} (outside : Outside l) :
    .event (.started label) :: (l ++ s.world.trace) <:+
        ((steps stage (innerAt stage depth) left success).exec s).2.world.trace ↔
      ∃ o u, Visits stage (innerAt stage depth) (.steps left) s o u ∧
        u.world.trace = .event (.started label) :: (l ++ s.world.trace) := by
  constructor
  · rintro ⟨l', recorded⟩
    have covers : Covers stage (innerAt stage depth) (.steps left) s
        ((steps stage (innerAt stage depth) left success).exec s).2 :=
      (covering stage depth).steps_ends left success
    exact covers.covered outside recorded.symm
  · rintro ⟨o, u, visit, told⟩
    rw [← told]
    exact (visit.through success).world.trace

end Visiting

end Scenario
