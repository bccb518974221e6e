import Scenario.Proofs.PassingAdvice

/-!
# Which steps failed

The record of a run without advice tells which steps failed, and in which steps they stood.
A step that does not let the run go on ends the steps of its run when it fails, and
nothing else does but an error.
-/

set_option autoImplicit false

namespace Scenario
open Scenario.Act Scenario.Execution

variable {σ : Type} {stage : Stage σ} {inner : Inner σ}

/-- What is known of the steps of a run after some of its record. -/
structure Ledger where
  /-- The place to which the run turned last. -/
  place : Nat
  /-- The places of the steps that started and did not end, the innermost first. -/
  opened : List Nat
  /-- For each failure the steps that had not ended, the one that failed first. -/
  failed : List (List Nat)

def TraceEntry.enter (e : TraceEntry) (g : Ledger) : Ledger :=
  match e with
  | .turned i => { g with place := i }
  | .event (.started _) => { g with opened := g.place :: g.opened }
  | .event .ended => { g with opened := g.opened.tail }
  | .event (.failure _) => { g with failed := g.opened :: g.failed }
  | _ => g

/-- For each failure on record the place of the step that failed and those of the steps around
it. -/
def failures (l : List TraceEntry) : List (List Nat) :=
  (l.foldr TraceEntry.enter ⟨0, [], []⟩).failed

theorem failures_eq_nil {l : List TraceEntry} (h : ∀ m, .event (.failure m) ∉ l) :
    failures l = [] := by
  suffices kept : ∀ g, (l.foldr TraceEntry.enter g).failed = g.failed from kept _
  intro g
  induction l with
  | nil => rfl
  | cons e l ih =>
    have rest := ih fun m hm => h m (List.mem_cons_of_mem e hm)
    rw [List.foldr_cons, ← rest]
    cases e with
    | event e =>
      cases e with
      | failure m => exact absurd List.mem_cons_self (h m)
      | _ => rfl
    | _ => rfl

def Charges (fs : List (List Nat)) (l : List TraceEntry) : Prop :=
  ∀ g, (l.foldr TraceEntry.enter g).opened = g.opened ∧
    (l.foldr TraceEntry.enter g).failed = fs.map (· ++ g.opened) ++ g.failed

section Charges
variable {fs fs' : List (List Nat)} {l l' : List TraceEntry}

theorem Charges.failures (h : Charges fs l) : failures l = fs := by
  rw [Scenario.failures, (h _).2, List.append_nil]
  simp

theorem Charges.append (h : Charges fs l) (h' : Charges fs' l') :
    Charges (fs' ++ fs) (l' ++ l) := by
  intro g
  obtain ⟨opened, failed⟩ := h g
  obtain ⟨opened', failed'⟩ := h' (l.foldr TraceEntry.enter g)
  rw [List.foldr_append]
  refine ⟨opened'.trans opened, ?_⟩
  rw [failed', failed, opened, List.map_append, List.append_assoc]

theorem charges_silent (h : Silent l) : Charges [] l := by
  induction l with
  | nil => exact fun g => ⟨rfl, rfl⟩
  | cons e l ih =>
    obtain ⟨silent, rest⟩ := List.forall_mem_cons.1 h
    have first : Charges [] [e] := by
      intro g
      cases e with
      | event _ => cases silent
      | _ => exact ⟨rfl, rfl⟩
    exact (ih rest).append first

theorem charges_step (h : Charges fs l) (i : Nat) (m : String) :
    Charges (fs.map (· ++ [i])) (.event .ended :: (l ++ [.event (.started m), .turned i])) := by
  intro g
  obtain ⟨opened, failed⟩ := h ⟨i, i :: g.opened, g.failed⟩
  have inside : (l ++ [TraceEntry.event (.started m), .turned i]).foldr TraceEntry.enter g =
      l.foldr TraceEntry.enter ⟨i, i :: g.opened, g.failed⟩ := List.foldr_append
  rw [List.foldr_cons, inside]
  refine ⟨congrArg List.tail opened, failed.trans ?_⟩
  simp

theorem charges_failure (m : String) : Charges [[]] [.event (.failure m)] := fun _ => ⟨rfl, rfl⟩

end Charges

namespace Case

/-- The step that failed, by its place and those of the steps around it. -/
def culprit (c : Case) (places : List Nat) : Option Step := places.head?.bind fun i => c.steps[i]?

def Forgives (c : Case) (places : List Nat) : Prop :=
  ∃ p, c.culprit places = some p ∧ p.kind.goesOn = true

def Condemns (c : Case) (places : List Nat) : Prop :=
  ∃ p, c.culprit places = some p ∧ p.kind.goesOn = false

variable {c : Case} {places : List Nat}

theorem culprit_append {p : Step} (h : c.culprit places = some p) (outer : List Nat) :
    c.culprit (places ++ outer) = some p := by
  cases places with
  | nil => cases h
  | cons i rest => exact h

theorem forgives_within {fs : List (List Nat)} (h : ∀ places ∈ fs, c.Forgives places)
    (outer : List Nat) : ∀ places ∈ fs.map (· ++ outer), c.Forgives places := by
  intro places hp
  obtain ⟨inside, hi, rfl⟩ := List.mem_map.1 hp
  obtain ⟨q, culprit, goes⟩ := h inside hi
  exact ⟨q, culprit_append culprit outer, goes⟩

theorem not_condemns (h : c.Forgives places) : ¬ c.Condemns places := by
  obtain ⟨p, hp, goes⟩ := h
  rintro ⟨q, hq, halts⟩
  rw [hp] at hq
  cases hq
  rw [goes] at halts
  cases halts

end Case

namespace Charges
open State

def Forgiven (c : Case) (l : List TraceEntry) : Prop :=
  ∃ fs, Charges fs l ∧ ∀ places ∈ fs, c.Forgives places

/-- A record of an error, or of the failure of a step that does not. -/
def Condemned (c : Case) (f : Fault) (l : List TraceEntry) : Prop :=
  (∃ g, .event (.error g) ∈ l) ∨
    f.isVerification = true ∧ ∃ fs, Charges fs l ∧ ∃ places ∈ fs, c.Condemns places

theorem forgiven_additive (c : Case) : Additive (Forgiven c) where
  append := by
    rintro l l' ⟨fs, charges, forgives⟩ ⟨fs', charges', forgives'⟩
    exact ⟨fs' ++ fs, charges.append charges', List.forall_mem_append.2 ⟨forgives', forgives⟩⟩
  silent := fun silent => ⟨[], charges_silent silent, by simp⟩

theorem condemned_after {c : Case} {f : Fault} {l l' : List TraceEntry} (h : Forgiven c l)
    (h' : Condemned c f l') : Condemned c f (l' ++ l) := by
  obtain ⟨fs, charges, _⟩ := h
  rcases h' with ⟨g, raised⟩ | ⟨verification, fs', charges', places, hp, condemns⟩
  · exact .inl ⟨g, List.mem_append_left l raised⟩
  · exact .inr ⟨verification, fs' ++ fs, charges.append charges', places,
      List.mem_append_left fs hp, condemns⟩

def charging (σ : Type) (c : Case) : Conduct σ where
  ready s := s.run.aspect = [] ∧ s.run.case = c
  able _ := True
  goes s t := s.run.Kept t.run ∧ Along (Forgiven c) s t
  fails s t := s.run.Kept t.run ∧ Along (Forgiven c) s t
  raises f s t := Along (Condemned c f) s t
  rejects _ _ _ := True
  spoils _ _ _ := True
  whole _ _ _ := True

theorem charging_mobile (c : Case) : (charging σ c).Mobile stage where
  refl _ := ⟨.refl _, along_same (forgiven_additive c) rfl⟩
  trans h h' := ⟨h.1.trans h'.1, along_trans (forgiven_additive c) h.2 h'.2⟩
  overlook := id
  goes_fails h h' := ⟨h.1.trans h'.1, along_trans (forgiven_additive c) h.2 h'.2⟩
  fails_goes h h' := ⟨h.1.trans h'.1, along_trans (forgiven_additive c) h.2 h'.2⟩
  goes_raises h h' := along_seq h.2 h' fun _ _ => condemned_after
  goes_rejects _ _ := trivial
  goes_spoils _ _ := trivial
  ready h h' := ⟨h'.1.aspect.trans h.1, h'.1.case.trans h.2⟩
  move _ h := ⟨Run.kept_move h, along_move (forgiven_additive c) h⟩
  raises_standing _ _ h := h

section Step
variable {c : Case} {p : Step} {i : Nat} {label : String} {s t : State σ}

theorem along_step {P Q : List TraceEntry → Prop}
    (h : Along P ((s.record (.turned i)).emit stage (.started label)) t)
    (hq : ∀ l, P l → Q (.event .ended :: (l ++ [.event (.started label), .turned i]))) :
    Along Q s (t.emit stage .ended) := by
  obtain ⟨l, ht, hl⟩ := h
  refine ⟨_, ?_, hq l hl⟩
  simp only [State.emit, State.record, World.emit_trace, World.record] at ht ⊢
  rw [ht]
  simp

theorem forgiven_step {l : List TraceEntry} (h : Forgiven c l) :
    Forgiven c (.event .ended :: (l ++ [.event (.started label), .turned i])) := by
  obtain ⟨fs, charges, forgives⟩ := h
  exact ⟨_, charges_step charges i label, Case.forgives_within forgives [i]⟩

theorem condemned_step {l : List TraceEntry} {f : Fault} (h : Condemned c f l) :
    Condemned c f (.event .ended :: (l ++ [.event (.started label), .turned i])) := by
  rcases h with ⟨g, raised⟩ | ⟨verification, fs, charges, places, hp, q, culprit, halts⟩
  · exact .inl ⟨g, by simp [raised]⟩
  · refine .inr ⟨verification, _, charges_step charges i label, places ++ [i],
      List.mem_map_of_mem hp, q, Case.culprit_append culprit [i], halts⟩

variable (here : c.steps[i]? = some p)
include here

theorem failed_step {l : List TraceEntry} (h : Forgiven c l) (m : String) :
    let whole := TraceEntry.event .ended ::
      ((.event (.failure m) :: l) ++ [.event (.started label), .turned i])
    if p.kind.goesOn then Forgiven c whole else Condemned c (.verification m) whole := by
  intro whole
  obtain ⟨fs, charges, forgives⟩ := h
  have failed : Charges ([] :: fs) (.event (.failure m) :: l) := charges.append (charges_failure m)
  have charged : Charges ([i] :: fs.map (· ++ [i])) whole := charges_step failed i label
  split
  · rename_i goes
    exact ⟨_, charged, List.forall_mem_cons.2 ⟨⟨p, here, goes⟩,
      Case.forgives_within forgives [i]⟩⟩
  · rename_i halts
    exact .inr ⟨rfl, _, charged, [i], List.mem_cons_self, p, here, Bool.not_eq_true _ ▸ halts⟩

theorem judge_charges {r : Except Problem Bool}
    (h : (charging σ c).attempts ((s.record (.turned i)).emit stage (.started label)) r t) :
    Ends (judge stage inner [] p label r) t ((charging σ c).answers s) := by
  -- errors of all sorts are told and raised in one way
  have raises : ∀ f, Along (Forgiven c) ((s.record (.turned i)).emit stage (.started label)) t →
      Ends (raised stage inner [] p f) t ((charging σ c).answers s) := by
    intro f went
    have told : Along (Condemned c f) ((s.record (.turned i)).emit stage (.started label))
        (t.emit stage (.error f)) :=
      along_seq went (along_emit (P := Condemned c f) (.inl ⟨f, by simp⟩))
        fun _ _ => condemned_after
    exact along_step told fun _ => condemned_step
  rcases r with (f | f | t') | b
  · exact along_step h fun _ => condemned_step
  · exact raises f h.2.2
  · exact raises _ h.2
  · obtain ⟨kept, went⟩ := h
    simp only [judge]
    split
    · rw [succeeded_iff]
      exact ⟨kept, along_step went fun _ => forgiven_step⟩
    · rw [failed_iff]
      generalize hm : label ++ " failed" = m
      have told : Along (fun k => ∃ l, Forgiven c l ∧ k = .event (.failure m) :: l)
          ((s.record (.turned i)).emit stage (.started label)) (t.emit stage (.failure m)) :=
        along_seq went (along_emit (P := (· = [.event (.failure m)])) rfl) <| by
          rintro l _ forgiven rfl
          exact ⟨l, forgiven, rfl⟩
      have ended : Along (fun k => if p.kind.goesOn then Forgiven c k
          else Condemned c (.verification m) k) s ((t.emit stage (.failure m)).emit stage .ended) :=
        along_step told <| by
          rintro _ ⟨l, forgiven, rfl⟩
          exact failed_step here forgiven m
      split
      · rename_i goes
        simp only [goes, if_true] at ended
        exact ⟨kept, ended⟩
      · rename_i halts
        simp only [halts, Bool.false_eq_true, if_false] at ended
        exact ended

end Step

variable (stage inner) (c : Case)

theorem charging_turns : (charging σ c).Turns stage inner := by
  rintro block hblock s ⟨unadvised, rfl⟩ running
  have mobile : (charging σ s.run.case).Mobile stage := charging_mobile _
  have ready : (charging σ s.run.case).ready s := ⟨unadvised, rfl⟩
  have turned := mobile.move ready (.progress (.turned (s.run.cursor.current?.getD 0)) rfl running)
  rw [Blame.executeCurrent_iff]
  cases place : s.run.cursor.current? with
  | none =>
    have nowhere : s.run.step? = none := by
      rw [Run.step?, place]
      rfl
    rw [nowhere]
    exact mobile.refl ready
  | some i =>
    have here : s.run.step? = s.run.case.steps[i]? := by
      rw [Run.step?, place]
      rfl
    rw [here]
    rw [place] at turned
    cases step : s.run.case.steps[i]? with
    | none => exact mobile.refl ready
    | some p =>
      dsimp only [Option.getD_some] at turned ⊢
      split
      · rw [executeStep_unadvised (s := s.record (.turned i)) unadvised]
        split
        · exact turned
        · refine ends_mono (Conduct.keeps_action mobile hblock p.kind _ ⟨unadvised, rfl⟩) ?_
          intro r t went
          refine ends_mono (judge_charges step went) fun r' u answers => ?_
          cases r' with
          | error f => exact answers
          | ok b => exact answers
      · exact turned

/-- The steps of a run without advice either all let it go on where they failed, or end in an
error or in the failure of one that does not. -/
theorem steps_charge (left : Nat) {s : State σ} (unadvised : s.run.aspect = []) :
    Ends (steps stage inner left true) s ((charging σ s.run.case).answers s) := by
  have mobile : (charging σ s.run.case).Mobile stage := charging_mobile _
  have ready : (charging σ s.run.case).ready s := ⟨unadvised, rfl⟩
  exact Conduct.steps_ends mobile (charging_turns stage inner _) ready left true
    (mobile.refl ready)

/-- Where none raised an error, the steps of a run without advice answer if and only if all that
failed let the run go on. Else they end in a failed verification. -/
theorem steps_verdict {left : Nat} {s t : State σ} {r : Except Fault Bool}
    (unadvised : s.run.aspect = []) (went : (steps stage inner left true).exec s = (r, t))
    (errorless : ∀ f, .event (.error f) ∉ World.since s.world t.world) :
    match r with
    | .ok _ =>
      ∀ places ∈ Scenario.failures (World.since s.world t.world), s.run.case.Forgives places
    | .error f => f.isVerification = true ∧
        ∃ places ∈ Scenario.failures (World.since s.world t.world), s.run.case.Condemns places := by
  have charged := steps_charge stage inner left unadvised
  rw [Ends, went] at charged
  cases r with
  | ok b =>
    have forgiven : Along (Forgiven s.run.case) s t := by
      cases b <;> exact charged.2
    obtain ⟨fs, charges, forgives⟩ := along_since forgiven
    rw [charges.failures]
    exact forgives
  | error f =>
    rcases along_since charged with ⟨g, raised⟩ | ⟨verification, fs, charges, condemned⟩
    · exact absurd raised (errorless g)
    · rw [charges.failures]
      exact ⟨verification, condemned⟩

end Charges

end Scenario
