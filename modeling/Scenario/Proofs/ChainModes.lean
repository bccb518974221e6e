import Mathlib.Data.List.Forall2
import Scenario.Proofs.EventNesting
import Scenario.Proofs.SingleRowModes

/-!
# Chains within a row and after it

Two chains that differ in the mode of cases with a single row run alike. Where an
answer differs, a run was stopped that fails for this reason in both modes.
-/

set_option autoImplicit false

namespace Scenario
open Scenario.Act Scenario.Execution

variable {σ : Type} {stage : Stage σ} {inner : Inner σ}

namespace Nesting
open Course Closing Modes

/-- Chained cases of two chains: the same one, or one with a single row in both modes. -/
inductive Paired (stage : Stage σ) : Case → Case → Prop
  | same (c : Case) : Paired stage c c
  | single {c : Case} (h : c.IsSingle stage) : Paired stage (c.nesting true) (c.nesting false)

section Chain
variable {k k' : Run.Veil} {s s' : State σ}

/-- What two chains leave: answers that differ only in a run that was stopped. -/
structure Linked (k k' : Run.Veil) (r : Except Fault Bool) (t : State σ) (r' : Except Fault Bool)
    (t' : State σ) : Prop where
  alike : Alike k k' t t'
  answers : Concur (fun b b' => b' = b ∨ t.world.signals.isStopped t.run.signal = true) r r'

variable (sees : stage.Sees)
include sees

theorem paired_join (h : Alike k k' s s')
    (made : ∀ m, Stops.Watched stage m → m < s.world.signals.next) {c c' : Case}
    (pair : Paired stage c c') (depth index : Nat) (seed : Row) :
    Ends (runChild stage (innerAt stage depth) index c seed) s fun r t =>
      Ends (runChild stage (innerAt stage depth) index c' seed) s' fun r' t' =>
        Joined k k' r t r' t' := by
  cases pair with
  | single hs => exact runChild_join h sees made hs depth index seed
  | same =>
    refine ends_mono (Alike.respects_runChild sees depth index c seed s s' h) ?_
    intro r t both
    refine ends_mono both ?_
    rintro r' t' ⟨same, alike⟩
    rw [same]
    refine ⟨alike, ?_⟩
    cases r with
    | ok p => exact ⟨rfl, .inl rfl⟩
    | error f => exact rfl

/-- Chained cases that are left in two chains, after answers that differ only in a run
that was stopped. -/
theorem runChildren_linked (depth : Nat) {l l' : List Case}
    (pairs : List.Forall₂ (Paired stage) l l') (i : Nat) (hl : k.chain.drop i = l) (seed : Row)
    {success success' : Bool} (h : Alike k k' s s')
    (made : ∀ m, Stops.Watched stage m → m < s.world.signals.next)
    (so : success' = success ∨ s.world.signals.isStopped s.run.signal = true) :
    Ends (runChildren stage (innerAt stage depth) (i + 1) l seed success) s fun r t =>
      Ends (runChildren stage (innerAt stage depth) (i + 1) l' seed success') s' fun r' t' =>
        Linked k k' r t r' t' := by
  induction pairs generalizing i seed success success' s s' with
  | nil => exact ⟨h, so⟩
  | @cons c c' l l' pair rest ih =>
    have hrest : k.chain.drop (i + 1) = l := by
      rw [← List.tail_drop, hl]
      rfl
    have takes : s'.run.case.takesOver = s.run.case.takesOver := by
      obtain ⟨p, _⟩ := h
      rfl
    have passes : isPassed c' seed = isPassed c seed := by
      cases pair <;> rfl
    rw [runChildren_iff]
    simp only [runChildren_iff (c := c'), signal_alike h, takes, passes]
    split
    -- a run that is stopped is stopped on both sides, whatever was answered before
    · exact ⟨h, so⟩
    · rename_i running
      rw [so.resolve_right running]
      split
      · exact ih (i + 1) hrest seed (record_alike h _) made (.inl rfl)
      · have came := record_alike h (.reached (i + 1) false)
        have child : s.run.case.chain[i]? = some c := by
          obtain ⟨p, _⟩ := h
          rw [← List.head?_drop]
          exact congrArg List.head? hl
        have spares := Stops.child_spares stage depth i seed
          (s := s.record (.reached (i + 1) false)) child
        refine ends_mono (ends_and (paired_join sees came made pair depth (i + 1) seed) spares) ?_
        rintro (f | p) t ⟨joined, _, spares⟩
        · refine ends_mono joined ?_
          rintro (f' | p') t' ⟨alike, answers⟩
          · exact ⟨alike, answers⟩
          · exact answers.elim
        · dsimp only
          rw [ends_swap]
          refine ends_mono joined ?_
          rintro (f' | p') t' ⟨alike, rows, answers⟩
          dsimp only
          rw [rows]
          exact ih (i + 1) hrest _ alike (spares.only.known made)
            (answers.imp_left fun same => by rw [same])

theorem chain_linked (depth : Nat) (pairs : List.Forall₂ (Paired stage) k.chain k'.chain)
    (h : Alike k k' s s') (made : ∀ m, Stops.Watched stage m → m < s.world.signals.next) :
    Ends (chain stage (innerAt stage depth)) s fun r t =>
      Ends (chain stage (innerAt stage depth)) s' fun r' t' => Linked k k' r t r' t' := by
  obtain ⟨p, hw⟩ := h
  simp only [chain, ends_bind, ends_getRun]
  exact runChildren_linked sees depth pairs 0 rfl p.row (.intro p hw) made (.inl rfl)

end Chain

section Finish
variable {k k' : Run.Veil} {s s' : State σ}

structure Agreed (r : Except Fault Bool) (v : State σ) (r' : Except Fault Bool) (v' : State σ) :
    Prop where
  answers : Concur (fun b b' => b' = b) r r'
  world : v.world.Alike v'.world

theorem agreed_ended {u u' : State σ} (h : Alike k k' u u') (owns : k'.ownsSession = k.ownsSession)
    {b b' : Bool} (so : b' = b ∨ u.world.signals.isStopped u.run.signal = true) :
    Agreed (.ok (b && !(u.released stage).isStopped)) (u.ended stage)
      (.ok (b' && !(u'.released stage).isStopped)) (u'.ended stage) := by
  have stopped := isStopped_alike h
  constructor
  · show (b' && !(u'.released stage).isStopped) = (b && !(u.released stage).isStopped)
    rw [State.isStopped_released, State.isStopped_released, stopped]
    rcases so with same | above
    · rw [same]
    · rw [State.isStopped, above, Bool.or_true, Bool.not_true, Bool.and_false, Bool.and_false]
  · have left : Settled stage u (u.ended stage) := settled_ended u
    have right : Settled stage u' (u'.ended stage) := settled_ended u'
    have released : (u.released stage).world.Alike (u'.released stage).world := by
      obtain ⟨p, hw⟩ := h
      exact released_alike hw rfl owns
    exact left.world.trans (released.trans right.world.symm)

theorem agreed_raised {u u' : State σ} (h : Alike k k' u u') (owns : k'.ownsSession = k.ownsSession)
    {f f' : Fault} (hf : f'.root = f.root) (m m' : String) :
    Agreed (.error (f.inRun m)) (u.released stage) (.error (f'.inRun m')) (u'.released stage) := by
  constructor
  · show (f'.inRun m').root = (f.inRun m).root
    rw [Fault.root_inRun, Fault.root_inRun, hf]
  · obtain ⟨p, hw⟩ := h
    exact released_alike hw rfl owns

variable (sees : stage.Sees)
include sees

/-- Two runs whose chains differ in such cases end with the same answer, or in
faults with one root. -/
theorem finish_agreed (depth : Nat) (pairs : List.Forall₂ (Paired stage) k.chain k'.chain)
    (owns : k'.ownsSession = k.ownsSession) (pending : k'.pending = k.pending)
    (h : Alike k k' s s') (made : ∀ m, Stops.Watched stage m → m < s.world.signals.next) :
    Ends (finishWith stage (innerAt stage depth)) s fun r v =>
      Ends (finishWith stage (innerAt stage depth)) s' fun r' v' => Agreed r v r' v' := by
  refine finishWith_alike sees depth h (fun b t t' ht halts => ?_) fun f t t' ht => ?_
  · have closed : Alike k k' (t.emit stage .closed) (t'.emit stage .closed) :=
      emit_alike sees ht .closed
    have needs : t'.run.cursor.needsChain = t.run.cursor.needsChain := by
      obtain ⟨p, _⟩ := ht
      simp only [Cursor.needsChain, Run.veiled, pending]
    simp only [endRun_iff, needs]
    split
    -- both chains are called, and no chain waits any more on either side
    · obtain ⟨j, j', pairs, owns, called⟩ : ∃ j j' : Run.Veil,
          List.Forall₂ (Paired stage) j.chain j'.chain ∧ j'.ownsSession = j.ownsSession ∧
            Alike j j' (t.emit stage .closed).chainCalled (t'.emit stage .closed).chainCalled := by
        obtain ⟨p, hw⟩ := ht
        exact ⟨{ k with pending := false }, { k' with pending := false }, pairs, owns,
          .intro p (hw.emit sees .closed)⟩
      have opened : Stops.Spares stage (s.prepared stage) (s.begun stage) := Stops.spares_emit _ _
      have told : Stops.Spares stage t (t.emit stage .closed) := Stops.spares_emit _ _
      have known := told.only.known (halts.only.known (opened.only.known made))
      refine ends_mono (chain_linked sees depth pairs called known) ?_
      rintro (f | c) u linked
      · refine ends_mono linked ?_
        rintro (f' | c') u' ⟨alike, answers⟩
        · exact agreed_raised alike owns answers _ _
        · exact answers.elim
      · refine ends_mono linked ?_
        rintro (f' | c') u' ⟨alike, answers⟩
        · exact answers.elim
        · exact agreed_ended alike owns (answers.imp_left fun same => by rw [same])
    · exact agreed_ended closed owns (.inl rfl)
  · simp only [halt_iff]
    split
    · obtain ⟨p, hw⟩ := ht
      exact ⟨rfl, released_alike (hw.emit sees _) rfl owns⟩
    · exact agreed_raised (emit_alike sees ht .closed) owns rfl _ _

end Finish

/-- A run whose chained case at a place runs its own chain within its rows or after them. -/
def turned (i : Nat) (nested : Bool) (s : State σ) : State σ :=
  { s with run := { s.run with case := { s.run.case with
      chain := s.run.case.chain.modify i (Case.nesting nested) } } }

theorem paired_modify {c : Case} (single : c.IsSingle stage) {l : List Case} {i : Nat}
    (hc : l[i]? = some c) :
    List.Forall₂ (Paired stage) (l.modify i (Case.nesting true))
      (l.modify i (Case.nesting false)) := by
  induction l generalizing i with
  | nil => cases hc
  | cons a l ih =>
    cases i with
    | zero =>
      cases hc
      exact .cons (.single single) (List.forall₂_same.2 fun x _ => .same x)
    | succ i => exact .cons (.same a) (ih hc)

theorem turned_alike {c : Case} (single : c.IsSingle stage) {i : Nat} {s : State σ}
    (hc : s.run.case.chain[i]? = some c) :
    ∃ k k' : Run.Veil, List.Forall₂ (Paired stage) k.chain k'.chain ∧
      k'.ownsSession = k.ownsSession ∧ k'.pending = k.pending ∧
        Alike k k' (turned i true s) (turned i false s) := by
  let chained (b : Bool) : Run.Veil :=
    { s.run.veil with chain := s.run.case.chain.modify i (Case.nesting b) }
  exact ⟨chained true, chained false, paired_modify single hc, rfl, rfl,
    .intro s.run (.refl s.world)⟩

/-- Whether a chained case with a chain of its own and a single row runs its chain within the
row or after it makes no difference, wherever it stands in the chain. What can be seen of the
trace is the same: the events, the launches, the commands and quits, in one order. So are the
browsers, the answer or the root of the fault with which the run ends, and the variables that
the chained case hands on. The watch goes by what can be seen and stops a signal that
was made before the run. -/
theorem finish_nesting (stage : Stage σ) (sees : stage.Sees) (depth : Nat) (s : State σ)
    (made : ∀ m, Stops.Watched stage m → m < s.world.signals.next)
    (i : Nat) (c : Case) (hc : s.run.case.chain[i]? = some c) (single : c.IsSingle stage) :
    let run (nested : Bool) := (finishWith stage (innerAt stage depth)).exec (turned i nested s)
    Concur (fun b b' => b' = b) (run true).1 (run false).1 ∧
      (run true).2.world.Alike (run false).2.world ∧
      ∀ (t : State σ) (index : Nat) (seed : Row), s.world.signals.next ≤ t.world.signals.next →
        let child (nested : Bool) :=
          (runChild stage (innerAt stage depth) index (c.nesting nested) seed).exec t
        Concur (fun p p' => p'.2 = p.2) (child true).1 (child false).1 := by
  intro run
  obtain ⟨k, k', pairs, owns, pending, alike⟩ := turned_alike single hc
  obtain ⟨answers, worlds⟩ := finish_agreed sees depth pairs owns pending alike made
  refine ⟨answers, worlds, fun t index seed later => ?_⟩
  have echo : Alike t.run.veil t.run.veil t t := alike_iff_echo.2 ⟨.intro t.run (.refl t.world), rfl⟩
  have joined := runChild_join echo sees
    (fun m hm => Nat.lt_of_lt_of_le (made m hm) later) single depth index seed
  exact joined.answers.mono fun _ _ h => h.1

section Example
open Brackets

/-- A stage with the source of single rows, whose watch stops the first signal when so many
entries were seen. -/
def watched (seen : Nat) : Stage Unit where
  browsers := noBrowsers
  sources := fun _ => some DataSource.none
  watch := some ⟨⟨0, []⟩, fun l => (shown l).length == seen⟩

def greeter (name : String) (chain : List Case) : Case where
  script := { name }
  steps := [{ kind := .echo, texts := [("text", name)] }]
  chain := chain

def generations : State Unit :=
  let s := firstState (greeter "parent" [greeter "child" [greeter "grandchild" []]])
  { s with world := { s.world with signals := { next := 1 } } }

/-- The run is stopped while the chain of its chained case runs. -/
theorem stopped_in_inner_chain :
    let run (nested : Bool) := (finishWith (watched 10) (innerAt (watched 10) depthLimit)).exec
      (turned 0 nested generations)
    Concur (fun b b' => b' = b) (run true).1 (run false).1 ∧
      shown (run false).2.world.trace = shown (run true).2.world.trace := by
  have modes := finish_nesting (watched 10)
    (by
      rintro _ ⟨⟩ l l' h
      show ((shown l').length == 10) = ((shown l).length == 10)
      rw [h])
    depthLimit generations
    (by
      rintro _ ⟨_, ⟨⟩, rfl⟩
      exact Nat.zero_lt_one)
    0 (greeter "child" [greeter "grandchild" []]) rfl
    (by
      rintro seed d ⟨⟩
      exact ⟨rfl, rfl⟩)
  exact ⟨modes.1, modes.2.1.shown_eq⟩

end Example

end Nesting

end Scenario
