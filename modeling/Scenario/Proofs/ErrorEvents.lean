import Scenario.Proofs.CaseDisciplines
import Scenario.Proofs.EventNesting
import Scenario.Proofs.RecordedEntries

/-!
# Errors are told once

Where all advice is given by cases and none of it runs on failure, a fault that
ends a run was told to the listeners when it arose, and nobody tells of it
again while it leaves steps, advice, rows and chains.
-/

set_option autoImplicit false

namespace Scenario
open Scenario.Execution

variable {σ : Type} {stage : Stage σ}

def Event.fault? : Event → Option Fault
  | .error f => some f
  | _ => none

namespace Errors

/-- The faults that listeners were told of, in the order in which they were. -/
def faults (l : List TraceEntry) : List Fault := (told l).filterMap Event.fault?

/-- What listeners were told of a fault that leaves a step. A failed verification is no error. -/
def telling (f : Fault) : List Fault := if f.isVerification then [] else [f.root]

/-- A fault that was put under the name of a run at most once. -/
def single : Fault → Bool
  | .fatal _ f => f.isOriginal
  | _ => true

/-- A fault of its own under the name of a run. -/
def Wrapped (f : Fault) : Prop := ∃ run g, f = .fatal run g ∧ g.isOriginal = true

theorem wrapped_inRun {f : Fault} (h : single f = true) (hf : f.isVerification = false)
    (run : String) : Wrapped (f.inRun run) := by
  cases f with
  | fatal r g => exact ⟨r, g, rfl, h⟩
  | verification _ => cases hf
  | _ => exact ⟨run, _, rfl, rfl⟩

theorem Wrapped.single {f : Fault} (h : Wrapped f) : single f = true := by
  obtain ⟨_, _, rfl, hg⟩ := h
  exact hg

theorem Wrapped.isVerification {f : Fault} (h : Wrapped f) : f.isVerification = false := by
  obtain ⟨_, _, rfl, _⟩ := h
  rfl

theorem single_of_isOriginal {f : Fault} (h : f.isOriginal = true) : single f = true := by
  cases f with
  | fatal _ _ => cases h
  | _ => rfl

theorem isVerification_of_isOriginal {f : Fault} (h : f.isOriginal = true) :
    f.isVerification = false := by
  cases f with
  | verification _ => cases h
  | _ => rfl

theorem telling_eq {f : Fault} (h : f.isVerification = false) : telling f = [f.root] := by
  rw [telling, h]
  rfl

theorem faults_excerpt : Excerpt faults := told_excerpt.filterMap Event.fault?

theorem untold : Additive fun l => faults l = [] := faults_excerpt.additive

/-- From one state to another listeners were told of these faults and no others. -/
def Tells (fs : List Fault) : State σ → State σ → Prop := Along fun l => faults l = fs

section Tells
variable {fs gs : List Fault} {s t u : State σ}

theorem tells_nothing (h : t.world.trace = s.world.trace) : Tells [] s t :=
  along_same untold h

theorem tells_after (h : Tells [] s t) (h' : Tells fs t u) : Tells fs s u :=
  faults_excerpt.along h h'

theorem tells_before (h : Tells fs s t) (h' : Tells [] t u) : Tells fs s u := by
  have both := faults_excerpt.along h h'
  rwa [List.append_nil] at both

theorem tells_record (s : State σ) {e : TraceEntry} (he : faults [e] = []) :
    Tells [] s (s.record e) := along_record he

theorem tells_emit (s : State σ) {e : Event} (he : e.fault? = none) :
    Tells [] s (s.emit stage e) := by
  refine along_emit ?_
  rw [faults]
  simp [told, TraceEntry.event?, he]

theorem tells_error (s : State σ) (f : Fault) : Tells [f] s (s.emit stage (.error f)) :=
  along_emit rfl

theorem tells_around {e e' : Event} (h : Tells fs (s.emit stage e) t) (he : e.fault? = none)
    (he' : e'.fault? = none) : Tells fs s (t.emit stage e') :=
  tells_before (tells_after (tells_emit s he) h) (tells_emit t he')

theorem tells_advice {v : State σ} {c : Case} {p : Step} {k : AdviceKind}
    (h : Tells fs (adviceStart stage s c p k) v) : Tells fs s (s.after v) := by
  have begun : Tells [] s (adviceStart stage s c p k) := along_record rfl
  exact tells_after begun h

end Tells

def scripted : Discipline where
  able := fun i => i.isHooks = false ∧ i.part .failure = none
  refuses := fun f => f.isOriginal = true
  freeze := by
    intro i row h
    cases i with
    | script _ _ _ _ _ => exact h
    | hooks _ _ _ _ _ => cases h.1

def Ended : Except Fault Bool → State σ → State σ → Prop
  | .ok _, s, t => Tells [] s t
  | .error f, s, t => Tells [f.root] s t ∧ single f = true ∧ f.isVerification = false

def Whole (r : Except Fault Bool) (s t : State σ) : Prop :=
  Ended r s t ∧ (∀ f, r = .error f → Wrapped f) ∧ t.run.Under scripted

def Quiet (s t : State σ) : Prop := Tells [] s t ∧ s.run.Kept t.run

def Raised (f : Fault) (s t : State σ) : Prop :=
  Tells (telling f) s t ∧ single f = true ∧ s.run.Kept t.run

def course (σ : Type) : Course σ where
  ready := fun s => s.run.Under scripted
  able := Interceptor.Under scripted
  goes := Quiet
  fails := Quiet
  raises := Raised
  rejects := Raised
  spoils := fun _ _ _ => False
  whole := Whole
  finishes := Whole
  rowed := fun _ => Ended
  left := fun _ last _ s t => Tells [] s t ∧ last.Under scripted
  held := fun _ last _ s t => Tells [] s t ∧ last.Under scripted
  links := Ended

section Parts
variable {f : Fault} {r : Except Fault Bool} {s t u : State σ}

theorem Quiet.refl (s : State σ) : Quiet s s := ⟨tells_nothing rfl, .refl _⟩

theorem Quiet.trans (h : Quiet s t) (h' : Quiet t u) : Quiet s u :=
  ⟨tells_after h.1 h'.1, h.2.trans h'.2⟩

theorem Quiet.raised (h : Quiet s t) (h' : Raised f t u) : Raised f s u :=
  ⟨tells_after h.1 h'.1, h'.2.1, h.2.trans h'.2.2⟩

theorem Quiet.under (h : Quiet s t) (hs : s.run.Under scripted) : t.run.Under scripted :=
  hs.same h.2.case h.2.aspect h.2.inherited

theorem Raised.under (h : Raised f s t) (hs : s.run.Under scripted) : t.run.Under scripted :=
  hs.same h.2.2.case h.2.2.aspect h.2.2.inherited

theorem quiet_step {l : String} (h : Quiet (s.emit stage (.started l)) t) :
    Quiet s (t.emit stage .ended) := ⟨tells_around h.1 rfl rfl, h.2⟩

theorem raised_step {l : String} (h : Raised f (s.emit stage (.started l)) t) :
    Raised f s (t.emit stage .ended) := ⟨tells_around h.1 rfl rfl, h.2⟩

theorem quiet_failure (s : State σ) (m : String) : Quiet s (s.emit stage (.failure m)) :=
  ⟨tells_emit s rfl, .refl _⟩

theorem ended_trans {a : Bool} (h : Ended (.ok a) s t) (h' : Ended r t u) :
    Ended (r.map (· && a)) s u := by
  cases r with
  | ok b => exact tells_after h h'
  | error f => exact ⟨tells_after h h'.1, h'.2⟩

theorem ended_before (h : Ended r s t) (h' : Tells [] t u) : Ended r s u := by
  cases r with
  | ok b => exact tells_before h h'
  | error f => exact ⟨tells_before h.1 h', h.2⟩

theorem ended_after {last : Run} {v : State σ} (h : Ended r ⟨t.world, last⟩ v) :
    Ended r t (t.after v) := by
  cases r <;> exact h

theorem ended_around {e e' : Event} (h : Ended r (s.emit stage e) t) (he : e.fault? = none)
    (he' : e'.fault? = none) : Ended r s (t.emit stage e') := by
  cases r with
  | ok b => exact tells_around h he he'
  | error f => exact ⟨tells_around h.1 he he', h.2⟩

theorem ended_inRun (h : Ended (.error f) s t) (run : String) :
    Ended (.error (f.inRun run)) s t := by
  refine ⟨?_, (wrapped_inRun h.2.1 h.2.2 run).single,
    (wrapped_inRun h.2.1 h.2.2 run).isVerification⟩
  rw [Fault.root_inRun]
  exact h.1

theorem Raised.ended (h : Raised f s t) (hf : f.isVerification = false) : Ended (.error f) s t := by
  refine ⟨?_, h.2.1, hf⟩
  rw [← telling_eq hf]
  exact h.1

theorem Raised.ofAdvice {v : State σ} {c : Case} {p : Step} {k : AdviceKind}
    (h : Whole (.error f) (adviceStart stage s c p k) v) :
    Raised f s ((s.after v).record (.adviceRaised false k f)) := by
  have wrapped := h.2.1 f rfl
  have told : Tells [f.root] s (s.after v) := tells_advice h.1.1
  refine ⟨?_, wrapped.single, .refl _⟩
  rw [telling_eq wrapped.isVerification]
  exact tells_before told (tells_record _ rfl)

/-- A step that could not be carried out tells of the fault that it raises. -/
theorem Raised.ofStep (hf : f.isOriginal = true) {l : String}
    (ht : Quiet (s.emit stage (.started l)) t) (hu : Quiet (t.emit stage (.error f)) u) :
    Raised f s (u.emit stage .ended) := by
  refine raised_step ⟨?_, single_of_isOriginal hf, ht.2.trans hu.2⟩
  rw [telling_eq (isVerification_of_isOriginal hf), Fault.root_of_isOriginal hf]
  exact tells_after ht.1 (tells_before (tells_error t f) hu.1)

theorem tells_begun (h : Tells [] (s.begun stage) t) : Tells [] s (t.emit stage .closed) := by
  have prepared : Tells [] s (s.prepared stage) := tells_nothing rfl
  exact tells_after prepared (tells_around h rfl rfl)

theorem tells_released (h : Tells [] s t) : Tells [] s (t.released stage) :=
  tells_before h (along_released untold t)

theorem tells_ended (h : Tells [] s t) : Tells [] s (t.ended stage) :=
  tells_before h (along_ended untold rfl t)

theorem under_of_run (h : s.run.Under scripted) (same : t.run = s.run) : t.run.Under scripted := by
  rw [same]
  exact h

theorem run_released (h : s.run.Under scripted) : (s.released stage).run.Under scripted :=
  h.same rfl rfl rfl

end Parts

section Lawful
variable (hstage : Aspect.Under scripted stage.aspect)
include hstage

theorem conduct : (course σ).toConduct.Lawful stage where
  refl := fun _ => .refl _
  trans := .trans
  overlook := id
  goes_fails := .trans
  fails_goes := .trans
  goes_raises := Quiet.raised
  goes_rejects := Quiet.raised
  goes_spoils := fun _ h => h
  ready := fun hs h => h.under hs
  able := fun hs hi => hs.aspect _ hi
  move := fun _ h => ⟨along_move untold h, Run.kept_move h⟩
  raises_standing := by
    intro f s t i hs h
    have stands : Move stage t (t.standing i) := .stand i
    exact ⟨tells_before h.1 (along_move untold stands), h.2.1, h.2.2.trans (Run.kept_move stands)⟩
  told := fun _ hs => hs
  advice := fun p _ _ hi hc => under_adviceStart hstage p _ hi (Interceptor.mem_cases_of_part hc)
  hookAnswered := fun _ _ _ hi hh => absurd hh (by simp [hi.able.1])
  hookRaised := fun _ _ hi hh => absurd hh (by simp [hi.able.1])
  adviceDone := fun _ _ _ h => ⟨tells_before (tells_advice h.1) (tells_record _ rfl), .refl _⟩
  adviceRaised := by
    intro s i c p k f v _ hi hc h
    cases k with
    | before => exact .ofAdvice h
    | after => exact .ofAdvice h
    | failure =>
      rw [hi.able.2] at hc
      cases hc
  passed := fun _ h => quiet_step h
  failed := by
    intro s t u l m _ ht hu
    have failed : Quiet (s.emit stage (.started l)) u := ht.trans ((quiet_failure t m).trans hu)
    exact ⟨quiet_step failed, raised_step ⟨failed.1, rfl, failed.2⟩⟩
  failedRaises := fun _ _ h => h.elim
  raised := by
    rintro s t u l f _ hf ht (hu | ⟨_, hu⟩)
    · exact .ofStep hf ht hu
    · exact hu.elim
  reported := fun _ h => raised_step h
  rejected := by
    intro s t u l f _ ht hu
    have started : Quiet s (s.emit stage (.started l)) := ⟨tells_emit s rfl, .refl _⟩
    exact (started.trans ht).raised hu

theorem lawful : (course σ).Lawful stage where
  toLawful := conduct hstage
  begun := fun hs => hs.prepared
  chainCalled := fun hs => hs.same rfl rfl rfl
  halted := by
    intro s t f hs ht hf
    have told : Tells [] (s.begun stage) t.aborted := by
      have raised := ht.1
      rwa [telling, if_pos hf] at raised
    have under : t.run.Under scripted := ht.under hs.prepared
    exact ⟨tells_released (tells_begun told), fun _ h => (by cases h), under.same rfl rfl rfl⟩
  fatal := by
    intro s t f hs ht hf
    have told : Ended (.error f) s (t.emit stage .closed) := by
      have prepared : Tells [] s (s.prepared stage) := tells_nothing rfl
      have raised : Tells [f.root] (s.begun stage) t := (ht.ended hf).1
      exact ⟨tells_after prepared (tells_around raised rfl rfl), ht.2.1, hf⟩
    have under : t.run.Under scripted := ht.under hs.prepared
    refine ⟨ended_before (ended_inRun told _) (along_released untold _), ?_, under.same rfl rfl rfl⟩
    rintro g ⟨⟩
    exact wrapped_inRun told.2.1 told.2.2 _
  unchained := by
    intro s t b hs ht _
    have quiet : Quiet (s.begun stage) t := by cases b <;> exact ht
    have under : t.run.Under scripted := quiet.under hs.prepared
    refine ⟨tells_ended (tells_begun quiet.1), fun _ h => (by cases h), ?_⟩
    rw [State.ended_run]
    exact under.same rfl rfl rfl
  chained := by
    intro s t u b c hs ht _ same hu
    have quiet : Quiet (s.begun stage) t := by cases b <;> exact ht
    have under : t.run.Under scripted := quiet.under hs.prepared
    have told : Tells [] s u := tells_after (tells_begun quiet.1) hu
    refine ⟨tells_ended told, fun _ h => (by cases h), ?_⟩
    rw [State.ended_run]
    refine run_released ?_
    rw [same]
    exact under.same rfl rfl rfl
  chainBroke := by
    intro s t u b f hs ht _ same hu
    have quiet : Quiet (s.begun stage) t := by cases b <;> exact ht
    have under : t.run.Under scripted := quiet.under hs.prepared
    have told : Ended (.error f) s u := ⟨tells_after (tells_begun quiet.1) hu.1, hu.2⟩
    refine ⟨ended_before (ended_inRun told _) (along_released untold u), ?_, run_released ?_⟩
    · rintro g ⟨⟩
      exact wrapped_inRun told.2.1 told.2.2 _
    · rw [same]
      exact under.same rfl rfl rfl
  finished := id
  beyond := by
    intro s hs
    have told : Ended (.error (beyond s.run.name)) s (s.emit stage (.error (beyond s.run.name))) :=
      ⟨tells_error s _, rfl, rfl⟩
    refine ⟨ended_before (ended_inRun told _) (along_released untold _), ?_, hs.same rfl rfl rfl⟩
    rintro g ⟨⟩
    exact wrapped_inRun told.2.1 told.2.2 _
  link_refl := fun _ => tells_nothing rfl
  link_trans := ended_trans
  link_ready := fun hs _ same => under_of_run hs same
  reached := fun i passed _ => along_reached untold _ i passed
  reports := by
    intro s f hs hf
    have original : f.isOriginal = true := (hs.unread hf).elim id id
    refine ⟨?_, single_of_isOriginal original, isVerification_of_isOriginal original⟩
    rw [Fault.root_of_isOriginal original]
    exact tells_error s f
  rows_refl := fun _ => tells_nothing rfl
  rows_trans := ended_trans
  rows_ready := fun hs _ same => under_of_run hs same
  rowReady := fun n row isLast hs hr => under_rowStart hstage n row isLast hs hr
  rowLeft := fun _ _ h => ⟨along_row h.1, h.2.2⟩
  rowDone := fun _ _ h _ => along_row h.1
  rowRaised := by
    intro s v rows n row isLast f _ _ h
    have row : Ended (.error f) s (s.after v) := ⟨along_row h.1.1, h.1.2⟩
    exact ended_before row (along_rowDropped untold _ _ _)
  left_trans := fun h h' => ⟨tells_after h h'.1, h'.2⟩
  grouped := fun _ _ _ h => ended_around h rfl rfl
  ungrouped := fun _ _ _ h => h
  groupedLeft := fun _ _ _ h => ⟨tells_around h.1 rfl rfl, h.2⟩
  ungroupedLeft := fun _ _ _ h => h
  held_ready := fun _ h => h.2
  dropped := fun _ h => tells_before h.1 (along_givenBack untold _ _ _)
  deferred := by
    intro s t v rows last b r _ h _ _ hv
    have rows : Ended (.ok b) s t := h.1
    have linked : Ended (r.map (· && b)) s (t.after v) := ended_trans rows (ended_after hv)
    exact ended_before linked (along_givenBack untold _ _ _)

end Lawful

/-- A run whose advice is given by cases, none of it on failure, ends in a fault
if and only if listeners were told of exactly one, and answers if and only if
they were told of none. The fault that ends it is one of its own under the name
of a run, and it is the one that was told. -/
theorem finish_tells_once (hstage : Aspect.Under scripted stage.aspect) (depth : Nat) {s : State σ}
    (hs : s.run.Under scripted) :
    let e := (finishWith stage (innerAt stage depth)).exec s
    let fs := faults (World.since s.world e.2.world)
    ((∃ f, e.1 = .error f) ↔ fs.length = 1) ∧ ((∃ b, e.1 = .ok b) ↔ fs = []) ∧
      ∀ f, e.1 = .error f →
        ∃ run g, f = .fatal run g ∧ g.isFatal = false ∧ g.isVerification = false ∧
          fs = [f.root] := by
  intro e fs
  obtain ⟨ended, wrapped, _⟩ : Whole e.1 s e.2 := Course.finish_ends (lawful hstage) depth hs
  cases he : e.1 with
  | ok b =>
    rw [he] at ended
    have none : fs = [] := along_since ended
    simp [none]
  | error f =>
    rw [he] at ended
    have one : fs = [f.root] := along_since ended.1
    refine ⟨by simp [one], by simp [one], ?_⟩
    rintro _ ⟨⟩
    obtain ⟨run, g, hf, original⟩ := wrapped f he
    simp only [Fault.isOriginal, Bool.and_eq_true, Bool.not_eq_true'] at original
    exact ⟨run, g, hf, original.2, original.1, one⟩

section Example
open Brackets

def awaited : Document.ScriptEntry where
  path := "$\x7bname\x7d.json"
  skip := none
  source := none
  nestedChain := false
  waitsForLast := false
  sharesState := none

def greeted : Case where
  script := { name := "advice" }
  steps := [{ kind := .echo, texts := [("text", "hello")] }]

def stumbling : Case where
  script := { name := "stumbling" }
  steps := [{ kind := .loop, texts := [("count", "2"), ("subStep", "1")] }, { kind := .echo }]

/-- A case of one step under advice. Its chained case is read when the run comes to it, and
stumbles in the loop. -/
def sunken : Case where
  script := { name := "script" }
  steps := [{ kind := .echo, texts := [("text", "hi")] }]
  aspect := [.script (some .any) (some greeted) (some greeted) none false]
  chain := (Loading.scriptCase (fun _ => .ok stumbling) "" false awaited).toOption.toList

theorem stumbling_under : stumbling.Under scripted := by
  refine .intro ?_ ?_ ?_ ?_ ?_ <;> simp [stumbling]

theorem sunken_under : sunken.Under scripted := by
  have greets : greeted.Under scripted := by
    refine .intro ?_ ?_ ?_ ?_ ?_ <;> simp [greeted]
  have advises : ∀ i ∈ sunken.aspect, scripted.able i ∧ ∀ c ∈ i.cases, c = greeted := by
    intro i hi
    rw [List.mem_singleton.1 hi]
    exact ⟨⟨rfl, rfl⟩, by simp [Interceptor.cases]⟩
  refine .intro (fun i hi => (advises i hi).1) ?_ ?_ (by simp [sunken]) (by simp [sunken])
  · intro i hi c hc
    rw [(advises i hi).2 c hc]
    exact greets
  · intro c hc
    have load : Loading.scriptCase (fun _ => .ok stumbling) "" false awaited = .ok c := by
      rw [List.mem_singleton.1 hc]
      rfl
    refine Loading.under_scriptCase (fun _ d loaded => ?_) (fun _ _ => rfl) load
    cases loaded
    exact stumbling_under

theorem sunken_firstState : (firstState sunken).run.Under scripted :=
  Run.under_build Aspect.under_nil _ sunken_under Aspect.under_nil

def missingText : Fault := .step "echo" [.text "missing parameter 'text' of echo"]

theorem sunken_told :
    faults (World.since (firstState sunken).world
      ((finishWith library (innerAt library 2)).exec (firstState sunken)).2.world) =
      [missingText] := by
  decide +kernel

theorem sunken_chain_told_once :
    let s := firstState sunken
    let e := (finishWith library (innerAt library 2)).exec s
    Aspect.Under scripted library.aspect ∧ s.run.Under scripted ∧
      faults (World.since s.world e.2.world) = [missingText] ∧
      ∃ run g, e.1 = .error (.fatal run g) ∧ g.isFatal = false ∧ g.isVerification = false ∧
        (Fault.fatal run g).root = missingText := by
  have stage : Aspect.Under scripted library.aspect := Aspect.under_nil
  have whole := finish_tells_once stage 2 sunken_firstState
  have told := sunken_told
  have under := sunken_firstState
  revert whole told under
  generalize firstState sunken = s
  dsimp only
  generalize (finishWith library (innerAt library 2)).exec s = e
  rintro ⟨raised, -, shape⟩ told under
  obtain ⟨f, ended⟩ := raised.2 (congrArg List.length told)
  obtain ⟨run, g, rfl, original, unverified, one⟩ := shape f ended
  have root := List.singleton_inj.1 (told.symm.trans one)
  exact ⟨stage, under, told, run, g, ended, original, unverified, root.symm⟩

end Example

end Errors

end Scenario
