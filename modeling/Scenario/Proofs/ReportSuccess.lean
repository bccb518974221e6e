import Scenario.Proofs.CaseDisciplines
import Scenario.Proofs.RunFrame
import Scenario.Proofs.ToldProblems

/-!
# Reports of runs without hooks

Where all advice is given by cases, the listeners are told of every problem. A
report of a run that failed still claims success in one case: a fault that was
told of when every suite had been closed, and nothing else went wrong. A run
tells so of a chained case that cannot be read or whose rows cannot be read,
because its own suite is closed by then.
-/

set_option autoImplicit false

namespace Scenario
open Scenario.Execution Scenario.Recorder

variable {σ : Type} {stage : Stage σ}

inductive Case.Hookless : Case → Prop
  | intro {c : Case} (byCase : ∀ i ∈ c.aspect, i.isHooks = false)
      (advice : ∀ i ∈ c.aspect, ∀ d ∈ i.cases, Hookless d) (chain : ∀ d ∈ c.chain, Hookless d)
      (read : ∀ f, c.resolve = some f → ∀ row d, f row = .ok d → Hookless d) : Hookless c

namespace Interceptor

structure Hookless (i : Interceptor Case) : Prop where
  byCase : i.isHooks = false
  cases : ∀ c ∈ i.cases, c.Hookless

end Interceptor

def Aspect.Hookless (a : Aspect) : Prop := ∀ i ∈ a, i.Hookless

structure Run.Hookless (r : Run) : Prop where
  case : r.case.Hookless
  aspect : Aspect.Hookless r.aspect
  inherited : Aspect.Hookless r.inherited

def unhooked : Discipline where
  able := fun i => i.isHooks = false
  refuses := fun _ => True
  freeze := by
    intro i row h
    cases i with
    | script _ _ _ _ _ => exact h
    | hooks _ _ _ _ _ => cases h

theorem Case.hookless_iff {c : Case} : c.Hookless ↔ c.Under unhooked := by
  constructor
  · intro h
    induction h with
    | intro byCase _ _ _ advice chain read =>
      exact .intro byCase advice chain (fun _ _ _ _ _ => trivial) read
  · intro h
    induction h with
    | intro byCase _ _ _ _ advice chain read => exact .intro byCase advice chain read

theorem Interceptor.hookless_iff {i : Interceptor Case} : i.Hookless ↔ i.Under unhooked :=
  ⟨fun h => ⟨h.byCase, fun c hc => Case.hookless_iff.1 (h.cases c hc)⟩,
    fun h => ⟨h.able, fun c hc => Case.hookless_iff.2 (h.cases c hc)⟩⟩

theorem Aspect.hookless_iff {a : Aspect} : a.Hookless ↔ a.Under unhooked :=
  forall₂_congr fun _ _ => Interceptor.hookless_iff

theorem Run.hookless_iff {r : Run} : r.Hookless ↔ r.Under unhooked :=
  ⟨fun h => ⟨Case.hookless_iff.1 h.case, Aspect.hookless_iff.1 h.aspect,
      Aspect.hookless_iff.1 h.inherited⟩,
    fun h => ⟨Case.hookless_iff.2 h.case, Aspect.hookless_iff.2 h.aspect,
      Aspect.hookless_iff.2 h.inherited⟩⟩

namespace Reports
open Account State

/-- No hook raised a fault. -/
def Unhooked (l : List TraceEntry) : Prop := ∀ k f, .adviceRaised true k f ∉ l

theorem additive : Additive Unhooked where
  append := by
    intro l l' h h' k f hm
    rcases List.mem_append.1 hm with hm | hm
    · exact h' k f hm
    · exact h k f hm
  silent := fun h k f hm => by cases h _ hm

theorem unhooked_single {e : TraceEntry} (he : ∀ k f, e ≠ .adviceRaised true k f) :
    Unhooked [e] := by
  intro k f hm
  exact he k f (List.mem_singleton.1 hm).symm

theorem unhooked_halts {l : List TraceEntry} (h : Unhooked l) (hs : Frame.Unstopped l) :
    halts l = false := by
  refine halts_eq_false fun e he => ?_
  cases e with
  | adviceRaised byHook k f =>
    cases byHook with
    | true => exact absurd he (h k f)
    | false => rfl
  | endedStopped => exact absurd he hs
  | _ => rfl

theorem unhooked_hookErred {l : List TraceEntry} (h : Unhooked l) : ¬ HookErred l := by
  rintro ⟨k, f, hm, _⟩
  exact h k f hm

structure Quiet (s : State σ) (r : Run) (t : State σ) : Prop where
  along : Along Unhooked s t
  hookless : s.run.Hookless → r.Hookless

theorem quiet_trans {s t u : State σ} {r : Run} (h : Quiet s t.run t) (h' : Quiet t r u) :
    Quiet s r u :=
  ⟨along_trans additive h.along h'.along, h'.hookless ∘ h.hookless⟩

theorem quiet_same {s t : State σ} {r : Run} (h : Along Unhooked s t)
    (hc : r.case = s.run.case) (ha : r.aspect = s.run.aspect)
    (hi : r.inherited = s.run.inherited) : Quiet s r t := by
  refine ⟨h, fun hs => ⟨?_, ?_, ?_⟩⟩
  · rw [hc]
    exact hs.case
  · rw [ha]
    exact hs.aspect
  · rw [hi]
    exact hs.inherited

theorem quiet_move {s t : State σ} (h : Move stage s t) : Quiet s t.run t := by
  have along : Along Unhooked s t := along_move additive h
  cases h <;> exact quiet_same along rfl rfl rfl

theorem quiet_entry {s : State σ} {e : TraceEntry} (he : ∀ k f, e ≠ .adviceRaised true k f) :
    Quiet s s.run (s.record e) :=
  quiet_same (along_record (unhooked_single he)) rfl rfl rfl

theorem quiet_event (s : State σ) (e : Event) : Quiet s s.run (s.emit stage e) :=
  quiet_same (along_emit (unhooked_single (by simp))) rfl rfl rfl

theorem quiet_around {s t : State σ} {r : Run} {e : Event} (f : Event)
    (h : Quiet (s.emit stage e) r t) : Quiet s r (t.emit stage f) := by
  have before : Quiet s (s.emit stage e).run (s.emit stage e) := quiet_event s e
  have after : Along Unhooked t (t.emit stage f) := along_emit (unhooked_single (by simp))
  have inner := quiet_trans before h
  exact ⟨along_trans additive inner.along after, inner.hookless⟩

theorem quiet_frame {s t u : State σ} {r : Run} (h : Quiet s r t) (h' : Along Unhooked t u) :
    Quiet s r u := ⟨along_trans additive h.along h', h.hookless⟩

theorem quiet_after {s t : State σ} (h : Along Unhooked s t) : Quiet s s.run t :=
  quiet_same h rfl rfl rfl

theorem quiet_givenBack {s t : State σ} (h : Quiet s t.run t) (c : Case) (last : Run) :
    Quiet s (givenBack stage c last t).run (givenBack stage c last t) := by
  rw [Course.givenBack_run]
  exact quiet_frame h (along_givenBack additive c last t)

def plain (σ : Type) : Plain σ where
  ready := fun s => s.run.Hookless
  able := Interceptor.Hookless
  moves := fun s t => Quiet s t.run t
  rejects := fun s t => Quiet s t.run t
  whole := fun s t => Quiet s t.run t
  left := fun _ last s t => Quiet s t.run t ∧ Quiet s last t

section Lawful
variable (hstage : Aspect.Hookless stage.aspect)
include hstage

theorem hookless_adviceStart {s : State σ} {i : Interceptor Case} {c : Case} (p : Step)
    (k : AdviceKind) (hi : i.Hookless) (hc : c ∈ i.cases) :
    (adviceStart stage s c p k).run.Hookless :=
  Run.hookless_iff.2
    (under_adviceStart (Aspect.hookless_iff.1 hstage) p k (Interceptor.hookless_iff.1 hi) hc)

theorem hookless_rowStart {s : State σ} {rows : Rows} (n : Nat) (row : Row) (isLast : Bool)
    (hs : s.run.Hookless) (hr : Suits stage rows s) :
    (rowStart stage rows n row isLast s).run.Hookless :=
  Run.hookless_iff.2
    (under_rowStart (Aspect.hookless_iff.1 hstage) n row isLast (Run.hookless_iff.1 hs) hr)

theorem lawful : (plain σ).Lawful stage where
  refl := fun _ => quiet_after (along_same additive rfl)
  trans := quiet_trans
  trans_rejects := quiet_trans
  ready := fun hs h => h.hookless hs
  able := fun hs hi => hs.aspect _ hi
  move := fun _ h => quiet_move h
  told := fun _ hs => hs
  failure := fun _ _ => quiet_event _ _
  error := fun _ _ => quiet_event _ _
  step := fun _ h => quiet_around _ h
  suite := fun _ h => quiet_around _ h
  rejected := fun _ h h' => quiet_trans (quiet_trans (quiet_event _ _) h) h'
  hookAnswered := fun _ _ _ hi hh => absurd hh (by simp [hi.byCase])
  caseAnswered := fun _ _ _ => quiet_entry (by simp)
  hookRaised := fun _ _ _ hi hh => absurd hh (by simp [hi.byCase])
  caseRaised := by
    intro s k f _
    cases k <;> exact quiet_entry (by simp)
  advice := fun p k _ hi hc => hookless_adviceStart hstage p k hi hc
  adviceDone := by
    intro s c p k v _ h
    have begun : Along Unhooked s (adviceStart stage s c p k) :=
      along_record (unhooked_single (by simp))
    exact quiet_after (along_trans additive begun h.along)
  prepared := by
    intro s _
    exact ⟨along_same additive rfl, fun hs => Run.hookless_iff.2 (Run.hookless_iff.1 hs).prepared⟩
  aborted := fun _ => quiet_same (along_same additive rfl) rfl rfl rfl
  chainCalled := fun _ => quiet_same (along_same additive rfl) rfl rfl rfl
  reached := fun _ _ _ => quiet_entry (by simp)
  released := by
    intro s t _ h
    have along : Along Unhooked t (t.released stage) := along_released additive t
    have released : Quiet t (t.released stage).run (t.released stage) :=
      quiet_same along rfl rfl rfl
    exact quiet_trans h released
  stopSeen := fun _ h _ => quiet_trans h (quiet_entry (by simp))
  rowReady := fun n row isLast hs hr => hookless_rowStart hstage n row isLast hs hr
  rowLeft := by
    intro s v rows n row isLast hs hr h
    have row : v.run.Hookless := h.hookless (hookless_rowStart hstage _ _ _ hs hr)
    exact ⟨quiet_after (along_row h.along), along_row h.along, fun _ => row⟩
  rowDone := fun _ _ h _ => quiet_after (along_row h.along)
  rowRaised := by
    intro s v rows n row isLast _ _ h
    have along := along_rowRaised additive h.along
    rw [rowRaised] at along ⊢
    split
    · rename_i hq
      rw [if_pos hq] at along
      exact quiet_after along
    · exact quiet_after (along_row h.along)
  left_trans := fun h h' => ⟨quiet_trans h h'.1, quiet_trans h h'.2⟩
  left_suite := fun _ h => ⟨quiet_around _ h.1, quiet_around _ h.2⟩
  left_ready := fun hs h => h.2.hookless hs
  dropped := fun _ h => quiet_givenBack h.1 _ _
  deferred := by
    intro s t v c last _ h _ hv
    have along : Along Unhooked t (t.after v) := hv.along
    have chain : Quiet t (t.after v).run (t.after v) := quiet_after along
    exact quiet_givenBack (quiet_trans h.1 chain) c last

end Lawful

section Report
variable {es : List Event} (name : String)

theorem report_shut (h : Shut es) :
    ((ofEvents es).report name).success = true ↔ ¬ (ofEvents es).Blamed := by
  refine report_success name (List.eq_nil_of_length_eq_zero ?_)
  exact h {}

/-- Told outside of every suite a fault leaves no mark. -/
theorem ofEvents_late {pre : List Event} (f : Fault) (h : (ofEvents pre).stack = []) :
    ofEvents (pre ++ [.error f]) = ofEvents pre := by
  rw [ofEvents_eq_hear, hear_append]
  exact (hears_apply (ofEvents pre) (.error f)).problem rfl h

end Report

/-- The report of a run without hooks that failed, where no run was stopped, claims
success if and only if all that was told of a problem is the fault that ended the run,
told when every suite had been closed. -/
theorem report_success_iff (hstage : Aspect.Hookless stage.aspect) (depth : Nat) {s : State σ}
    (hs : s.run.Hookless) (name : String) :
    let e := (finishWith stage (innerAt stage depth)).exec s
    let es := told (World.since s.world e.2.world)
    e.1 ≠ .ok true → Undisturbed s e.2 →
      (((ofEvents es).report name).success = true ↔
        ∃ pre f run, es = pre ++ [.error f] ∧ (ofEvents pre).stack = [] ∧
          ((ofEvents pre).report name).success = true ∧ e.1 = .error (f.inRun run)) := by
  intro e es failed calm
  have quiet : Quiet s e.2.run e.2 := Plain.finish_ends (lawful hstage) depth hs
  have unhooked : Unhooked (World.since s.world e.2.world) := along_since quiet.along
  obtain ⟨linked, fatal⟩ := Telling.finish_linked stage depth s
  have unstopped : Frame.Unstopped (World.since s.world e.2.world) :=
    Frame.finish_unstopped stage depth s calm
  have ended : Ended (World.since s.world e.2.world) e.1 := along_since linked
  -- all suites are closed at the end, so success is the lack of blame
  have unblamed : ((ofEvents es).report name).success = true ↔ ¬ (ofEvents es).Blamed :=
    report_shut name ended.closed.shut
  constructor
  · intro success
    have clean : ¬ Failed es := fun h => unblamed.1 success (h {})
    revert ended failed fatal
    generalize e.1 = r
    intro failed fatal ended
    rcases r with f | _ | _
    -- the fault was raised by a hook, or blamed a suite, or came when no suite was open
    · rcases ended.known with erred | ⟨_, _, failed | late⟩
      · exact absurd erred (unhooked_hookErred unhooked)
      · exact absurd failed clean
      · obtain ⟨pre, g, hes, shut, cause⟩ := late
        have stack : (ofEvents pre).stack = [] := List.eq_nil_of_length_eq_zero (shut {})
        have same : ofEvents es = ofEvents pre := by
          rw [show es = pre ++ [.error g] from hes]
          exact ofEvents_late g stack
        rw [same] at success
        rcases cause with rfl | ⟨run, rfl⟩
        · exact ⟨pre, f, "", hes, stack, success, by rw [Fault.inRun_of_isFatal (fatal f rfl)]⟩
        · exact ⟨pre, g, run, hes, stack, success, rfl⟩
    · rcases Denied.failed ended with failed | halted
      · exact absurd failed clean
      · rw [unhooked_halts unhooked unstopped] at halted
        cases halted
    · exact absurd rfl failed
  · rintro ⟨pre, f, run, hes, stack, success, _⟩
    rw [hes, ofEvents_late f stack]
    exact success

section Example
open Brackets

def unread : Case where
  script := { name := "script" }
  steps := [{ kind := .echo, texts := [("text", "hi")] }]
  chain := [{ script := { name := "child" }, loader := { source := "csv", dir := "" } }]

theorem unread_hookless : unread.Hookless := by
  have child : ∀ d ∈ unread.chain, d.aspect = [] ∧ d.chain = [] ∧ d.resolve = none := by
    intro d hd
    rw [List.mem_singleton.1 hd]
    exact ⟨rfl, rfl, rfl⟩
  refine .intro (by simp [unread]) (by simp [unread]) (fun d hd => ?_) (by simp [unread])
  obtain ⟨aspect, chain, read⟩ := child d hd
  exact .intro (by simp [aspect]) (by simp [aspect]) (by simp [chain]) (by simp [read])

theorem unread_firstState : (firstState unread).run.Hookless := by
  have case : unread.Under unhooked := Case.hookless_iff.1 unread_hookless
  exact Run.hookless_iff.2 (Run.under_build Aspect.under_nil _ case Aspect.under_nil)

theorem unread_aborted : ∃ f, ((finish bare).exec (firstState unread)).1 = .error f := by
  have failed : ((finish bare).exec (firstState unread)).1.isOk = false := by decide +kernel
  revert failed
  cases ((finish bare).exec (firstState unread)).1 with
  | ok b => exact fun failed => by cases failed
  | error f => exact fun _ => ⟨f, rfl⟩

theorem unread_chain_reported_late :
    let s := firstState unread
    let e := (finish bare).exec s
    let es := told (World.since s.world e.2.world)
    Aspect.Hookless bare.aspect ∧ s.run.Hookless ∧ e.1 ≠ .ok true ∧ Undisturbed s e.2 ∧
      ∃ pre f run, es = pre ++ [.error f] ∧ (ofEvents pre).stack = [] ∧
        ((ofEvents pre).report "script").success = true ∧ e.1 = .error (f.inRun run) := by
  intro s e es
  have stage : Aspect.Hookless bare.aspect := fun _ hm => by cases hm
  obtain ⟨f, aborted⟩ : ∃ f, e.1 = .error f := unread_aborted
  have failed : e.1 ≠ .ok true := by simp [aborted]
  have calm : Undisturbed s e.2 := ⟨by decide +kernel, by decide +kernel⟩
  refine ⟨stage, unread_firstState, failed, calm, ?_⟩
  refine (report_success_iff stage depthLimit unread_firstState "script" failed calm).1 ?_
  decide +kernel

theorem unread_chain_goes_unreported :
    let s := firstState unread
    let e := (finish bare).exec s
    s.run.Hookless ∧ Undisturbed s e.2 ∧ (∃ f, e.1 = .error f) ∧
      ((ofEvents (told (World.since s.world e.2.world))).report "script").success = true := by
  intro s e
  refine ⟨unread_firstState, ⟨?_, ?_⟩, unread_aborted, ?_⟩
  · decide +kernel
  · decide +kernel
  · decide +kernel

end Example

end Reports

end Scenario
