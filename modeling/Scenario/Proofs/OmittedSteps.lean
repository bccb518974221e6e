import Scenario.Proofs.ObservedWorlds
import Scenario.Proofs.RelatedRuns
import Scenario.Proofs.StopFailures

/-!
# Steps that are left out

A step may be left out because its skip condition holds, because a hook refuses it, or
because the filters of its case reject it. Two cases that leave out the same steps in
different ways have runs that go abreast as long as both pass the same number of steps
at each place. A step that is skipped or refused accounts for the steps that it owns;
one that is rejected accounts for itself alone.
-/

set_option autoImplicit false

namespace Scenario
open Scenario.Act Scenario.Execution

variable {σ : Type} {stage : Stage σ} {inner : Inner σ}

namespace TraceEntry

/-- What reaches listeners and browsers. -/
def outward : TraceEntry → Bool
  | .event _ => true
  | .launch _ => true
  | .command _ _ => true
  | _ => false

end TraceEntry

namespace Step

/-- The step under a skip condition. -/
def under (condition : String) (x : Step) : Step := (x.builder.skip condition).build

def alone (condition : String) (x : Step) : Step := { x.under condition with kind := .echo }

variable {condition : String} (holds : ∀ row : Row, row.evaluate condition = true)

include holds in
theorem isSkipped_under (x : Step) (row : Row) : (x.under condition).isSkipped row = true := by
  rw [isSkipped, under, Builder.skip, text?_put_same]
  exact holds row

theorem consumed_under (r : Run) (x : Step) :
    Action.consumed r (x.under condition) = Action.consumed r x := by
  have same : (x.under condition).text? "subStep" = x.text? "subStep" :=
    x.text?_put_other condition (by decide)
  rw [Action.consumed, Action.consumed, Action.owned, Action.owned, same]
  rfl

end Step

namespace Case

def replacing (left : Step → Bool) (f : Step → Step) (c : Case) : Case :=
  { c with steps := c.steps.map fun x => if left x then f x else x }

/-- The case with a hook of its own before the steps that a pointcut selects. -/
def vetoing (p : Pointcut) (h : Hook) (c : Case) : Case :=
  { c with aspect := .hooks p (some h) none none false :: c.aspect }

def filtering (included excluded : Pointcut) (c : Case) : Case := { c with included, excluded }

end Case

/-- A hook that refuses some steps and does nothing else. -/
structure Hook.Vetoes (left : Step → Bool) (h : Hook) : Prop where
  assign : ∀ call, (h call).assign = []
  stop : ∀ call, (h call).stop = false
  result : ∀ call, (h call).result = .ok !left call.step

namespace Execution

/-- The entries of the list that a step accounts for when it is left out: it alone where
the filters reject it, else itself and the steps that it owns. -/
def passes (r : Run) (x : Step) : Nat :=
  if r.case.includes x r.row then Action.consumed r x else 1

/-- A step is done with, and nothing came of it that listeners or browsers could see. -/
def Omitted (x : Step) (s : State σ) (r : Except Fault Outcome) (t : State σ) : Prop :=
  r = .ok ⟨true, passes s.run x⟩ ∧ t.run = s.run ∧ s.world.Seems TraceEntry.outward t.world

variable {left : Step → Bool} {p : Pointcut} {h : Hook} {s : State σ} {x : Step}
  (block : Nat → Act σ Problem Bool)

theorem filtered_ends (step : s.run.step? = some x)
    (rejected : s.run.case.includes x s.run.row = false) :
    Ends (executeCurrent stage inner block) s (Omitted x s) := by
  rw [Blame.executeCurrent_iff, step]
  simp only [rejected, Bool.false_eq_true, if_false]
  refine ⟨?_, rfl, (World.Seems.refl _).unseen rfl⟩
  rw [passes, rejected]
  rfl

theorem omitted_of_step (step : s.run.step? = some x)
    (done : ∀ t : State σ, t.run = s.run → Ends (executeStep stage inner block x) t fun r u =>
      r = .ok ⟨true, Action.consumed s.run x⟩ ∧ u.run = s.run ∧
        t.world.Seems TraceEntry.outward u.world) :
    Ends (executeCurrent stage inner block) s (Omitted x s) := by
  cases included : s.run.case.includes x s.run.row with
  | false => exact filtered_ends block step included
  | true =>
    rw [Blame.executeCurrent_iff, step]
    simp only [included, if_true]
    refine ends_mono (done (s.record _) rfl) ?_
    rintro _ u ⟨rfl, run, seems⟩
    refine ⟨?_, run, .trans (.unseen (.refl _) rfl) seems⟩
    rw [passes, included]
    rfl

theorem skipped_ends (step : s.run.step? = some x) (skipped : x.isSkipped s.run.row = true) :
    Ends (executeCurrent stage inner block) s (Omitted x s) := by
  refine omitted_of_step block step fun t same => ?_
  rw [Blame.executeStep_iff, same, if_pos skipped]
  exact ⟨rfl, rfl, .refl _⟩

theorem callHook_vetoes (vetoes : h.Vetoes left) (k : AdviceKind) (s : State σ) :
    Ends (recorded true k (callHook h k x)) s fun r t =>
      r = .ok !left x ∧ t.run = s.run ∧ s.world.Seems TraceEntry.outward t.world := by
  rw [recorded_ends]
  simp only [callHook, ends_bind, ends_get, ends_modifyWorld, ends_modifyRun, vetoes.stop,
    vetoes.assign, vetoes.result, Bool.false_eq_true, if_false, ends_conclude]
  exact ⟨trivial, rfl, ((World.Seems.refl _).uncounted (fun _ => rfl) _).unseen rfl⟩

theorem vetoed_ends (vetoes : h.Vetoes left) {rest : Aspect}
    (aspect : s.run.aspect = .hooks p (some h) none none false :: rest)
    (selects : p.selects x s.run.row = true) (gone : left x = true)
    (step : s.run.step? = some x) :
    Ends (executeCurrent stage inner block) s (Omitted x s) := by
  refine omitted_of_step block step fun t same => ?_
  have advice : Aspect.advice t.run.aspect x t.run.row =
      .hooks p (some h) none none false :: Aspect.advice rest x t.run.row := by
    rw [same, aspect]
    exact List.filter_cons_of_pos selects
  rw [Blame.executeStep_iff, advice, same]
  split
  · exact ⟨rfl, rfl, .refl _⟩
  · simp only [adviseAll, ends_bind]
    refine ends_mono (callHook_vetoes vetoes .before t) ?_
    rintro _ u ⟨rfl, run, seems⟩
    simp only [gone, Bool.not_true, Bool.false_eq_true, if_false, ends_pure]
    exact ⟨trivial, run.trans same, seems⟩

end Execution

namespace Case

/-- Cases that have nothing apart but their steps, filters and advice for these steps. -/
structure Cut (c c' : Case) : Prop where
  script : c'.script = c.script
  chain : c'.chain = c.chain
  takesOver : c'.takesOver = c.takesOver
  length : c'.steps.length = c.steps.length
  sharesState : c'.sharesState = c.sharesState
  preventsContext : c'.preventsContext = c.preventsContext
  handed : ∀ row, Aspect.inherited (Aspect.freeze row c'.aspect) =
    Aspect.inherited (Aspect.freeze row c.aspect)

end Case

namespace Run

/-- Runs that have everything in common but their cases and their advice. -/
inductive Dressed (D : Discipline) (c c' : Case) (A : Aspect → Aspect → Prop) : Run → Run → Prop
  | intro (r : Run) {a a' : Aspect} (aspect : A a a')
      (under : ({ r with case := c', aspect := a' } : Run).Under D) :
      Dressed D c c' A { r with case := c, aspect := a } { r with case := c', aspect := a' }

variable {D : Discipline} {c c' : Case} {A : Aspect → Aspect → Prop}

theorem Dressed.case {r r' : Run} (h : Dressed D c c' A r r') : r.case = c := by
  cases h
  rfl

theorem Dressed.advised {r r' : Run} (h : Dressed D c c' A r r') : A r.aspect r'.aspect := by
  obtain ⟨r, aspect, _⟩ := h
  exact aspect

theorem Dressed.chainAspect (cut : c.Cut c') {r r' : Run} (h : Dressed D c c' A r r') :
    r'.chainAspect = r.chainAspect := by
  obtain ⟨r, _, _⟩ := h
  simp only [Run.chainAspect, Aspect.freeze, Aspect.inherited, List.map_append, List.filter_append]
  exact congrArg (· ++ _) (cut.handed r.row)

theorem Dressed.step? {f : Step → Step} (steps : c'.steps = c.steps.map f) {r r' : Run}
    (h : Dressed D c c' A r r') : r'.step? = r.step?.map f := by
  obtain ⟨r, _, _⟩ := h
  simp only [Run.step?, steps, List.getElem?_map]
  cases r.cursor.current? <;> rfl

theorem Dressed.includes {x y : Step} (included : ∀ row, c'.includes y row = c.includes x row)
    {r r' : Run} (h : Dressed D c c' A r r') :
    r'.case.includes y r.row = r.case.includes x r.row := by
  cases h
  exact included _

theorem Dressed.passes {x y : Step} {r r' : Run} (h : Dressed D c c' A r r')
    (same : (if c'.includes y r.row then Action.consumed r' y else 1) =
      if c.includes x r.row then Action.consumed r x else 1) :
    Execution.passes r' y = Execution.passes r x := by
  cases h
  exact same

theorem Dressed.advice {P : List (Interceptor Case) → List (Interceptor Case) → Prop} {x : Step}
    (concerted : ∀ {a a'} row, A a a' → Aspect.Under D a' →
      P (Aspect.advice a x row) (Aspect.advice a' x row)) {r r' : Run}
    (h : Dressed D c c' A r r') :
    P (Aspect.advice r.aspect x r.row) (Aspect.advice r'.aspect x r'.row) := by
  obtain ⟨r, aspect, under⟩ := h
  exact concerted r.row aspect under.aspect

theorem mem_of_step? {r : Run} {x : Step} (h : r.step? = some x) : x ∈ r.case.steps := by
  obtain ⟨i, _, hx⟩ := Option.bind_eq_some_iff.1 h
  exact List.mem_of_getElem? hx

theorem whole_dressed (cut : c.Cut c')
    (frozen : ∀ {a a'} (row : Row), A a a' → A (Aspect.freeze row a) (Aspect.freeze row a')) :
    Whole D (Dressed D c c' A) where
  name h := by cases h; rfl
  session h := by cases h; rfl
  signal h := by cases h; rfl
  row h := by cases h; rfl
  index h := by cases h; rfl
  stopped h := by cases h; rfl
  ownsSession h := by cases h; rfl
  cursor h := by cases h; rfl
  length h := by
    cases h
    exact cut.length
  script h := by
    cases h
    exact cut.script
  chain h := by
    cases h
    exact cut.chain
  takesOver h := by
    cases h
    exact cut.takesOver
  chainAspect h := h.chainAspect cut
  under h := by
    rw [← h.chainAspect cut]
    obtain ⟨r, _, under⟩ := h
    exact under.chainAspect
  children h := by
    obtain ⟨r, _, under⟩ := h
    intro d hd
    exact under.case.chain (by rwa [cut.chain])
  rowed row h := by
    obtain ⟨r, aspect, under⟩ := h
    exact .intro { r with row } aspect (under.same rfl rfl rfl)
  halted h := by
    obtain ⟨r, aspect, under⟩ := h
    exact .intro { r with cursor := r.cursor.stop } aspect (under.same rfl rfl rfl)
  stood i h := by
    obtain ⟨r, aspect, under⟩ := h
    exact .intro { r with cursor := { r.cursor with index := i } } aspect (under.same rfl rfl rfl)
  turned cursor h := by
    obtain ⟨r, aspect, under⟩ := h
    exact .intro { r with cursor } aspect (under.same rfl rfl rfl)
  aborted h := by
    obtain ⟨r, aspect, under⟩ := h
    exact .intro { r with aborted := true } aspect (under.same rfl rfl rfl)
  frozen row h := by
    obtain ⟨r, aspect, under⟩ := h
    exact .intro { r with row } (frozen row aspect)
      ⟨under.case, under.aspect.frozen row, under.inherited⟩

end Run

section Turns
variable {left : Step → Bool} {p : Pointcut} {h : Hook} {x : Step}

theorem concerted_vetoing (heeds : stage.Heeds TraceEntry.outward)
    (hstage : Aspect.Under .unaware stage.aspect)
    (hin : Respects (Abreast (World.Seems TraceEntry.outward) (Run.Same .unaware)) inner.finish)
    (vetoes : h.Vetoes left) (stays : left x = false) {l : List (Interceptor Case)}
    (under : Aspect.Under .unaware l) :
    Abreast.Concerted stage inner (World.Seems TraceEntry.outward) x
      (.hooks p (some h) none none false :: l) l := by
  have kin := World.kin_seems heeds
  have consents : ∀ (k : AdviceKind) (s : State σ),
      Ends (advise stage inner k x (.hooks p (some h) none none false)) s fun r t =>
        r = .ok true ∧ t.run = s.run ∧ s.world.Seems TraceEntry.outward t.world := by
    intro k s
    cases k with
    | before =>
      refine ends_mono (callHook_vetoes vetoes .before s) ?_
      rintro _ t ⟨rfl, same⟩
      exact ⟨by rw [stays]; rfl, same⟩
    | after => exact ⟨rfl, rfl, .refl _⟩
    | failure => exact ⟨rfl, rfl, .refl _⟩
  have closer : ∀ {V : Run → Run → Prop} {s s' t : State σ},
      Abreast (World.Seems TraceEntry.outward) V s s' → t.run = s.run →
      s.world.Seems TraceEntry.outward t.world →
      Abreast (World.Seems TraceEntry.outward) V t s' := by
    intro V s s' t both run seems
    exact ⟨seems.symm.trans both.world, by rw [run]; exact both.run⟩
  constructor
  · intro V paired k s s' both
    simp only [Both, adviseAll, ends_bind]
    refine ends_mono (consents k s) ?_
    rintro _ t ⟨rfl, run, seems⟩
    exact Abreast.respects_adviseAll kin paired hstage hin under k x t s' (closer both run seems)
  · intro V paired b s s' both
    simp only [Both, adviseEvery, ends_bind]
    refine ends_mono (consents .failure s) ?_
    rintro _ t ⟨rfl, run, seems⟩
    exact Abreast.respects_adviseEvery kin paired hstage hin under .failure x b t s'
      (closer both run seems)

/-- Cases whose steps are the same but for those that are left out of both, passing the same
number of entries. -/
theorem turns_dressed {D : Discipline} {c c' : Case} {A : Aspect → Aspect → Prop}
    {f : Step → Step} (steps : c'.steps = c.steps.map fun x => if left x then f x else x)
    (included : ∀ x row, left x = false → c'.includes x row = c.includes x row)
    (advice : ∀ x a a' row, left x = false → A a a' → Aspect.Under D a' →
      Abreast.Concerted stage inner (World.Seems TraceEntry.outward) x (Aspect.advice a x row)
        (Aspect.advice a' x row))
    (omitted : ∀ x ∈ c.steps, left x = true → ∀ s s' : State σ,
      Abreast (World.Seems TraceEntry.outward) (Run.Dressed D c c' A) s s' →
      s.run.step? = some x → s'.run.step? = some (f x) →
      passes s'.run (f x) = passes s.run x ∧ ∀ block : Nat → Act σ Problem Bool,
        Ends (executeCurrent stage inner block) s (Omitted x s) ∧
          Ends (executeCurrent stage inner block) s' (Omitted (f x) s')) :
    Abreast.Turns stage inner (World.Seems TraceEntry.outward) (Run.Dressed D c c' A) := by
  intro s s' both
  have place := both.run.step? steps
  cases step : s.run.step? with
  | none =>
    rw [step] at place
    have nowhere : ∀ {x}, s.run.step? ≠ some x := by
      intro x hx
      rw [step] at hx
      cases hx
    exact .inl ⟨place.trans step.symm, fun _ hx => absurd hx nowhere,
      fun _ hx => absurd hx nowhere⟩
  | some x =>
    rw [step] at place
    -- a step that stays is carried out on both sides, any other is passed on both
    cases gone : left x with
    | false =>
      have here : s'.run.step? = some x := by
        rw [place, Option.map_some, gone]
        rfl
      have only : ∀ {y}, s.run.step? = some y → y = x := by
        intro y hy
        rw [step] at hy
        cases hy
        rfl
      refine .inl ⟨here.trans step.symm, fun y hy => ?_, fun y hy => ?_⟩
      · obtain rfl := only hy
        exact both.run.includes fun row => included y row gone
      · obtain rfl := only hy
        exact both.run.advice fun {a a'} row aspect under => advice y a a' row gone aspect under
    | true =>
      have there : s'.run.step? = some (f x) := by
        rw [place, Option.map_some, gone]
        rfl
      have member : x ∈ c.steps := by
        have member := Run.mem_of_step? step
        rwa [both.run.case] at member
      obtain ⟨same, done⟩ := omitted x member gone s s' both step there
      refine .inr fun block => ?_
      obtain ⟨first, second⟩ := done block
      refine ends_mono first ?_
      rintro _ t ⟨rfl, run, seems⟩
      refine ends_mono second ?_
      rintro _ t' ⟨rfl, run', seems'⟩
      refine ⟨by rw [same], seems.symm.trans (both.world.trans seems'), ?_⟩
      rw [run, run']
      exact both.run

end Turns

def Pointcut.Covers (left : Step → Bool) (p : Pointcut) : Prop :=
  ∀ (rows : List Row) (x : Step) (row : Row),
    left x = true → (rows.foldr Pointcut.freeze p).selects x row = true

def Aspect.Guarded (p : Pointcut) (h : Hook) (a a' : Aspect) : Prop :=
  ∃ rows : List Row, a = .hooks (rows.foldr Pointcut.freeze p) (some h) none none false :: a'

theorem Aspect.Guarded.frozen {p : Pointcut} {h : Hook} {a a' : Aspect} (row : Row)
    (guarded : Guarded p h a a') : Guarded p h (a.freeze row) (a'.freeze row) := by
  obtain ⟨rows, rfl⟩ := guarded
  exact ⟨row :: rows, rfl⟩

section Ways
variable {c : Case} {left : Step → Bool} {condition : String} {p : Pointcut} {h : Hook}
  (heeds : stage.Heeds TraceEntry.outward) (hstage : Aspect.Under .unaware stage.aspect)
  (hin : Respects (Abreast (World.Seems TraceEntry.outward) (Run.Same .unaware)) inner.finish)
  (holds : ∀ row : Row, row.evaluate condition = true)

theorem Case.cut_vetoing (f : Step → Step) : (c.vetoing p h).Cut (c.replacing left f) where
  script := rfl
  chain := rfl
  takesOver := rfl
  length := List.length_map _
  sharesState := rfl
  preventsContext := rfl
  handed _ := rfl

theorem Case.cut_filtering (f : Step → Step) (included excluded : Pointcut) :
    (c.filtering included excluded).Cut (c.replacing left f) where
  script := rfl
  chain := rfl
  takesOver := rfl
  length := List.length_map _
  sharesState := rfl
  preventsContext := rfl
  handed _ := rfl

include heeds hstage hin holds

theorem turns_vetoing (vetoes : h.Vetoes left) (covers : p.Covers left)
    (unmoved : ∀ x row, left x = true → c.includes (x.under condition) row = c.includes x row) :
    Abreast.Turns stage inner (World.Seems TraceEntry.outward)
      (Run.Dressed .unaware (c.vetoing p h) (c.replacing left (Step.under condition))
        (Aspect.Guarded p h)) := by
  have kin := World.kin_seems heeds
  have cut : (c.vetoing p h).Cut (c.replacing left (Step.under condition)) := Case.cut_vetoing _
  have whole := Run.whole_dressed (D := .unaware) (A := Aspect.Guarded p h) cut
    fun row guarded => guarded.frozen row
  have steps : (c.replacing left (Step.under condition)).steps =
      (c.vetoing p h).steps.map fun x => if left x then x.under condition else x := rfl
  refine turns_dressed steps (fun _ _ _ => rfl) ?_ ?_
  · rintro x _ a' row stays ⟨rows, rfl⟩ under
    have advised : Aspect.Under .unaware (Aspect.advice a' x row) :=
      fun i hi => under i (List.mem_filter.1 hi).1
    simp only [Aspect.advice, List.filter_cons]
    split
    · exact concerted_vetoing heeds hstage hin vetoes stays advised
    · exact Abreast.concerted_self kin hstage hin advised x
  · intro x _ gone s s' both step step'
    obtain ⟨rows, guarded⟩ := both.run.advised
    refine ⟨both.run.passes ?_, fun block => ⟨?_, ?_⟩⟩
    · rw [Step.consumed_under, whole.toPaired.consumed both.run]
      have case : c.includes (x.under condition) s.run.row = c.includes x s.run.row :=
        unmoved x _ gone
      show (if c.includes (x.under condition) s.run.row then _ else 1) = _
      rw [case]
      rfl
    · exact vetoed_ends block vetoes guarded (covers rows x _ gone) gone step
    · exact skipped_ends block step' (Step.isSkipped_under holds x _)

omit holds in
theorem turns_filtering {f : Step → Step} (skipped : ∀ x row, (f x).isSkipped row = true)
    (single : ∀ x ∈ c.steps, left x = true → ∀ r : Run, Action.consumed r (f x) = 1)
    {included excluded : Pointcut} (rejects : ∀ x row,
      (c.filtering included excluded).includes x row = (c.includes x row && !left x)) :
    Abreast.Turns stage inner (World.Seems TraceEntry.outward)
      (Run.Dressed .unaware (c.filtering included excluded) (c.replacing left f) Eq) := by
  have kin := World.kin_seems heeds
  have steps : (c.replacing left f).steps =
      (c.filtering included excluded).steps.map fun x => if left x then f x else x := rfl
  refine turns_dressed steps (fun x row stays => ?_) ?_ ?_
  · rw [rejects, stays, Bool.not_false, Bool.and_true]
    rfl
  · rintro x a _ row - rfl under
    have advised : Aspect.Under .unaware (Aspect.advice a x row) :=
      fun i hi => under i (List.mem_filter.1 hi).1
    exact Abreast.concerted_self kin hstage hin advised x
  · intro x member gone s s' both step step'
    have rejected : (c.filtering included excluded).includes x s.run.row = false := by
      rw [rejects, gone, Bool.not_true, Bool.and_false]
    refine ⟨both.run.passes ?_, fun block => ⟨?_, ?_⟩⟩
    · rw [rejected, single x member gone]
      exact ite_self 1
    · exact filtered_ends block step (by rw [both.run.case]; exact rejected)
    · exact skipped_ends block step' (skipped x _)

end Ways

def Run.Setup.exec (stage : Stage σ) (depth : Nat) (w : World σ) (q : Run.Setup) :
    Except Fault Bool × State σ :=
  let (r, v) := Run.build stage w q
  (finishWith stage (innerAt stage depth)).exec ⟨v, r⟩

/-- Nobody but the hooks and the record of the runs can tell how two runs went. -/
structure Indistinct (e e' : Except Fault Bool × State σ) : Prop where
  result : e'.1 = e.1
  events : told e'.2.world.trace = told e.2.world.trace
  row : e'.2.run.row = e.2.run.row
  world : e.2.world.Seems TraceEntry.outward e'.2.world

theorem told_outward {l l' : List TraceEntry}
    (same : l'.filter TraceEntry.outward = l.filter TraceEntry.outward) : told l' = told l := by
  have events : ∀ l : List TraceEntry, told l = told (l.filter TraceEntry.outward) := by
    intro l
    rw [told, told, List.filterMap_reverse, List.filterMap_reverse, List.filterMap_filter]
    refine congrArg (fun f => (l.filterMap f).reverse) (funext fun e => ?_)
    cases e <;> rfl
  rw [events l', same, ← events l]

section Whole
variable {D : Discipline} {c c' : Case} {A : Aspect → Aspect → Prop}

theorem Run.dressed_build (cut : c.Cut c') (joined : ∀ l, A (c.aspect ++ l) (c'.aspect ++ l))
    (hstage : Aspect.Under D stage.aspect) {q : Run.Setup} (hc : c'.Under D)
    (hi : Aspect.Under D q.inherited) (w : World σ) :
    Dressed D c c' A (build stage w { q with case := c }).1 (build stage w { q with case := c' }).1 ∧
      (build stage w { q with case := c' }).2 = (build stage w { q with case := c }).2 := by
  have under : (build stage w { q with case := c' }).1.Under D := under_build hstage w hc hi
  have chained : c'.hasChain = c.hasChain := by
    rw [Case.hasChain, Case.hasChain, cut.chain]
  have context := cut.preventsContext
  have shares := cut.sharesState
  obtain ⟨_, g, name, row, session, inherited, chainEnabled⟩ := q
  have advised := joined (inherited ++ if c.preventsContext then [] else stage.aspect)
  cases session with
  | some given =>
    simp only [build, chained, context, List.append_assoc] at under ⊢
    exact ⟨.intro (build stage w ⟨c, g, name, row, some given, inherited, chainEnabled⟩).1 advised
      under, trivial⟩
  | none =>
    simp only [build, chained, context, shares, List.append_assoc] at under ⊢
    exact ⟨.intro (build stage w ⟨c, g, name, row, none, inherited, chainEnabled⟩).1 advised under,
      trivial⟩

/-- Runs that differ in steps that are left out of both are alike as a whole. -/
theorem indistinct_of_turns (heeds : stage.Heeds TraceEntry.outward)
    (hstage : Aspect.Under .unaware stage.aspect) (cut : c.Cut c')
    (frozen : ∀ {a a'} (row : Row), A a a' → A (Aspect.freeze row a) (Aspect.freeze row a'))
    (joined : ∀ l, A (c.aspect ++ l) (c'.aspect ++ l)) (depth : Nat)
    (turns : Abreast.Turns stage (innerAt stage depth) (World.Seems TraceEntry.outward)
      (Run.Dressed .unaware c c' A))
    {q : Run.Setup} (hc : c'.Under .unaware) (hi : Aspect.Under .unaware q.inherited) (w : World σ) :
    Indistinct (Run.Setup.exec stage depth w { q with case := c })
      (Run.Setup.exec stage depth w { q with case := c' }) := by
  have kin := World.kin_seems heeds
  have whole := Run.whole_dressed (D := .unaware) (A := A) cut frozen
  obtain ⟨hin, hchain⟩ := Abreast.respects_innerAt kin hstage depth
  have ran := Abreast.respects_finishWith kin whole hstage hin hchain turns
  obtain ⟨dressed, same⟩ := Run.dressed_build cut joined hstage hc hi w
  have start : Abreast (World.Seems TraceEntry.outward) (Run.Dressed .unaware c c' A)
      ⟨(Run.build stage w { q with case := c }).2, (Run.build stage w { q with case := c }).1⟩
      ⟨(Run.build stage w { q with case := c' }).2, (Run.build stage w { q with case := c' }).1⟩ := by
    refine ⟨?_, dressed⟩
    rw [same]
    exact .refl _
  obtain ⟨result, ended⟩ := ran _ _ start
  exact ⟨result, told_outward ended.world.trace_eq, whole.row ended.run, ended.world⟩

end Whole

theorem Case.Under.replacing {D : Discipline} {c : Case} (h : c.Under D) (left : Step → Bool)
    (f : Step → Step) : (c.replacing left f).Under D :=
  h.same rfl rfl rfl

namespace Omission

section Main
variable (heeds : stage.Heeds TraceEntry.outward) (hstage : Aspect.Under .unaware stage.aspect)

include heeds hstage

/-- Some steps of a case are skipped, or refused by a hook, or rejected by filters; else the
runs are set up alike, and the filters of the case do not go by the skip condition.
Whether the steps are skipped or refused, the result, the variables, and all that
listeners and browsers see are the same. To reject them is the same as to skip, in
their places, steps that own no others; so it makes no difference only where none of them owns
another step. A step that is skipped is done with, and so are the steps that it owns. -/
theorem omitted_alike (depth : Nat) (w : World σ) (q : Run.Setup) (hc : q.case.Under .unaware)
    (hi : Aspect.Under .unaware q.inherited) {left : Step → Bool} {condition : String}
    (holds : ∀ row : Row, row.evaluate condition = true)
    (unmoved : ∀ x row, left x = true →
      q.case.includes (x.under condition) row = q.case.includes x row)
    {p : Pointcut} {h : Hook} (vetoes : h.Vetoes left) (covers : p.Covers left)
    {included excluded : Pointcut} (rejects : ∀ x row,
      (q.case.filtering included excluded).includes x row = (q.case.includes x row && !left x)) :
    let exec := fun c : Case => Run.Setup.exec stage depth w { q with case := c }
    let skipped := q.case.replacing left (Step.under condition)
    Indistinct (exec (q.case.vetoing p h)) (exec skipped) ∧
      Indistinct (exec (q.case.filtering included excluded))
        (exec (q.case.replacing left (Step.alone condition))) ∧
      ((∀ x ∈ q.case.steps, left x = true → ∀ r : Run, Action.consumed r x = 1) →
        Indistinct (exec (q.case.filtering included excluded)) (exec skipped)) ∧
      ∀ (s : State σ) x, s.run.case = skipped → left x = true →
        s.run.step? = some (x.under condition) → q.case.includes x s.run.row = true →
        ∀ block, Ends (executeCurrent stage (innerAt stage depth) block) s fun r t =>
          r = .ok ⟨true, Action.consumed s.run x⟩ ∧ t.run = s.run ∧
            s.world.Seems TraceEntry.outward t.world := by
  intro exec skipped
  have ways := Abreast.respects_innerAt (World.kin_seems heeds) hstage depth
  have isSkipped := Step.isSkipped_under holds
  -- a filter passes a step alone, so it is like a skipped step only if that owns no others
  have filtered : ∀ f : Step → Step, (∀ x row, (f x).isSkipped row = true) →
      (∀ x ∈ q.case.steps, left x = true → ∀ r : Run, Action.consumed r (f x) = 1) →
      Indistinct (exec (q.case.filtering included excluded)) (exec (q.case.replacing left f)) := by
    intro f skips single
    have turns := turns_filtering heeds hstage ways.1 skips single rejects
    exact indistinct_of_turns heeds hstage (Case.cut_filtering f included excluded)
      (fun row same => congrArg _ same) (fun _ => rfl) depth turns (hc.replacing left f) hi w
  refine ⟨?_, filtered _ ?_ ?_, fun single => filtered _ isSkipped fun x member gone r => ?_, ?_⟩
  · have turns := turns_vetoing heeds hstage ways.1 holds vetoes covers unmoved
    exact indistinct_of_turns heeds hstage (Case.cut_vetoing (Step.under condition))
      (fun row guarded => guarded.frozen row) (fun l => ⟨[], rfl⟩) depth turns
      (hc.replacing left _) hi w
  · exact fun x row => isSkipped x row
  · exact fun x _ _ r => rfl
  · rw [Step.consumed_under]
    exact single x member gone r
  · intro s x case gone step included block
    refine ends_mono (skipped_ends block step (isSkipped x _)) ?_
    rintro r t ⟨rfl, rest⟩
    have turned : s.run.case.includes (x.under condition) s.run.row = true := by
      rw [case]
      exact (unmoved x _ gone).trans included
    refine ⟨?_, rest⟩
    rw [passes, if_pos turned, Step.consumed_under]

end Main

section Example
open Brackets

def looping : Case where
  script := { name := "looping" }
  steps := [{ kind := .loop, texts := [("count", "2"), ("subStep", "1")] },
    { kind := .echo, texts := [("text", "inside")] },
    { kind := .echo, texts := [("text", "outside")] }]

def isLoop (x : Step) : Bool := x.kind == .loop

def noLoops : Hook := fun call => { result := .ok !isLoop call.step }

def startedIn (e : Except Fault Bool × State Unit) : List Event :=
  (told e.2.world.trace).filter fun
    | .started _ => true
    | _ => false

/-- A loop is left out of a case with the step that it owns where it is skipped or refused. -/
theorem skipped_loop_alike :
    let exec := fun c : Case =>
      Run.Setup.exec bare 1 { browser := () } { case := c, signal := ⟨0, []⟩ }
    Indistinct (exec (looping.vetoing .any noLoops))
        (exec (looping.replacing isLoop (Step.under "true"))) ∧
      startedIn (exec (looping.vetoing .any noLoops)) = [.started "echo text:outside"] := by
  have holds : ∀ row : Row, row.evaluate "true" = true := by
    intro row
    rw [Row.evaluate, row.evaluateString_eq_self (by decide +kernel) (by decide +kernel)]
    decide +kernel
  have under : looping.Under .unaware := by
    refine .intro ?_ ?_ ?_ ?_ ?_ <;> simp [looping]
  have covers : Pointcut.any.Covers isLoop := by
    intro rows x row _
    have same : rows.foldr Pointcut.freeze .any = .any := by
      induction rows with
      | nil => rfl
      | cons row rows ih =>
        rw [List.foldr_cons, ih]
        rfl
    rw [same]
    rfl
  have heeds : bare.Heeds TraceEntry.outward := by
    rintro _ ⟨⟩
  have unmoved : ∀ x row, isLoop x = true →
      looping.includes (x.under "true") row = looping.includes x row := fun _ _ _ => rfl
  have vetoes : noLoops.Vetoes isLoop := ⟨fun _ => rfl, fun _ => rfl, fun _ => rfl⟩
  have rejects : ∀ x row, (looping.filtering .any (.custom fun x _ => isLoop x)).includes x row =
      (looping.includes x row && !isLoop x) := fun _ _ => rfl
  obtain ⟨alike, _⟩ := omitted_alike heeds Aspect.under_nil 1 { browser := () }
    { case := looping, signal := ⟨0, []⟩ } under Aspect.under_nil holds unmoved vetoes covers rejects
  exact ⟨alike, by decide +kernel⟩

/-- Where filters reject a loop, the step that it owns runs on its own. -/
theorem rejected_loop_leaves_steps :
    let exec := fun c : Case =>
      Run.Setup.exec bare 1 { browser := () } { case := c, signal := ⟨0, []⟩ }
    startedIn (exec (looping.filtering .any (.kind ["loop"]))) =
        [.started "echo text:inside", .started "echo text:outside"] ∧
      startedIn (exec (looping.replacing isLoop (Step.under "true"))) =
        [.started "echo text:outside"] ∧
      startedIn (exec (looping.vetoing .any noLoops)) = [.started "echo text:outside"] := by
  decide +kernel

end Example

end Omission

end Scenario
