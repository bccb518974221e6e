import Scenario.Proofs.PartLaws

/-!
# The number of a round

All loops of a run count their rounds in one variable, which holds the number of the
round that began last. A step in the body of a loop sees the number of its own
round as long as no loop inside has begun a round before it.
-/

set_option autoImplicit false

namespace Scenario
open Scenario.Act Scenario.Execution Scenario.Account

variable {σ : Type} {stage : Stage σ} {depth : Nat}

namespace Visiting

def loopKey : String := "_loopCount"

def count? (s : State σ) : Option String := s.run.row.get? loopKey

/-- The run counts the rounds that its loops begin. -/
structure Counts (s t : State σ) : Prop where
  aspect : t.run.aspect = s.run.aspect
  counted : Along (fun l => Level l ∧
    count? t = ((ownRounds l).head?.map Text.natText).or (count? s)) s t

section Counts
variable {s t u : State σ}

theorem Counts.trans (h : Counts s t) (h' : Counts t u) : Counts s u where
  aspect := h'.aspect.trans h.aspect
  counted := by
    refine along_seq h.counted h'.counted ?_
    rintro l l' ⟨level, counted⟩ ⟨level', counted'⟩
    apply And.intro (level_append level level').1
    rw [counted', counted, ownRounds_append level, List.head?_append, Option.map_or,
      Option.or_assoc]

theorem counts_same (aspect : t.run.aspect = s.run.aspect) (same : count? t = count? s)
    (none : Along (fun l => Level l ∧ ownRounds l = []) s t) : Counts s t where
  aspect := aspect
  counted := by
    refine along_mono none fun l h => ⟨h.1, ?_⟩
    rw [h.2, same]
    rfl

theorem counts_idle (aspect : t.run.aspect = s.run.aspect) (same : count? t = count? s)
    (idle : Along Idle s t) : Counts s t :=
  counts_same aspect same (along_mono idle fun _ h => ⟨h.level, h.rounds⟩)

theorem counts_heeds (h : Heeds loopKey s t) (spared : s.run.aspect.Spares loopKey) : Counts s t :=
  counts_idle h.aspect (h.spared spared) h.idle

theorem counts_turned (s : State σ) (i : Nat) : Counts s (s.record (.turned i)) :=
  counts_same rfl rfl (along_record ⟨(level_single fun _ _ => by
    simp [TraceEntry.scan, TraceEntry.halts]).1, rfl⟩)

theorem counts_started (p : Step) (s : State σ) : Counts s (started stage p s) :=
  counts_same rfl rfl (along_emit ⟨(level_single fun _ _ => by simp [TraceEntry.halts]).1, rfl⟩)

theorem counts_counted (s : State σ) (i : Nat) : Counts s (Blame.counted s i) where
  aspect := rfl
  counted := by
    refine ⟨[.round i], rfl, (level_silent (by simp [Silent, TraceEntry.silent])).1, ?_⟩
    exact s.run.row.get?_put_same loopKey (Text.natText i)

theorem counts_works (h : Works s t) : Counts s t := by
  apply counts_idle
  · rw [h.run]
  · rw [count?, h.run, count?]
  · exact along_mono h.calls fun _ => idle_calls

theorem counts_assigns {name : String} (h : Assigns name s t) (other : name ≠ loopKey) :
    Counts s t := by
  obtain ⟨v, run⟩ := h.run
  apply counts_idle
  · rw [run]
  · rw [count?, run]
    exact Row.get?_put_other s.run.row v other.symm
  · exact along_mono h.calls fun _ => idle_calls

theorem counts_shift (h : Shift s t) (spares : s.run.aspect.Spares loopKey) : Counts s t := by
  cases h with
  | heeded h => exact counts_heeds (h loopKey) spares
  | noticed => exact counts_idle rfl rfl ⟨[], rfl, idle_nil⟩
  | stood i => exact counts_idle rfl rfl ⟨[], rfl, idle_nil⟩
  | turned i => exact counts_turned s i
  | counted i => exact counts_counted s i

end Counts

/-- No step that the part visits assigns the variable of loops. -/
def Unassigned (stage : Stage σ) (inner : Inner σ) (part : Part) (s : State σ) : Prop :=
  ∀ o u, Visits stage inner part s o u → u.run.assigned? ≠ some loopKey

theorem Unassigned.inside {inner : Inner σ} {part part' : Part} {s u : State σ}
    (free : Unassigned stage inner part s) (inside : Inside stage inner part s part' u) :
    Unassigned stage inner part' u := by
  intro o v visit
  obtain ⟨o', visit'⟩ := inside o v visit
  exact free o' v visit'

/-- Where hooks and steps leave the variable alone, every part of a run counts its rounds. -/
theorem counting (stage : Stage σ) (depth : Nat) :
    Passage stage (innerAt stage depth) fun part s t =>
      s.run.aspect.Spares loopKey → Unassigned stage (innerAt stage depth) part s → Counts s t := by
  have begun : ∀ {s u : State σ} {p : Step}, Begins stage (innerAt stage depth) s p u →
      s.run.aspect.Spares loopKey → Counts s (started stage p u) := by
    intro s u p begins spares
    have heeded := counts_heeds (begins.heeds loopKey) spares
    exact ((counts_turned s _).trans heeded).trans (counts_started p u)
  constructor
  · exact fun moved spares _ => counts_shift moved spares
  · intro part s u t came moved spares free
    have counted := came spares free
    exact counted.trans (counts_shift moved (counted.aspect ▸ spares))
  · intro part part' s u t came inside went spares free
    have counted := came spares free
    exact counted.trans (went (counted.aspect ▸ spares) (free.inside inside))
  · exact fun begins spares _ => begun begins spares
  · intro level s p u t begins acted spares free
    apply (begun begins spares).trans
    cases acted with
    | worked h => exact counts_works h
    | assigned known h =>
      apply counts_assigns h
      rintro rfl
      exact free none _ (.here begins) known

/-- A step in the body of a loop finds the number of its round in the variable of loops, if no
loop in the body has begun a round earlier in it; otherwise it finds the number of the last
of those. Hooks and the steps of the round are to leave the variable alone. -/
theorem loop_count_seen {part : Part} {s t : State σ} {r : Round σ}
    (visit : Visits stage (innerAt stage depth) part s (some r) t)
    (spares : s.run.aspect.Spares loopKey)
    (unassigned : Unassigned stage (innerAt stage depth) r.part r.began) :
    t.run.row.get? loopKey = some (Text.natText
      ((ownRounds (World.since r.began.world t.world)).head?.getD r.number)) := by
  have kept : s.run.Kept r.began.run := visit.kept.2 r rfl
  have counts : Counts r.began t :=
    (counting stage depth).visited visit (by rwa [kept.aspect]) unassigned
  have number : count? r.began = some (Text.natText r.number) :=
    r.before.run.row.get?_put_same loopKey (Text.natText r.number)
  obtain ⟨_, counted⟩ := along_since counts.counted
  rw [number] at counted
  rw [← count?, counted]
  cases (ownRounds (World.since r.began.world t.world)).head? with
  | none => rfl
  | some last => rfl

theorem unassigned_of_steps {part : Part} {s : State σ}
    (steps : ∀ p ∈ s.run.case.steps, p.kind.stores = false) :
    Unassigned stage (innerAt stage depth) part s := by
  intro o u visit assigned
  have case : u.run.case = s.run.case := visit.kept.1.case
  rw [Run.assigned?] at assigned
  cases here : u.run.step? with
  | none =>
    rw [here] at assigned
    cases assigned
  | some p =>
    obtain ⟨i, _, member⟩ := Option.bind_eq_some_iff.1 here
    rw [case] at member
    rw [here] at assigned
    simp [steps p (List.mem_of_getElem? member)] at assigned

section Example
open Brackets

def countedTwice : Step where
  kind := .loop
  texts := [("count", "2"), ("subStep", "3")]

def countedThrice : Step where
  kind := .loop
  texts := [("count", "3"), ("subStep", "1")]

def printed (text : String) : Step where
  kind := .echo
  texts := [("text", text)]

/-- Two rounds of a loop over three steps, the first of which is itself a loop of three rounds
over the step after it. -/
def nestedLoops : Case where
  script := { name := "loops" }
  steps := [countedTwice, countedThrice, printed "inner", printed "outer"]

section Computed
variable {ε α : Type} {a : Act σ ε α} {s : State σ}

theorem result_of_toOption {r : Except ε α} {x : α} (h : r.toOption = some x) : r = .ok x := by
  cases r with
  | ok y => exact congrArg Except.ok (Option.some.inj h)
  | error e => cases h

theorem exec_of_toOption {x : α} (h : (a.exec s).1.toOption = some x) :
    a.exec s = (.ok x, (a.exec s).2) :=
  Prod.ext (result_of_toOption h) rfl

theorem exec_of_outcome {a : Act σ ε Outcome} {b : Bool} {n : Nat}
    (h : ((a.exec s).1.toOption.map fun o => (o.success, o.consumed)) = some (b, n)) :
    a.exec s = (.ok ⟨b, n⟩, (a.exec s).2) := by
  obtain ⟨o, ho, same⟩ := Option.map_eq_some_iff.1 h
  cases same
  exact exec_of_toOption ho

theorem visits_part {inner : Inner σ} {part part' : Part} {t : State σ} {o : Option (Round σ)}
    (same : part = part') (visit : Visits stage inner part' s o t) :
    Visits stage inner part s o t := same ▸ visit

end Computed

theorem outer_visited :
    ∃ (r : Round Unit) (t : State Unit),
      Visits bare (innerAt bare 1) (.steps 5) ((firstState nestedLoops).begun bare) (some r) t ∧
        r.number = 1 ∧ t.run.step? = some (printed "outer") ∧
        t.run.row.get? loopKey = some "3" := by
  apply Exists.intro
  apply Exists.intro
  apply And.intro
  · apply Visits.next (exec_of_toOption (by decide +kernel))
    apply Visits.loop (p := countedTwice) (n := 2)
      ⟨by decide +kernel, by decide +kernel, by decide +kernel,
        exec_of_toOption (by decide +kernel)⟩ rfl (result_of_toOption (by decide +kernel))
    apply Visits.round (o := none) (by decide +kernel)
    apply Visits.top
    apply Visits.block (show _ = some 0 by decide +kernel)
    apply visits_part (show _ = Part.walk 4 3 4 1 by decide +kernel)
    -- the inner loop goes through its rounds before the last step has its turn
    apply Visits.past (by decide) (by decide +kernel)
      (exec_of_outcome (b := true) (n := 2) (by decide +kernel))
    apply Visits.step (by decide) (by decide +kernel)
    apply Visits.here (p := printed "outer")
    exact ⟨by decide +kernel, by decide +kernel, by decide +kernel,
      exec_of_toOption (by decide +kernel)⟩
  · exact ⟨rfl, by decide +kernel, by decide +kernel⟩

theorem nested_unassigned {part : Part} {r : Round Unit} {t : State Unit}
    (visit : Visits bare (innerAt bare 1) part ((firstState nestedLoops).begun bare) (some r) t) :
    Unassigned bare (innerAt bare 1) r.part r.began := by
  apply unassigned_of_steps
  have case : r.began.run.case = nestedLoops := (visit.kept.2 r rfl).case
  rw [case]
  decide

theorem outer_round_counted :
    ∃ (r : Round Unit) (t : State Unit),
      Visits bare (innerAt bare 1) (.steps 5) ((firstState nestedLoops).begun bare) (some r) t ∧
        t.run.row.get? loopKey = some (Text.natText
          ((ownRounds (World.since r.began.world t.world)).head?.getD r.number)) := by
  obtain ⟨r, t, visit, _⟩ := outer_visited
  refine ⟨r, t, visit, loop_count_seen visit ?_ (nested_unassigned visit)⟩
  intro i hi
  cases hi

/-- A step of a loop does not find the number of its own round where a loop before it in the
same body has gone through rounds. -/
theorem outer_round_overwritten :
    ¬ ∀ (r : Round Unit) (t : State Unit),
      Visits bare (innerAt bare 1) (.steps 5) ((firstState nestedLoops).begun bare) (some r) t →
        Unassigned bare (innerAt bare 1) r.part r.began →
          t.run.row.get? loopKey = some (Text.natText r.number) := by
  intro claimed
  obtain ⟨r, t, visit, first, _, found⟩ := outer_visited
  have own := claimed r t visit (nested_unassigned visit)
  rw [found, first] at own
  exact absurd own (by decide +kernel)

end Example

end Visiting

end Scenario
