import Mathlib.Logic.Relation
import Scenario.Proofs.CursorMoves

/-!
# How a run goes through its steps

The parts of a run enter one another: the list its next step, a flow step a block of
steps after it, the block each of those. Whatever the steps claim to own, the run
stands on the step that is executed, a block enters steps further on alone, and the
list is left after no more turns than it has steps.
-/

set_option autoImplicit false

namespace Scenario
open Scenario.Act Scenario.Execution Relation

variable {σ : Type} {stage : Stage σ} {depth : Nat}

namespace Visiting

section Relation
variable (stage : Stage σ) (inner : Inner σ)

/-- One part of a run enters another, or goes on with what is left of it. -/
inductive Enters : Part × State σ → Part × State σ → Prop
  | next {left : Nat} {s u : State σ}
      (more : (hasNext : Act σ Fault Bool).exec s = (.ok true, u)) :
      Enters (.steps (left + 1), s) (.current none, u.standing u.run.cursor.startStep.index)
  | onward {left : Nat} {s u v : State σ} {c : Bool}
      (more : (hasNext : Act σ Fault Bool).exec s = (.ok true, u))
      (past : (Execution.next stage inner).exec u = (.ok c, v)) :
      Enters (.steps (left + 1), s) (.steps left, v)
  | loop {level : Option Nat} {s u : State σ} {p : Step} {n : Nat}
      (begins : Begins stage inner s p u) (kind : p.kind = .loop)
      (count : ((Act.text "count" >>= Action.number).exec (started stage p u)).1 = .ok n) :
      Enters (.current level, s) (.rounds level (Action.owned u.run p) n 1, started stage p u)
  | branch {level : Option Nat} {s u : State σ} {p : Step} {condition : String}
      (begins : Begins stage inner s p u) (kind : p.kind = .branch)
      (text : p.text? "condition" = some condition)
      (holds : u.run.row.evaluate condition = true) :
      Enters (.current level, s) (.block level (Action.owned u.run p), started stage p u)
  | round {level : Option Nat} {size left i : Nat} {s : State σ}
      (running : s.isStopped = false) :
      Enters (.rounds level size (left + 1) i, s) (.block level size, Blame.counted s i)
  | again {level : Option Nat} {size left i : Nat} {s u : State σ} {c : Bool}
      (running : s.isStopped = false)
      (past : (blockOf stage inner level size).exec (Blame.counted s i) = (.ok c, u)) :
      Enters (.rounds level size (left + 1) i, s) (.rounds level size left (i + 1), u)
  | top {size : Nat} {s : State σ} :
      Enters (.block none size, s) (.block (some (s.run.case.steps.length + 1)) size, s)
  | block {level size origin last : Nat} {s : State σ}
      (stands : s.run.cursor.current? = some origin)
      (upTo : last = min (origin + size) (s.run.case.steps.length - 1)) :
      Enters (.block (some (level + 1)) size, s)
        (.walk level last (last - origin + 1) (origin + 1), s)
  | step {level last left index : Nat} {s : State σ} (within : index ≤ last)
      (running : s.isStopped = false) :
      Enters (.walk level last (left + 1) index, s)
        (.current (some level), s.standing ((index : Int).bmod Text.word))
  | past {level last left index : Nat} {s u : State σ} {done : Outcome} (within : index ≤ last)
      (running : s.isStopped = false)
      (past : (executeCurrent stage inner (blockOf stage inner (some level))).exec
        (s.standing ((index : Int).bmod Text.word)) = (.ok done, u)) :
      Enters (.walk level last (left + 1) index, s)
        (.walk level last left (index + done.consumed), u)

/-- What is entered from a part of a run that begins in a state. -/
def Reaches (part : Part) (s : State σ) (part' : Part) (t : State σ) : Prop :=
  ReflTransGen (Enters stage inner) (part, s) (part', t)

/-- The steps of a run in their turns, as long as one is left; the number counts the turns. -/
inductive Loops : Nat → Bool → State σ → Except Fault Bool → State σ → Prop
  | done {b : Bool} {s t : State σ}
      (none : (hasNext : Act σ Fault Bool).exec s = (.ok false, t)) : Loops 0 b s (.ok b) t
  | fails {b : Bool} {s u t : State σ} {f : Fault}
      (more : (hasNext : Act σ Fault Bool).exec s = (.ok true, u))
      (failed : (Execution.next stage inner).exec u = (.error f, t)) : Loops 1 b s (.error f) t
  | onward {n : Nat} {b c : Bool} {s u v t : State σ} {r : Except Fault Bool}
      (more : (hasNext : Act σ Fault Bool).exec s = (.ok true, u))
      (past : (Execution.next stage inner).exec u = (.ok c, v))
      (rest : Loops n (c && b) v r t) : Loops (n + 1) b s r t

end Relation

/-- The state is one in which a step is started that the part reaches. -/
def Starts (stage : Stage σ) (inner : Inner σ) (part : Part) (s t : State σ) : Prop :=
  ∃ level u p v, Reaches stage inner part s (.current level) u ∧ Begins stage inner u p v ∧
    t = started stage p v

theorem Starts.entered {inner : Inner σ} {part part' : Part} {s t u : State σ}
    (starts : Starts stage inner part' u t) (entered : Enters stage inner (part, s) (part', u)) :
    Starts stage inner part s t := by
  obtain ⟨level, v, p, w, reached, begins, same⟩ := starts
  exact ⟨level, v, p, w, .head entered reached, begins, same⟩

theorem Visits.starts {inner : Inner σ} {part : Part} {s t : State σ} {o : Option (Round σ)}
    (visit : Visits stage inner part s o t) : Starts stage inner part s t := by
  induction visit with
  | next more _ ih => exact ih.entered (.next more)
  | onward more past _ ih => exact ih.entered (.onward more past)
  | here begins => exact ⟨_, _, _, _, .refl, begins, rfl⟩
  | loop begins kind count _ ih => exact ih.entered (.loop begins kind count)
  | branch begins kind text holds _ ih => exact ih.entered (.branch begins kind text holds)
  | round running _ ih => exact ih.entered (.round running)
  | again running past _ ih => exact ih.entered (.again running past)
  | top _ ih => exact ih.entered .top
  | block stands _ ih => exact ih.entered (.block stands rfl)
  | step within running _ ih => exact ih.entered (.step within running)
  | past within running past _ ih => exact ih.entered (.past within running past)

/-- The levels that are left for blocks inside a block are as many as the steps after a place. -/
def Room (n : Nat) : Option Nat → Nat → Prop
  | none, _ => True
  | some level, i => n ≤ i + level

namespace Part

def Place (n : Nat) : Part → Int → Prop
  | .steps left, k => -1 ≤ k ∧ n ≤ k + left ∧ 0 < left
  | .current level, k => ∃ i : Nat, k = i ∧ i < n ∧ Room n level i
  | .rounds level _ _ _, k => ∃ i : Nat, k = i ∧ i < n ∧ Room n level i
  | .block level _, k => ∃ i : Nat, k = i ∧ i < n ∧ Room n level i
  | .walk level last left index, _ =>
    last < n ∧ index ≤ n ∧ last < index + left ∧ n ≤ index + level

def first : Part → Int → Int
  | .steps _, k => k + 1
  | .current _, k => k
  | .rounds _ _ _ _, k => k + 1
  | .block _ _, k => k + 1
  | .walk _ _ _ index, _ => index

end Part

/-- Where the first step of a part may lie that begins in a state. -/
def earliest (part : Part) (s : State σ) : Int := part.first s.run.cursor.index

structure Placed (n : Nat) (part : Part) (s : State σ) : Prop where
  length : s.run.case.steps.length = n
  place : part.Place n s.run.cursor.index

section Placed
variable {n : Nat} {part part' : Part} {s t u v : State σ}

theorem Stays.length (h : Stays s t) : t.run.case.steps.length = s.run.case.steps.length := by
  rw [h.case]

theorem Placed.stays (placed : Placed n part s) (h : Stays s t) : Placed n part t :=
  ⟨h.length.trans placed.length, (congrArg (part.Place n) h.index).mpr placed.place⟩

theorem earliest_stays (h : Stays s t) : earliest part t = earliest part s :=
  congrArg part.first h.index

theorem more_inside (more : (hasNext : Act σ Fault Bool).exec s = (.ok true, u)) :
    Stays s u ∧ u.run.cursor.index + 1 < u.run.case.steps.length := by
  obtain ⟨stayed, _, ⟨⟩, inside⟩ := ends_executed (hasNext_stays s) more
  rw [stayed.index, stayed.length]
  exact ⟨stayed, inside rfl⟩

section Enters
variable {level : Option Nat} {size left i : Nat} (small : (n : Int) ≤ Cursor.largest)
include small

theorem Placed.fits (placed : Placed n (.block level size) s) : Fits s := by
  obtain ⟨length, i, here, inside, -⟩ := placed
  exact ⟨length ▸ small, by omega⟩

theorem Placed.next (placed : Placed n (.steps (left + 1)) s)
    (more : (hasNext : Act σ Fault Bool).exec s = (.ok true, u)) :
    Placed n (.current none) (u.standing u.run.cursor.startStep.index) ∧
      earliest (.current none) (u.standing u.run.cursor.startStep.index) =
        earliest (.steps (left + 1)) s := by
  obtain ⟨stayed, inside⟩ := more_inside more
  obtain ⟨length, ahead, -⟩ := placed.stays stayed
  have stood : u.run.cursor.startStep.index = u.run.cursor.index + 1 :=
    Cursor.forward_index (by decide) (by omega)
  obtain ⟨i, here⟩ : ∃ i : Nat, u.run.cursor.index + 1 = i :=
    Int.eq_ofNat_of_zero_le (by omega)
  rw [stood, here, ← earliest_stays stayed]
  exact ⟨⟨length, i, rfl, by omega, trivial⟩, here.symm⟩

theorem Placed.onward {c : Bool} (placed : Placed n (.steps (left + 1)) s)
    (more : (hasNext : Act σ Fault Bool).exec s = (.ok true, u))
    (past : (Execution.next stage (innerAt stage depth)).exec u = (.ok c, v)) :
    Placed n (.steps left) v ∧ earliest (.steps (left + 1)) s ≤ earliest (.steps left) v := by
  obtain ⟨stayed, inside⟩ := more_inside more
  obtain ⟨length, ahead, enough, -⟩ := placed.stays stayed
  obtain ⟨same, on, within⟩ := ends_executed (next_strides ahead inside (length ▸ small)) past
  rw [← earliest_stays stayed]
  refine ⟨⟨by rw [same, length], by omega, by omega, by omega⟩, ?_⟩
  simp only [earliest, Part.first]
  omega

theorem Placed.again {k : Nat} {c : Bool} (placed : Placed n (.rounds level size (left + 1) i) s)
    (past : (blockOf stage (innerAt stage depth) level size).exec (Blame.counted s i) = (.ok c, t)) :
    Placed n (.rounds level size left k) t ∧
      earliest (.rounds level size left k) t = earliest (.rounds level size (left + 1) i) s := by
  have counted := stays_counted s i
  have before : Placed n (.block level size) (Blame.counted s i) := ⟨placed.length, placed.place⟩
  have returned := returning stage depth level size _ (before.fits small)
  have stayed := counted.trans (ends_executed returned past)
  obtain ⟨length, place⟩ := placed.stays stayed
  exact ⟨⟨length, place⟩, earliest_stays stayed⟩

theorem Placed.step {level last index : Nat} (placed : Placed n (.walk level last left index) s)
    (within : index ≤ last) :
    Placed n (.current (some level)) (s.standing ((index : Int).bmod Text.word)) ∧
      earliest (.current (some level)) (s.standing ((index : Int).bmod Text.word)) =
        earliest (.walk level last left index) s := by
  obtain ⟨length, inside, -, -, room⟩ := placed
  have word : (index : Int).bmod Text.word = index := Cursor.bmod_word (by omega)
  rw [word]
  exact ⟨⟨length, index, rfl, by omega, room⟩, rfl⟩

theorem Placed.past {level last index : Nat} {done : Outcome}
    (placed : Placed n (.walk level last (left + 1) index) s) (within : index ≤ last)
    (past : (executeCurrent stage (innerAt stage depth)
      (blockOf stage (innerAt stage depth) (some level))).exec
        (s.standing ((index : Int).bmod Text.word)) = (.ok done, t)) :
    Placed n (.walk level last left (index + done.consumed)) t ∧
      earliest (.walk level last (left + 1) index) s ≤
        earliest (.walk level last left (index + done.consumed)) t := by
  obtain ⟨length, inside, -, enough, room⟩ := placed
  have word : (index : Int).bmod Text.word = index := Cursor.bmod_word (by omega)
  rw [word] at past
  have fits : Fits (s.standing index) := fits_standing (length ▸ small) (by omega)
  obtain ⟨stayed, counted⟩ :=
    ends_executed (current_stays (returning stage depth (some level)) fits) past
  have first := (counted done rfl).pos
  have further := (counted done rfl).inside index rfl
  have same : (s.standing index).run.case.steps.length = n := length
  constructor
  · refine ⟨stayed.length.trans length, ?_⟩
    simp only [Part.Place]
    omega
  · simp only [earliest, Part.first]
    omega

end Enters

theorem Placed.owner {level : Option Nat} {p : Step} (placed : Placed n (.current level) s)
    (begins : Begins stage (innerAt stage depth) s p u) (size : Nat) :
    Placed n (.block level size) (started stage p u) ∧
      earliest (.current level) s ≤ earliest (.block level size) (started stage p u) := by
  have stayed := stays_begins begins
  obtain ⟨length, place⟩ := placed.stays stayed
  have index := stayed.index
  refine ⟨⟨length, place⟩, ?_⟩
  simp only [earliest, Part.first]
  omega

theorem Placed.top {size : Nat} (placed : Placed n (.block none size) s) :
    Placed n (.block (some (s.run.case.steps.length + 1)) size) s := by
  obtain ⟨length, i, here, inside, -⟩ := placed
  refine ⟨length, i, here, inside, ?_⟩
  simp only [Room]
  omega

theorem Placed.block {level size origin last : Nat}
    (placed : Placed n (.block (some (level + 1)) size) s)
    (stands : s.run.cursor.current? = some origin)
    (upTo : last = min (origin + size) (s.run.case.steps.length - 1)) :
    Placed n (.walk level last (last - origin + 1) (origin + 1)) s ∧
      earliest (.walk level last (last - origin + 1) (origin + 1)) s =
        earliest (.block (some (level + 1)) size) s := by
  obtain ⟨length, i, here, inside, room⟩ := placed
  have place := Cursor.current?_eq_some.1 stands
  simp only [Room] at room
  constructor
  · refine ⟨length, ?_⟩
    simp only [Part.Place]
    omega
  · simp only [earliest, Part.first]
    omega

/-- What a part enters begins at a place at which it may begin, and not before the part. -/
theorem Placed.enters (small : (n : Int) ≤ Cursor.largest) (placed : Placed n part s)
    (entered : Enters stage (innerAt stage depth) (part, s) (part', t)) :
    Placed n part' t ∧ earliest part s ≤ earliest part' t := by
  cases entered with
  | next more =>
    obtain ⟨begun, same⟩ := placed.next small more
    exact ⟨begun, Int.le_of_eq same.symm⟩
  | onward more past => exact placed.onward small more past
  | @loop _ _ u p _ begins kind count =>
    obtain ⟨⟨length, place⟩, after⟩ := placed.owner begins (Action.owned u.run p)
    exact ⟨⟨length, place⟩, after⟩
  | branch begins kind text holds => exact placed.owner begins _
  | round running => exact ⟨⟨placed.length, placed.place⟩, Int.le_refl _⟩
  | again running past =>
    obtain ⟨rest, same⟩ := placed.again small past
    exact ⟨rest, Int.le_of_eq same.symm⟩
  | top => exact ⟨placed.top, Int.le_refl _⟩
  | block stands upTo =>
    obtain ⟨walked, same⟩ := placed.block stands upTo
    exact ⟨walked, Int.le_of_eq same.symm⟩
  | step within running =>
    obtain ⟨here, same⟩ := placed.step small within
    exact ⟨here, Int.le_of_eq same.symm⟩
  | past within running past => exact placed.past small within past

/-- Wherever a run goes from a part, it begins the parts at places at which they may begin. -/
theorem Placed.reaches (small : (n : Int) ≤ Cursor.largest) (placed : Placed n part s)
    (reached : Reaches stage (innerAt stage depth) part s part' t) :
    Placed n part' t ∧ earliest part s ≤ earliest part' t := by
  -- pairs are taken apart only after the induction, which needs its index to be a variable
  have all : ∀ y, ReflTransGen (Enters stage (innerAt stage depth)) (part, s) y →
      Placed n y.1 y.2 ∧ earliest part s ≤ earliest y.1 y.2 := by
    intro y reached
    induction reached with
    | refl => exact ⟨placed, Int.le_refl _⟩
    | tail _ entered ih =>
      obtain ⟨here, before⟩ := ih
      obtain ⟨next, after⟩ := here.enters small entered
      exact ⟨next, Int.le_trans before after⟩
  exact all (part', t) reached

/-- The steps that are left of a run have their turns until none is left. -/
theorem Placed.loops (small : (n : Int) ≤ Cursor.largest) {left : Nat}
    (placed : Placed n (.steps left) s) (b : Bool) :
    ∃ m r t, Loops stage (innerAt stage depth) m b s r t ∧
      (steps stage (innerAt stage depth) left b).exec s = (r, t) ∧
      (m = 0 ∨ m + s.run.cursor.index < n) := by
  -- a turn brings the run on by one at least, so those after it fit into the rest of the list
  induction left generalizing s b with
  | zero =>
    obtain ⟨-, -, -, absurd⟩ := placed
    cases absurd
  | succ left ih =>
    rw [steps, exec_bind]
    rcases asked : (hasNext : Act σ Fault Bool).exec s with ⟨_ | _ | _, u⟩
    · obtain ⟨-, _, ⟨⟩, -⟩ := ends_executed (hasNext_stays s) asked
    · exact ⟨0, .ok b, u, .done asked, rfl, .inl rfl⟩
    · obtain ⟨stayed, inside⟩ := more_inside asked
      have index := stayed.index
      have length := (placed.stays stayed).length
      have ahead := (placed.stays stayed).place.1
      dsimp only
      rw [if_pos rfl, exec_bind]
      rcases turn : (Execution.next stage (innerAt stage depth)).exec u with ⟨f | c, v⟩
      · exact ⟨1, .error f, v, .fails asked turn, rfl, .inr (by omega)⟩
      · obtain ⟨on, -⟩ := placed.onward small asked turn
        obtain ⟨m, r, t, rest, result, bound⟩ := ih on (c && b)
        obtain ⟨-, further, -⟩ := ends_executed (next_strides ahead inside (length ▸ small)) turn
        exact ⟨m + 1, r, t, .onward asked turn rest, result, .inr (by omega)⟩

end Placed

/-- What is true of a run where it enters a part. -/
def Orderly (stage : Stage σ) (inner : Inner σ) : Part → State σ → Prop
  | .steps left, s => 0 < left ∧ ∀ u r v, (hasNext : Act σ Fault Bool).exec s = (.ok true, u) →
    (Execution.next stage inner).exec u = (r, v) →
      u.run.cursor.index < v.run.cursor.index ∧
        v.run.cursor.index < v.run.case.steps.length
  | .current level, s => ∃ i p, s.run.cursor.current? = some i ∧ s.run.step? = some p ∧
    i < s.run.case.steps.length ∧ s.run.case.steps[i]? = some p ∧
      ∀ r t, (executeStep stage inner (blockOf stage inner level) p).exec
        (s.record (.turned i)) = (r, t) → t.run.cursor.current? = some i
  | .rounds _ _ _ _, s => ∃ i, s.run.cursor.current? = some i ∧ i < s.run.case.steps.length
  | .block level size, s => level ≠ some 0 ∧ ∃ i, s.run.cursor.current? = some i ∧
    ∀ level' t, Reaches stage inner (.block level size) s (.current level') t →
      ∃ j, t.run.cursor.current? = some j ∧ i < j
  | .walk _ last left index, s => (index ≤ last → 0 < left) ∧ index ≤ s.run.case.steps.length

theorem Placed.orderly {n : Nat} {part : Part} {s : State σ} (small : (n : Int) ≤ Cursor.largest)
    (placed : Placed n part s) : Orderly stage (innerAt stage depth) part s := by
  -- one case for each part: its place tells where the cursor stands
  cases part with
  | steps left =>
    refine ⟨placed.place.2.2, fun u r v more turn => ?_⟩
    obtain ⟨stayed, inside⟩ := more_inside more
    obtain ⟨length, ahead, -⟩ := placed.stays stayed
    obtain ⟨same, on, within⟩ := ends_executed (next_strides ahead inside (length ▸ small)) turn
    exact ⟨on, same ▸ within⟩
  | current level =>
    obtain ⟨length, i, here, inside, -⟩ := placed
    have stands : s.run.cursor.current? = some i := Cursor.current?_eq_some.2 here
    obtain ⟨p, member⟩ : ∃ p, s.run.case.steps[i]? = some p :=
      ⟨_, List.getElem?_eq_getElem (length ▸ inside)⟩
    have step : s.run.step? = some p := by
      rw [Run.step?, stands]
      exact member
    refine ⟨i, p, stands, step, length ▸ inside, member, fun r t executed => ?_⟩
    have turned := stays_turned s i
    have fits : Fits s := ⟨length ▸ small, by omega⟩
    obtain ⟨stayed, -⟩ := ends_executed
      (executeStep_stays (returning stage depth level) (turned.step?.trans step)
        (turned.fits fits)) executed
    exact Cursor.current?_eq_some.2 ((turned.trans stayed).index.trans here)
  | rounds level size left k =>
    obtain ⟨length, i, here, inside, -⟩ := placed
    exact ⟨i, Cursor.current?_eq_some.2 here, length ▸ inside⟩
  | block level size =>
    obtain ⟨i, here, inside, room⟩ := placed.place
    refine ⟨?_, i, Cursor.current?_eq_some.2 here, fun level' t reached => ?_⟩
    · rintro rfl
      simp only [Room] at room
      omega
    · obtain ⟨⟨-, j, there, -⟩, after⟩ := placed.reaches small reached
      refine ⟨j, Cursor.current?_eq_some.2 there, ?_⟩
      simp only [earliest, Part.first] at after
      omega
  | walk level last left index =>
    obtain ⟨length, inside, within, enough, -⟩ := placed
    exact ⟨by omega, length ▸ within⟩

theorem Placed.starts {n : Nat} {part : Part} {s t : State σ} (small : (n : Int) ≤ Cursor.largest)
    (placed : Placed n part s) (starts : Starts stage (innerAt stage depth) part s t) :
    ∃ i p, t.run.cursor.current? = some i ∧ i < n ∧ t.run.step? = some p := by
  obtain ⟨level, u, p, v, reached, begins, rfl⟩ := starts
  obtain ⟨-, i, here, inside, -⟩ := ((placed.reaches small reached).1).stays (stays_begins begins)
  exact ⟨i, p, Cursor.current?_eq_some.2 here, inside, begins.current⟩

/-- Whatever the steps of a run claim to own, and however they end: a step that is executed is the
one on which the run stands, and the run stands on it again when it is done. A block enters steps
further on alone, and each turn brings the run on, so there are no more turns than steps, and
neither the turns nor the levels of blocks run out. Runs are built to stand before the first step,
at -1. -/
theorem cursor_advances (stage : Stage σ) (depth : Nat) (s : State σ)
    (small : (s.run.case.steps.length : Int) ≤ Cursor.largest) (ahead : -1 ≤ s.run.cursor.index) :
    (∀ part t,
      Reaches stage (innerAt stage depth) (.steps (s.run.case.steps.length + 1)) (s.begun stage)
        part t → Orderly stage (innerAt stage depth) part t) ∧
    (∀ o t,
      Visits stage (innerAt stage depth) (.steps (s.run.case.steps.length + 1)) (s.begun stage)
        o t → ∃ i p, t.run.cursor.current? = some i ∧ i < s.run.case.steps.length ∧
          t.run.step? = some p) ∧
    ∃ n ≤ s.run.case.steps.length, ∃ r t,
      Loops stage (innerAt stage depth) n true (s.begun stage) r t ∧
        (finishWith stage (innerAt stage depth)).exec s =
          (Blame.ending stage (innerAt stage depth) r).exec t := by
  have begun : Stays s (s.begun stage) := ⟨rfl, rfl⟩
  have placed : Placed s.run.case.steps.length (.steps (s.run.case.steps.length + 1))
      (s.begun stage) := Placed.stays ⟨rfl, ahead, by omega, by omega⟩ begun
  refine ⟨fun part t reached => (placed.reaches small reached).1.orderly small,
    fun o t visit => placed.starts small visit.starts, ?_⟩
  obtain ⟨n, r, t, loops, result, bound⟩ := placed.loops small true
  have index := begun.index
  refine ⟨n, by omega, r, t, loops, exec_eq_of_ends fun Q => ?_⟩
  rw [Blame.finishWith_iff, Ends, result]

section Example
open Brackets

def greedyLoop : Case where
  script := { name := "loop" }
  steps := [
    { kind := .loop, texts := [("count", "2"), ("subStep", "18446744073709551615")] },
    { kind := .echo, texts := [("text", "body")] }]

theorem greedy_loop_advances :
    (∀ part t,
      Reaches bare (innerAt bare 1) (.steps 3) ((firstState greedyLoop).begun bare) part t →
        Orderly bare (innerAt bare 1) part t) ∧
    ∃ n ≤ 2, ∃ r t,
      Loops bare (innerAt bare 1) n true ((firstState greedyLoop).begun bare) r t := by
  obtain ⟨orderly, -, n, few, r, t, loops, -⟩ :=
    cursor_advances bare 1 (firstState greedyLoop) (by decide) (by decide)
  exact ⟨orderly, n, few, r, t, loops⟩

example : ((finish bare).exec (firstState greedyLoop)).2.run.cursor.index = 1 := by decide +kernel

end Example

end Visiting

end Scenario
