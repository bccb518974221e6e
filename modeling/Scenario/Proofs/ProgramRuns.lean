import Scenario.Proofs.EventNesting
import Scenario.Proofs.StructuredPrograms

/-!
# Runs of structured programs

A run of the flat list of steps that a program is written as does what the
program means: it starts the same steps in the same order and leaves the same
row. The cursor moves over blocks that are skipped and returns from blocks that
were run, so that after each construct it stands where the next one begins.
-/

set_option autoImplicit false

namespace Scenario
open Scenario.Act Scenario.Execution Scenario.Text

variable {σ : Type} {stage : Stage σ} {inner : Inner σ}

def Event.label? : Event → Option String
  | .started l => some l
  | _ => none

namespace Flattening
open Program Meaning

def labels (l : List TraceEntry) : List String := (told l).filterMap Event.label?

theorem labels_excerpt : Excerpt labels := told_excerpt.filterMap Event.label?

structure Speaks (s : State σ) (ls : List String) (row : Row) (t : State σ) : Prop where
  world : ∃ l, t.world = { s.world with trace := l ++ s.world.trace } ∧ labels l = ls
  run : t.run = { s.run with row }

section Speaks
variable {s t u : State σ} {ls ls' : List String} {row row' : Row}

theorem Speaks.refl (s : State σ) : Speaks s [] s.run.row s := ⟨⟨[], rfl, rfl⟩, rfl⟩

theorem Speaks.trans (h : Speaks s ls row t) (h' : Speaks t ls' row' u) :
    Speaks s (ls ++ ls') row' u := by
  obtain ⟨l, ht, hl⟩ := h.world
  obtain ⟨l', hu, hl'⟩ := h'.world
  refine ⟨⟨l' ++ l, ?_, ?_⟩, ?_⟩
  · rw [hu, ht, List.append_assoc]
  · rw [labels_excerpt.append, hl, hl']
  · rw [h'.run, h.run]

theorem Speaks.standing (h : Speaks s ls row t) (i : Int) :
    Speaks (s.standing i) ls row (t.standing i) := by
  refine ⟨h.world, ?_⟩
  simp only [State.standing, h.run]

theorem Speaks.row_eq (h : Speaks s ls row t) : t.run.row = row := by rw [h.run]

theorem Speaks.signals (h : Speaks s ls row t) : t.world.signals = s.world.signals := by
  obtain ⟨l, ht, _⟩ := h.world
  rw [ht]

theorem speaks_row (s : State σ) (row : Row) :
    Speaks s [] row { s with run := { s.run with row } } := ⟨⟨[], rfl, rfl⟩, rfl⟩

theorem speaks_progress (s : State σ) {e : TraceEntry} (he : e.progress = true) :
    Speaks s [] s.run.row (s.record e) := by
  refine ⟨⟨[e], rfl, labels_excerpt.silent ?_⟩, rfl⟩
  simpa [Silent] using TraceEntry.silent_of_progress he

end Speaks

structure Calm (s : State σ) : Prop where
  aspect : s.run.aspect = []
  included : ∀ p row, s.run.case.includes p row = true
  stopped : s.isStopped = false
  size : s.run.case.steps.length < signedWord

section Calm
variable {s t : State σ} {ls : List String} {row : Row}

theorem Calm.speaks (hs : Calm s) (h : Speaks s ls row t) : Calm t := by
  have stopped : t.isStopped = s.isStopped := by
    simp only [State.isStopped, h.signals, h.run]
  refine ⟨?_, ?_, stopped.trans hs.stopped, ?_⟩
  · rw [h.run]
    exact hs.aspect
  · rw [h.run]
    exact hs.included
  · rw [h.run]
    exact hs.size

theorem Calm.standing (hs : Calm s) (i : Int) : Calm (s.standing i) :=
  ⟨hs.aspect, hs.included, hs.stopped, hs.size⟩

end Calm

structure At (s : State σ) (i : Nat) (p : Step) (rest : List Step) : Prop where
  index : s.run.cursor.index = i
  steps : s.run.case.steps.drop i = p :: rest

section At
variable {s t : State σ} {i : Nat} {p : Step} {rest : List Step}

theorem At.speaks (h : At s i p rest) {ls : List String} {row : Row} (ht : Speaks s ls row t) :
    At t i p rest := by
  refine ⟨?_, ?_⟩
  · rw [ht.run]
    exact h.index
  · rw [ht.run]
    exact h.steps

theorem At.current? (h : At s i p rest) : s.run.cursor.current? = some i :=
  Cursor.current?_eq_some.2 h.index

theorem At.step? (h : At s i p rest) : s.run.step? = some p := by
  rw [Run.step?, h.current?]
  show s.run.case.steps[i]? = some p
  rw [← List.head?_drop, h.steps, List.head?_cons]

theorem At.drop (h : At s i p rest) (k : Nat) :
    s.run.case.steps.drop (i + (1 + k)) = rest.drop k := by
  rw [← List.drop_drop, h.steps, Nat.add_comm 1 k, List.drop_succ_cons]

theorem At.length (h : At s i p rest) : s.run.case.steps.length = i + 1 + rest.length := by
  have drop := congrArg List.length h.steps
  rw [List.length_drop, List.length_cons] at drop
  omega

theorem At.remaining (h : At s i p rest) : s.run.remaining = rest.length := by
  rw [Run.remaining, h.current?, h.length]
  exact Nat.add_sub_cancel_left _ _

end At

/-- Begun in a state, an act answers and does what a meaning says of the row. -/
def Means {ε α : Type} (a : Act σ ε α) (x : α) (m : Meaning) (s : State σ) : Prop :=
  ∀ ls row, m s.run.row = some (ls, row) → Ends a s fun r t => r = .ok x ∧ Speaks s ls row t

section Acts
variable {ε α β : Type} {s : State σ} {x : α} {y : β} {m m' : Meaning}

theorem means_pure (x : α) (s : State σ) : Means (pure x : Act σ ε α) x idle s := by
  rintro ls row ⟨⟩
  exact ⟨rfl, .refl s⟩

theorem means_seq {a : Act σ ε α} {f : α → Act σ ε β} (ha : Means a x m s)
    (hf : ∀ ls row t, Speaks s ls row t → Means (f x) y m' t) : Means (a >>= f) y (m.seq m') s := by
  intro ls row h
  obtain ⟨k, q, k', hk, hk', rfl⟩ := seq_eq_some h
  refine ends_seq (ha k q hk) ?_ fun e t h => by cases h.1
  rintro _ t ⟨⟨⟩, ht⟩
  rw [← ht.row_eq] at hk'
  exact ends_mono (hf k q t ht k' row hk') fun r u hu => ⟨hu.1, ht.trans hu.2⟩

end Acts

section Texts
variable {s : State σ} {i : Nat} {p : Step} {rest : List Step}

theorem text_ends (h : At s i p rest) {key v : String} (hv : p.text? key = some v)
    (Q : Except Problem String → State σ → Prop) :
    Ends (Act.text key) s Q ↔ Q (.ok (s.run.row.bind v)) s := by
  simp only [Act.text, Act.rawText, Act.currentStep, ends_bind, ends_getRun, h.step?, hv, ends_pure]

theorem rawText_ends (h : At s i p rest) {key v : String} (hv : p.text? key = some v)
    (Q : Except Problem String → State σ → Prop) :
    Ends (Act.rawText key) s Q ↔ Q (.ok v) s := by
  simp only [Act.rawText, Act.currentStep, ends_bind, ends_getRun, h.step?, hv, ends_pure]

theorem evaluatedText_ends (h : At s i p rest) {key v : String} (hv : p.text? key = some v)
    (Q : Except Problem String → State σ → Prop) :
    Ends (Act.evaluatedText key) s Q ↔ Q (.ok (s.run.row.evaluateString v)) s := by
  simp only [Act.evaluatedText, Act.rawText, Act.currentStep, ends_bind, ends_getRun, h.step?, hv,
    ends_pure]

end Texts

section Numbers

theorem mem_natText {c : Char} {n : Nat} (h : c ∈ (natText n).toList) :
    ∃ d < 10, c = decimalDigit d := by
  rw [natText, String.toList_ofList] at h
  exact decimalDigit_of_mem h

theorem bind_natText (r : Row) (n : Nat) : r.bind (natText n) = natText n := by
  refine r.bind_eq_self ?_ ?_
  · rw [natText, String.toList_ofList]
    exact not_mem_natDigits (by decide) n
  · rw [natText, String.toList_ofList]
    exact not_mem_natDigits (by decide) n

theorem trim_natText (n : Nat) : trim (natText n) = natText n := by
  refine trim_eq_self fun c hc => ?_
  obtain ⟨d, hd, rfl⟩ := mem_natText hc
  have digits : ∀ d < 10, isBlank (decimalDigit d) = false := by decide
  exact digits d hd

theorem owned_eq {kind : Step.Kind} {keys : List String} (h : Head kind keys) {s : State σ}
    {i n : Nat} {rest : List Step} (hs : Calm s) (hat : At s i (h.owning n) rest)
    (hn : n ≤ rest.length) : Action.owned s.run (h.owning n) = n := by
  have small : n < word := by
    have size := hs.size
    rw [hat.length] at size
    simp only [signedWord, word] at size ⊢
    omega
  have read : readWord (trim (s.run.row.bind (natText n))) = .ok n := by
    rw [bind_natText, trim_natText, readWord_natText small]
  have told : (h.owning n).text? "subStep" = some (natText n) := h.owning_subStep n
  simp only [Action.owned, told, read, hat.remaining]
  exact Nat.min_eq_left hn

theorem consumed_act {kind : Step.Kind} {keys : List String} (h : Head kind keys) (r : Run)
    (hk : kind.isFlow = false) : Action.consumed r h.step = 1 := by
  rw [Action.consumed, h.isKind, hk]
  rfl

theorem consumed_block {kind : Step.Kind} {keys : List String} (h : Head kind keys) {s : State σ}
    {i n : Nat} {rest : List Step} (hk : kind.isFlow = true) (hs : Calm s)
    (hat : At s i (h.owning n) rest) (hn : n ≤ rest.length) :
    Action.consumed s.run (h.owning n) = 1 + n := by
  rw [Action.consumed, h.owning_kind, if_pos hk, owned_eq h hs hat hn]

end Numbers

section Steps
variable {s : State σ} {i : Nat} {rest : List Step} {block : Nat → Act σ Problem Bool}

def Performs (stage : Stage σ) (block : Nat → Act σ Problem Bool) (p : Step) (m : Meaning)
    (s : State σ) : Prop :=
  ∀ ls row t, Speaks s ls row t → Means (Action.perform stage block p.kind) true m t

theorem performs_echo (h : Head .echo ["text"]) (hat : At s i h.step rest) :
    Performs stage block h.step idle s := by
  intro ls row t ht
  have text : h.step.text? "text" = some (h.text "text") := h.text?_eq (by simp)
  rintro ls' row' ⟨⟩
  simp only [h.isKind, Action.perform, ends_bind, text_ends (hat.speaks ht) text, ends_pure]
  exact ⟨trivial, .refl t⟩

theorem performs_store (h : Head .store ["variable", "text"]) (hat : At s i h.step rest) :
    Performs stage block h.step (assigned h) s := by
  intro ls row t ht
  have name : h.step.text? "variable" = some (h.text "variable") := h.text?_eq (by simp)
  have text : h.step.text? "text" = some (h.text "text") := h.text?_eq (by simp)
  have there : At t i h.step rest := hat.speaks ht
  rintro ls' row' ⟨⟩
  simp only [h.isKind, Action.perform, Act.assign, ends_bind, text_ends there name,
    evaluatedText_ends there text, ends_modifyRun, ends_pure]
  exact ⟨trivial, speaks_row t _⟩

/-- The rounds of a loop over a block that does what a body means. -/
theorem means_rounds {m : Meaning} {size : Nat} (hs : Calm s)
    (hblock : ∀ ls row t, Speaks s ls row t → Means (block size) true m t) (left n : Nat) :
    Means (Action.rounds block size left n true) true (m.rounds left n) s := by
  induction left generalizing s n with
  | zero => exact means_pure true s
  | succ left ih =>
    intro ls row h
    have unstopped : (s.run.cursor.stopped || s.world.signals.isStopped s.run.signal) = false :=
      hs.stopped
    have begun : Speaks s [] s.run.row (s.record (.round n)) := speaks_progress s rfl
    have numbered := begun.trans (speaks_row _ (s.run.row.put "_loopCount" (natText n)))
    have round : Means (block size >>= fun b => Action.rounds block size left (n + 1) (b && true))
        true (m.seq (m.rounds left (n + 1)))
        { s.record (.round n) with run := { s.run with
            row := s.run.row.put "_loopCount" (natText n) } } := by
      refine means_seq (hblock _ _ _ numbered) fun ls' row' t ht => ?_
      exact ih (hs.speaks (numbered.trans ht))
        (fun _ _ u hu => hblock _ _ u ((numbered.trans ht).trans hu)) (n + 1)
    have told := ends_mono (round ls row h) fun r u hu =>
      (⟨hu.1, numbered.trans hu.2⟩ : r = .ok true ∧ Speaks s ls row u)
    simp only [ends_bind] at told
    simp only [Action.rounds, Act.assign, ends_bind, ends_isStopped, unstopped,
      Bool.false_eq_true, if_false, ends_modifyWorld, ends_modifyRun]
    exact told

/-- What a head makes of the block that it owns. -/
def Carries (stage : Stage σ) {kind : Step.Kind} {keys : List String} (h : Head kind keys)
    (carried : Meaning → Meaning) : Prop :=
  ∀ {s : State σ} {i n : Nat} {rest : List Step} {block : Nat → Act σ Problem Bool} {m : Meaning},
    Calm s → At s i (h.owning n) rest → n ≤ rest.length →
      (∀ ls row t, Speaks s ls row t → Means (block n) true m t) →
        Performs stage block (h.owning n) (carried m) s

theorem loop_carries (h : Head .loop ["count"]) : Carries stage h (counted h) := by
  intro s i n rest block m hs hat hn hblock ls row t ht ls' row' hm
  have there : At t i (h.owning n) rest := hat.speaks ht
  have count : (h.owning n).text? "count" = some (h.text "count") :=
    h.owning_text? (by simp) (by decide) n
  obtain ⟨k, read, hm⟩ := counted_eq_some hm
  simp only [h.owning_kind, Action.perform, Action.number, Act.currentStep, ends_bind,
    text_ends there count, read, ends_pure, ends_getRun, there.step?,
    owned_eq h (hs.speaks ht) there hn]
  exact means_rounds (hs.speaks ht) (fun _ _ u hu => hblock _ _ u (ht.trans hu)) k 1 ls' row' hm

theorem branch_carries (h : Head .branch ["condition"]) : Carries stage h (chosen h) := by
  intro s i n rest block m hs hat hn hblock ls row t ht ls' row' hm
  have there : At t i (h.owning n) rest := hat.speaks ht
  have condition : (h.owning n).text? "condition" = some (h.text "condition") :=
    h.owning_text? (by simp) (by decide) n
  simp only [h.owning_kind, Action.perform, Act.currentStep, ends_bind,
    rawText_ends there condition, ends_pure, ends_getRun, there.step?,
    owned_eq h (hs.speaks ht) there hn]
  simp only [chosen] at hm
  split
  · rename_i holds
    rw [if_pos holds] at hm
    exact hblock _ _ t ht ls' row' hm
  · rename_i fails
    rw [if_neg fails] at hm
    cases hm
    exact ⟨rfl, .refl t⟩

end Steps

section Current
variable {s : State σ} {i : Nat} {p : Step} {rest : List Step} {m : Meaning}
  {block : Nat → Act σ Problem Bool} (hwatch : stage.watch = none)
include hwatch

theorem speaks_emit (s : State σ) (e : Event) :
    Speaks s (labels [.event e]) s.run.row (s.emit stage e) := by
  refine ⟨⟨[.event e], ?_, rfl⟩, rfl⟩
  simp only [State.emit, World.emit, hwatch]
  rfl

theorem executeStep_means (hs : Calm s) (haff : p.negated = false)
    (hm : Performs stage block p m s) :
    Means (executeStep stage inner block p) ⟨true, Action.consumed s.run p⟩ (started p m) s := by
  intro ls row h
  simp only [executeStep, ends_bind, ends_getRun]
  cases hp : p.isSkipped s.run.row with
  | true =>
    simp only [started, hp, if_true] at h ⊢
    cases h
    exact ⟨rfl, .refl s⟩
  | false =>
    obtain ⟨k, hk, rfl⟩ := started_eq_some h hp
    have unadvised : Aspect.advice s.run.aspect p s.run.row = [] := by
      rw [hs.aspect]
      rfl
    have begun := speaks_emit hwatch s (.started (p.label s.run.row))
    simp only [unadvised, adviseAll, Bool.false_eq_true, if_false, if_true, ends_bind, ends_pure,
      ends_getRun, Act.emit, ends_modifyWorld, ends_outcome]
    refine ends_mono (hm _ _ _ begun k row (by rw [begun.row_eq]; exact hk)) ?_
    rintro r t ⟨rfl, ht⟩
    have ended := speaks_emit hwatch t .ended
    rw [ht.row_eq] at ended
    have whole : Speaks s (p.label s.run.row :: k) row (t.emit stage .ended) := by
      have parts := (begun.trans ht).trans ended
      rwa [List.append_assoc, show labels [.event .ended] = [] from rfl, List.append_nil] at parts
    have kept : (true != p.negated) = true := by rw [haff]; rfl
    simp only [judge, kept, if_true, succeeded, adviseAll, ite_self, ends_bind, ends_pure, Act.emit,
      ends_modifyWorld]
    exact ⟨trivial, whole⟩

theorem executeCurrent_means (hs : Calm s) (hat : At s i p rest) (haff : p.negated = false)
    (hm : Performs stage block p m s) :
    Means (executeCurrent stage inner block) ⟨true, Action.consumed s.run p⟩ (started p m) s := by
  intro ls row h
  have turned : Speaks s [] s.run.row (s.record (.turned (s.run.cursor.current?.getD 0))) :=
    speaks_progress s rfl
  have step : Means (executeStep stage inner block p) ⟨true, Action.consumed s.run p⟩
      (started p m) (s.record (.turned (s.run.cursor.current?.getD 0))) :=
    executeStep_means hwatch (hs.speaks turned) haff fun _ _ t ht => hm _ _ t (turned.trans ht)
  simp only [executeCurrent, ends_bind, ends_getRun, hat.step?, ends_modifyWorld, hs.included,
    if_true]
  exact ends_mono (step ls row h) fun r t ht => ⟨ht.1, turned.trans ht.2⟩

end Current

section Walks
variable {s : State σ} {m m' : Meaning} {block : Nat → Act σ Problem Bool}
  {origin last fuel index : Nat}

theorem moveTo_ends {i : Nat} (hi : i < signedWord) (s : State σ)
    (Q : Except Problem Unit → State σ → Prop) :
    Ends (moveTo i) s Q ↔ Q (.ok ()) (s.standing i) := by
  have small : (i : Int) ≤ Cursor.largest := by
    simp only [Cursor.largest]
    omega
  have place : (i : Int).bmod word = i := Cursor.bmod_word small
  simp only [moveTo, ends_modifyRun, Cursor.moveTo, place]
  rfl

theorem standing_self {i : Int} (h : s.run.cursor.index = i) : s.standing i = s := by
  subst h
  rfl

/-- Walking on from an index does what a meaning says and comes back to where
the run stood, from wherever the walk has got to. -/
def Walks (stage : Stage σ) (inner : Inner σ) (block : Nat → Act σ Problem Bool)
    (origin last fuel index : Nat) (m : Meaning) (s : State σ) : Prop :=
  ∀ (j : Int) ls row, m s.run.row = some (ls, row) →
    Ends (walk stage inner block origin last fuel index true) (s.standing j)
      fun r t => r = .ok true ∧ Speaks s ls row t

theorem walks_done (hidx : s.run.cursor.index = origin) (ho : origin < signedWord)
    (hl : last < index) : Walks stage inner block origin last fuel index idle s := by
  rintro j ls row ⟨⟩
  have back : (s.standing j).standing origin = s := standing_self hidx
  cases fuel with
  | zero =>
    simp only [walk, ends_bind, moveTo_ends ho, ends_pure, back]
    exact ⟨trivial, .refl s⟩
  | succ fuel =>
    simp only [walk, ends_bind, ends_isStopped, hl, true_or, if_true, moveTo_ends ho, ends_pure,
      back]
    exact ⟨trivial, .refl s⟩

theorem walks_construct {k : Nat} (hs : Calm s) (hidx : s.run.cursor.index = origin)
    (hi : index < signedWord) (hl : index ≤ last)
    (hcur : Means (executeCurrent stage inner block) ⟨true, k⟩ m (s.standing index))
    (hnext : ∀ ls row t, Speaks s ls row t →
      Walks stage inner block origin last fuel (index + k) m' t) :
    Walks stage inner block origin last (fuel + 1) index (m.seq m') s := by
  intro j ls row h
  obtain ⟨a, q, b, ha, hb, rfl⟩ := seq_eq_some h
  have going : ¬ (last < index ∨ ((s.standing j).run.cursor.stopped ||
      (s.standing j).world.signals.isStopped (s.standing j).run.signal) = true) := by
    rintro (less | stopped)
    · omega
    · have unstopped : (s.standing j).isStopped = false := hs.stopped
      cases unstopped.symm.trans stopped
  simp only [walk, ends_bind, ends_isStopped, going, if_false, moveTo_ends hi, ends_outcome]
  refine ends_mono (hcur a q ha) ?_
  rintro _ t ⟨rfl, ht⟩
  have stood : t.run.cursor.index = index := by rw [ht.run]; rfl
  have back : Speaks s a q (t.standing origin) := by
    have returned := ht.standing origin
    rwa [show (s.standing index).standing origin = s from standing_self hidx] at returned
  have rest := hnext a q _ back index b row (by rw [back.row_eq]; exact hb)
  rw [show (t.standing origin).standing index = t from standing_self stood] at rest
  exact ends_mono rest fun r u hu => ⟨hu.1, back.trans hu.2⟩

theorem blockAt_means {depth n : Nat} {p : Step} {rest : List Step}
    (hat : At s index p rest) (hn : n ≤ rest.length)
    (hwalk : Walks stage inner (blockAt stage inner depth) index (index + n) (n + 1) (index + 1)
      m s) :
    Means (blockAt stage inner (depth + 1) n) true m s := by
  intro ls row h
  have last : min (index + n) (s.run.case.steps.length - 1) = index + n := by
    rw [hat.length]
    omega
  have whole := hwalk index ls row h
  rw [standing_self hat.index] at whole
  simp only [blockAt, ends_bind, ends_getRun, hat.current?, last, Nat.add_sub_cancel_left]
  exact whole

theorem At.index_small (hs : Calm s) {p : Step} {rest : List Step} (hat : At s index p rest) :
    index < signedWord := by
  have size := hs.size
  rw [hat.length] at size
  omega

theorem walks_block (hwatch : stage.watch = none) {n : Nat} {p : Step} {rest : List Step}
    (hs : Calm s) (hidx : s.run.cursor.index = origin) (hat : At (s.standing index) index p rest)
    (haff : p.negated = false) (hl : index ≤ last)
    (hconsumed : Action.consumed (s.standing index).run p = 1 + n)
    (hp : Performs stage block p m (s.standing index))
    (hnext : ∀ t, Calm t → t.run.cursor.index = origin →
      t.run.case.steps.drop (index + (1 + n)) = rest.drop n →
      Walks stage inner block origin last fuel (index + (1 + n)) m' t) :
    Walks stage inner block origin last (fuel + 1) index ((started p m).seq m') s := by
  have current : Means (executeCurrent stage inner block) ⟨true, 1 + n⟩ (started p m)
      (s.standing index) := by
    rw [← hconsumed]
    exact executeCurrent_means hwatch (hs.standing index) hat haff hp
  refine walks_construct hs hidx (hat.index_small (hs.standing index)) hl current ?_
  intro ls row t ht
  refine hnext t (hs.speaks ht) ?_ ?_
  · rw [ht.run]
    exact hidx
  · rw [ht.run]
    exact hat.drop n

theorem walks_owner (hwatch : stage.watch = none) {kind : Step.Kind} {keys : List String}
    {h : Head kind keys} {carried : Meaning → Meaning} (hc : Carries stage h carried)
    (hk : kind.isFlow = true) {depth : Nat} {body rest : List Step} (hs : Calm s)
    (hidx : s.run.cursor.index = origin)
    (hsteps : s.run.case.steps.drop index = h.owning body.length :: (body ++ rest))
    (hl : index ≤ last)
    (hbody : ∀ t, Calm t → t.run.cursor.index = index → index < signedWord →
      t.run.case.steps.drop (index + 1) = body ++ rest →
        Walks stage inner (blockAt stage inner depth) index (index + body.length) (body.length + 1)
          (index + 1) m t)
    (hnext : ∀ t, Calm t → t.run.cursor.index = origin →
      t.run.case.steps.drop (index + (1 + body.length)) = rest →
        Walks stage inner (blockAt stage inner (depth + 1)) origin last fuel
          (index + (1 + body.length)) m' t) :
    Walks stage inner (blockAt stage inner (depth + 1)) origin last (fuel + 1) index
      ((started (h.owning body.length) (carried m)).seq m') s := by
  have hat : At (s.standing index) index (h.owning body.length) (body ++ rest) := ⟨rfl, hsteps⟩
  have calm : Calm (s.standing index) := hs.standing index
  have owns : body.length ≤ (body ++ rest).length := by simp
  have block : ∀ ls row t, Speaks (s.standing index) ls row t →
      Means (blockAt stage inner (depth + 1) body.length) true m t := by
    intro ls row t ht
    have there := hat.speaks ht
    exact blockAt_means there owns
      (hbody t (calm.speaks ht) there.index (hat.index_small calm) (there.drop 0))
  refine walks_block hwatch hs hidx hat (h.owning_affirmed _) hl (consumed_block h hk calm hat owns)
    (hc calm hat owns block) fun t ht hto hdrop => ?_
  rw [List.drop_left] at hdrop
  exact hnext t ht hto hdrop

section Programs
variable {s : State σ} (hwatch : stage.watch = none)
include hwatch

theorem walks_program (p : Program) {depth origin last fuel index : Nat} {rest : List Step}
    (hs : Calm s) (hidx : s.run.cursor.index = origin) (ho : origin < signedWord)
    (hsteps : s.run.case.steps.drop index = p.flatten ++ rest)
    (hlast : last + 1 = index + p.flatten.length) (hfuel : p.flatten.length ≤ fuel)
    (hdepth : p.flatten.length ≤ depth) :
    Walks stage inner (blockAt stage inner depth) origin last fuel index p.meaning s := by
  induction p generalizing s depth origin last fuel index rest with
  | done => exact walks_done hidx ho (by simp [flatten] at hlast; omega)
  | echo h next ih =>
    simp only [flatten, List.length_cons] at hsteps hlast hfuel hdepth
    obtain ⟨fuel, rfl⟩ : ∃ f, fuel = f + 1 := ⟨fuel - 1, by omega⟩
    have hat : At (s.standing index) index h.step (next.flatten ++ rest) := ⟨rfl, hsteps⟩
    refine walks_block (n := 0) hwatch hs hidx hat h.affirmed (by omega) (consumed_act h _ rfl)
      (performs_echo h hat) fun t ht hto hdrop => ?_
    exact ih ht hto ho hdrop (by omega) (by omega) (by omega)
  | store h next ih =>
    simp only [flatten, List.length_cons] at hsteps hlast hfuel hdepth
    obtain ⟨fuel, rfl⟩ : ∃ f, fuel = f + 1 := ⟨fuel - 1, by omega⟩
    have hat : At (s.standing index) index h.step (next.flatten ++ rest) := ⟨rfl, hsteps⟩
    refine walks_block (n := 0) hwatch hs hidx hat h.affirmed (by omega) (consumed_act h _ rfl)
      (performs_store h hat) fun t ht hto hdrop => ?_
    exact ih ht hto ho hdrop (by omega) (by omega) (by omega)
  | loop h body next ihb ih =>
    simp only [flatten, List.length_cons, List.length_append, List.cons_append,
      List.append_assoc] at hsteps hlast hfuel hdepth
    obtain ⟨fuel, rfl⟩ : ∃ f, fuel = f + 1 := ⟨fuel - 1, by omega⟩
    obtain ⟨depth, rfl⟩ : ∃ d, depth = d + 1 := ⟨depth - 1, by omega⟩
    refine walks_owner hwatch (loop_carries h) rfl hs hidx hsteps (by omega)
      (fun t ht hto small hdrop => ?_) fun t ht hto hdrop => ?_
    · exact ihb ht hto small hdrop (by omega) (by omega) (by omega)
    · exact ih ht hto ho hdrop (by omega) (by omega) (by omega)
  | branch h body next ihb ih =>
    simp only [flatten, List.length_cons, List.length_append, List.cons_append,
      List.append_assoc] at hsteps hlast hfuel hdepth
    obtain ⟨fuel, rfl⟩ : ∃ f, fuel = f + 1 := ⟨fuel - 1, by omega⟩
    obtain ⟨depth, rfl⟩ : ∃ d, depth = d + 1 := ⟨depth - 1, by omega⟩
    refine walks_owner hwatch (branch_carries h) rfl hs hidx hsteps (by omega)
      (fun t ht hto small hdrop => ?_) fun t ht hto hdrop => ?_
    · exact ihb ht hto small hdrop (by omega) (by omega) (by omega)
    · exact ih ht hto ho hdrop (by omega) (by omega) (by omega)

theorem block_means (p : Program) {index : Nat} {q : Step} {rest : List Step} (hs : Calm s)
    (hat : At s index q (p.flatten ++ rest)) :
    ∀ ls row t, Speaks s ls row t →
      Means (Execution.block stage inner p.flatten.length) true p.meaning t := by
  intro ls row t ht
  have there := hat.speaks ht
  have calm := hs.speaks ht
  have long : p.flatten.length ≤ t.run.case.steps.length := by
    rw [there.length, List.length_append]
    omega
  have walk : Walks stage inner (blockAt stage inner t.run.case.steps.length) index
      (index + p.flatten.length) (p.flatten.length + 1) (index + 1) p.meaning t :=
    walks_program hwatch p calm there.index (there.index_small calm) (there.drop 0) (by omega)
      (by omega) long
  intro ls' row' h
  simp only [Execution.block, ends_bind, ends_getRun]
  exact blockAt_means there (by simp) walk ls' row' h

end Programs

section Whole
variable {left : Nat}

def Proceeds (stage : Stage σ) (inner : Inner σ) (left index : Nat) (m : Meaning) (s : State σ) :
    Prop :=
  ∀ ls row, m s.run.row = some (ls, row) →
    Ends (steps stage inner left true) (s.standing (index - 1 : Int))
      fun r t => r = .ok true ∧ ∃ i, Speaks (s.standing i) ls row t

theorem forward_index {c : Cursor} {i n : Nat} (h : c.index = (i : Int) - 1)
    (hn : i + n < signedWord) :
    c.forward n = { c with index := (i + n : Int) - 1 } := by
  have place : min Cursor.largest (c.index + min Cursor.largest n) = (i + n : Int) - 1 := by
    have near : (n : Int) ≤ Cursor.largest := by simp only [Cursor.largest]; omega
    have inside : (i + n : Int) - 1 ≤ Cursor.largest := by simp only [Cursor.largest]; omega
    rw [Int.min_eq_right near, h]
    omega
  rw [Cursor.forward, place]

theorem hasNext_calm (hs : Calm s) (Q : Except Fault Bool → State σ → Prop) :
    Ends hasNext s Q ↔ Q (.ok (decide (s.run.cursor.index < s.run.lastIndex))) s := by
  have unstopped := hs.stopped
  rw [State.isStopped, Bool.or_eq_false_iff] at unstopped
  simp only [hasNext, ends_bind, ends_get, unstopped.1, unstopped.2, Bool.false_and,
    Bool.false_eq_true, if_false, ends_pure, ends_getRun, Cursor.needsRunning, Bool.not_false,
    Bool.true_and]

theorem proceeds_done (hs : Calm s) (h : s.run.case.steps.length ≤ index) :
    Proceeds stage inner left index idle s := by
  rintro ls row ⟨⟩
  cases left with
  | zero => exact ⟨rfl, index - 1, .refl _⟩
  | succ left =>
    have last : decide ((s.standing (index - 1 : Int)).run.cursor.index <
        (s.standing (index - 1 : Int)).run.lastIndex) = false := by
      rw [decide_eq_false_iff_not]
      show ¬ ((index - 1 : Int) < (s.run.case.steps.length : Int) - 1)
      omega
    simp only [steps, ends_bind, hasNext_calm (hs.standing _), last, Bool.false_eq_true, if_false,
      ends_pure]
    exact ⟨trivial, index - 1, .refl _⟩

theorem proceeds_block (hwatch : stage.watch = none) {n : Nat} {p : Step} {rest : List Step}
    (hs : Calm s) (hat : At (s.standing index) index p rest) (hn : n ≤ rest.length)
    (haff : p.negated = false) (hconsumed : Action.consumed (s.standing index).run p = 1 + n)
    (hp : Performs stage (Execution.block stage inner) p m (s.standing index))
    (hnext : ∀ t, Calm t → t.run.case.steps.drop (index + (1 + n)) = rest.drop n →
      Proceeds stage inner left (index + (1 + n)) m' t) :
    Proceeds stage inner (left + 1) index ((started p m).seq m') s := by
  intro ls row h
  obtain ⟨a, q, b, ha, hb, rfl⟩ := seq_eq_some h
  have current : Means (executeCurrent stage inner (Execution.block stage inner)) ⟨true, 1 + n⟩
      (started p m) (s.standing index) := by
    rw [← hconsumed]
    exact executeCurrent_means hwatch (hs.standing index) hat haff hp
  have more : decide ((s.standing (index - 1 : Int)).run.cursor.index <
      (s.standing (index - 1 : Int)).run.lastIndex) = true := by
    have length : s.run.case.steps.length = index + 1 + rest.length := hat.length
    rw [decide_eq_true_iff]
    show ((index - 1 : Int) < (s.run.case.steps.length : Int) - 1)
    omega
  -- positions are words, and the case is short enough for none to wrap around
  have small : index + 1 + rest.length < signedWord := by
    have size := hs.size
    rwa [show s.run.case.steps.length = index + 1 + rest.length from hat.length] at size
  have begin : (s.standing (index - 1 : Int)).run.cursor.startStep =
      (s.standing index).run.cursor := by
    have before : (s.standing (index - 1 : Int)).run.cursor.index = (index : Int) - 1 := rfl
    have forward := forward_index before (n := 1) (by omega)
    rwa [show ((index : Int) + (1 : Nat)) - 1 = index by omega] at forward
  simp only [steps, next, ends_bind, hasNext_calm (hs.standing _), more, if_true, ends_modifyRun,
    begin]
  refine ends_mono (current a q ha) ?_
  rintro _ t ⟨rfl, ht⟩
  have calm : Calm t := (hs.standing index).speaks ht
  have stood : t.run.cursor.index = ((index + 1 : Nat) : Int) - 1 := by
    rw [(hat.speaks ht).index]
    omega
  -- after the step the cursor goes past the block that was walked over inside of it
  have passed : t.run.cursor.forward (1 + n - 1) =
      (t.standing ((index + (1 + n) : Nat) - 1 : Int)).run.cursor := by
    rw [forward_index stood (by omega)]
    simp only [State.standing]
    congr 1
    omega
  have rest := hnext t calm ((hat.speaks ht).drop n) b row (by rw [ht.row_eq]; exact hb)
  simp only [ends_pure, Bool.true_and, passed]
  refine ends_mono rest ?_
  rintro r u ⟨hr, i, hu⟩
  exact ⟨hr, i, (ht.standing i).trans hu⟩

theorem proceeds_owner (hwatch : stage.watch = none) {kind : Step.Kind} {keys : List String}
    {h : Head kind keys} {carried : Meaning → Meaning} (hc : Carries stage h carried)
    (hk : kind.isFlow = true) (body : Program) {rest : List Step} (hs : Calm s)
    (hsteps : s.run.case.steps.drop index =
      h.owning body.flatten.length :: (body.flatten ++ rest))
    (hnext : ∀ t, Calm t → t.run.case.steps.drop (index + (1 + body.flatten.length)) = rest →
      Proceeds stage inner left (index + (1 + body.flatten.length)) m' t) :
    Proceeds stage inner (left + 1) index
      ((started (h.owning body.flatten.length) (carried body.meaning)).seq m') s := by
  have hat : At (s.standing index) index (h.owning body.flatten.length) (body.flatten ++ rest) :=
    ⟨rfl, hsteps⟩
  have calm : Calm (s.standing index) := hs.standing index
  have owns : body.flatten.length ≤ (body.flatten ++ rest).length := by simp
  refine proceeds_block hwatch hs hat owns (h.owning_affirmed _) (consumed_block h hk calm hat owns)
    (hc calm hat owns (block_means hwatch body calm hat)) fun t ht hdrop => ?_
  rw [List.drop_left] at hdrop
  exact hnext t ht hdrop

theorem proceeds_program (hwatch : stage.watch = none) (p : Program) (hs : Calm s)
    (hsteps : s.run.case.steps.drop index = p.flatten) (hleft : p.flatten.length ≤ left) :
    Proceeds stage inner left index p.meaning s := by
  induction p generalizing s left index with
  | done => exact proceeds_done hs (List.drop_eq_nil_iff.1 hsteps)
  | echo h next ih =>
    simp only [flatten, List.length_cons] at hsteps hleft
    obtain ⟨left, rfl⟩ : ∃ k, left = k + 1 := ⟨left - 1, by omega⟩
    have hat : At (s.standing index) index h.step next.flatten := ⟨rfl, hsteps⟩
    refine proceeds_block (n := 0) hwatch hs hat (by omega) h.affirmed (consumed_act h _ rfl)
      (performs_echo h hat) fun t ht hdrop => ?_
    exact ih ht hdrop (by omega)
  | store h next ih =>
    simp only [flatten, List.length_cons] at hsteps hleft
    obtain ⟨left, rfl⟩ : ∃ k, left = k + 1 := ⟨left - 1, by omega⟩
    have hat : At (s.standing index) index h.step next.flatten := ⟨rfl, hsteps⟩
    refine proceeds_block (n := 0) hwatch hs hat (by omega) h.affirmed (consumed_act h _ rfl)
      (performs_store h hat) fun t ht hdrop => ?_
    exact ih ht hdrop (by omega)
  | loop h body next _ ih =>
    simp only [flatten, List.length_cons, List.length_append] at hsteps hleft
    obtain ⟨left, rfl⟩ : ∃ k, left = k + 1 := ⟨left - 1, by omega⟩
    refine proceeds_owner hwatch (loop_carries h) rfl body hs hsteps fun t ht hdrop => ?_
    exact ih ht hdrop (by omega)
  | branch h body next _ ih =>
    simp only [flatten, List.length_cons, List.length_append] at hsteps hleft
    obtain ⟨left, rfl⟩ : ∃ k, left = k + 1 := ⟨left - 1, by omega⟩
    refine proceeds_owner hwatch (branch_carries h) rfl body hs hsteps fun t ht hdrop => ?_
    exact ih ht hdrop (by omega)

end Whole

end Walks

/-- A run that executes the steps of a program, without interceptors, filters
and chain, and that nobody stops. -/
structure Executes (stage : Stage σ) (p : Program) (s : State σ) : Prop where
  steps : s.run.case.steps = p.flatten
  /-- No list in memory is longer. -/
  size : p.flatten.length < signedWord
  aspect : s.run.aspect = []
  included : s.run.case.included = .any
  excluded : s.run.case.excluded = .none
  fresh : s.run.cursor = .start false
  signal : s.world.signals.isStopped s.run.signal = false
  unwatched : stage.watch = none

section Finish
variable {s t : State σ}

theorem Speaks.along {ls : List String} {row : Row} {i : Int} (h : Speaks (s.standing i) ls row t) :
    Along (fun l => labels l = ls) s t := by
  obtain ⟨l, hw, hl⟩ := h.world
  refine ⟨l, ?_, hl⟩
  rw [hw]
  rfl

theorem Executes.calm {p : Program} (hs : Executes stage p s) : Calm (s.begun stage) := by
  have watched := speaks_emit hs.unwatched (s.prepared stage)
    (.opened (s.prepared stage).run.name (s.prepared stage).run.case.script (s.prepared stage).run.row)
  have prepared : Calm (s.prepared stage) := by
    refine ⟨?_, ?_, ?_, ?_⟩
    · show Aspect.freeze _ s.run.aspect = []
      rw [hs.aspect]
      rfl
    · intro q row
      show (s.run.case.included.selects q row && !s.run.case.excluded.selects q row) = true
      rw [hs.included, hs.excluded]
      rfl
    · show (s.run.cursor.stopped || s.world.signals.isStopped s.run.signal) = false
      rw [hs.fresh, hs.signal]
      rfl
    · show s.run.case.steps.length < signedWord
      rw [hs.steps]
      exact hs.size
  exact prepared.speaks watched

/-- What is left of a run when its steps are done, where no chain waits. -/
theorem endRun_calm (hs : Calm s) (hc : s.run.cursor.pending = false) (hw : stage.watch = none)
    {chain : Act σ Fault Bool} :
    Ends (endRun stage chain true) s fun r t =>
      r = .ok true ∧ Along (fun l => labels l = []) s t ∧ t.run.row = s.run.row := by
  have calm : Calm (s.emit stage .closed) := hs.speaks (speaks_emit hw s .closed)
  have stopped : ((s.emit stage .closed).released stage).isStopped = false := by
    rw [State.isStopped_released]
    exact calm.stopped
  have unchained : s.run.cursor.needsChain = false := by
    rw [Cursor.needsChain, hc]
    rfl
  have ended : (s.emit stage .closed).ended stage = (s.emit stage .closed).released stage := by
    rw [State.ended, stopped]
    rfl
  have closed : Along (fun l => labels l = []) s (s.emit stage .closed) := along_emit rfl
  simp only [endRun, Act.emit, ends_bind, ends_modifyWorld, ends_getRun, unchained,
    Bool.false_eq_true, if_false, ends_pure, Course.settle_ends]
  show (Except.ok (true && true && !((s.emit stage .closed).released stage).isStopped) = .ok true) ∧
    Along _ s ((s.emit stage .closed).ended stage) ∧
    ((s.emit stage .closed).ended stage).run.row = s.run.row
  rw [stopped, ended]
  exact ⟨rfl, labels_excerpt.along closed (along_released labels_excerpt.additive _), rfl⟩

end Finish

/-- A run of the flat list of a program whose counts can be read succeeds. It
starts the steps that the program starts, and leaves the row that it leaves. -/
theorem finish_means (stage : Stage σ) (depth : Nat) (p : Program) {s : State σ}
    (hs : Executes stage p s) {ls : List String} {row : Row}
    (hm : p.meaning (s.prepared stage).run.row = some (ls, row)) :
    let e := (finishWith stage (innerAt stage depth)).exec s
    e.1 = .ok true ∧ labels (World.since s.world e.2.world) = ls ∧ e.2.run.row = row := by
  intro e
  have steps : (s.begun stage).run.case.steps = p.flatten := hs.steps
  have fresh : (s.begun stage).standing ((0 : Nat) - 1 : Int) = s.begun stage := by
    refine standing_self ?_
    show s.run.cursor.index = _
    rw [hs.fresh]
    rfl
  have proceeds : Proceeds stage (innerAt stage depth) (p.flatten.length + 1) 0 p.meaning
      (s.begun stage) := proceeds_program hs.unwatched p hs.calm steps (by omega)
  have done := proceeds ls row hm
  rw [fresh] at done
  have run : Ends (finishWith stage (innerAt stage depth)) s fun r t =>
      r = .ok true ∧ Along (fun l => labels l = ls) s t ∧ t.run.row = row := by
    rw [finishWith, ends_bind, Course.start_ends]
    simp only [ends_bind, ends_getRun, ends_outcome, steps]
    refine ends_mono done ?_
    rintro _ t ⟨rfl, i, ht⟩
    have pending : t.run.cursor.pending = false := by
      rw [ht.run]
      show s.run.cursor.pending = false
      rw [hs.fresh]
      rfl
    refine ends_mono (endRun_calm ((hs.calm.standing i).speaks ht) pending hs.unwatched) ?_
    rintro r u ⟨hr, hu, hrow⟩
    have begun : Along (fun l => labels l = []) s (s.begun stage) :=
      along_emit (s := s.prepared stage) rfl
    have told := labels_excerpt.along (labels_excerpt.along begun ht.along) hu
    rw [List.nil_append, List.append_nil] at told
    exact ⟨hr, told, hrow.trans ht.row_eq⟩
  exact ⟨run.1, along_since run.2.1, run.2.2⟩

section Example

def counter : Head .store ["variable", "text"] where
  step := { kind := .store, texts := [("variable", "n"), ("text", "2")] }
  isKind := rfl
  affirmed := rfl
  complete := by decide

def twice : Head .loop ["count"] where
  step := { kind := .loop, texts := [("count", "$\x7bn\x7d")] }
  isKind := rfl
  affirmed := rfl
  complete := by decide

def guarded : Head .branch ["condition"] where
  step := { kind := .branch, texts := [("condition", "true"), ("skip", "false")] }
  isKind := rfl
  affirmed := rfl
  complete := by decide

def numbered : Head .echo ["text"] where
  step := { kind := .echo, texts := [("text", "$\x7b_loopCount\x7d")] }
  isKind := rfl
  affirmed := rfl
  complete := by decide

def skipped : Head .loop ["count"] where
  step := { kind := .loop, texts := [("count", "many"), ("skip", "true")] }
  isKind := rfl
  affirmed := rfl
  complete := by decide

def nested : Program :=
  .store counter (.loop twice (.branch guarded (.echo numbered .done)
    (.loop skipped (.echo numbered .done) .done)) .done)

open Brackets

def nestedState : State Unit :=
  firstState { script := { name := "script" }, steps := nested.flatten }

def nestedLabels : List String :=
  ["store variable:n text:2", "loop count:2 subStep:4", "if condition:true subStep:1",
    "echo text:1", "if condition:true subStep:1", "echo text:2"]

theorem nested_executes : Executes bare nested nestedState where
  steps := rfl
  size := by decide +kernel
  aspect := rfl
  included := rfl
  excluded := rfl
  fresh := rfl
  signal := by decide
  unwatched := rfl

theorem nested_means :
    ∃ row, nested.meaning (nestedState.prepared bare).run.row = some (nestedLabels, row) := by
  have labels : (nested.meaning (nestedState.prepared bare).run.row).map (·.1) =
      some nestedLabels := by decide +kernel
  obtain ⟨⟨ls, row⟩, hm, rfl⟩ := Option.map_eq_some_iff.1 labels
  exact ⟨row, hm⟩

theorem nested_finishes :
    Executes bare nested nestedState ∧ ∃ row,
      nested.meaning (nestedState.prepared bare).run.row = some (nestedLabels, row) ∧
        ((finishWith bare (innerAt bare depthLimit)).exec nestedState).1 = .ok true := by
  obtain ⟨row, hm⟩ := nested_means
  have done := finish_means bare depthLimit nested nested_executes hm
  exact ⟨nested_executes, row, hm, done.1⟩

end Example

end Flattening

end Scenario
