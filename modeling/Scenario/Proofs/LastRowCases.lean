import Scenario.Proofs.LoadedRows
import Scenario.Proofs.RunExtent
import Scenario.Proofs.SuiteGrammar

/-!
# Cases that wait for the last row

The rows of a source of several lines are numbered and the last one is marked.
The run of a row keeps the mark to its end and hands it to every case of its
chain, whatever the cases before left behind. A case that waits for the last
row is therefore passed over in the chains of all rows but one.
-/

set_option autoImplicit false

namespace Scenario
open Scenario.Act Scenario.Execution Scenario.State Scenario.Seeds Scenario.Text

variable {σ : Type} {stage : Stage σ} {inner : Inner σ}

namespace Awaiting
open Lineage Blame

section Course
variable {s t t' y : State σ} {n i : Nat} {b b' : Bool}

theorem rowing_unique {rows : Rows} {list l l' : List Row} {done done' : List Run}
    (h : Rowing stage inner rows list s n l b done t)
    (h' : Rowing stage inner rows list s n l' b' done' t') :
    l = l' ∧ b = b' ∧ done = done' ∧ t = t' := by
  induction h generalizing l' b' done' t' with
  | first =>
    cases h' with
    | first => exact ⟨rfl, rfl, rfl, rfl⟩
    | next before => cases before.left.1
  | next before running executed ih =>
    cases h' with
    | first => cases before.left.1
    | next before' running' executed' =>
      obtain ⟨same, rfl, rfl, rfl⟩ := ih before'
      cases same
      rw [executed] at executed'
      cases executed'
      exact ⟨rfl, rfl, rfl, rfl⟩

theorem reaches_unique {rest rest' : List Case} {seed seed' : Row} {past past' : List (List Run)}
    (h : Reaches stage inner y i rest seed b past t)
    (h' : Reaches stage inner y i rest' seed' b' past' t') :
    rest = rest' ∧ seed = seed' ∧ b = b' ∧ t = t' := by
  induction h generalizing rest' seed' b' past' t' with
  | first =>
    cases h' with
    | first => exact ⟨rfl, rfl, rfl, rfl⟩
    | passed before => cases before.left.1
    | ran before => cases before.left.1
  | passed before running passed ih =>
    cases h' with
    | first => cases before.left.1
    | passed before' =>
      obtain ⟨same, rfl, rfl, rfl⟩ := ih before'
      cases same
      exact ⟨rfl, rfl, rfl, rfl⟩
    | ran before' running' included =>
      obtain ⟨same, rfl, rfl, rfl⟩ := ih before'
      cases same
      rw [passed] at included
      cases included
  | ran before running included ran answer ih =>
    cases h' with
    | first => cases before.left.1
    | passed before' running' passed =>
      obtain ⟨same, rfl, rfl, rfl⟩ := ih before'
      cases same
      rw [passed] at included
      cases included
    | ran before' running' included' ran' answer' =>
      obtain ⟨same, rfl, rfl, rfl⟩ := ih before'
      cases same
      rw [answer] at answer'
      cases answer'
      exact ⟨rfl, rfl, rfl, rfl⟩

theorem arrives_unique {rows rows' : Rows} {list list' : List Row} {g g' : State σ}
    (h : Arrives stage inner y i rows list g) (h' : Arrives stage inner y i rows' list' g') :
    rows = rows' ∧ list = list' ∧ g = g' := by
  cases h with
  | intro reached running included read loaded =>
    cases h' with
    | intro reached' running' included' read' loaded' =>
      obtain ⟨same, rfl, rfl, rfl⟩ := reaches_unique reached reached'
      cases same
      rw [read] at read'
      cases read'
      rw [loaded] at loaded'
      cases loaded'
      exact ⟨rfl, rfl, rfl⟩

theorem begins_unique {x x' : State σ} (h : Begins stage inner y i n x)
    (h' : Begins stage inner y i n x') : x = x' := by
  cases h with
  | intro arrived went running =>
    cases h' with
    | intro arrived' went' running' =>
      obtain ⟨rfl, rfl, rfl⟩ := arrives_unique arrived arrived'
      obtain ⟨same, rfl, rfl, rfl⟩ := rowing_unique went went'
      cases same
      rfl

theorem line_ne_nil {depth k : Nat} {x : State σ} {part : Part} {line : List (Place σ)}
    (h : Descends stage depth s part k line x) : line ≠ [] := by
  induction h with
  | top => simp
  | chain _ _ _ ih => exact ih
  | row => simp
  | deferred => simp

theorem own_chain {k : Nat} {x y : State σ} {place : Place σ}
    (h : Descends stage k x .chain (k + 1) [place] y) :
    ∃ b t, (steps stage (innerAt stage k) (x.run.case.steps.length + 1) true).exec
        (x.begun stage) = (.ok b, t) ∧
      t.run.cursor.needsChain = true ∧ y = (t.emit stage .closed).chainCalled := by
  cases h with
  | chain run went waiting =>
    cases run with
    | top => exact ⟨_, _, went, waiting, rfl⟩
    | row chain => exact absurd rfl (line_ne_nil chain)
  | deferred chain => exact absurd rfl (line_ne_nil chain)

theorem reaches_before {rest : List Case} {seed : Row} {past : List (List Run)} {j : Nat}
    (h : Reaches stage inner y i rest seed b past t) (behind : j < past.length) :
    ∃ c l x a older u, Reaches stage inner y (j + 1) (c :: l) x a older u ∧
      u.world.signals.isStopped u.run.signal = false ∧
      (isPassed c x = false → ∃ p w,
        (runChild stage inner (j + 1) c x).exec (u.record (.reached (j + 1) false)) = (.ok p, w)) := by
  induction h with
  | first => cases behind
  | @passed i c rest seed b past t before running passed ih =>
    rcases Nat.lt_succ_iff_lt_or_eq.1 behind with earlier | rfl
    · exact ih earlier
    · obtain rfl := before.left.1
      refine ⟨c, rest, seed, b, past, t, before, running, fun included => ?_⟩
      rw [passed] at included
      cases included
  | @ran i c rest seed b d last past done t u before running included ran answer ih =>
    rcases Nat.lt_succ_iff_lt_or_eq.1 behind with earlier | rfl
    · exact ih earlier
    · obtain rfl := before.left.1
      exact ⟨c, rest, seed, b, past, t, before, running, fun _ => ⟨_, _, answer⟩⟩

end Course

/-- A run that came to its end and was neither aborted nor stopped. -/
structure Unbroken (inner : Inner σ) (x : State σ) (b : Bool) (v : State σ) : Prop where
  executed : inner.finish.exec x = (.ok b, v)
  unaborted : v.run.aborted = false
  unstopped : v.isStopped = false

section Unbroken
variable {x v : State σ} {k : Nat} {b : Bool}

theorem isStopped_before {s t : State σ} (h : Frame s t) (unstopped : t.isStopped = false) :
    s.isStopped = false := by
  obtain ⟨own, seen⟩ := Bool.or_eq_false_iff.1 unstopped
  rw [h.signal] at seen
  rw [State.isStopped, Bool.or_eq_false_iff]
  constructor
  · cases stopped : s.run.cursor.stopped with
    | false => rfl
    | true =>
      rw [h.stays stopped] at own
      cases own
  · cases stopped : s.world.signals.isStopped s.run.signal with
    | false => rfl
    | true =>
      rw [World.isStopped_grows h.world stopped] at seen
      cases seen

theorem running_above {s x v : State σ} (child : Frame.Child s x) (went : Frame x v)
    (unstopped : v.isStopped = false) :
    (s.after v).world.signals.isStopped (s.after v).run.signal = false := by
  have seen := (Bool.or_eq_false_iff.1 unstopped).2
  rw [went.signal, child.signal, Signals.isStopped, List.any_cons, Bool.or_eq_false_iff] at seen
  exact seen.2

theorem unbroken_chain (h : Unbroken (innerAt stage (k + 1)) x b v)
    (chained : x.run.cursor.pending = true) :
    ∃ y d u, Descends stage k x .chain (k + 1) [⟨0, 0, x⟩] y ∧
      (chain stage (innerAt stage k)).exec y = (.ok d, u) ∧ u.isStopped = false ∧
      y.run.case = x.run.case ∧ y.run.row.last = x.run.row.last := by
  rcases went : (steps stage (innerAt stage k) (x.run.case.steps.length + 1) true).exec
    (x.begun stage) with ⟨r, t⟩
  have onward := steps_onward stage k (x.run.case.steps.length + 1) (x.begun stage)
  rw [Ends, went] at onward
  have whole : Ends (finishWith stage (innerAt stage k)) x fun r u => r = .ok b ∧ u = v :=
    exec_eq_iff.1 h.executed
  rw [Course.finishWith_iff, Ends, went] at whole
  cases r with
  | error f =>
    dsimp only at whole
    rw [Course.halt_iff] at whole
    split at whole
    · obtain ⟨_, rfl⟩ := whole
      cases h.unaborted
    · cases whole.1
  | ok d =>
    dsimp only at whole
    rw [Course.endRun_iff] at whole
    have pending : t.run.cursor.pending = true := onward.kept.pending.trans chained
    split at whole
    · rename_i waiting
      rcases answer : (chain stage (innerAt stage k)).exec (t.emit stage .closed).chainCalled
        with ⟨f | e, u⟩
      · rw [Ends, answer] at whole
        cases whole.1
      · rw [Ends, answer] at whole
        obtain ⟨_, rfl⟩ := whole
        refine ⟨_, e, u, .chain .top went waiting, answer, ?_, ?_, ?_⟩
        · exact isStopped_before (Frame.frame_ended u) h.unstopped
        · exact onward.kept.case
        · exact onward.kept.last
    · rename_i idle
      obtain ⟨_, rfl⟩ := whole
      have closed : Frame t ((t.emit stage .closed).ended stage) :=
        (Frame.frame_emit t .closed).trans (Frame.frame_ended _)
      have running := (Bool.or_eq_false_iff.1 (isStopped_before closed h.unstopped)).1
      rw [Cursor.needsChain, pending, running] at idle
      exact absurd rfl idle

/-- In the chain of such a run each case has its turn, with the mark of the run's own row. -/
theorem unbroken_reaches (h : Unbroken (innerAt stage (k + 1)) x b v)
    (chained : x.run.cursor.pending = true) {j : Nat} {c : Case}
    (member : x.run.case.chain[j]? = some c) :
    ∃ y l seed a past t, Descends stage k x .chain (k + 1) [⟨0, 0, x⟩] y ∧
      Reaches stage (innerAt stage k) y (j + 1) (c :: l) seed a past t ∧
      t.world.signals.isStopped t.run.signal = false ∧ seed.last = x.run.row.last ∧
      (isPassed c seed = false → ∃ p w, (runChild stage (innerAt stage k) (j + 1) c seed).exec
        (t.record (.reached (j + 1) false)) = (.ok p, w)) := by
  obtain ⟨y, d, u, own, whole, unstopped, case, mark⟩ := unbroken_chain h chained
  have running := (Bool.or_eq_false_iff.1 unstopped).2
  have start : Reaches stage (innerAt stage k) y 1 _ _ _ [] y := .first
  obtain ⟨n, rest, seed, e, past, w, reached, ended | ⟨_, _, f, z, _, _, raised⟩⟩ := start.ends
  · obtain ⟨halted, answer⟩ := ended
    rw [whole] at answer
    cases answer
    rw [running] at halted
    obtain rfl := halted.resolve_right Bool.false_ne_true
    have behind : j < past.length := by
      have left := congrArg List.length reached.left.2.1
      have place := (List.getElem?_eq_some_iff.1 member).1
      rw [case, List.length_drop, List.length_nil] at left
      omega
    obtain ⟨c', l, seed', a, older, t, came, going, called⟩ := reaches_before reached behind
    have same : c' = c := by
      obtain ⟨number, left, _⟩ := came.left
      have place : older.length = j := by omega
      have head := congrArg List.head? left
      rw [List.head?_drop, place, case, member] at head
      exact Option.some.inj head
    subst same
    refine ⟨y, l, seed', a, older, t, own, came, going, ?_, called⟩
    rw [came.begins, handed_last, mark]
  · rw [whole] at raised
    cases raised

end Unbroken

section Rows
variable {k i : Nat} {y g x : State σ} {rows : Rows} {list raw : List Row} {source : DataSource}

/-- The chain of a row's run has come to the case with this number, which is not cut off by a stop
and is to begin with these variables. -/
inductive Comes (stage : Stage σ) (k : Nat) (y : State σ) (i j : Nat) :
    Nat → Case → Row → State σ → Prop
  | intro {n : Nat} {x z : State σ} {c : Case} {rest : List Case} {seed : Row} {b : Bool}
      {past : List (List Run)} {t : State σ}
      (begins : Begins stage (innerAt stage (k + 1)) y i n x)
      (chain : Descends stage k x .chain (k + 1) [⟨0, 0, x⟩] z)
      (reached : Reaches stage (innerAt stage k) z j (c :: rest) seed b past t)
      (running : t.world.signals.isStopped t.run.signal = false) :
      Comes stage k y i j n c seed t

theorem Comes.begins {j n : Nat} {c : Case} {seed : Row} {t : State σ}
    (h : Comes stage k y i j n c seed t) : ∃ x, Begins stage (innerAt stage (k + 1)) y i n x := by
  cases h with
  | intro begins => exact ⟨_, begins⟩

theorem comes_unique {j n : Nat} {c c' : Case} {seed seed' : Row} {t t' : State σ}
    (h : Comes stage k y i j n c seed t) (h' : Comes stage k y i j n c' seed' t') :
    c = c' ∧ seed = seed' ∧ t = t' := by
  cases h with
  | intro begins chain reached running =>
    cases h' with
    | intro begins' chain' reached' running' =>
      obtain rfl := begins_unique begins begins'
      obtain ⟨b, u, went, _, rfl⟩ := own_chain chain
      obtain ⟨b', u', went', _, rfl⟩ := own_chain chain'
      rw [went] at went'
      cases went'
      obtain ⟨same, rfl, _, rfl⟩ := reaches_unique reached reached'
      cases same
      exact ⟨rfl, rfl, rfl⟩

section Source
variable (arrived : Arrives stage inner y i rows list g)
  (known : stage.sources rows.case.effectiveLoader.source = some source)
  (several : source.multiLine = true)
  (delivered : source.rows (Assoc.mapValues rows.seed.bind rows.case.effectiveLoader.config)
    [rows.case.effectiveLoader.dir, stage.dataDir] rows.seed = .ok raw)
include arrived known several delivered

theorem rows_numbered : rows.multiLine = true ∧ list = Loader.numbered true 1 raw := by
  cases arrived with
  | intro reached running included read loaded =>
    simp only [rowsOf] at known delivered ⊢
    rw [Loader.load, known] at loaded
    dsimp only at loaded
    rw [delivered, several] at loaded
    rw [Loader.isMultiLine, known]
    refine ⟨several, ?_⟩
    split at loaded
    · cases loaded
      rfl
    · cases loaded

/-- The run of a row has the variables that its source delivered, its place as its number, and is
marked if it is the last one. -/
theorem row_numbered {n : Nat} (begins : Begins stage inner y i n x) :
    ∃ m row, n = m + 1 ∧ raw[m]? = some row ∧
      x.run.row = { (rows.seed.withoutNumber.merge
          (row.put Row.rowNumberKey (natText n))).withLast (decide (n = raw.length)) with
        env := stage.env } := by
  obtain ⟨lines, numbered⟩ := rows_numbered arrived known several delivered
  cases begins with
  | @intro _ _ rest row b done _ t arrived' went running =>
    obtain ⟨rfl, rfl, rfl⟩ := arrives_unique arrived arrived'
    obtain ⟨rfl, left, _⟩ := went.left
    have place : list[done.length]? = some row := by
      rw [← List.head?_drop, ← left]
      rfl
    rw [numbered, Loader.getElem?_numbered] at place
    obtain ⟨own, here, same⟩ := Option.map_eq_some_iff.1 place
    refine ⟨done.length, own, rfl, here, ?_⟩
    rw [rowStart_row, lines, if_pos rfl, ← same, Nat.add_comm 1]
    rfl

end Source

/-- Rows go on to the last one if the run of none is cut off. -/
theorem rows_onward (finishes : Framed inner.finish) (arrived : Arrives stage inner y i rows list g)
    (running : g.world.signals.isStopped g.run.signal = false)
    (unbroken : ∀ n x, Begins stage inner y i n x → ∃ b v, Unbroken inner x b v)
    {m : Nat} (place : m < list.length) :
    ∃ row rest b done t, Rowing stage inner rows list g (m + 1) (row :: rest) b done t ∧
      t.world.signals.isStopped t.run.signal = false := by
  induction m with
  | zero =>
    cases list with
    | nil => cases place
    | cons row rest => exact ⟨row, rest, true, [], g, .first, running⟩
  | succ m ih =>
    obtain ⟨row, rest, b, done, t, went, going⟩ := ih (Nat.lt_of_succ_lt place)
    obtain ⟨c, v, end_⟩ := unbroken _ _ (.intro arrived went going)
    have next := went.next going end_.executed
    obtain ⟨number, left, _⟩ := next.left
    cases rest with
    | nil =>
      have short := congrArg List.length left
      rw [List.length_drop, List.length_nil] at short
      omega
    | cons row' rest' =>
      refine ⟨row', rest', _, _, _, next, ?_⟩
      exact running_above (Frame.child_row rows _ _ _ t) (framed_exec finishes end_.executed)
        end_.unstopped

theorem begun_number (x : State σ) :
    (x.begun stage).run.row.get? Row.rowNumberKey = x.run.row.get? Row.rowNumberKey := by
  have keys : (Assoc.keys stage.reserved).Nodup := by
    simp [Assoc.keys, Stage.reserved]
  have free : Assoc.get? stage.reserved Row.rowNumberKey = none :=
    Assoc.get?_eq_none (by simp [Assoc.keys, Stage.reserved, Row.rowNumberKey])
  show Assoc.get? (Assoc.putAll (Assoc.put x.run.row.vars "_testCaseName" x.run.name)
    stage.reserved) Row.rowNumberKey = _
  rw [Assoc.get?_putAll _ _ keys, free, Assoc.get?_put_other _ _ (by decide)]
  rfl

theorem row_turn {j n : Nat} {c : Case}
    (arrived : Arrives stage (innerAt stage (k + 1)) y i rows list g)
    (known : stage.sources rows.case.effectiveLoader.source = some source)
    (several : source.multiLine = true)
    (delivered : source.rows (Assoc.mapValues rows.seed.bind rows.case.effectiveLoader.config)
      [rows.case.effectiveLoader.dir, stage.dataDir] rows.seed = .ok raw)
    (nested : rows.case.nestedChain = true) (member : rows.case.chain[j]? = some c)
    (begins : Begins stage (innerAt stage (k + 1)) y i n x) {b : Bool} {v : State σ}
    (ended : Unbroken (innerAt stage (k + 1)) x b v) :
    ∃ seed t, Comes stage k y i (j + 1) n c seed t ∧ seed.last = decide (n = raw.length) ∧
      (isPassed c seed = false → ∃ p w, (runChild stage (innerAt stage k) (j + 1) c seed).exec
        (t.record (.reached (j + 1) false)) = (.ok p, w)) := by
  obtain ⟨_, _, _, _, begun⟩ := row_numbered arrived known several delivered begins
  have built : x.run.case = rows.case ∧ x.run.cursor.pending = true := by
    cases begins with
    | @intro _ _ rest row _ _ _ t arrived' went _ =>
      obtain ⟨rfl, _, _⟩ := arrives_unique arrived arrived'
      obtain ⟨case, pending, _⟩ := Suites.rowStart_run stage rows n row rest.isEmpty t
      refine ⟨case, ?_⟩
      rw [pending, nested, Case.hasChain]
      cases chain : rows.case.chain with
      | nil =>
        rw [chain] at member
        cases member
      | cons _ _ => rfl
  obtain ⟨z, l, seed, a, past, t, chain, reached, going, mark, called⟩ :=
    unbroken_reaches ended built.2 (built.1 ▸ member)
  refine ⟨seed, t, .intro begins chain reached going, ?_, called⟩
  rw [mark, begun]
  rfl

/-- A case of several rows has a chain within each of them, and one case of that chain waits for
the last row. If no stop was there when the rows began, no run of a row is aborted or stopped or
raises a fault, and the waiting case is not skipped when its turn comes, it is called exactly
once, in the chain of the last row. Each row that the source delivers has one run. This begins
with the place of the row as its number, which the opening of its suite leaves alone, whatever
the row says itself, and with all other variables of the row. -/
theorem waiting_called_once {j : Nat} {waiting : Case}
    (arrived : Arrives stage (innerAt stage (k + 1)) y i rows list g)
    (known : stage.sources rows.case.effectiveLoader.source = some source)
    (several : source.multiLine = true)
    (delivered : source.rows (Assoc.mapValues rows.seed.bind rows.case.effectiveLoader.config)
      [rows.case.effectiveLoader.dir, stage.dataDir] rows.seed = .ok raw)
    (columns : DataSource.Distinct raw) (positive : 0 < raw.length)
    (nested : rows.case.nestedChain = true) (member : rows.case.chain[j]? = some waiting)
    (waits : waiting.waitsForLast = true)
    (running : g.world.signals.isStopped g.run.signal = false)
    (unbroken : ∀ n x, Begins stage (innerAt stage (k + 1)) y i n x →
      ∃ b v, Unbroken (innerAt stage (k + 1)) x b v)
    (unskipped : ∀ seed t, Comes stage k y i (j + 1) raw.length waiting seed t →
      waiting.isSkipped seed = false) :
    (∃ seed t, (∀ n c x u, (Comes stage k y i (j + 1) n c x u ∧ isPassed c x = false) ↔
          n = raw.length ∧ c = waiting ∧ x = seed ∧ u = t) ∧
        ∃ p w, (runChild stage (innerAt stage k) (j + 1) waiting seed).exec
          (t.record (.reached (j + 1) false)) = (.ok p, w)) ∧
      (∀ n x z, ¬ Defers stage (innerAt stage (k + 1)) y i n x z) ∧
      ∀ m row, raw[m]? = some row →
        ∃ x, (∀ x', Begins stage (innerAt stage (k + 1)) y i (m + 1) x' ↔ x' = x) ∧
          x.run.row.get? Row.rowNumberKey = some (natText (m + 1)) ∧
          (x.begun stage).run.row.get? Row.rowNumberKey = some (natText (m + 1)) ∧
          ∀ key v, key ≠ Row.rowNumberKey → row.get? key = some v →
            x.run.row.get? key = some v := by
  obtain ⟨_, numbered⟩ := rows_numbered arrived known several delivered
  -- no row is cut off, so each of them has its run
  have run_of : ∀ m, m < raw.length → ∃ x, Begins stage (innerAt stage (k + 1)) y i (m + 1) x := by
    intro m place
    rw [← Loader.length_numbered true 1 raw, ← numbered] at place
    obtain ⟨_, _, _, _, t, went, going⟩ :=
      rows_onward (framed_innerAt stage (k + 1)).1 arrived running unbroken place
    exact ⟨_, .intro arrived went going⟩
  refine ⟨?_, ?_, ?_⟩
  · obtain ⟨x, begins⟩ := run_of (raw.length - 1) (Nat.sub_one_lt_of_lt positive)
    -- the chain of the last row comes to the case, which is marked there
    rw [Nat.sub_add_cancel positive] at begins
    obtain ⟨b, v, ended⟩ := unbroken _ _ begins
    obtain ⟨seed, t, comes, mark, called⟩ :=
      row_turn arrived known several delivered nested member begins ended
    have included : isPassed waiting seed = false := by
      rw [isPassed, unskipped seed t comes, waits, mark]
      simp
    refine ⟨seed, t, fun n c x' u => ⟨?_, ?_⟩, called included⟩
    -- in any other row the mark is missing, and the case is passed over
    · rintro ⟨comes', included'⟩
      obtain ⟨x'', begins'⟩ := comes'.begins
      obtain ⟨b', v', ended'⟩ := unbroken _ _ begins'
      obtain ⟨seed', t', here, mark', _⟩ :=
        row_turn arrived known several delivered nested member begins' ended'
      obtain ⟨rfl, rfl, rfl⟩ := comes_unique comes' here
      rw [isPassed, waits, mark'] at included'
      have last : n = raw.length := by simpa using (Bool.or_eq_false_iff.1 included').2
      subst last
      obtain ⟨_, rfl, rfl⟩ := comes_unique comes' comes
      exact ⟨rfl, rfl, rfl, rfl⟩
    · rintro ⟨rfl, rfl, rfl, rfl⟩
      exact ⟨comes, included⟩
  · intro n x z defers
    cases defers with
    | intro arrived' _ _ _ _ deferred =>
      obtain ⟨rfl, _, _⟩ := arrives_unique arrived arrived'
      rw [isDeferred, nested] at deferred
      simp at deferred
  · intro m row here
    obtain ⟨x, begins⟩ := run_of m (List.getElem?_eq_some_iff.1 here).1
    obtain ⟨m', row', place, here', begun⟩ := row_numbered arrived known several delivered begins
    obtain rfl : m = m' := by omega
    obtain rfl : row = row' := Option.some.inj (here.symm.trans here')
    have distinct := columns row (List.mem_of_getElem? here)
    have number : x.run.row.get? Row.rowNumberKey = some (natText (m + 1)) := by
      rw [begun]
      exact Row.merged_number distinct _
    refine ⟨x, fun x' => ⟨fun begins' => begins_unique begins' begins, ?_⟩, number, ?_, ?_⟩
    · rintro rfl
      exact begins
    · rw [begun_number, number]
    · intro key v other column
      rw [begun]
      exact Row.merged_column distinct _ other column

end Rows

section Example
open Brackets

def register : Stage Unit :=
  { bare with sources := fun name => some (if name = "letters" then letters else .none) }

def closing : Case where
  script := { name := "closing" }
  steps := [{ kind := .echo, texts := [("text", "after ${letter}")] }]
  waitsForLast := true

def spelling : Case where
  script := { name := "spelling" }
  loader := { source := "letters" }
  nestedChain := true
  chain := [storing, closing]
  takesOver := true

def alphabet : State Unit := firstState { script := { name := "alphabet" }, chain := [spelling] }

theorem closing_unskipped (seed : Row) : closing.isSkipped seed = false := by
  have value : seed.evaluateString closing.skip = closing.skip :=
    seed.evaluateString_eq_self (by decide +kernel) (by decide +kernel)
  rw [Case.isSkipped, Row.evaluate, value]
  decide +kernel

def spelled : Rows := rowsOf register alphabet.run 1 spelling alphabet.run.row

theorem spelling_arrives :
    Arrives register (innerAt register 2) alphabet 1 spelled
      (Loader.numbered true 1 [{ vars := [("letter", "a")] }, { vars := [("letter", "b")] }])
      (grouped register spelled (alphabet.record (.reached 1 false))) := by
  have start : Reaches register (innerAt register 2) alphabet 1 [spelling] alphabet.run.row true []
      alphabet := .first
  exact .intro start (by decide +kernel) (by decide +kernel) rfl rfl

theorem unbroken_of_result {inner : Inner Unit} {x : State Unit}
    (h : (let e := inner.finish.exec x
      e.1.toOption == some true && !e.2.run.aborted && !e.2.isStopped) = true) :
    Unbroken inner x true (inner.finish.exec x).2 := by
  simp only [Bool.and_eq_true, Bool.not_eq_true', beq_iff_eq] at h
  refine ⟨?_, h.1.2, h.2⟩
  rcases executed : inner.finish.exec x with ⟨f | b, v⟩
  · rw [executed] at h
    cases h.1.1
  · rw [executed] at h
    obtain rfl : b = true := Option.some.inj h.1.1
    rfl

theorem spelling_unbroken (n : Nat) (x : State Unit)
    (begins : Begins register (innerAt register 2) alphabet 1 n x) :
    ∃ b v, Unbroken (innerAt register 2) x b v := by
  obtain ⟨m, row, rfl, here, _⟩ := row_numbered spelling_arrives rfl rfl rfl begins
  have first := Begins.intro spelling_arrives .first (by decide +kernel)
  match m with
  | 0 =>
    rw [begins_unique begins first]
    exact ⟨_, _, unbroken_of_result (by decide +kernel)⟩
  | 1 =>
    have second := Begins.intro spelling_arrives
      (.next .first (by decide +kernel) (unbroken_of_result (by decide +kernel)).executed)
      (by decide +kernel)
    rw [begins_unique begins second]
    exact ⟨_, _, unbroken_of_result (by decide +kernel)⟩
  | m + 2 => cases here

/-- The case that waits is called in the second row of two, after a case from which the chain
takes over its variables. -/
theorem closing_called_once :
    (∃ seed t, ∀ n c x u,
      (Comes register 1 alphabet 1 2 n c x u ∧ isPassed c x = false) ↔
        n = 2 ∧ c = closing ∧ x = seed ∧ u = t) ∧
      ∃ x, Begins register (innerAt register 2) alphabet 1 2 x ∧
        x.run.row.get? "_rowNumber" = some "2" ∧ x.run.row.get? "letter" = some "b" := by
  obtain ⟨⟨seed, t, once, _⟩, _, rows⟩ := waiting_called_once spelling_arrives rfl rfl rfl
    (by decide) (by decide) rfl (j := 1) rfl rfl (by decide +kernel) spelling_unbroken
    fun seed _ _ => closing_unskipped seed
  obtain ⟨x, begins, number, _, columns⟩ := rows 1 _ rfl
  exact ⟨⟨seed, t, once⟩, x, (begins x).2 rfl, number.trans (by decide +kernel),
    columns "letter" "b" (by decide) (by decide)⟩

end Example

end Awaiting

end Scenario
