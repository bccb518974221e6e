import Scenario.Run.Execution

/-!
# Execution of top-level cases

A case is executed once for each of its rows. A case that shares its browser
keeps one for all of them.
-/

set_option autoImplicit false

namespace Scenario.Runner
variable {σ : Type}

def rowName (c : Case) (multiLine : Bool) (n : Nat) : String :=
  if multiLine then c.name ++ "_row_" ++ Text.natText n else c.name

def rowStart (stage : Stage σ) (stop : Signal) (c : Case) (shared : Option Session)
    (name : String) (row : Row) (w : World σ) : State σ :=
  let (signal, w) := w.childSignal stop
  let (run, w) := Run.build stage w
    { case := c, signal, name, row, session := shared.map fun s => (s, false) }
  ⟨w, run⟩

/-- Runs the rows from number `n` on; a stop or a fault ends them. -/
def runRows (stage : Stage σ) (depth : Nat) (stop : Signal) (c : Case) (multiLine : Bool)
    (shared : Option Session) : Nat → List Row → Bool → World σ → Except Fault Bool × World σ
  | _, [], success, w => (.ok success, w)
  | n, row :: rest, success, w =>
    if w.signals.isStopped stop then (.ok false, w)
    else
      let (result, s) := StateT.run (ExceptT.run (Execution.finish stage depth))
        (rowStart stage stop c shared (rowName c multiLine n) row w)
      match result with
      | .ok b => runRows stage depth stop c multiLine shared (n + 1) rest (b && success) s.world
      | .error f => (.error f, s.world)

def execute (stage : Stage σ) (depth : Nat) (stop : Signal) (c : Case) (w : World σ) :
    Except Fault Bool × World σ :=
  match c.effectiveLoader.load stage.sources stage.dataDir (stage.emptyRow.withLast true) with
  | .error f => (.error f, w)
  | .ok rows =>
    let multiLine := c.effectiveLoader.isMultiLine stage.sources
    if c.sharesState then
      let (session, w) := w.newSession
      let (result, w) := runRows stage depth stop c multiLine (some session) 1 rows true w
      (result, w.quit stage session)
    else runRows stage depth stop c multiLine none 1 rows true w

/-- Executes a case under a stop signal. -/
def run (stage : Stage σ) (stop : Signal) (c : Case) (w : World σ)
    (depth : Nat := Execution.depthLimit) : Except Fault Bool × World σ :=
  match c.materialize stage.emptyRow with
  | .ok c => execute stage depth stop c w
  | .error f => (.error f, w)

end Scenario.Runner
