import Scenario.Run.Action

/-!
# Execution of runs

A run opens its suite, executes its steps under advice, closes the suite and
runs its chain. Advice runs, chained runs and chains below them go through
`Inner`, which the depth of nesting bounds; a run beyond it is a case that
cannot be loaded.
-/

set_option autoImplicit false

namespace Scenario

/-- What happens inside a run: other runs to their end, and their chains. -/
structure Inner (σ : Type) where
  finish : Act σ Fault Bool
  chain : Act σ Fault Bool

namespace Execution
variable {σ : Type}

structure Outcome where
  success : Bool
  /-- Entries of the list that the step accounted for. -/
  consumed : Nat

section Advice
variable (stage : Stage σ) (inner : Inner σ)

def adviceSetup (r : Run) (signal : Signal) (c : Case) (s : Step) (kind : AdviceKind) : Run.Setup :=
  let index := r.cursor.current?.getD 0
  let row := (r.row.putAll s.description).put "_target.currentStepIndex" (Text.natText index)
  { case := { c with preventsContext := true }.settled
    signal
    name := r.name ++ "_" ++ Text.padded 2 index ++ "_" ++ s.kind.name ++ "_" ++ kind.name
    row
    session := some (r.session, false) }

def runAdvice (c : Case) (kind : AdviceKind) (s : Step) : Act σ Fault Bool := do
  let r ← Act.getRun
  Act.modifyWorld fun w => w.record (.adviceBegun kind)
  let signal ← Act.onWorld fun w => w.childSignal r.signal
  let nested ← Act.onWorld fun w => Run.build stage w (adviceSetup r signal c s kind)
  let (result, _) ← Act.inside nested inner.finish
  Act.conclude result

def callHook (h : Hook) (kind : AdviceKind) (s : Step) : Act σ Fault Bool := do
  let st ← get
  let a := h ⟨st.run.name, kind, s, st.run.row, st.world.hookCalls⟩
  Act.modifyWorld fun w => w.hookCalled a.note
  Act.modifyRun fun r => { r with row := r.row.putAll a.assign }
  if a.stop then
    Act.stop
    let r ← Act.getRun
    Act.modifyWorld fun w => w.record (.stopped r.signal kind s)
  Act.conclude a.result

def recorded (byHook : Bool) (kind : AdviceKind) (a : Act σ Fault Bool) : Act σ Fault Bool := do
  match ← Act.outcome a with
  | .ok b => do
    Act.modifyWorld fun w => w.record (.advised byHook kind b)
    pure b
  | .error f => do
    Act.modifyWorld fun w => w.record (.adviceRaised byHook kind f)
    throw f

def pick {α : Type} (kind : AdviceKind) (before after failure : α) : α :=
  match kind with
  | .before => before
  | .after => after
  | .failure => failure

/-- What an interceptor says at a step; it holds where it has nothing to say. -/
def advise (kind : AdviceKind) (s : Step) : Interceptor Case → Act σ Fault Bool
  | .script _ before after failure _ =>
    match pick kind before after failure with
    | some c => recorded false kind (runAdvice stage inner c kind s)
    | none => pure true
  | .hooks _ before after failure _ =>
    match pick kind before after failure with
    | some h => recorded true kind (callHook h kind s)
    | none => pure true

/-- Asks interceptors in order until one refuses. -/
def adviseAll (kind : AdviceKind) (s : Step) : List (Interceptor Case) → Act σ Fault Bool
  | [] => pure true
  | i :: r => do
    if ← advise stage inner kind s i then adviseAll kind s r else pure false

/-- Asks every interceptor, whatever those before it said. -/
def adviseEvery (kind : AdviceKind) (s : Step) : List (Interceptor Case) → Bool → Act σ Fault Bool
  | [], result => pure result
  | i :: r, result => do
    let b ← advise stage inner kind s i
    adviseEvery kind s r (b && result)

/-- A step did not hold: its failure advice runs, and unless the step lets the
run go on the failure ends it. -/
def failed (advice : List (Interceptor Case)) (s : Step) (label : String) : Act σ Fault Bool := do
  let message := label ++ " failed"
  Act.emit stage (.failure message)
  let result ← Act.outcome (adviseEvery stage inner .failure s advice true)
  Act.emit stage .ended
  match result with
  | .error f => throw f
  | .ok _ => if s.kind.goesOn then pure false else throw (.verification message)

/-- A step held; its after advice may still refuse it. -/
def succeeded (advice : List (Interceptor Case)) (s : Step) (label : String) :
    Act σ Fault Bool := do
  let accepted ← if s.kind.takesAfter then adviseAll stage inner .after s advice else pure true
  if accepted then
    Act.emit stage .ended
    pure true
  else failed stage inner advice s label

def raised (advice : List (Interceptor Case)) (s : Step) (f : Fault) :
    Act σ Fault Bool := do
  Act.emit stage (.error f)
  let _ ← Act.outcome (δ := Fault) (adviseEvery stage inner .failure s advice true)
  Act.emit stage .ended
  throw f

def judge (advice : List (Interceptor Case)) (s : Step) (label : String) :
    Except Problem Bool → Act σ Fault Bool
  | .ok result =>
    if result != s.negated then succeeded stage inner advice s label
    else failed stage inner advice s label
  | .error (.reported f) => do
    Act.emit stage .ended
    throw f
  | .error (.fault f) => raised stage inner advice s f
  | .error (.trouble t) => raised stage inner advice s (.step label t)

end Advice

section Steps
variable (stage : Stage σ) (inner : Inner σ)

def executeStep (block : Nat → Act σ Problem Bool) (s : Step) : Act σ Fault Outcome := do
  let r ← Act.getRun
  let consumed := Action.consumed r s
  if s.isSkipped r.row then pure ⟨true, consumed⟩
  else
    let advice := Aspect.advice r.aspect s r.row
    if ← adviseAll stage inner .before s advice then
      let label := s.label (← Act.getRun).row
      Act.emit stage (.started label)
      let result ← Act.outcome (Action.perform stage block s.kind)
      let success ← judge stage inner advice s label result
      pure ⟨success, consumed⟩
    else pure ⟨true, consumed⟩

def executeCurrent (block : Nat → Act σ Problem Bool) : Act σ Fault Outcome := do
  let r ← Act.getRun
  match r.step? with
  | some s =>
    Act.modifyWorld fun w => w.record (.turned (r.cursor.current?.getD 0))
    if r.case.includes s r.row then executeStep stage inner block s else pure ⟨true, 1⟩
  | none => pure ⟨true, 1⟩

def moveTo (i : Nat) : Act σ Problem Unit :=
  Act.modifyRun fun r => { r with cursor := r.cursor.moveTo i }

def walk (block : Nat → Act σ Problem Bool) (origin last : Nat) :
    Nat → Nat → Bool → Act σ Problem Bool
  | 0, _, success => do
    moveTo origin
    pure success
  | steps + 1, index, success => do
    if last < index ∨ (← Act.isStopped) then
      moveTo origin
      pure success
    else
      moveTo index
      match ← Act.outcome (executeCurrent stage inner block) with
      | .ok o => walk block origin last steps (index + o.consumed) (o.success && success)
      | .error f => do
        moveTo origin
        throw (.reported f)

/-- Executes the given number of steps after the current one. Steps inside
them stand further on, so the length of the list bounds the nesting. -/
def blockAt : Nat → Nat → Act σ Problem Bool
  | 0, _ => pure true
  | depth + 1, count => do
    let r ← Act.getRun
    match r.cursor.current? with
    | none => Act.trouble "no step is running"
    | some origin =>
      let last := min (origin + count) (r.case.steps.length - 1)
      walk stage inner (blockAt depth) origin last (last - origin + 1) (origin + 1) true

def block (count : Nat) : Act σ Problem Bool := do
  blockAt stage inner ((← Act.getRun).case.steps.length + 1) count

def next : Act σ Fault Bool := do
  Act.modifyRun fun r => { r with cursor := r.cursor.startStep }
  let o ← executeCurrent stage inner (block stage inner)
  Act.modifyRun fun r => { r with cursor := r.cursor.forward (o.consumed - 1) }
  pure o.success

/-- Whether a step is left; a stop from outside is noticed here. -/
def hasNext {ε : Type} : Act σ ε Bool := do
  let s ← get
  if s.world.signals.isStopped s.run.signal && !s.run.cursor.stopped then
    Act.modifyRun fun r => { r with cursor := r.cursor.stop }
  let r ← Act.getRun
  return r.cursor.needsRunning r.lastIndex

def steps : Nat → Bool → Act σ Fault Bool
  | 0, success => pure success
  | left + 1, success => do
    if ← hasNext then
      let r ← next stage inner
      steps left (r && success)
    else pure success

end Steps

section Finish
variable (stage : Stage σ)

/-- Assigns the reserved variables, freezes the advice and opens the suite. -/
def start {ε : Type} : Act σ ε Unit := do
  Act.modifyRun fun r =>
    let row := (r.row.put "_testCaseName" r.name).putAll stage.reserved
    { r with row, aspect := Aspect.freeze row r.aspect }
  let r ← Act.getRun
  Act.emit stage (.opened r.name r.case.script r.row)

def leave {ε : Type} : Act σ ε Unit := do
  Act.emit stage .closed
  Act.quitOwned stage
  Act.modifyRun fun r => { r with cursor := r.cursor.finish }

def release {ε : Type} : Act σ ε Unit := do
  Act.quitOwned stage
  Act.modifyRun fun r => { r with cursor := r.cursor.finish }

/-- Releases the browser; a run that was stopped does not succeed. -/
def settle (success : Bool) : Act σ Fault Bool := do
  release stage
  let stopped ← Act.isStopped
  if stopped then Act.modifyWorld fun w => w.record .endedStopped
  return success && !stopped

def endRun (chain : Act σ Fault Bool) (success : Bool) : Act σ Fault Bool := do
  Act.emit stage .closed
  let r ← Act.getRun
  let chainSuccess ← if r.cursor.needsChain then do
      Act.modifyRun fun r => { r with cursor := r.cursor.chainCalled }
      match ← Act.outcome chain with
      | .ok b => pure b
      | .error f => do
        release stage
        throw (f.inRun r.name)
    else pure true
  settle stage (success && chainSuccess)

/-- A failed verification halts the run; any other fault ends it. -/
def halt (f : Fault) : Act σ Fault Bool := do
  if f.isVerification then
    Act.modifyRun fun r => { r with aborted := true }
    leave stage
    pure false
  else
    leave stage
    throw (f.inRun (← Act.getRun).name)

end Finish

section Chain
variable (stage : Stage σ) (inner : Inner σ)

def report {α : Type} (a : Except Fault α) : Act σ Fault α :=
  match a with
  | .ok a => pure a
  | .error f => do
    Act.emit stage (.error f)
    throw f

/-- A chain that runs after the last row of its case. -/
def isDeferred (c : Case) : Bool := c.hasChain && !c.nestedChain

/-- What all rows of a chained case have in common. -/
structure Rows where
  case : Case
  name : String
  multiLine : Bool
  seed : Row
  aspect : Aspect

/-- The run of a row; the last row of a case with a deferred chain keeps its browser. -/
def rowSetup (rows : Rows) (session : Session) (signal : Signal) (n : Nat) (row : Row)
    (isLast : Bool) : Run.Setup :=
  let last := if rows.multiLine then row.last else rows.seed.last
  { case := rows.case
    signal
    name := if rows.multiLine then rows.name ++ "_row_" ++ Text.natText n else rows.name
    row := (rows.seed.withoutNumber.merge row).withLast last
    session := some (session, !rows.case.sharesState && !(isDeferred rows.case && isLast))
    inherited := rows.aspect
    chainEnabled := rows.case.nestedChain }

def openSession (c : Case) : Act σ Fault Session := do
  if c.sharesState then return (← Act.getRun).session
  else Act.onWorld World.newSession

/-- A browser that was kept for the chain is given back if its run failed. -/
def settleRow (c : Case) (run : Run) : Except Fault Bool → Act σ Fault (Bool × Run)
  | .ok b => pure (b, run)
  | .error f => do
    if !run.ownsSession && !c.sharesState then
      Act.modifyWorld fun w => w.quit stage run.session
    throw f

def runRow (rows : Rows) (n : Nat) (row : Row) (isLast : Bool) : Act σ Fault (Bool × Run) := do
  let parent ← Act.getRun
  let session ← openSession rows.case
  let signal ← Act.onWorld fun w => w.childSignal parent.signal
  let run ← Act.onWorld fun w => Run.build stage w (rowSetup rows session signal n row isLast)
  let (result, run) ← Act.inside run inner.finish
  settleRow stage rows.case run result

def runRows (rows : Rows) : Nat → List Row → Bool → Option Run → Act σ Fault (Bool × Option Run)
  | _, [], success, last => pure (success, last)
  | n, row :: rest, success, last => do
    let parent ← Act.getRun
    if (← get).world.signals.isStopped parent.signal then pure (success, last)
    else
      let (b, run) ← runRow stage inner rows n row rest.isEmpty
      runRows rows (n + 1) rest (b && success) (some run)

def giveBack (c : Case) (last : Run) : Act σ Fault Unit :=
  if c.sharesState then pure () else Act.modifyWorld fun w => w.quit stage last.session

/-- Runs the deferred chain of the last row and gives its browser back. -/
def runDeferred (c : Case) (last : Run) : Act σ Fault Bool := do
  let stopped := last.cursor.stopped || (← get).world.signals.isStopped last.signal
  if last.aborted || stopped then
    giveBack stage c last
    pure true
  else
    let (result, _) ← Act.inside last inner.chain
    giveBack stage c last
    Act.conclude result

def runGroup (rows : Rows) (list : List Row) : Act σ Fault (Bool × Option Run) := do
  if rows.multiLine then Act.emit stage (.opened rows.name rows.case.script rows.seed)
  let result ← Act.outcome (runRows stage inner rows 1 list true none)
  if rows.multiLine then Act.emit stage .closed
  Act.conclude result

def settleChild (c : Case) (success : Bool) : Option Run → Act σ Fault (Bool × Option Row)
  | none => pure (success, none)
  | some last => do
    if isDeferred c then
      let b ← runDeferred stage inner c last
      pure (b && success, some last.row)
    else pure (success, some last.row)

def runChild (index : Nat) (child : Case) (seed : Row) : Act σ Fault (Bool × Option Row) := do
  let parent ← Act.getRun
  let c ← report stage (child.materialize seed)
  let list ← report stage (c.effectiveLoader.load stage.sources stage.dataDir seed)
  let multiLine := c.effectiveLoader.isMultiLine stage.sources
  let name := parent.name ++ "_" ++ Text.natText index ++ "_" ++ c.name
  let (success, last) ← runGroup stage inner ⟨c, name, multiLine, seed, parent.chainAspect⟩ list
  settleChild stage inner c success last

/-- A chain passes over a case that is skipped or that waits for another row. -/
def isPassed (c : Case) (seed : Row) : Bool := c.isSkipped seed || (c.waitsForLast && !seed.last)

def nextSeed (takesOver : Bool) (seed : Row) : Option Row → Row
  | some row => if takesOver then row.withLast seed.last else seed
  | none => seed

def runChildren : Nat → List Case → Row → Bool → Act σ Fault Bool
  | _, [], _, success => pure success
  | index, child :: rest, seed, success => do
    let parent ← Act.getRun
    if (← get).world.signals.isStopped parent.signal then pure success
    else
      Act.modifyWorld fun w => w.record (.reached index (isPassed child seed))
      if isPassed child seed then runChildren (index + 1) rest seed success
      else
        let (b, row) ← runChild stage inner index child seed
        runChildren (index + 1) rest (nextSeed parent.case.takesOver seed row) (b && success)

def chain : Act σ Fault Bool := do
  let r ← Act.getRun
  runChildren stage inner 1 r.case.chain r.row true

end Chain

section Depth
variable (stage : Stage σ)

def finishWith (inner : Inner σ) : Act σ Fault Bool := do
  start stage
  let r ← Act.getRun
  match ← Act.outcome (steps stage inner (r.case.steps.length + 1) true) with
  | .ok success => endRun stage (chain stage inner) success
  | .error f => halt stage f

def beyond (name : String) : Fault := .load name [.tooDeep]

def beyondDepth : Inner σ where
  finish := do
    let r ← Act.getRun
    Act.emit stage (.error (beyond r.name))
    release stage
    throw ((beyond r.name).inRun r.name)
  chain := do
    let r ← Act.getRun
    Act.emit stage (.error (beyond r.name))
    throw (beyond r.name)

def innerAt : Nat → Inner σ
  | 0 => beyondDepth stage
  | depth + 1 => ⟨finishWith stage (innerAt depth), chain stage (innerAt depth)⟩

/-- How deep runs may lie inside one another, where no other depth is given. The bound belongs to
these definitions only: an engine nests runs for as long as its memory lasts. -/
def depthLimit : Nat := 1000

def inner (depth : Nat := depthLimit) : Inner σ := innerAt stage depth

def finish (depth : Nat := depthLimit) : Act σ Fault Bool := finishWith stage (inner stage depth)

end Depth

end Execution

end Scenario
