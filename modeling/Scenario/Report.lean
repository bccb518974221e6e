import Scenario.Calendar
import Scenario.World

/-!
# Reports

A report is kept while events arrive: suites that are open lie on a stack, and
a problem belongs to the step in progress of the innermost one, or to the
suite itself between steps. Closed suites are reported in the order in which
they were opened.
-/

set_option autoImplicit false

namespace Scenario

structure StepResult where
  name : String
  success : Bool := true
  error : Option String := none
  duration : Nat := 0
  deriving DecidableEq, Repr

structure SuiteResult where
  name : String
  script : Option String := none
  success : Bool := true
  /-- Problems outside of steps. -/
  errors : List String := []
  steps : List StepResult := []
  startedAt : Calendar.Moment := ⟨0, 0, 0⟩
  duration : Nat := 0
  deriving DecidableEq, Repr

structure Report where
  name : String
  success : Bool
  suites : List SuiteResult
  duration : Nat := 0
  timestamp : String := ""
  deriving DecidableEq, Repr

def Report.failedSuites (r : Report) : List SuiteResult := r.suites.filter fun s => !s.success

structure OpenSuite where
  order : Nat
  result : SuiteResult
  step : Option StepResult := none
  deriving DecidableEq, Repr

structure Recorder where
  opened : Nat := 0
  stack : List OpenSuite := []
  /-- Suites in the order in which they were closed. -/
  finished : List (Nat × SuiteResult) := []
  deriving DecidableEq, Repr, Inhabited

namespace Recorder

def openSuite (r : Recorder) (name : String) (script : Option String) : Recorder :=
  { r with opened := r.opened + 1, stack := ⟨r.opened, { name, script }, none⟩ :: r.stack }

def startStep (r : Recorder) (label : String) : Recorder :=
  match r.stack with
  | s :: rest => { r with stack := { s with step := some { name := label } } :: rest }
  | [] => r

def OpenSuite.settleStep (s : OpenSuite) : OpenSuite :=
  match s.step with
  | some step =>
    { s with result := { s.result with steps := s.result.steps ++ [step] }, step := none }
  | none => s

def endStep (r : Recorder) : Recorder :=
  match r.stack with
  | s :: rest => { r with stack := OpenSuite.settleStep s :: rest }
  | [] => r

/-- A step keeps its first problem, a suite all that arise between steps. -/
def problem (r : Recorder) (message : String) : Recorder :=
  match r.stack with
  | s :: rest =>
    let result := { s.result with success := false }
    let s := match s.step with
      | some step =>
        { s with
          result
          step := some { step with success := false, error := some (step.error.getD message) } }
      | none => { s with result := { result with errors := result.errors ++ [message] } }
    { r with stack := s :: rest }
  | [] => r

def closeSuite (r : Recorder) : Recorder :=
  match r.stack with
  | s :: rest =>
    { r with
      stack := rest
      finished := r.finished ++ [(s.order, (OpenSuite.settleStep s).result)] }
  | [] => r

def apply (r : Recorder) : Event → Recorder
  | .opened suite script _ => r.openSuite suite script.path
  | .started label => r.startStep label
  | .ended => r.endStep
  | .failure m => r.problem m
  | .error f => r.problem f.line
  | .closed => r.closeSuite

def ofEvents (es : List Event) : Recorder := es.foldl apply {}

def insertByOrder (e : Nat × SuiteResult) : List (Nat × SuiteResult) → List (Nat × SuiteResult)
  | [] => [e]
  | f :: r => if e.1 < f.1 then e :: f :: r else f :: insertByOrder e r

def suites (r : Recorder) : List SuiteResult :=
  (r.finished.foldl (fun es e => insertByOrder e es) []).map (·.2)

def report (r : Recorder) (name : String) : Report :=
  { name, success := r.suites.all (·.success), suites := r.suites }

end Recorder

end Scenario
