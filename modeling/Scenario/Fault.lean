/-!
# Faults

A trouble is a list of details, the outermost first. A fault of a run names
the place where a trouble arose; faults of nested runs are wrapped once, under
the name of the innermost run.
-/

set_option autoImplicit false

namespace Scenario

inductive Obstacle where
  | notFound
  | isADirectory
  | notADirectory
  | invalidData
  deriving DecidableEq, Repr

inductive Format where
  | json
  | yaml
  | csv
  | url
  | http
  deriving DecidableEq, Repr

inductive Detail where
  | text (s : String)
  | malformed (f : Format)
  | io (o : Obstacle)
  /-- Scripts that refer to one another beyond the allowed depth. -/
  | tooDeep
  deriving DecidableEq, Repr

abbrev Trouble := List Detail

def Obstacle.name : Obstacle → String
  | .notFound => "NotFound"
  | .isADirectory => "IsADirectory"
  | .notADirectory => "NotADirectory"
  | .invalidData => "InvalidData"

def Format.name : Format → String
  | .json => "json"
  | .yaml => "yaml"
  | .csv => "csv"
  | .url => "url"
  | .http => "http"

def Detail.message : Detail → String
  | .text s => s
  | .malformed f => "<" ++ f.name ++ ">"
  | .io o => "<io:" ++ o.name ++ ">"
  | .tooDeep => "nested too deeply"

namespace Trouble

def ofText (s : String) : Trouble := [.text s]

/-- Puts a sentence before a trouble. -/
def within (t : Trouble) (s : String) : Trouble := .text s :: t

def messages (t : Trouble) : List String := t.map Detail.message

end Trouble

def during {α : Type} (s : String) : Except Trouble α → Except Trouble α
  | .ok a => .ok a
  | .error t => .error (t.within s)

inductive Fault where
  | verification (message : String)
  | step (label : String) (cause : Trouble)
  | driver (cause : Trouble)
  | dataSource (name : String) (cause : Trouble)
  | load (name : String) (cause : Trouble)
  | fatal (run : String) (fault : Fault)
  deriving DecidableEq, Repr

namespace Fault

def message : Fault → String
  | .verification m => "verification failed: " ++ m
  | .step l _ => "step '" ++ l ++ "' raised an error"
  | .driver _ => "unable to create driver"
  | .dataSource n _ => "failed to load data source '" ++ n ++ "'"
  | .load n _ => "failed to load test case '" ++ n ++ "'"
  | .fatal r _ => "test run '" ++ r ++ "' aborted"

def causes : Fault → List String
  | .verification _ => []
  | .step _ t => t.messages
  | .driver t => t.messages
  | .dataSource _ t => t.messages
  | .load _ t => t.messages
  | .fatal _ f => f.message :: f.causes

def line (f : Fault) : String := ": ".intercalate (f.message :: f.causes)

/-- The fault that ended the run, unless it already ended a run inside it. -/
def inRun (run : String) : Fault → Fault
  | .fatal r f => .fatal r f
  | f => .fatal run f

/-- The innermost fault. -/
def root : Fault → Fault
  | .fatal _ f => f.root
  | f => f

def isVerification : Fault → Bool
  | .verification _ => true
  | _ => false

def isFatal : Fault → Bool
  | .fatal _ _ => true
  | _ => false

/-- A fault that arose in a step or in reading, not the end of another run. -/
def isOriginal (f : Fault) : Bool := !f.isVerification && !f.isFatal

theorem isFatal_inRun (run : String) (f : Fault) : (f.inRun run).isFatal = true := by
  cases f <;> rfl

theorem root_inRun (run : String) (f : Fault) : (f.inRun run).root = f.root := by
  cases f <;> rfl

theorem isVerification_of_isFatal {f : Fault} (h : f.isFatal = true) : f.isVerification = false := by
  cases f with
  | fatal _ _ => rfl
  | _ => cases h

theorem inRun_of_isFatal {f : Fault} (h : f.isFatal = true) (run : String) : f.inRun run = f := by
  cases f with
  | fatal _ _ => rfl
  | _ => cases h

theorem root_of_isOriginal {f : Fault} (h : f.isOriginal = true) : f.root = f := by
  cases f with
  | fatal _ _ => cases h
  | _ => rfl

theorem inRun_inRun (r s : String) (f : Fault) : (f.inRun r).inRun s = f.inRun r := by
  cases f <;> rfl

end Fault

end Scenario
