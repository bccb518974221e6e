import Scenario.Report
import Scenario.Settings
import Scenario.Yaml.Printer

/-!
# Report files

A report is written as JSON, as YAML or as plain text. The file is named for
the report and the second at which it is written.
-/

set_option autoImplicit false

namespace Scenario
open Scenario.Text

def optionalText : Option String → Json
  | some s => .str s
  | none => .null

def StepResult.toJson (s : StepResult) : Json :=
  .obj [("name", .str s.name), ("success", .bool s.success), ("error", optionalText s.error),
    ("duration_ms", .int s.duration)]

def SuiteResult.toJson (s : SuiteResult) : Json :=
  .obj [("name", .str s.name), ("script", optionalText s.script), ("success", .bool s.success),
    ("errors", .arr (s.errors.map .str)), ("steps", .arr (s.steps.map StepResult.toJson)),
    ("started_at", .str (s.startedAt.text true)), ("duration_ms", .int s.duration)]

namespace Report

def toJson (r : Report) : Json :=
  .obj [("name", .str r.name), ("success", .bool r.success),
    ("suites", .arr (r.suites.map SuiteResult.toJson)), ("total_duration_ms", .int r.duration),
    ("timestamp", .str r.timestamp)]

section Decoding
open Document
variable {N : Type} (R : Reading N)

def step (n : N) : Yaml.Reads StepResult := do
  let fs ← R.fields ["name", "success", "error", "duration_ms"] n
  return {
    name := ← Reading.required R.text (Assoc.get? fs "name")
    success := ← Reading.required R.bool (Assoc.get? fs "success")
    error := ← R.optional R.text (Assoc.get? fs "error")
    duration := ← Reading.required R.word (Assoc.get? fs "duration_ms") }

def moment (n : N) : Yaml.Reads Calendar.Moment := do
  return { ← just (Calendar.readLooseMoment (← R.text n)) with offset := 0 }

def suite (n : N) : Yaml.Reads SuiteResult := do
  let fs ← R.fields
    ["name", "script", "success", "errors", "steps", "started_at", "duration_ms"] n
  return {
    name := ← Reading.required R.text (Assoc.get? fs "name")
    script := ← R.optional R.text (Assoc.get? fs "script")
    success := ← Reading.required R.bool (Assoc.get? fs "success")
    errors := ← Reading.required (R.listOf R.text) (Assoc.get? fs "errors")
    steps := ← Reading.required (R.listOf (step R)) (Assoc.get? fs "steps")
    startedAt := ← Reading.required (moment R) (Assoc.get? fs "started_at")
    duration := ← Reading.required R.word (Assoc.get? fs "duration_ms") }

def decode (n : N) : Yaml.Reads Report := do
  let fs ← R.fields ["name", "success", "suites", "total_duration_ms", "timestamp"] n
  return {
    name := ← Reading.required R.text (Assoc.get? fs "name")
    success := ← Reading.required R.bool (Assoc.get? fs "success")
    suites := ← Reading.required (R.listOf (suite R)) (Assoc.get? fs "suites")
    duration := ← Reading.required R.word (Assoc.get? fs "total_duration_ms")
    timestamp := ← Reading.required R.text (Assoc.get? fs "timestamp") }

end Decoding

def ofJson? (v : Json) : Option Report := Document.ofValue decode v

def verdict (success : Bool) : String := if success then "PASS" else "FAIL"

def stepText (number : Nat) (s : StepResult) : String :=
  "  " ++ natText number ++ ". " ++ s.name ++ " (" ++ verdict s.success ++ ")\n" ++
    (match s.error with
      | some e => "     Error: " ++ e ++ "\n"
      | none => "") ++
    "     Duration: " ++ natText s.duration ++ " ms\n"

def stepTexts : Nat → List StepResult → String
  | _, [] => ""
  | n, s :: r => stepText n s ++ stepTexts (n + 1) r

def suiteText (s : SuiteResult) : String :=
  "\nSuite: " ++ s.name ++ " (" ++ verdict s.success ++ ")\n" ++
    String.join (s.errors.map fun e => "  Error: " ++ e ++ "\n") ++ stepTexts 1 s.steps

def text (r : Report) : String :=
  "Test result: " ++ r.name ++ "\nStatus: " ++ verdict r.success ++
    "\nDuration: " ++ natText r.duration ++ " ms\n" ++ String.join (r.suites.map suiteText)

def content (r : Report) : ReportFormat → String
  | .json => r.toJson.pretty 0
  | .yaml => Yaml.print r.toJson
  | .text => r.text

def fileStem (r : Report) : String :=
  r.name.map fun c => if c == ' ' || c == '/' || c == '\\' then '_' else c

end Report

def ReportFormat.extension : ReportFormat → String
  | .json => "json"
  | .yaml => "yaml"
  | .text => "txt"

def Report.fileName (r : Report) (format : ReportFormat) (second : Nat) : String :=
  r.fileStem ++ "-" ++ natText second ++ "." ++ format.extension

end Scenario
