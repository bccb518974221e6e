import Scenario.Document.Reading

/-!
# Documents

Scripts, suites and aspects as they are written. Entries of chains and suites
are either chains or scripts and are always read strictly; a record of neither
form makes the whole document invalid.
-/

set_option autoImplicit false

namespace Scenario.Document
open Yaml (Reads)

structure Source where
  source : String
  config : Assoc Json
  data : Option Json

structure ScriptEntry where
  path : String
  skip : Option String
  source : Option Source
  nestedChain : Bool
  waitsForLast : Bool
  sharesState : Option Bool

inductive Entry where
  | chain (entries : List Entry) (takesOver : Bool) (skip : Option String)
  | script (e : ScriptEntry)

structure InterceptorDocument where
  pointcut : Option (List (Assoc Json))
  before : Option (List Json)
  after : Option (List Json)
  failure : Option (List Json)
  takesOver : Bool

structure ScriptDocument where
  kind : String
  name : Option String
  steps : List Json
  source : Option Source
  aspect : List InterceptorDocument
  chains : List Entry
  scripts : List Entry
  sharesState : Option Bool
  takesOver : Bool
  included : List (Assoc Json)
  excluded : List (Assoc Json)

section Decoding
variable {N : Type} (R : Reading N)

def source (n : N) : Reads Source := do
  let fs ← R.fields ["source", "configs", "data"] n
  return {
    source := ← Reading.required R.text (Assoc.get? fs "source")
    config := ← Reading.defaulted R.object [] (Assoc.get? fs "configs")
    data := ← R.optional R.any (Assoc.get? fs "data") }

def scriptEntry (n : N) : Reads ScriptEntry := do
  let fs ← R.fields
    ["path", "skip", "dataSource", "nestedChain", "breakNestedChain", "shareState"] n
  return {
    path := ← Reading.required R.text (Assoc.get? fs "path")
    skip := ← R.optional R.text (Assoc.get? fs "skip")
    source := ← R.optional (source R) (Assoc.get? fs "dataSource")
    nestedChain := ← Reading.defaulted R.bool false (Assoc.get? fs "nestedChain")
    waitsForLast := ← Reading.defaulted R.bool false (Assoc.get? fs "breakNestedChain")
    sharesState := ← R.optional R.bool (Assoc.get? fs "shareState") }

def entryAt : Nat → Yaml.Value → Reads Entry
  | 0, _ => failure
  | depth + 1, v =>
    let chain : Reads Entry := do
      let fs ← strict.fields ["chain", "takeOverLastRun", "skip"] v
      let entries ← Reading.required (strict.listOf (entryAt depth)) (Assoc.get? fs "chain")
      let takesOver ← Reading.defaulted strict.bool false (Assoc.get? fs "takeOverLastRun")
      let skip ← strict.optional strict.text (Assoc.get? fs "skip")
      return .chain entries takesOver skip
    chain <|> (.script <$> scriptEntry strict v)

/-- How deep chains may be written inside one another. -/
def entryDepth : Nat := 200

def entry (n : N) : Reads Entry := do entryAt entryDepth (← R.value n)

def interceptor (n : N) : Reads InterceptorDocument := do
  let fs ← R.fields ["pointcut", "before", "after", "failure", "takeOverChain"] n
  return {
    pointcut := ← R.optional (R.listOf R.object) (Assoc.get? fs "pointcut")
    before := ← R.optional (R.listOf R.any) (Assoc.get? fs "before")
    after := ← R.optional (R.listOf R.any) (Assoc.get? fs "after")
    failure := ← R.optional (R.listOf R.any) (Assoc.get? fs "failure")
    takesOver := ← Reading.defaulted R.bool false (Assoc.get? fs "takeOverChain") }

def aspect (n : N) : Reads (List InterceptorDocument) := do
  let fs ← R.fields ["aspect"] n
  Reading.defaulted (R.listOf (interceptor R)) [] (Assoc.get? fs "aspect")

def script (n : N) : Reads ScriptDocument := do
  let fs ← R.fields ["type", "name", "steps", "dataSource", "aspect", "chains", "scripts",
    "shareState", "takeOverLastRun", "include", "exclude"] n
  return {
    kind := ← Reading.defaulted R.text "script" (Assoc.get? fs "type")
    name := ← R.optional R.text (Assoc.get? fs "name")
    steps := ← Reading.defaulted (R.listOf R.any) [] (Assoc.get? fs "steps")
    source := ← R.optional (source R) (Assoc.get? fs "dataSource")
    aspect := ← Reading.defaulted (R.listOf (interceptor R)) [] (Assoc.get? fs "aspect")
    chains := ← Reading.defaulted (R.listOf (entry R)) [] (Assoc.get? fs "chains")
    scripts := ← Reading.defaulted (R.listOf (entry R)) [] (Assoc.get? fs "scripts")
    sharesState := ← R.optional R.bool (Assoc.get? fs "shareState")
    takesOver := ← Reading.defaulted R.bool false (Assoc.get? fs "takeOverLastRun")
    included := ← Reading.defaulted (R.listOf R.object) [] (Assoc.get? fs "include")
    excluded := ← Reading.defaulted (R.listOf R.object) [] (Assoc.get? fs "exclude") }

end Decoding

end Scenario.Document
