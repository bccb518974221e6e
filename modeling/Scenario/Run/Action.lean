import Scenario.Run

/-!
# What steps do

Every kind of step is an act that holds, fails to hold, or cannot be carried
out. Flow steps run the steps that they own through the act `block`, which is
given their number.
-/

set_option autoImplicit false

namespace Scenario.Action
open Scenario.Step Scenario.Text

variable {σ : Type}

def owned (r : Run) (s : Step) : Nat :=
  min (match s.text? "subStep" with
    | some n => ((readWord (trim (r.row.bind n))).toOption).getD 0
    | none => 0) r.remaining

/-- How many entries of the list a step accounts for, itself included. -/
def consumed (r : Run) (s : Step) : Nat := if s.kind.isFlow then 1 + owned r s else 1

def number (s : String) : Act σ Problem Nat :=
  match readWord (trim s) with
  | .ok n => pure n
  | .error e => Act.trouble e.message

def firstElement (stage : Stage σ) (d : Nat) (l : Locator) : Act σ Problem String := do
  match ← Act.perform stage d (.find l) with
  | e :: _ => pure e
  | [] => Act.trouble ("no element found for " ++ l.text)

def boolText (b : Bool) : String := if b then "true" else "false"

def value (stage : Stage σ) : Getter → Act σ Problem String
  | .title => Act.command stage .title
  | .currentUrl => Act.command stage .currentUrl
  | .text => do
    let l ← Act.locator "locator"
    let d ← Act.driver stage
    match ← Act.perform stage d (.find l) with
    | e :: _ => Act.perform stage d (.elementText e)
    | [] => pure ""
  | .elementPresent => do
    let l ← Act.locator "locator"
    let found ← Act.command stage (.find l)
    pure (boolText !List.isEmpty found)
  | .textPresent => do
    let t ← Act.text "text"
    let source ← Act.command stage .pageSource
    pure (boolText (Text.contains source t))
  | .expression => Act.evaluatedText "expression"

def holds (stage : Stage σ) (g : Getter) : Act σ Problem Bool := do
  let actual ← value stage g
  match g.expected? with
  | some key => return actual == (← Act.text key)
  | none => return actual == "true"

/-- Tries at once and then after each interval, until the time is up. -/
def poll (stage : Stage σ) (g : Getter) (wait : Nat) : Nat → Nat → Act σ Problem Bool
  | 0, _ => pure false
  | tries + 1, time => do
    if ← holds stage g then pure true
    else if wait ≤ time ∨ (← Act.isStopped) then pure false
    else
      Act.modifyWorld fun w => w.elapse stage (max 1 stage.pollInterval)
      poll stage g wait tries (time + max 1 stage.pollInterval)

def waitFor (stage : Stage σ) (g : Getter) : Act σ Problem Bool := do
  let wait ← match ← Act.optionalText "maxWait" with
    | some ms => number ms
    | none => pure stage.maxWait
  poll stage g wait (wait / max 1 stage.pollInterval + 2) 0

/-- The rounds of a loop from `i` on, each under its number. -/
def rounds (block : Nat → Act σ Problem Bool) (size : Nat) : Nat → Nat → Bool → Act σ Problem Bool
  | 0, _, success => pure success
  | left + 1, i, success => do
    if ← Act.isStopped then pure success
    else
      Act.modifyWorld fun w => w.record (.round i)
      Act.assign "_loopCount" (natText i)
      let r ← block size
      rounds block size left (i + 1) (r && success)

def perform (stage : Stage σ) (block : Nat → Act σ Problem Bool) : Kind → Act σ Problem Bool
  | .echo => do
    let _ ← Act.text "text"
    pure true
  | .store => do
    let name ← Act.text "variable"
    let text ← Act.evaluatedText "text"
    Act.assign name text
    pure true
  | .pause => do
    let ms ← number (← Act.text "waitTime")
    Act.modifyWorld fun w => w.elapse stage ms
    pure true
  | .get => do
    let url ← Act.text "url"
    let _ ← Act.command stage (.navigate url)
    pure true
  | .click => do
    let l ← Act.locator "locator"
    let d ← Act.driver stage
    let e ← firstElement stage d l
    let _ ← Act.perform stage d (.click e)
    pure true
  | .setText => do
    let l ← Act.locator "locator"
    let text ← Act.text "text"
    let d ← Act.driver stage
    let e ← firstElement stage d l
    let _ ← Act.perform stage d (.clear e)
    let _ ← Act.perform stage d (.sendKeys e text)
    pure true
  | .sendKeys => do
    let l ← Act.locator "locator"
    let text ← Act.text "text"
    let d ← Act.driver stage
    let e ← firstElement stage d l
    let _ ← Act.perform stage d (.sendKeys e text)
    pure true
  | .loop => do
    let count ← number (← Act.text "count")
    let s ← Act.currentStep
    let r ← Act.getRun
    rounds block (owned r s) count 1 true
  | .branch => do
    let condition ← Act.rawText "condition"
    let s ← Act.currentStep
    let r ← Act.getRun
    if r.row.evaluate condition then block (owned r s) else pure true
  | .reading .verify g => holds stage g
  | .reading .assert g => holds stage g
  | .reading .waitFor g => waitFor stage g
  | .reading .store g => do
    let name ← Act.text "variable"
    let v ← value stage g
    Act.assign name v
    pure true

end Scenario.Action
