import Scenario.Browser
import Scenario.Text.Blank

/-!
# Browsers that follow a script

A browser without pages: what its commands answer with, and which of them
fail, is laid down beforehand.
-/

set_option autoImplicit false

namespace Scenario

def Command.words : Command → String × List String
  | .navigate u => ("navigate", [u])
  | .currentUrl => ("url", [])
  | .title => ("title", [])
  | .pageSource => ("source", [])
  | .find l => ("find", [l.text])
  | .click e => ("click", [e])
  | .clear e => ("clear", [e])
  | .sendKeys e t => ("keys", [e, t])
  | .elementText e => ("text", [e])
  | .quit => ("quit", [])

namespace Browser

structure Scripted where
  refusal : Option String := none
  faults : Assoc String := []
  elements : Assoc (List String) := []
  texts : Assoc String := []

/-- Answers still to be given; the last of each kind is given again and again. -/
structure Answers where
  titles : List String := ["Home"]
  urls : List String := ["http://app/home"]
  sources : List String := ["<p>Welcome back</p>"]
  deriving Inhabited

def take : List String → String × List String
  | [] => ("", [])
  | [s] => (s, [s])
  | s :: r => (s, r)

def Scripted.found (s : Scripted) (l : Locator) : List String :=
  match Assoc.get? s.elements l.value with
  | some ids => ids
  | none => if Text.contains l.value "missing" then [] else [l.value]

def Scripted.answer (s : Scripted) (c : Command) (a : Answers) : c.Reply × Answers :=
  match c with
  | .navigate _ => ((), a)
  | .currentUrl => let (t, r) := take a.urls; (t, { a with urls := r })
  | .title => let (t, r) := take a.titles; (t, { a with titles := r })
  | .pageSource => let (t, r) := take a.sources; (t, { a with sources := r })
  | .find l => (s.found l, a)
  | .click _ => ((), a)
  | .clear _ => ((), a)
  | .sendKeys _ _ => ((), a)
  | .elementText e => ((Assoc.get? s.texts e).getD ("text of " ++ e), a)
  | .quit => ((), a)

def scripted (s : Scripted) : Browser Answers where
  launch _ a :=
    match s.refusal with
    | some t => (.error (.ofText t), a)
    | none => (.ok (), a)
  perform _ c a :=
    match Assoc.get? s.faults c.words.1 with
    | some t => (.error (.ofText t), a)
    | none => let (r, a) := s.answer c a; (.ok r, a)
  elapse _ a := a

end Browser

end Scenario
