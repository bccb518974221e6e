/-!
# Kinds of steps

Besides actions and flow there is a kind for every use of a getter: checking
its value with or without going on, waiting for it, and storing it.
-/

set_option autoImplicit false

namespace Scenario.Step

inductive Getter where
  | title
  | currentUrl
  | text
  | elementPresent
  | textPresent
  | expression
  deriving DecidableEq, Repr

inductive Use where
  | verify
  | assert
  | waitFor
  | store
  deriving DecidableEq, Repr

inductive Kind where
  | echo
  | store
  | pause
  | get
  | click
  | setText
  | sendKeys
  | loop
  | branch
  | reading (use : Use) (getter : Getter)
  deriving DecidableEq, Repr

def Getter.name : Getter → String
  | .title => "Title"
  | .currentUrl => "CurrentUrl"
  | .text => "Text"
  | .elementPresent => "ElementPresent"
  | .textPresent => "TextPresent"
  | .expression => "Expression"

/-- The parameter that holds the expected value; without one the value must be `true`. -/
def Getter.expected? : Getter → Option String
  | .title => some "title"
  | .currentUrl => some "url"
  | .text => some "text"
  | _ => none

def Use.name : Use → String
  | .verify => "verify"
  | .assert => "assert"
  | .waitFor => "waitFor"
  | .store => "store"

namespace Kind

def name : Kind → String
  | .echo => "echo"
  | .store => "store"
  | .pause => "pause"
  | .get => "get"
  | .click => "clickElement"
  | .setText => "setElementText"
  | .sendKeys => "sendKeysToElement"
  | .loop => "loop"
  | .branch => "if"
  | .reading u g => u.name ++ g.name

def getters : List Getter :=
  [.title, .currentUrl, .text, .elementPresent, .textPresent, .expression]

def all : List Kind :=
  [.echo, .store, .pause, .get, .click, .setText, .sendKeys, .loop, .branch] ++
    [Use.verify, .assert, .waitFor, .store].flatMap fun u => getters.map (.reading u)

def ofName? (n : String) : Option Kind := all.find? fun k => k.name == n

theorem mem_all (k : Kind) : k ∈ all := by
  cases k with
  | reading u g => cases u <;> cases g <;> decide
  | _ => decide

/-- Whether a run goes on after the step failed. -/
def goesOn : Kind → Bool
  | .reading .verify _ => true
  | _ => false

/-- Whether advice runs after the step. -/
def takesAfter : Kind → Bool
  | .loop | .branch | .pause => false
  | _ => true

def isFlow : Kind → Bool
  | .loop | .branch => true
  | _ => false

end Kind

end Scenario.Step
