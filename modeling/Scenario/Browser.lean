import Scenario.Fault
import Scenario.Step

/-!
# Browsers

A browser is launched from a configuration and then asked by commands. Each
command has its own kind of reply, and both a launch and a command may fail.
-/

set_option autoImplicit false

namespace Scenario

inductive Command where
  | navigate (url : String)
  | currentUrl
  | title
  | pageSource
  | find (l : Locator)
  | click (element : String)
  | clear (element : String)
  | sendKeys (element text : String)
  | elementText (element : String)
  | quit
  deriving DecidableEq, Repr

abbrev Command.Reply : Command → Type
  | .currentUrl => String
  | .title => String
  | .pageSource => String
  | .elementText _ => String
  | .find _ => List String
  | _ => Unit

/-- Browsers over a state; commands name the browser by its number. -/
structure Browser (σ : Type) where
  launch : Assoc String → σ → Except Trouble Unit × σ
  perform : Nat → (c : Command) → σ → Except Trouble c.Reply × σ
  /-- Milliseconds pass without a command. -/
  elapse : Nat → σ → σ

end Scenario
