import Scenario.Text.Property

/-!
# Lower case of texts

Characters are lowered one by one, save that a dotted capital I keeps its dot as a mark of its
own, and a sigma that ends a word takes its final form.
-/

set_option autoImplicit false

namespace Scenario.Text

def startsCased : List Char → Bool
  | [] => false
  | c :: r => if caseIgnorableSet.mem c then startsCased r else casedSet.mem c

/-- The lower case of a character, after those in `before` (the nearest first). -/
def lowerAt (before : List Char) (c : Char) (after : List Char) : List Char :=
  if c.toNat < 128 then [c.toLower]
  else if c = 'Σ' then [if startsCased before && !startsCased after then 'ς' else 'σ']
  else if c = 'İ' then ['i', Char.ofNat 0x307]
  else [Char.ofNat (lowerCode c.toNat)]

def lowerFrom (before : List Char) : List Char → List Char
  | [] => []
  | c :: r => lowerAt before c r ++ lowerFrom (c :: before) r

def lowered (s : String) : String := String.ofList (lowerFrom [] s.toList)

end Scenario.Text
