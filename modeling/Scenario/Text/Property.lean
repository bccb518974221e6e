import Scenario.Text.CaseFold
import Scenario.Text.Category
import Scenario.Text.Property.Table
import Scenario.Text.Script

/-!
# Properties of characters

Boolean properties by name: those that are listed, and those that the Unicode standard derives
from general categories and listed properties.
-/

set_option autoImplicit false

namespace Scenario.Text

/-- How a property comes from others. -/
inductive Derivation where
  | listed (name : String)
  | categories (names : List String)
  | runs (text : String)
  | script (name : String)
  | everyNth (first last step : Nat)
  | without (a b : Derivation)
  | either (a b : Derivation)
  | both (a b : Derivation)

def listedSet (name : String) : CharSet :=
  match listedProperties.find? (·.1 == name) with
  | some (_, lines) => .ofLines lines
  | none => .empty

def scriptSet? (name : String) : Option CharSet :=
  (scripts.find? (·.1 == name)).map fun e => .ofLines e.2.2

def Derivation.set : Derivation → CharSet
  | .listed name => listedSet name
  | .categories names => categorySet names
  | .runs text => .ofLines [text]
  | .script name => (scriptSet? name).getD .empty
  | .everyNth first last step =>
    .ofCodes ((List.range ((last - first) / step + 1)).map fun i => first + i * step)
  | .without a b => a.set.diff b.set
  | .either a b => a.set.union b.set
  | .both a b => a.set.inter b.set

def Derivation.any : List Derivation → Derivation
  | [] => .runs ""
  | [d] => d
  | d :: r => .either d (any r)

namespace Derivation

def lowercase : Derivation := .either (.categories ["Ll"]) (.listed "Other_Lowercase")

def uppercase : Derivation := .either (.categories ["Lu"]) (.listed "Other_Uppercase")

def alphabetic : Derivation :=
  any [lowercase, uppercase, .categories ["Lt", "Lm", "Lo", "Nl"], .listed "Other_Alphabetic"]

def graphemeExtend : Derivation :=
  .either (.categories ["Me", "Mn"]) (.listed "Other_Grapheme_Extend")

def identifierStart : Derivation :=
  .without (.either (.categories ["Lu", "Ll", "Lt", "Lm", "Lo", "Nl"]) (.listed "Other_ID_Start"))
    (.either (.listed "Pattern_Syntax") (.listed "Pattern_White_Space"))

def identifierContinue : Derivation :=
  any [identifierStart, .categories ["Mn", "Mc", "Nd", "Pc"], .listed "Other_ID_Continue"]

/-- Characters whose compatibility forms cannot stay within identifiers. -/
def unstableContinue : Derivation :=
  .runs "37A 309B-309C FC5E-FC63 FDFA-FDFB FE70 FE72 FE74 FE76-FE7E/2"

def unstableStart : Derivation := .either unstableContinue (.runs "E33 EB3 FF9E-FF9F")

def ignorable : Derivation :=
  .either
    (.without (.either (.categories ["Cf"]) (.listed "Variation_Selector"))
      (any [.listed "White_Space", .listed "Prepended_Concatenation_Mark",
        .runs "FFF9-FFFB 13430-13440"]))
    (.listed "Other_Default_Ignorable_Code_Point")

def caseIgnorable : Derivation :=
  .either (.categories ["Mn", "Me", "Cf", "Lm", "Sk"])
    (.runs "27 2E 3A B7 387 55F 5F4 2018-2019 2024 2027 FE13 FE52 FE55 FF07 FF0E FF1A")

def cased : Derivation := any [lowercase, uppercase, .categories ["Lt"]]

def graphemeBase : Derivation :=
  .without (.runs "0-10FFFF")
    (.either (.categories ["Cc", "Cf", "Cs", "Co", "Cn", "Zl", "Zp"]) graphemeExtend)

/-- Georgian letters, and Greek letters that stand for title case already, have an upper case
that is not their title case. -/
def changesInTitle : Derivation :=
  .either
    (.without (.listed "Changes_When_Uppercased")
      (.runs "1C5 1C8 1CB 1F2 10D0-10FA 10FD-10FF 1F88-1F8F 1F98-1F9F 1FA8-1FAF 1FBC 1FCC 1FFC"))
    (.runs "1C4 1C7 1CA 1F1")

end Derivation

open Scenario.Text.Derivation in
def derivedProperties : List (String × Derivation) :=
  [("Alphabetic", alphabetic),
   ("Case_Ignorable", caseIgnorable),
   ("Cased", cased),
   ("Changes_When_Titlecased", changesInTitle),
   ("Default_Ignorable_Code_Point", ignorable),
   ("Grapheme_Base", graphemeBase),
   ("Grapheme_Extend", graphemeExtend),
   ("ID_Compat_Math_Continue",
     .either (.listed "ID_Compat_Math_Start") (.runs "B2-B3 B9 2070 2074-207E 2080-208E")),
   ("ID_Continue", identifierContinue),
   ("ID_Start", identifierStart),
   ("Lowercase", lowercase),
   ("Math", .either (.categories ["Sm"]) (.listed "Other_Math")),
   ("Uppercase", uppercase),
   ("XID_Continue", .without identifierContinue unstableContinue),
   ("XID_Start", .without identifierStart unstableStart)]

def loweredSet : CharSet :=
  (CharSet.ofCodes ((lowerRuns.flatMap CaseRun.pairs).map (·.1))).union (.range 0x130 0x130)

def foldedSet : CharSet :=
  (loweredSet.diff (.range 0x13A0 0x13F5)).union
    (.ofLines ["B5 DF 149 17F 345 3C2 3D0-3D1 3D5-3D6 3F0-3F1 3F5 587 13F8-13FD 1C80-1C88",
      "1E9A-1E9B 1F80-1F87 1F90-1F97 1FA0-1FA7 1FB2-1FB4 1FB7 1FC2-1FC4 1FC7 1FF2-1FF4 1FF7",
      "AB70-ABBF FB00-FB06 FB13-FB17"])

def propertySet? (name : String) : Option CharSet :=
  match derivedProperties.find? (·.1 == name) with
  | some (_, d) => some d.set
  | none =>
    if name = "Changes_When_Lowercased" then some loweredSet
    else if name = "Changes_When_Casefolded" then some foldedSet
    else if name = "Changes_When_Casemapped" then
      some ((loweredSet.union (listedSet "Changes_When_Uppercased")).union
        Derivation.changesInTitle.set)
    else (listedProperties.find? (·.1 == name)).map fun e => .ofLines e.2

def alphabeticSet : CharSet := Derivation.alphabetic.set

def isAlphabetic (c : Char) : Bool := if c.toNat < 128 then c.isAlpha else alphabeticSet.mem c

def numericSet : CharSet := categorySet ["Nd", "Nl", "No"]

def isAlphanumeric (c : Char) : Bool :=
  if c.toNat < 128 then c.isAlphanum else alphabeticSet.mem c || numericSet.mem c

def wordSet : CharSet :=
  (alphabeticSet.union (categorySet ["Mn", "Mc", "Me", "Nd", "Pc"])).union (.range 0x200C 0x200D)

def isWord (c : Char) : Bool := if c.toNat < 128 then isAsciiWord c else wordSet.mem c

def decimalSet : CharSet := categorySet ["Nd"]

def graphemeExtendSet : CharSet := Derivation.graphemeExtend.set

def casedSet : CharSet := Derivation.cased.set

def caseIgnorableSet : CharSet := Derivation.caseIgnorable.set

end Scenario.Text
