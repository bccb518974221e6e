import Scenario.Text.Age
import Scenario.Text.Break
import Scenario.Text.Script.Extension

/-!
# Named sets of characters

In the `regex` library a pattern names sets of characters by general categories,
scripts and other properties. Names are compared without case, blanks, hyphens,
underscores and a leading `is`.
-/

set_option autoImplicit false

namespace Scenario.Regex
open Scenario.Text

def isSpacer (c : Char) : Bool := c == ' ' || c == '-' || c == '_'

/-- The plain form of a name; `isc` is a name of its own. -/
def plainName (cs : List Char) : String :=
  let kept (cs : List Char) := (cs.filter fun c => !isSpacer c && c.toNat < 128).map Char.toLower
  match cs with
  | i :: s :: r =>
    if i.toLower = 'i' ∧ s.toLower = 's' then
      if kept r = ['c'] then "isc" else String.ofList (kept r)
    else String.ofList (kept cs)
  | _ => String.ofList (kept cs)

def plain (name : String) : String := plainName name.toList

def otherCategories : List String := ["Cc", "Cf", "Cn", "Co", "Cs"]

def letterCategories : List String := ["Ll", "Lm", "Lo", "Lt", "Lu"]

def markCategories : List String := ["Mc", "Me", "Mn"]

def numberCategories : List String := ["Nd", "Nl", "No"]

def punctuationCategories : List String := ["Pc", "Pd", "Pe", "Pf", "Pi", "Po", "Ps"]

def symbolCategories : List String := ["Sc", "Sk", "Sm", "So"]

def separatorCategories : List String := ["Zl", "Zp", "Zs"]

def categoryAliases : List (List String × List String) :=
  [(["c", "other"], otherCategories), (["cc", "control", "cntrl"], ["Cc"]),
   (["cf", "format"], ["Cf"]), (["cn", "unassigned"], ["Cn"]), (["co", "privateuse"], ["Co"]),
   (["l", "letter"], letterCategories), (["lc", "casedletter"], ["Ll", "Lt", "Lu"]),
   (["ll", "lowercaseletter"], ["Ll"]), (["lm", "modifierletter"], ["Lm"]),
   (["lo", "otherletter"], ["Lo"]), (["lt", "titlecaseletter"], ["Lt"]),
   (["lu", "uppercaseletter"], ["Lu"]),
   (["m", "mark", "combiningmark"], markCategories), (["mc", "spacingmark"], ["Mc"]),
   (["me", "enclosingmark"], ["Me"]), (["mn", "nonspacingmark"], ["Mn"]),
   (["n", "number"], numberCategories), (["nd", "decimalnumber", "digit"], ["Nd"]),
   (["nl", "letternumber"], ["Nl"]), (["no", "othernumber"], ["No"]),
   (["p", "punctuation", "punct"], punctuationCategories),
   (["pc", "connectorpunctuation"], ["Pc"]), (["pd", "dashpunctuation"], ["Pd"]),
   (["pe", "closepunctuation"], ["Pe"]), (["pf", "finalpunctuation"], ["Pf"]),
   (["pi", "initialpunctuation"], ["Pi"]), (["po", "otherpunctuation"], ["Po"]),
   (["ps", "openpunctuation"], ["Ps"]),
   (["s", "symbol"], symbolCategories), (["sc", "currencysymbol"], ["Sc"]),
   (["sk", "modifiersymbol"], ["Sk"]), (["sm", "mathsymbol"], ["Sm"]),
   (["so", "othersymbol"], ["So"]),
   (["z", "separator"], separatorCategories), (["zl", "lineseparator"], ["Zl"]),
   (["zp", "paragraphseparator"], ["Zp"]), (["zs", "spaceseparator"], ["Zs"])]

def propertyAliases : List (String × String) :=
  [("ahex", "ASCII_Hex_Digit"), ("alpha", "Alphabetic"), ("bidic", "Bidi_Control"),
   ("bidim", "Bidi_Mirrored"), ("ci", "Case_Ignorable"), ("cwcf", "Changes_When_Casefolded"),
   ("cwcm", "Changes_When_Casemapped"), ("cwl", "Changes_When_Lowercased"),
   ("cwt", "Changes_When_Titlecased"), ("cwu", "Changes_When_Uppercased"),
   ("di", "Default_Ignorable_Code_Point"), ("dep", "Deprecated"), ("dia", "Diacritic"),
   ("ebase", "Emoji_Modifier_Base"), ("ecomp", "Emoji_Component"), ("emod", "Emoji_Modifier"),
   ("epres", "Emoji_Presentation"), ("ext", "Extender"), ("extpict", "Extended_Pictographic"),
   ("grbase", "Grapheme_Base"), ("grext", "Grapheme_Extend"), ("grlink", "Grapheme_Link"),
   ("hex", "Hex_Digit"), ("idc", "ID_Continue"), ("ideo", "Ideographic"), ("ids", "ID_Start"),
   ("idsb", "IDS_Binary_Operator"), ("idst", "IDS_Trinary_Operator"),
   ("idsu", "IDS_Unary_Operator"), ("joinc", "Join_Control"), ("loe", "Logical_Order_Exception"),
   ("lower", "Lowercase"), ("mcm", "Modifier_Combining_Mark"),
   ("nchar", "Noncharacter_Code_Point"), ("oalpha", "Other_Alphabetic"),
   ("odi", "Other_Default_Ignorable_Code_Point"), ("ogrext", "Other_Grapheme_Extend"),
   ("oidc", "Other_ID_Continue"), ("oids", "Other_ID_Start"), ("olower", "Other_Lowercase"),
   ("omath", "Other_Math"), ("oupper", "Other_Uppercase"), ("patsyn", "Pattern_Syntax"),
   ("patws", "Pattern_White_Space"), ("pcm", "Prepended_Concatenation_Mark"),
   ("qmark", "Quotation_Mark"), ("ri", "Regional_Indicator"), ("sd", "Soft_Dotted"),
   ("space", "White_Space"), ("wspace", "White_Space"), ("sterm", "Sentence_Terminal"),
   ("term", "Terminal_Punctuation"), ("uideo", "Unified_Ideograph"), ("upper", "Uppercase"),
   ("vs", "Variation_Selector"), ("xidc", "XID_Continue"), ("xids", "XID_Start")]

def propertyNames : List String :=
  derivedProperties.map (·.1) ++ listedProperties.map (·.1) ++
    ["Changes_When_Lowercased", "Changes_When_Casefolded", "Changes_When_Casemapped"]

def propertyNamed? (key : String) : Option CharSet :=
  let full := match propertyAliases.find? (·.1 == key) with
    | some (_, name) => some name
    | none => propertyNames.find? (plain · == key)
  full.bind propertySet?

def categoryNamed? (key : String) : Option CharSet :=
  if key = "any" then some .all
  else if key = "assigned" then some (categorySet ["Cn"]).negate
  else if key = "ascii" then some (.range 0 127)
  else (categoryAliases.find? (·.1.contains key)).map fun e => categorySet e.2

def scriptNamed? (key : String) : Option (String × String) :=
  (scripts.find? fun e => plain e.1 == key || e.2.1.any (plain · == key)).map fun e =>
    (e.1, e.2.1.headD e.1)

/-- The characters used in a script: those that say so, and the script's own that say nothing. -/
def extendedScript (name code : String) : CharSet :=
  let said := CharSet.ofLines (scriptExtensions.flatMap (·.2))
  let extra := CharSet.ofLines ((scriptExtensions.filter (·.1.contains code)).flatMap (·.2))
  (((scriptSet? name).getD .empty).diff said).union extra

def charactersUpTo? (key : String) : Option CharSet :=
  let isIt (version : String) : Bool :=
    key == version || key == "v" ++ String.ofList (version.toList.filter (· != '.'))
  let earlier := ageTable.takeWhile (!isIt ·.1)
  match ageTable.drop earlier.length with
  | [] => none
  | entry :: _ => some (.ofLines ((earlier ++ [entry]).flatMap (·.2)))

def breakNamed? (table : List (String × String × Derivation)) (key : String) : Option CharSet :=
  (table.find? fun e => plain e.1 == key || plain e.2.1 == key).map (·.2.2.set)

def namedSet? (name : List Char) : Option CharSet :=
  let key := plainName name
  let property := if ["cf", "sc", "lc"].contains key then none else propertyNamed? key
  property <|> categoryNamed? key <|> (scriptNamed? key).bind fun e => scriptSet? e.1

def valuedSet? (property value : List Char) : Option CharSet :=
  let key := plainName property
  let value := plainName value
  if key = "gc" ∨ key = "generalcategory" then categoryNamed? value
  else if key = "sc" ∨ key = "script" then (scriptNamed? value).bind fun e => scriptSet? e.1
  else if key = "scx" ∨ key = "scriptextensions" then
    (scriptNamed? value).map fun e => extendedScript e.1 e.2
  else if key = "age" then charactersUpTo? value
  else if key = "gcb" ∨ key = "graphemeclusterbreak" then breakNamed? graphemeBreaks value
  else if key = "wb" ∨ key = "wordbreak" then breakNamed? wordBreaks value
  else if key = "sb" ∨ key = "sentencebreak" then breakNamed? sentenceBreaks value
  else none

end Scenario.Regex
