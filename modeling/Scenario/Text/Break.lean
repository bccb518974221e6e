import Scenario.Text.Property

/-!
# Where texts break

The classes of characters that the Unicode standard uses to find the ends of user-perceived
characters, words and sentences.
-/

set_option autoImplicit false

namespace Scenario.Text

namespace Derivation

def joining : Derivation := .either graphemeExtend (.runs "1F3FB-1F3FF")

def prependedMark : Derivation := .listed "Prepended_Concatenation_Mark"

def graphemeControl : Derivation :=
  .without (.either (.categories ["Zl", "Zp", "Cc", "Cf"]) (.both ignorable (.categories ["Cn"])))
    (any [.runs "A D 200C-200D", prependedMark, joining])

def spacingMark : Derivation :=
  .without (.either (.categories ["Mc"]) (.runs "E33 EB3"))
    (.either joining
      (.runs <| "102B-102C 1038 1062-1064 1067-106D 1083 1087-108C 108F 109A-109C 1A61 1A63-1A64 "
        ++ "AA7B AA7D 11720-11721"))

def graphemePrepend : Derivation :=
  .either prependedMark (.runs <| "D4E 111C2-111C3 113D1 1193F 11941 11A3A 11A84-11A89 11D46 11F02")

/-- Of every 28 syllables the first has no final consonant. -/
def openSyllable : Derivation := .everyNth 0xAC00 0xD7A3 28

/-- Letters of scripts whose words are found with a dictionary. -/
def complexLetter : Derivation :=
  .runs <| "E01-E3A E40-E46 E4D E81-E82 E84 E86-E8A E8C-EA3 EA5 EA7-EB9 EBB-EBD EC0-EC4 EC6 ECD "
    ++ "EDC-EDF 1000-1036 1038 103B-103F 1050-108F 109A-109D 1780-17B3 17B6-17C8 17D7 17DC "
    ++ "1950-196D 1970-1974 1980-19AB 19B0-19C9 1A20-1A5E 1A61-1A74 1AA7 A9E0-A9EF A9FA-A9FE "
    ++ "AA60-AA76 AA7A-AABE AAC0 AAC2 AADB-AADD 11700-1171A 1171D-1172A 11740-11746"

def wordExtend : Derivation := .without (.either joining (.categories ["Mc"])) (.runs "200D")

def wordFormat : Derivation :=
  .without (.categories ["Cf"]) (any [.runs "200B-200D", prependedMark, joining])

def wordKatakana : Derivation :=
  .either (.script "Katakana") (.runs "3031-3035 309B-309C 30A0 30FC FF70")

def hebrewLetter : Derivation := .both (.script "Hebrew") (.categories ["Lo"])

def wordLetter : Derivation :=
  .without
    (.either alphabetic
      (.runs <| "2C2-2C5 2D2-2D7 2DE-2DF 2E5-2EB 2ED 2EF-2FF 55A-55C 55E 58A 5F3 70F A708-A716 "
        ++ "A720-A721 A789-A78A AB5B"))
    (any [.listed "Ideographic", wordKatakana, complexLetter, .script "Hiragana", wordExtend,
      hebrewLetter])

def wordNumeric : Derivation :=
  any [.categories ["Nd"], .runs "66B", .without prependedMark (.runs "70F")]

def sentenceTerminator : Derivation :=
  .without (.listed "Sentence_Terminal") (.runs "2E 2024 FE52 FF0E")

def sentenceExtend : Derivation :=
  any [graphemeExtend, .runs "200D", .categories ["Mc"]]

def sentenceLower : Derivation :=
  .without lowercase (.either graphemeExtend (.runs "10D0-10FA 10FD-10FF"))

def sentenceUpper : Derivation :=
  .without (.either (.categories ["Lt"]) uppercase) (.runs "1C90-1CBA 1CBD-1CBF")

end Derivation

open Scenario.Text.Derivation

def graphemeBreaks : List (String × String × Derivation) :=
  [("Control", "CN", graphemeControl), ("CR", "CR", .runs "D"), ("Extend", "EX", joining),
   ("L", "L", .runs "1100-115F A960-A97C"), ("LF", "LF", .runs "A"),
   ("LV", "LV", openSyllable), ("LVT", "LVT", .without (.runs "AC00-D7A3") openSyllable),
   ("Prepend", "PP", graphemePrepend), ("Regional_Indicator", "RI", .listed "Regional_Indicator"),
   ("SpacingMark", "SM", spacingMark), ("T", "T", .runs "11A8-11FF D7CB-D7FB"),
   ("V", "V", .runs "1160-11A7 D7B0-D7C6 16D63 16D67-16D6A"), ("ZWJ", "ZWJ", .runs "200D")]

def wordBreaks : List (String × String × Derivation) :=
  [("ALetter", "LE", wordLetter), ("CR", "CR", .runs "D"), ("Double_Quote", "DQ", .runs "22"),
   ("Extend", "Extend", wordExtend),
   ("ExtendNumLet", "EX", .either (.categories ["Pc"]) (.runs "202F")),
   ("Format", "FO", wordFormat), ("Hebrew_Letter", "HL", hebrewLetter),
   ("Katakana", "KA", wordKatakana), ("LF", "LF", .runs "A"),
   ("MidLetter", "ML", .runs "3A B7 387 55F 5F4 2027 FE13 FE55 FF1A"),
   ("MidNum", "MN",
     .runs "2C 3B 37E 589 60C-60D 66C 7F8 2044 FE10 FE14 FE50 FE54 FF0C FF1B"),
   ("MidNumLet", "MB", .runs "2E 2018-2019 2024 FE52 FF07 FF0E"),
   ("Newline", "NL", .runs "B-C 85 2028-2029"), ("Numeric", "NU", wordNumeric),
   ("Regional_Indicator", "RI", .listed "Regional_Indicator"), ("Single_Quote", "SQ", .runs "27"),
   ("WSegSpace", "WSegSpace", .without (.categories ["Zs"]) (.runs "A0 2007 202F")),
   ("ZWJ", "ZWJ", .runs "200D")]

def sentenceBreaks : List (String × String × Derivation) :=
  [("ATerm", "AT", .runs "2E 2024 FE52 FF0E"),
   ("Close", "CL",
     .without (.either (.categories ["Ps", "Pe", "Pi", "Pf"])
        (.runs "22 27 275B-2760 2E00-2E01 2E06-2E08 2E0B 1F676-1F678"))
      sentenceTerminator),
   ("CR", "CR", .runs "D"), ("Extend", "EX", sentenceExtend),
   ("Format", "FO",
     .without (.categories ["Cf"]) (any [.runs "200C-200D", sentenceExtend, prependedMark])),
   ("LF", "LF", .runs "A"), ("Lower", "LO", sentenceLower),
   ("Numeric", "NU", .either wordNumeric (.runs "66C")),
   ("OLetter", "LE",
     .without (.either alphabetic (.runs "5F3"))
       (any [sentenceLower, sentenceUpper, sentenceExtend])),
   ("SContinue", "SC",
     .runs <| "2C-2D 3A-3B 37E 55D 60C-60D 7F8 1802 1808 2013-2014 3001 FE10-FE11 FE13-FE14 "
      ++ "FE31-FE32 FE50-FE51 FE54-FE55 FE58 FE63 FF0C-FF0D FF1A-FF1B FF64"),
   ("Sep", "SE", .runs "85 2028-2029"),
   ("Sp", "SP", .without (.listed "White_Space") (.runs "A D 85 2028-2029")),
   ("STerm", "ST", sentenceTerminator), ("Upper", "UP", sentenceUpper)]

end Scenario.Text
