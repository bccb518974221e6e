/-!
# Characters of several scripts

Some characters are used in a known set of scripts that is not just their own script. Each entry
gives such a set by the short codes of its scripts, and the runs of its characters.
-/

set_option autoImplicit false

namespace Scenario.Text

def scriptExtensions : List (List String × List String) :=
  [(["Beng"],
    ["1CF7"]),
   (["Deva"],
    ["1CD1 1CD4 1CDB 1CDE-1CDF 1CE3-1CE8 1CEC 1CEE-1CF1"]),
   (["Dupl"],
    ["2E3C 1BCA0-1BCA3"]),
   (["Grek"],
    ["342 345 1DC0-1DC1"]),
   (["Hani"],
    ["3006 303E-303F 3190-319F 31C0-31E5 3220-3247 3280-32B0 32C0-32CB 32FF 3358-3370",
     "337B-337F 33E0-33FE 1D360-1D371 1F250-1F251"]),
   (["Latn"],
    ["363-36F"]),
   (["Nand"],
    ["1CFA"]),
   (["Runr"],
    ["16EB-16ED"]),
   (["Syrc"],
    ["1DFA"]),
   (["Adlm", "Arab"],
    ["204F"]),
   (["Arab", "Copt"],
    ["102E0-102FB"]),
   (["Arab", "Nkoo"],
    ["FD3E-FD3F"]),
   (["Arab", "Rohg"],
    ["6D4"]),
   (["Arab", "Syrc"],
    ["64B-655 670"]),
   (["Arab", "Thaa"],
    ["FDF2 FDFD"]),
   (["Avst", "Orkh"],
    ["2E30"]),
   (["Beng", "Deva"],
    ["1CE1 1CF5-1CF6"]),
   (["Bopo", "Hani"],
    ["302A-302D"]),
   (["Bopo", "Latn"],
    ["2C7 2C9-2CB 2D9"]),
   (["Bugi", "Java"],
    ["A9CF"]),
   (["Copt", "Grek"],
    ["374-375"]),
   (["Copt", "Latn"],
    ["2E17"]),
   (["Cprt", "Linb"],
    ["10102 10137-1013F"]),
   (["Cyrl", "Glag"],
    ["484 487 2E43 A66F"]),
   (["Cyrl", "Latn"],
    ["485-486"]),
   (["Cyrl", "Perm"],
    ["483"]),
   (["Deva", "Gran"],
    ["1CF3 1CF8-1CF9"]),
   (["Deva", "Newa"],
    ["1CEB"]),
   (["Deva", "Shrd"],
    ["1CD9 1CDC-1CDD 1CE0"]),
   (["Deva", "Taml"],
    ["A8F3"]),
   (["Ethi", "Latn"],
    ["30E"]),
   (["Gran", "Taml"],
    ["BE6-BF3 11301 11303 1133B-1133C 11FD0-11FD1 11FD3"]),
   (["Gujr", "Khoj"],
    ["AE6-AEF"]),
   (["Guru", "Mult"],
    ["A66-A6F"]),
   (["Hani", "Latn"],
    ["A700-A707"]),
   (["Hani", "Tang"],
    ["2FF0-2FFF 31EF"]),
   (["Hira", "Kana"],
    ["3031-3035 3099-309C 30A0 30FC FF70 FF9E-FF9F"]),
   (["Latn", "Lisu"],
    ["2CD"]),
   (["Latn", "Osge"],
    ["358"]),
   (["Latn", "Sunu"],
    ["30D 310"]),
   (["Latn", "Syrc"],
    ["325 32E"]),
   (["Latn", "Tfng"],
    ["309"]),
   (["Latn", "Thai"],
    ["2D7"]),
   (["Mani", "Ougr"],
    ["10AF2"]),
   (["Mong", "Phag"],
    ["1802-1803 1805"]),
   (["Adlm", "Arab", "Hung"],
    ["2E41"]),
   (["Aghb", "Latn", "Todr"],
    ["35E"]),
   (["Arab", "Syrc", "Thaa"],
    ["61C"]),
   (["Arab", "Thaa", "Yezi"],
    ["660-669"]),
   (["Armn", "Geor", "Glag"],
    ["589"]),
   (["Beng", "Cakm", "Sylo"],
    ["9E6-9EF"]),
   (["Beng", "Deva", "Shrd"],
    ["1CEA"]),
   (["Beng", "Deva", "Telu"],
    ["1CD6"]),
   (["Beng", "Deva", "Tutg"],
    ["A8F1"]),
   (["Cakm", "Mymr", "Tale"],
    ["1040-1049"]),
   (["Cher", "Latn", "Syrc"],
    ["330"]),
   (["Cher", "Latn", "Tale"],
    ["30C"]),
   (["Cpmn", "Cprt", "Linb"],
    ["10100-10101"]),
   (["Cprt", "Lina", "Linb"],
    ["10107-10133"]),
   (["Cyrl", "Latn", "Syrc"],
    ["1DF8"]),
   (["Cyrl", "Latn", "Todr"],
    ["311"]),
   (["Deva", "Gran", "Knda"],
    ["1CD3"]),
   (["Deva", "Gran", "Latn"],
    ["20F0"]),
   (["Deva", "Nand", "Newa"],
    ["1CE9"]),
   (["Deva", "Newa", "Shrd"],
    ["1CD7"]),
   (["Deva", "Newa", "Tirh"],
    ["1CE2"]),
   (["Dupl", "Latn", "Syrc"],
    ["30A"]),
   (["Geor", "Glag", "Latn"],
    ["10FB"]),
   (["Hani", "Hira", "Kana"],
    ["303C-303D"]),
   (["Kali", "Latn", "Mymr"],
    ["A92E"]),
   (["Knda", "Nand", "Tutg"],
    ["CE6-CEF"]),
   (["Latn", "Mong", "Phag"],
    ["202F"]),
   (["Latn", "Sunu", "Syrc"],
    ["32D"]),
   (["Beng", "Deva", "Gran", "Knda"],
    ["1CD0 1CD2"]),
   (["Beng", "Deva", "Newa", "Shrd"],
    ["1CED"]),
   (["Beng", "Deva", "Newa", "Telu"],
    ["1CD8"]),
   (["Buhd", "Hano", "Tagb", "Tglg"],
    ["1735-1736"]),
   (["Cari", "Grek", "Hung", "Mero"],
    ["205D"]),
   (["Cher", "Cyrl", "Latn", "Osge"],
    ["30B"]),
   (["Cher", "Cyrl", "Latn", "Tfng"],
    ["302"]),
   (["Cher", "Dupl", "Latn", "Syrc"],
    ["324"]),
   (["Deva", "Dogr", "Kthi", "Mahj"],
    ["966-96F"]),
   (["Deva", "Gran", "Knda", "Tutg"],
    ["1CF4"]),
   (["Grek", "Latn", "Perm", "Todr"],
    ["313"]),
   (["Beng", "Deva", "Newa", "Telu", "Tirh"],
    ["1CD5"]),
   (["Bopo", "Hang", "Hani", "Hira", "Kana"],
    ["3003 3013 301C-301F 3030 3037 FE45-FE46"]),
   (["Cyrl", "Grek", "Latn", "Perm", "Tfng"],
    ["306"]),
   (["Glag", "Latn", "Sunu", "Syrc", "Thai"],
    ["303"]),
   (["Bopo", "Hang", "Hani", "Hira", "Kana", "Yiii"],
    ["300C-3011 3014-301B 30FB FF61-FF65"]),
   (["Cari", "Geor", "Glag", "Hung", "Lyci", "Orkh"],
    ["205A"]),
   (["Cher", "Dupl", "Kana", "Latn", "Syrc", "Tfng"],
    ["323"]),
   (["Copt", "Elba", "Glag", "Goth", "Kana", "Latn"],
    ["305"]),
   (["Deva", "Knda", "Mlym", "Orya", "Taml", "Telu"],
    ["1CDA"]),
   (["Aghb", "Cher", "Goth", "Latn", "Sunu", "Syrc", "Thai"],
    ["331"]),
   (["Arab", "Gara", "Nkoo", "Rohg", "Syrc", "Thaa", "Yezi"],
    ["60C 61B"]),
   (["Avst", "Cari", "Geor", "Hung", "Kthi", "Lydi", "Samr"],
    ["2E31"]),
   (["Beng", "Cyrl", "Deva", "Latn", "Lisu", "Thai", "Toto"],
    ["2BC"]),
   (["Bopo", "Hang", "Hani", "Hira", "Kana", "Mong", "Yiii"],
    ["3001"]),
   (["Adlm", "Arab", "Gara", "Nkoo", "Rohg", "Syrc", "Thaa", "Yezi"],
    ["61F"]),
   (["Bopo", "Hang", "Hani", "Hira", "Kana", "Mong", "Phag", "Yiii"],
    ["3002"]),
   (["Bopo", "Hang", "Hani", "Hira", "Kana", "Mong", "Tibt", "Yiii"],
    ["3008-3009"]),
   (["Cher", "Copt", "Cyrl", "Grek", "Latn", "Perm", "Sunu", "Tale"],
    ["300"]),
   (["Cher", "Cyrl", "Grek", "Latn", "Osge", "Sunu", "Tale", "Todr"],
    ["301"]),
   (["Adlm", "Arab", "Mand", "Mani", "Ougr", "Phlp", "Rohg", "Sogd", "Syrc"],
    ["640"]),
   (["Bopo", "Hang", "Hani", "Hira", "Kana", "Lisu", "Mong", "Tibt", "Yiii"],
    ["300A-300B"]),
   (["Copt", "Dupl", "Hebr", "Latn", "Perm", "Syrc", "Tale", "Tfng", "Todr"],
    ["307"]),
   (["Aghb", "Cher", "Copt", "Cyrl", "Goth", "Grek", "Latn", "Osge", "Syrc", "Tfng", "Todr"],
    ["304"]),
   (["Armn", "Cyrl", "Dupl", "Goth", "Grek", "Hebr", "Latn", "Perm", "Syrc", "Tale", "Tfng"],
    ["308"]),
   (["Beng", "Deva", "Gran", "Knda", "Mlym", "Nand", "Orya", "Sinh", "Telu", "Tirh", "Tutg"],
    ["1CF2"]),
   (["Deva", "Dogr", "Gujr", "Guru", "Khoj", "Kthi", "Mahj", "Modi", "Sind", "Takr", "Tirh"],
    ["A836-A837 A839"]),
   (["Deva", "Dogr", "Gujr", "Guru", "Khoj", "Kthi", "Mahj", "Modi", "Shrd", "Sind", "Takr",
     "Tirh"],
    ["A838"]),
   (["Beng", "Deva", "Gran", "Gujr", "Guru", "Knda", "Latn", "Mlym", "Newa", "Orya", "Taml",
     "Telu", "Tirh"],
    ["952"]),
   (["Beng", "Deva", "Gran", "Gujr", "Guru", "Knda", "Latn", "Mlym", "Nand", "Newa", "Orya",
     "Shrd", "Taml", "Telu", "Tirh"],
    ["951"]),
   (["Deva", "Dogr", "Gujr", "Guru", "Khoj", "Knda", "Kthi", "Mahj", "Modi", "Nand", "Shrd",
     "Sind", "Takr", "Tirh", "Tutg"],
    ["A833-A835"]),
   (["Avst", "Cari", "Copt", "Dupl", "Elba", "Geor", "Glag", "Gong", "Goth", "Grek", "Hani",
     "Latn", "Lydi", "Mahj", "Perm", "Shaw"],
    ["B7"]),
   (["Deva", "Dogr", "Gujr", "Guru", "Khoj", "Knda", "Kthi", "Mahj", "Mlym", "Modi", "Nand",
     "Shrd", "Sind", "Takr", "Tirh", "Tutg"],
    ["A830-A832"]),
   (["Beng", "Deva", "Dogr", "Gong", "Gonm", "Gran", "Gujr", "Guru", "Knda", "Mahj", "Mlym",
     "Nand", "Onao", "Orya", "Sind", "Sinh", "Sylo", "Takr", "Taml", "Telu", "Tirh"],
    ["964"]),
   (["Beng", "Deva", "Dogr", "Gong", "Gonm", "Gran", "Gujr", "Gukh", "Guru", "Knda", "Limb",
     "Mahj", "Mlym", "Nand", "Onao", "Orya", "Sind", "Sinh", "Sylo", "Takr", "Taml", "Telu",
     "Tirh"],
    ["965"])]

end Scenario.Text
