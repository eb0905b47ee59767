import Covenant.Text.Property
/-!
# Table of scripts

The scripts of Unicode with their names, in small letters and without separators, and their
ranges of code points.
-/

namespace Covenant.Text.ScriptTable

/-- All scripts by name. -/
def scripts : List Script := [
  ⟨["adlam", "adlm"], rangesOf ["1E900-1E95F"]⟩,
  ⟨["ahom"], rangesOf ["11700-11746"]⟩,
  ⟨["anatolianhieroglyphs", "hluw"], rangesOf ["14400-14646"]⟩,
  ⟨["arabic", "arab"], rangesOf [
    "600-604 606-60B 60D-61A 61C-61E 620-63F 641-64A 656-66F 671-6DC 6DE-6FF 750-77F 870-8E1",
    "8E3-8FF FB50-FD3D FD40-FDFF FE70-FEFC 10E60-10E7E 10EC2-10EFF 1EE00-1EEF1"]⟩,
  ⟨["armenian", "armn"], rangesOf ["531-58F FB13-FB17"]⟩,
  ⟨["avestan", "avst"], rangesOf ["10B00-10B3F"]⟩,
  ⟨["balinese", "bali"], rangesOf ["1B00-1B7F"]⟩,
  ⟨["bamum", "bamu"], rangesOf ["A6A0-A6F7 16800-16A38"]⟩,
  ⟨["bassavah", "bass"], rangesOf ["16AD0-16AF5"]⟩,
  ⟨["batak", "batk"], rangesOf ["1BC0-1BFF"]⟩,
  ⟨["bengali", "beng"], rangesOf ["980-9FE"]⟩,
  ⟨["bhaiksuki", "bhks"], rangesOf ["11C00-11C6C"]⟩,
  ⟨["bopomofo", "bopo"], rangesOf ["2EA-2EB 3105-312F 31A0-31BF"]⟩,
  ⟨["brahmi", "brah"], rangesOf ["11000-1107F"]⟩,
  ⟨["braille", "brai"], rangesOf ["2800-28FF"]⟩,
  ⟨["buginese", "bugi"], rangesOf ["1A00-1A1F"]⟩,
  ⟨["buhid", "buhd"], rangesOf ["1740-1753"]⟩,
  ⟨["canadianaboriginal", "cans"], rangesOf ["1400-167F 18B0-18F5 11AB0-11ABF"]⟩,
  ⟨["carian", "cari"], rangesOf ["102A0-102D0"]⟩,
  ⟨["caucasianalbanian", "aghb"], rangesOf ["10530-1056F"]⟩,
  ⟨["chakma", "cakm"], rangesOf ["11100-11147"]⟩,
  ⟨["cham"], rangesOf ["AA00-AA5F"]⟩,
  ⟨["cherokee", "cher"], rangesOf ["13A0-13FD AB70-ABBF"]⟩,
  ⟨["chorasmian", "chrs"], rangesOf ["10FB0-10FCB"]⟩,
  ⟨["common", "zyyy"], rangesOf [
    "0-40 5B-60 7B-A9 AB-B9 BB-BF D7 F7 2B9-2DF 2E5-2E9 2EC-2FF 374 37E 385 387 605 60C 61B 61F",
    "640 6DD 8E2 964-965 E3F FD5-FD8 10FB 16EB-16ED 1735-1736 1802-1803 1805 1CD3 1CE1 1CE9-1CEC",
    "1CEE-1CF3 1CF5-1CF7 1CFA 2000-200B 200E-2070 2074-207E 2080-208E 20A0-20C0 2100-2125",
    "2127-2129 212C-2131 2133-214D 214F-215F 2189-27FF 2900-2BFF 2E00-2E5D 2FF0-3004 3006",
    "3008-3020 3030-3037 303C-303F 309B-309C 30A0 30FB-30FC 3190-319F 31C0-31EF 3220-325F",
    "327F-32CF 32FF 3358-33FF 4DC0-4DFF A700-A721 A788-A78A A830-A839 A92E A9CF AB5B AB6A-AB6B",
    "FD3E-FD3F FE10-FE19 FE30-FE6B FEFF-FF20 FF3B-FF40 FF5B-FF65 FF70 FF9E-FF9F FFE0-FFFD",
    "10100-1013F 10190-1019C 101D0-101FC 102E1-102FB 1BCA0-1CEB3 1CF50-1D166 1D16A-1D17A",
    "1D183-1D184 1D18C-1D1A9 1D1AE-1D1EA 1D2C0-1D7FF 1EC71-1ED3D 1F000-1F1FF 1F201-1FBF9",
    "E0001-E007F"]⟩,
  ⟨["coptic", "copt", "qaac"], rangesOf ["3E2-3EF 2C80-2CFF"]⟩,
  ⟨["cuneiform", "xsux"], rangesOf ["12000-12543"]⟩,
  ⟨["cypriot", "cprt"], rangesOf ["10800-1083F"]⟩,
  ⟨["cyprominoan", "cpmn"], rangesOf ["12F90-12FF2"]⟩,
  ⟨["cyrillic", "cyrl"], rangesOf [
    "400-484 487-52F 1C80-1C8A 1D2B 1D78 2DE0-2DFF A640-A69F FE2E-FE2F 1E030-1E08F"]⟩,
  ⟨["deseret", "dsrt"], rangesOf ["10400-1044F"]⟩,
  ⟨["devanagari", "deva"], rangesOf ["900-950 955-963 966-97F A8E0-A8FF 11B00-11B09"]⟩,
  ⟨["divesakuru", "diak"], rangesOf ["11900-11959"]⟩,
  ⟨["dogra", "dogr"], rangesOf ["11800-1183B"]⟩,
  ⟨["duployan", "dupl"], rangesOf ["1BC00-1BC9F"]⟩,
  ⟨["egyptianhieroglyphs", "egyp"], rangesOf ["13000-143FA"]⟩,
  ⟨["elbasan", "elba"], rangesOf ["10500-10527"]⟩,
  ⟨["elymaic", "elym"], rangesOf ["10FE0-10FF6"]⟩,
  ⟨["ethiopic", "ethi"], rangesOf ["1200-1399 2D80-2DDE AB01-AB2E 1E7E0-1E7FE"]⟩,
  ⟨["garay", "gara"], rangesOf ["10D40-10D8F"]⟩,
  ⟨["georgian", "geor"], rangesOf ["10A0-10FA 10FC-10FF 1C90-1CBF 2D00-2D2D"]⟩,
  ⟨["glagolitic", "glag"], rangesOf ["2C00-2C5F 1E000-1E02A"]⟩,
  ⟨["gothic", "goth"], rangesOf ["10330-1034A"]⟩,
  ⟨["grantha", "gran"], rangesOf ["11300-11339 1133C-11374"]⟩,
  ⟨["greek", "grek"], rangesOf [
    "370-373 375-37D 37F-384 386 388-3E1 3F0-3FF 1D26-1D2A 1D5D-1D61 1D66-1D6A 1DBF 1F00-1FFE",
    "2126 AB65 10140-1018E 101A0 1D200-1D245"]⟩,
  ⟨["gujarati", "gujr"], rangesOf ["A81-AFF"]⟩,
  ⟨["gunjalagondi", "gong"], rangesOf ["11D60-11DA9"]⟩,
  ⟨["gurmukhi", "guru"], rangesOf ["A01-A76"]⟩,
  ⟨["gurungkhema", "gukh"], rangesOf ["16100-16139"]⟩,
  ⟨["han", "hani"], rangesOf [
    "2E80-2FD5 3005 3007 3021-3029 3038-303B 3400-4DBF 4E00-9FFF F900-FAD9 16FE2-16FE3",
    "16FF0-16FF1 20000-323AF"]⟩,
  ⟨["hangul", "hang"], rangesOf [
    "1100-11FF 302E-302F 3131-318E 3200-321E 3260-327E A960-A97C AC00-D7FB FFA0-FFDC"]⟩,
  ⟨["hanifirohingya", "rohg"], rangesOf ["10D00-10D39"]⟩,
  ⟨["hanunoo", "hano"], rangesOf ["1720-1734"]⟩,
  ⟨["hatran", "hatr"], rangesOf ["108E0-108FF"]⟩,
  ⟨["hebrew", "hebr"], rangesOf ["591-5F4 FB1D-FB4F"]⟩,
  ⟨["hiragana", "hira"], rangesOf ["3041-3096 309D-309F 1B001-1B11F 1B132-1B152 1F200"]⟩,
  ⟨["imperialaramaic", "armi"], rangesOf ["10840-1085F"]⟩,
  ⟨["inherited", "zinh", "qaai"], rangesOf [
    "300-36F 485-486 64B-655 670 951-954 1AB0-1ACE 1CD0-1CD2 1CD4-1CE0 1CE2-1CE8 1CED 1CF4",
    "1CF8-1CF9 1DC0-1DFF 200C-200D 20D0-20F0 302A-302D 3099-309A FE00-FE0F FE20-FE2D 101FD 102E0",
    "1133B 1CF00-1CF46 1D167-1D169 1D17B-1D182 1D185-1D18B 1D1AA-1D1AD E0100-E01EF"]⟩,
  ⟨["inscriptionalpahlavi", "phli"], rangesOf ["10B60-10B7F"]⟩,
  ⟨["inscriptionalparthian", "prti"], rangesOf ["10B40-10B5F"]⟩,
  ⟨["javanese", "java"], rangesOf ["A980-A9CD A9D0-A9DF"]⟩,
  ⟨["kaithi", "kthi"], rangesOf ["11080-110CD"]⟩,
  ⟨["kannada", "knda"], rangesOf ["C80-CF3"]⟩,
  ⟨["katakana", "kana"], rangesOf [
    "30A1-30FA 30FD-30FF 31F0-31FF 32D0-32FE 3300-3357 FF66-FF6F FF71-FF9D 1AFF0-1B000",
    "1B120-1B122 1B155-1B167"]⟩,
  ⟨["kawi"], rangesOf ["11F00-11F5A"]⟩,
  ⟨["kayahli", "kali"], rangesOf ["A900-A92D A92F"]⟩,
  ⟨["kharoshthi", "khar"], rangesOf ["10A00-10A58"]⟩,
  ⟨["khitansmallscript", "kits"], rangesOf ["16FE4 18B00-18CFF"]⟩,
  ⟨["khmer", "khmr"], rangesOf ["1780-17F9 19E0-19FF"]⟩,
  ⟨["khojki", "khoj"], rangesOf ["11200-11241"]⟩,
  ⟨["khudawadi", "sind"], rangesOf ["112B0-112F9"]⟩,
  ⟨["kiratrai", "krai"], rangesOf ["16D40-16D79"]⟩,
  ⟨["lao", "laoo"], rangesOf ["E81-EDF"]⟩,
  ⟨["latin", "latn"], rangesOf [
    "41-5A 61-7A AA BA C0-D6 D8-F6 F8-2B8 2E0-2E4 1D00-1D25 1D2C-1D5C 1D62-1D65 1D6B-1D77",
    "1D79-1DBE 1E00-1EFF 2071 207F 2090-209C 212A-212B 2132 214E 2160-2188 2C60-2C7F A722-A787",
    "A78B-A7FF AB30-AB5A AB5C-AB64 AB66-AB69 FB00-FB06 FF21-FF3A FF41-FF5A 10780-107BA",
    "1DF00-1DF2A"]⟩,
  ⟨["lepcha", "lepc"], rangesOf ["1C00-1C4F"]⟩,
  ⟨["limbu", "limb"], rangesOf ["1900-194F"]⟩,
  ⟨["lineara", "lina"], rangesOf ["10600-10767"]⟩,
  ⟨["linearb", "linb"], rangesOf ["10000-100FA"]⟩,
  ⟨["lisu"], rangesOf ["A4D0-A4FF 11FB0"]⟩,
  ⟨["lycian", "lyci"], rangesOf ["10280-1029C"]⟩,
  ⟨["lydian", "lydi"], rangesOf ["10920-1093F"]⟩,
  ⟨["mahajani", "mahj"], rangesOf ["11150-11176"]⟩,
  ⟨["makasar", "maka"], rangesOf ["11EE0-11EF8"]⟩,
  ⟨["malayalam", "mlym"], rangesOf ["D00-D7F"]⟩,
  ⟨["mandaic", "mand"], rangesOf ["840-85E"]⟩,
  ⟨["manichaean", "mani"], rangesOf ["10AC0-10AF6"]⟩,
  ⟨["marchen", "marc"], rangesOf ["11C70-11CB6"]⟩,
  ⟨["masaramgondi", "gonm"], rangesOf ["11D00-11D59"]⟩,
  ⟨["medefaidrin", "medf"], rangesOf ["16E40-16E9A"]⟩,
  ⟨["meeteimayek", "mtei"], rangesOf ["AAE0-AAF6 ABC0-ABF9"]⟩,
  ⟨["mendekikakui", "mend"], rangesOf ["1E800-1E8D6"]⟩,
  ⟨["meroiticcursive", "merc"], rangesOf ["109A0-109FF"]⟩,
  ⟨["meroitichieroglyphs", "mero"], rangesOf ["10980-1099F"]⟩,
  ⟨["miao", "plrd"], rangesOf ["16F00-16F9F"]⟩,
  ⟨["modi"], rangesOf ["11600-11659"]⟩,
  ⟨["mongolian", "mong"], rangesOf ["1800-1801 1804 1806-18AA 11660-1166C"]⟩,
  ⟨["mro", "mroo"], rangesOf ["16A40-16A6F"]⟩,
  ⟨["multani", "mult"], rangesOf ["11280-112A9"]⟩,
  ⟨["myanmar", "mymr"], rangesOf ["1000-109F A9E0-A9FE AA60-AA7F 116D0-116E3"]⟩,
  ⟨["nabataean", "nbat"], rangesOf ["10880-108AF"]⟩,
  ⟨["nagmundari", "nagm"], rangesOf ["1E4D0-1E4F9"]⟩,
  ⟨["nandinagari", "nand"], rangesOf ["119A0-119E4"]⟩,
  ⟨["newa"], rangesOf ["11400-11461"]⟩,
  ⟨["newtailue", "talu"], rangesOf ["1980-19DF"]⟩,
  ⟨["nko", "nkoo"], rangesOf ["7C0-7FF"]⟩,
  ⟨["nushu", "nshu"], rangesOf ["16FE1 1B170-1B2FB"]⟩,
  ⟨["nyiakengpuachuehmong", "hmnp"], rangesOf ["1E100-1E14F"]⟩,
  ⟨["ogham", "ogam"], rangesOf ["1680-169C"]⟩,
  ⟨["olchiki", "olck"], rangesOf ["1C50-1C7F"]⟩,
  ⟨["oldhungarian", "hung"], rangesOf ["10C80-10CFF"]⟩,
  ⟨["olditalic", "ital"], rangesOf ["10300-1032F"]⟩,
  ⟨["oldnortharabian", "narb"], rangesOf ["10A80-10A9F"]⟩,
  ⟨["oldpermic", "perm"], rangesOf ["10350-1037A"]⟩,
  ⟨["oldpersian", "xpeo"], rangesOf ["103A0-103D5"]⟩,
  ⟨["oldsogdian", "sogo"], rangesOf ["10F00-10F27"]⟩,
  ⟨["oldsoutharabian", "sarb"], rangesOf ["10A60-10A7F"]⟩,
  ⟨["oldturkic", "orkh"], rangesOf ["10C00-10C48"]⟩,
  ⟨["olduyghur", "ougr"], rangesOf ["10F70-10F89"]⟩,
  ⟨["olonal", "onao"], rangesOf ["1E5D0-1E5FF"]⟩,
  ⟨["oriya", "orya"], rangesOf ["B01-B77"]⟩,
  ⟨["osage", "osge"], rangesOf ["104B0-104FB"]⟩,
  ⟨["osmanya", "osma"], rangesOf ["10480-104A9"]⟩,
  ⟨["pahawhhmong", "hmng"], rangesOf ["16B00-16B8F"]⟩,
  ⟨["palmyrene", "palm"], rangesOf ["10860-1087F"]⟩,
  ⟨["paucinhau", "pauc"], rangesOf ["11AC0-11AF8"]⟩,
  ⟨["phagspa", "phag"], rangesOf ["A840-A877"]⟩,
  ⟨["phoenician", "phnx"], rangesOf ["10900-1091F"]⟩,
  ⟨["psalterpahlavi", "phlp"], rangesOf ["10B80-10BAF"]⟩,
  ⟨["rejang", "rjng"], rangesOf ["A930-A95F"]⟩,
  ⟨["runic", "runr"], rangesOf ["16A0-16EA 16EE-16F8"]⟩,
  ⟨["samaritan", "samr"], rangesOf ["800-83E"]⟩,
  ⟨["saurashtra", "saur"], rangesOf ["A880-A8D9"]⟩,
  ⟨["sharada", "shrd"], rangesOf ["11180-111DF"]⟩,
  ⟨["shavian", "shaw"], rangesOf ["10450-1047F"]⟩,
  ⟨["siddham", "sidd"], rangesOf ["11580-115DD"]⟩,
  ⟨["signwriting", "sgnw"], rangesOf ["1D800-1DAAF"]⟩,
  ⟨["sinhala", "sinh"], rangesOf ["D81-DF4 111E1-111F4"]⟩,
  ⟨["sogdian", "sogd"], rangesOf ["10F30-10F59"]⟩,
  ⟨["sorasompeng", "sora"], rangesOf ["110D0-110F9"]⟩,
  ⟨["soyombo", "soyo"], rangesOf ["11A50-11AA2"]⟩,
  ⟨["sundanese", "sund"], rangesOf ["1B80-1BBF 1CC0-1CC7"]⟩,
  ⟨["sunuwar", "sunu"], rangesOf ["11BC0-11BF9"]⟩,
  ⟨["sylotinagri", "sylo"], rangesOf ["A800-A82C"]⟩,
  ⟨["syriac", "syrc"], rangesOf ["700-74F 860-86A"]⟩,
  ⟨["tagalog", "tglg"], rangesOf ["1700-171F"]⟩,
  ⟨["tagbanwa", "tagb"], rangesOf ["1760-1773"]⟩,
  ⟨["taile", "tale"], rangesOf ["1950-1974"]⟩,
  ⟨["taitham", "lana"], rangesOf ["1A20-1AAD"]⟩,
  ⟨["taiviet", "tavt"], rangesOf ["AA80-AADF"]⟩,
  ⟨["takri", "takr"], rangesOf ["11680-116C9"]⟩,
  ⟨["tamil", "taml"], rangesOf ["B82-BFA 11FC0-11FFF"]⟩,
  ⟨["tangsa", "tnsa"], rangesOf ["16A70-16AC9"]⟩,
  ⟨["tangut", "tang"], rangesOf ["16FE0 17000-18AFF 18D00-18D08"]⟩,
  ⟨["telugu", "telu"], rangesOf ["C00-C7F"]⟩,
  ⟨["thaana", "thaa"], rangesOf ["780-7B1"]⟩,
  ⟨["thai"], rangesOf ["E01-E3A E40-E5B"]⟩,
  ⟨["tibetan", "tibt"], rangesOf ["F00-FD4 FD9-FDA"]⟩,
  ⟨["tifinagh", "tfng"], rangesOf ["2D30-2D7F"]⟩,
  ⟨["tirhuta", "tirh"], rangesOf ["11480-114D9"]⟩,
  ⟨["todhri", "todr"], rangesOf ["105C0-105F3"]⟩,
  ⟨["toto"], rangesOf ["1E290-1E2AE"]⟩,
  ⟨["tulutigalari", "tutg"], rangesOf ["11380-113E2"]⟩,
  ⟨["ugaritic", "ugar"], rangesOf ["10380-1039F"]⟩,
  ⟨["vai", "vaii"], rangesOf ["A500-A62B"]⟩,
  ⟨["vithkuqi", "vith"], rangesOf ["10570-105BC"]⟩,
  ⟨["wancho", "wcho"], rangesOf ["1E2C0-1E2FF"]⟩,
  ⟨["warangciti", "wara"], rangesOf ["118A0-118FF"]⟩,
  ⟨["yezidi", "yezi"], rangesOf ["10E80-10EB1"]⟩,
  ⟨["yi", "yiii"], rangesOf ["A000-A4C6"]⟩,
  ⟨["zanabazarsquare", "zanb"], rangesOf ["11A00-11A47"]⟩]

end Covenant.Text.ScriptTable
