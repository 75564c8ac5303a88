set_option autoImplicit false

namespace Appraisal.Unicode

/-- The script of a character. -/
def scriptTable : List (List String × List String) := [
  (["adlm", "adlam"],
    ["125184 75 4 9 4 1"]),
  (["aghb", "caucasianalbanian"],
    ["66864 51 11 0"]),
  (["ahom"],
    ["71424 26 2 14 4 22"]),
  (["arab", "arabic"],
    ["1536 4 1 5 1 13 1 2 1 31 1 9 11 25 1 107 1 33 80 47 240 33 5 74 1 28 62032 493 2 143 32 15",
     "112 4 1 134 3939 30 67 5 8 8 33 5 57088 3 1 26 1 1 1 0 2 0 1 9 1 3 1 0 1 0 6 0 4 0 1 0 1 0",
     "1 2 1 1 1 0 2 0 1 0 1 0 1 0 1 0 1 1 1 0 2 3 1 6 1 3 1 3 1 0 1 9 1 16 5 2 1 4 1 16 52 1"]),
  (["armi", "imperialaramaic"],
    ["67648 21 1 8"]),
  (["armn", "armenian"],
    ["1329 37 2 49 2 2 62851 4"]),
  (["avst", "avestan"],
    ["68352 53 3 6"]),
  (["bali", "balinese"],
    ["6912 76 1 49"]),
  (["bamu", "bamum"],
    ["42656 87 49416 568"]),
  (["bass", "bassavah"],
    ["92880 29 2 5"]),
  (["batk", "batak"],
    ["7104 51 8 3"]),
  (["beng", "bengali"],
    ["2432 3 1 7 2 1 2 21 1 6 1 0 3 3 2 8 2 1 2 3 8 0 4 1 1 4 2 24"]),
  (["bhks", "bhaiksuki"],
    ["72704 8 1 44 1 13 10 28"]),
  (["bopo", "bopomofo"],
    ["746 1 11801 42 112 31"]),
  (["brah", "brahmi"],
    ["69632 77 4 35 9 0"]),
  (["brai", "braille"],
    ["10240 255"]),
  (["bugi", "buginese"],
    ["6656 27 2 1"]),
  (["buhd", "buhid"],
    ["5952 19"]),
  (["cakm", "chakma"],
    ["69888 52 1 17"]),
  (["cans", "canadianaboriginal"],
    ["5120 639 560 69 65978 15"]),
  (["cari", "carian"],
    ["66208 48"]),
  (["cham"],
    ["43520 54 9 13 2 9 2 3"]),
  (["cher", "cherokee"],
    ["5024 85 2 5 38770 79"]),
  (["chrs", "chorasmian"],
    ["69552 27"]),
  (["copt", "coptic", "qaac"],
    ["994 13 10384 115 5 6"]),
  (["cpmn", "cyprominoan"],
    ["77712 98"]),
  (["cprt", "cypriot"],
    ["67584 5 2 0 1 43 1 1 3 0 2 0"]),
  (["cyrl", "cyrillic"],
    ["1024 132 2 168 5968 10 160 0 76 0 4199 31 30784 95 22414 1 57856 61 33 0"]),
  (["deva", "devanagari"],
    ["2304 80 4 14 2 25 40800 31 29184 9"]),
  (["diak", "divesakuru"],
    ["71936 6 2 0 2 7 1 1 1 29 1 1 2 11 9 9"]),
  (["dogr", "dogra"],
    ["71680 59"]),
  (["dsrt", "deseret"],
    ["66560 79"]),
  (["dupl", "duployan"],
    ["113664 106 5 12 3 8 7 9 2 3"]),
  (["egyp", "egyptianhieroglyphs"],
    ["77824 1109 10 3994"]),
  (["elba", "elbasan"],
    ["66816 39"]),
  (["elym", "elymaic"],
    ["69600 22"]),
  (["ethi", "ethiopic"],
    ["4608 72 1 3 2 6 1 0 1 3 2 40 1 3 2 32 1 3 2 6 1 0 1 3 2 14 1 56 1 3 2 66 2 31 3 25 6630 22",
     "9 6 1 6 1 6 1 6 1 6 1 6 1 6 1 6 32034 5 2 5 2 5 9 6 1 6 81073 6 1 3 1 1 1 14"]),
  (["geor", "georgian"],
    ["4256 37 1 0 5 0 2 42 1 3 2960 42 2 2 4160 37 1 0 5 0"]),
  (["glag", "glagolitic"],
    ["11264 95 111520 6 1 16 2 6 1 1 1 4"]),
  (["gong", "gunjalagondi"],
    ["73056 5 1 1 1 36 1 1 1 5 7 9"]),
  (["gonm", "masaramgondi"],
    ["72960 6 1 1 1 43 3 0 1 1 1 8 8 9"]),
  (["goth", "gothic"],
    ["66352 26"]),
  (["gran", "grantha"],
    ["70400 3 1 7 2 1 2 21 1 6 1 1 1 4 2 8 2 1 2 2 2 0 6 0 5 6 2 6 3 4"]),
  (["grek", "greek"],
    ["880 3 1 2 2 3 1 0 4 0 1 0 1 2 1 0 1 19 1 62 14 15 6438 4 50 4 4 4 84 0 320 21 2 5 2 37 2 5",
     "2 7 1 0 1 0 1 0 1 30 2 52 1 14 1 13 2 5 1 18 2 2 1 8 295 0 35390 0 21978 78 17 0 53343 69"]),
  (["gujr", "gujarati"],
    ["2689 2 1 8 1 2 1 21 1 6 1 1 1 4 2 9 1 2 1 2 2 0 15 3 2 11 7 6"]),
  (["guru", "gurmukhi"],
    ["2561 2 1 5 4 1 2 21 1 6 1 1 1 1 1 1 2 0 1 4 4 1 2 2 3 0 7 3 1 0 7 16"]),
  (["hang", "hangul"],
    ["4352 255 7726 1 257 93 113 30 65 30 30433 28 643 11171 12 22 4 48 10148 30 3 5 2 5 2 5 2 2"]),
  (["hani", "han"],
    ["11904 25 1 88 12 213 47 0 1 0 25 8 14 3 964 6591 64 20991 22784 365 2 105 29960 1 12 6",
     "36873 42719 32 4381 2 5773 2 7472 15 621 2466 541 1506 4938 5 8489"]),
  (["hano", "hanunoo"],
    ["5920 20"]),
  (["hatr", "hatran"],
    ["67808 18 1 1 5 4"]),
  (["hebr", "hebrew"],
    ["1425 54 8 26 4 5 62760 25 1 4 1 0 1 1 1 1 1 9"]),
  (["hira", "hiragana"],
    ["12353 85 6 2 98145 286 18 0 29 2 16557 0"]),
  (["hluw", "anatolianhieroglyphs"],
    ["82944 582"]),
  (["hmng", "pahawhhmong"],
    ["92928 69 10 9 1 6 1 20 5 18"]),
  (["hmnp", "nyiakengpuachuehmong"],
    ["123136 44 3 13 2 9 4 1"]),
  (["hung", "oldhungarian"],
    ["68736 50 13 50 7 5"]),
  (["ital", "olditalic"],
    ["66304 35 9 2"]),
  (["java", "javanese"],
    ["43392 77 2 9 4 1"]),
  (["kali", "kayahli"],
    ["43264 45 1 0"]),
  (["kana", "katakana"],
    ["12449 89 2 2 240 15 208 46 1 87 52238 9 1 44 45138 3 1 6 1 1 1 0 287 2 50 0 14 3"]),
  (["kawi"],
    ["73472 16 1 40 3 28"]),
  (["khar", "kharoshthi"],
    ["68096 3 1 1 5 7 1 2 1 28 2 2 4 9 7 8"]),
  (["khmr", "khmer"],
    ["6016 93 2 9 6 9 486 31"]),
  (["khoj", "khojki"],
    ["70144 17 1 46"]),
  (["kits", "khitansmallscript"],
    ["94180 0 6939 469 41 0"]),
  (["knda", "kannada"],
    ["3200 12 1 2 1 22 1 9 1 4 2 8 1 2 1 3 7 1 5 2 1 3 2 9 1 2"]),
  (["kthi", "kaithi"],
    ["69760 66 10 0"]),
  (["lana", "taitham"],
    ["6688 62 1 28 2 10 6 9 6 13"]),
  (["laoo", "lao"],
    ["3713 1 1 0 1 4 1 23 1 0 1 22 2 4 1 0 1 6 1 9 2 3"]),
  (["latn", "latin"],
    ["65 25 6 25 47 0 15 0 5 22 1 30 1 448 39 4 6683 37 6 48 5 3 5 12 1 69 65 255 369 0 13 0 16",
     "12 141 1 6 0 27 0 17 40 2775 31 31394 101 3 81 20 14 816 42 1 8 1 3 20374 6 1050 25 6 25",
     "2085 5 1 41 1 8 55109 30 6 5"]),
  (["lepc", "lepcha"],
    ["7168 55 3 14 3 2"]),
  (["limb", "limbu"],
    ["6400 30 1 11 4 11 4 0 3 11"]),
  (["lina", "lineara"],
    ["67072 310 9 21 10 7"]),
  (["linb", "linearb"],
    ["65536 11 1 25 1 18 1 1 1 14 2 13 34 122"]),
  (["lisu"],
    ["42192 47 31408 0"]),
  (["lyci", "lycian"],
    ["66176 28"]),
  (["lydi", "lydian"],
    ["67872 25 5 0"]),
  (["mahj", "mahajani"],
    ["69968 38"]),
  (["maka", "makasar"],
    ["73440 24"]),
  (["mand", "mandaic"],
    ["2112 27 2 0"]),
  (["mani", "manichaean"],
    ["68288 38 4 11"]),
  (["marc", "marchen"],
    ["72816 31 2 21 1 13"]),
  (["medf", "medefaidrin"],
    ["93760 90"]),
  (["mend", "mendekikakui"],
    ["124928 196 2 15"]),
  (["merc", "meroiticcursive"],
    ["68000 23 4 19 2 45"]),
  (["mero", "meroitichieroglyphs"],
    ["67968 31"]),
  (["mlym", "malayalam"],
    ["3328 12 1 2 1 50 1 2 1 5 4 15 2 25"]),
  (["modi"],
    ["71168 68 11 9"]),
  (["mong", "mongolian"],
    ["6144 1 2 0 1 19 6 88 7 42 64949 12"]),
  (["mroo", "mro"],
    ["92736 30 1 9 4 1"]),
  (["mtei", "meeteimayek"],
    ["43744 22 201 45 2 9"]),
  (["mult", "multani"],
    ["70272 6 1 0 1 3 1 14 1 10"]),
  (["mymr", "myanmar"],
    ["4096 159 39232 30 97 31 27728 19"]),
  (["nagm", "nagmundari"],
    ["124112 41"]),
  (["nand", "nandinagari"],
    ["72096 7 2 45 2 10"]),
  (["narb", "oldnortharabian"],
    ["68224 31"]),
  (["nbat", "nabataean"],
    ["67712 30 8 8"]),
  (["newa"],
    ["70656 91 1 4"]),
  (["nkoo", "nko"],
    ["1984 58 2 2"]),
  (["nshu", "nushu"],
    ["94177 0 16782 395"]),
  (["ogam", "ogham"],
    ["5760 28"]),
  (["olck", "olchiki"],
    ["7248 47"]),
  (["orkh", "oldturkic"],
    ["68608 72"]),
  (["orya", "oriya"],
    ["2817 2 1 7 2 1 2 21 1 6 1 1 1 4 2 8 2 1 2 2 7 2 4 1 1 4 2 17"]),
  (["osge", "osage"],
    ["66736 35 4 35"]),
  (["osma", "osmanya"],
    ["66688 29 2 9"]),
  (["ougr", "olduyghur"],
    ["69488 25"]),
  (["palm", "palmyrene"],
    ["67680 31"]),
  (["pauc", "paucinhau"],
    ["72384 56"]),
  (["perm", "oldpermic"],
    ["66384 42"]),
  (["phag", "phagspa"],
    ["43072 55"]),
  (["phli", "inscriptionalpahlavi"],
    ["68448 18 5 7"]),
  (["phlp", "psalterpahlavi"],
    ["68480 17 7 3 12 6"]),
  (["phnx", "phoenician"],
    ["67840 27 3 0"]),
  (["plrd", "miao"],
    ["93952 74 4 56 7 16"]),
  (["prti", "inscriptionalparthian"],
    ["68416 21 2 7"]),
  (["rjng", "rejang"],
    ["43312 35 11 0"]),
  (["rohg", "hanifirohingya"],
    ["68864 39 8 9"]),
  (["runr", "runic"],
    ["5792 74 3 10"]),
  (["samr", "samaritan"],
    ["2048 45 2 14"]),
  (["sarb", "oldsoutharabian"],
    ["68192 31"]),
  (["saur", "saurashtra"],
    ["43136 69 8 11"]),
  (["sgnw", "signwriting"],
    ["120832 651 15 4 1 14"]),
  (["shaw", "shavian"],
    ["66640 47"]),
  (["shrd", "sharada"],
    ["70016 95 2432 7"]),
  (["sidd", "siddham"],
    ["71040 53 2 37"]),
  (["sind", "khudawadi"],
    ["70320 58 5 9"]),
  (["sinh", "sinhala"],
    ["3457 2 1 17 3 23 1 8 1 0 2 6 3 0 4 5 1 0 1 7 6 9 2 2 66540 19"]),
  (["sogd", "sogdian"],
    ["69424 41"]),
  (["sogo", "oldsogdian"],
    ["69376 39"]),
  (["sora", "sorasompeng"],
    ["69840 24 7 9"]),
  (["soyo", "soyombo"],
    ["72272 82"]),
  (["sund", "sundanese"],
    ["7040 63 256 7"]),
  (["sylo", "sylotinagri"],
    ["43008 44"]),
  (["syrc", "syriac"],
    ["1792 13 1 59 2 2 272 10"]),
  (["tagb", "tagbanwa"],
    ["5984 12 1 2 1 1"]),
  (["takr", "takri"],
    ["71296 57 6 9"]),
  (["tale", "taile"],
    ["6480 29 2 4"]),
  (["talu", "newtailue"],
    ["6528 43 4 25 6 10 3 1"]),
  (["taml", "tamil"],
    ["2946 1 1 5 3 2 1 3 3 1 1 0 1 1 3 1 3 2 3 11 4 4 3 2 1 3 2 0 6 0 14 20 70597 49 13 0"]),
  (["tang", "tangut"],
    ["94176 0 31 6911 512 30 97 114"]),
  (["tavt", "taiviet"],
    ["43648 66 24 4"]),
  (["telu", "telugu"],
    ["3072 12 1 2 1 22 1 15 2 8 1 2 1 3 7 1 1 2 1 1 2 3 2 9 7 8"]),
  (["tfng", "tifinagh"],
    ["11568 55 7 1 14 0"]),
  (["tglg", "tagalog"],
    ["5888 21 9 0"]),
  (["thaa", "thaana"],
    ["1920 49"]),
  (["thai"],
    ["3585 57 5 27"]),
  (["tibt", "tibetan"],
    ["3840 71 1 35 4 38 1 35 1 14 1 6 4 1"]),
  (["tirh", "tirhuta"],
    ["70784 71 8 9"]),
  (["tnsa", "tangsa"],
    ["92784 78 1 9"]),
  (["toto"],
    ["123536 30"]),
  (["ugar", "ugaritic"],
    ["66432 29 1 0"]),
  (["vaii", "vai"],
    ["42240 299"]),
  (["vith", "vithkuqi"],
    ["66928 10 1 14 1 6 1 1 1 10 1 14 1 6 1 1"]),
  (["wara", "warangciti"],
    ["71840 82 12 0"]),
  (["wcho", "wancho"],
    ["123584 57 5 0"]),
  (["xpeo", "oldpersian"],
    ["66464 35 4 13"]),
  (["xsux", "cuneiform"],
    ["73728 921 102 110 1 4 11 195"]),
  (["yezi", "yezidi"],
    ["69248 41 1 2 2 1"]),
  (["yiii", "yi"],
    ["40960 1164 3 54"]),
  (["zanb", "zanabazarsquare"],
    ["72192 71"]),
  (["zinh", "inherited", "qaai"],
    ["768 111 277 1 452 10 26 0 736 3 4443 45 2 11 484 2 1 12 1 6 4 0 6 0 3 1 198 63 524 1 194",
     "32 3897 3 107 1 52581 15 16 13 975 0 226 0 4186 0 48068 45 2 22 544 2 17 7 2 6 30 3 798546",
     "239"]),
  (["zyyy", "common"],
    ["0 64 26 5 26 46 1 14 1 4 23 0 31 0 449 38 5 4 2 19 116 0 9 0 6 0 1 0 637 0 6 0 14 0 3 0 32",
     "0 156 0 516 0 129 1 1241 0 405 3 290 0 1519 2 71 1 203 1 1 0 1229 0 13 0 7 3 1 5 1 2 2 0",
     "773 11 2 86 1 10 3 10 1 14 17 33 62 37 1 2 2 5 1 26 1 16 41 2 4 665 22 10 21 927 256 627 2",
     "137 512 93 402 20 1 0 1 24 15 7 4 3 91 1 3 0 90 1 147 15 32 37 9 0 48 63 31 80 47 0 88 167",
     "6592 63 22784 33 102 2 165 9 244 0 160 0 395 0 14 1 20946 1 208 9 22 34 1 18 1 3 147 0 1",
     "31 26 5 26 10 10 0 45 1 64 6 1 6 10 4 258 2 4 44 3 8 80 12 51 44 228 26 47524 3 3932 252 3",
     "435 6 22 15 16 95 115 60 245 10 38 2 61 3 16 8 1 7 29 4 60 213 19 12 19 12 86 9 24 135 84",
     "1 70 1 1 2 0 2 1 2 3 1 11 1 0 1 6 1 64 1 3 2 7 1 6 1 27 1 3 1 4 1 0 3 6 1 339 2 291 2 49",
     "5233 67 76 60 706 43 4 99 12 14 2 14 1 14 1 36 10 173 56 25 1 1 13 43 4 8 7 1 14 5 154 984",
     "3 16 3 12 3 217 6 11 4 0 15 11 4 55 8 9 6 39 8 29 2 11 4 1 14 8 39 343 8 13 2 12 3 10 3 56",
     "1 0 4 15 2 11 4 9 7 146 1 102 787462 0 30 95"]),
  (["zzzz", "unknown"],
    ["888 1 6 3 7 0 1 0 20 0 397 0 38 1 50 1 3 0 55 7 27 3 6 10 270 0 60 1 101 13 59 1 49 1 15 0",
     "28 1 1 0 11 4 34 4 237 0 8 1 2 1 22 0 7 0 1 2 4 1 9 1 2 1 4 7 1 3 2 0 5 1 25 1 3 0 6 3 2 1",
     "22 0 7 0 2 0 2 0 2 1 1 0 5 3 2 1 3 2 1 6 4 0 1 6 17 9 3 0 9 0 3 0 22 0 7 0 2 0 5 1 10 0 3",
     "0 3 1 1 14 4 1 12 6 7 0 3 0 8 1 2 1 22 0 7 0 2 0 5 1 9 1 2 1 3 6 3 3 2 0 5 1 18 9 2 0 6 2",
     "3 0 4 2 2 0 1 0 2 2 2 2 3 2 12 3 5 2 3 0 4 1 1 5 1 13 21 4 13 0 3 0 23 0 16 1 9 0 3 0 4 6",
     "2 0 3 0 2 1 4 1 10 6 22 0 3 0 23 0 10 0 5 1 9 0 3 0 4 6 2 4 3 0 4 1 10 0 3 11 13 0 3 0 51",
     "0 3 0 6 3 16 1 26 0 3 0 18 2 24 0 9 0 1 1 7 2 1 3 6 0 1 0 8 5 10 1 3 11 58 3 29 36 2 0 1 0",
     "5 0 24 0 1 0 23 1 5 0 1 0 7 0 10 1 4 31 72 0 36 3 39 0 36 0 15 0 13 36 198 0 1 4 1 1 377 0",
     "4 1 7 0 1 0 4 1 41 0 4 1 33 0 4 1 7 0 1 0 4 1 15 0 57 0 4 1 67 1 32 2 26 5 86 1 6 1 669 2",
     "89 6 22 8 24 8 20 11 13 0 3 0 2 11 94 1 10 5 10 5 26 5 89 6 43 4 70 9 31 0 12 3 12 3 1 2",
     "42 1 5 10 44 3 26 5 11 2 62 1 65 0 29 1 11 5 10 5 14 1 46 1 12 19 77 0 166 7 60 2 15 2 62",
     "4 43 1 11 7 43 4 534 1 6 1 38 1 6 1 8 0 1 0 1 0 1 0 31 1 53 0 15 0 14 1 6 0 19 1 3 0 9 0",
     "101 0 12 1 27 0 13 2 34 13 33 14 140 3 666 21 11 20 1812 1 382 4 45 0 1 4 1 1 56 6 2 13 24",
     "8 7 0 7 0 7 0 7 0 7 0 7 0 7 0 7 0 126 33 26 0 89 11 214 25 80 0 86 1 103 4 43 0 94 0 86 8",
     "48 0 29293 2 55 8 348 19 184 7 221 19 60 2 10 5 56 7 70 7 12 5 116 10 30 2 78 0 11 3 33 0",
     "55 8 14 1 10 1 103 23 28 9 6 1 6 1 6 8 7 0 7 0 60 3 126 1 10 5 11172 11 23 3 49 3 2048",
     "6399 366 1 106 37 7 11 5 4 26 0 5 0 1 0 2 0 2 0 650 31 42 5 51 0 19 0 4 3 5 0 135 1 1 0",
     "190 2 6 1 6 1 6 1 3 2 7 0 7 9 5 1 12 0 26 0 19 0 2 0 15 1 14 33 123 4 3 3 45 2 88 0 13 2 1",
     "46 46 129 29 2 49 14 28 3 36 8 30 4 43 4 30 0 37 3 14 41 158 1 10 5 36 3 36 3 40 7 52 10",
     "12 0 15 0 7 0 2 0 11 0 15 0 7 0 2 2 52 11 311 8 22 9 8 23 6 0 42 0 9 68 6 1 1 0 44 0 2 2 1",
     "1 23 0 72 7 9 47 19 0 2 4 33 2 27 4 27 37 56 3 20 1 50 0 2 4 8 0 3 0 29 1 3 3 10 6 9 6 64",
     "31 39 3 12 8 54 2 29 1 27 4 26 6 4 11 7 79 73 54 51 12 51 6 46 7 10 5 38 2 29 7 2 207 31 0",
     "42 0 3 1 2 15 6 7 9 32 46 7 42 21 26 37 28 19 23 8 78 3 36 8 68 9 1 1 25 6 10 5 53 0 18 7",
     "39 8 96 0 20 10 18 0 47 61 7 0 1 0 4 0 15 0 11 5 59 4 10 5 4 0 8 1 2 1 22 0 7 0 2 0 5 0 10",
     "1 2 1 3 1 1 5 1 4 7 1 7 2 5 10 10 0 1 1 1 0 38 0 10 0 1 1 1 0 4 0 10 0 2 7 2 28 92 0 5 29",
     "72 7 10 165 54 1 38 33 69 10 10 5 13 18 58 5 10 5 20 27 27 1 15 3 23 184 60 99 83 11 8 1 1",
     "1 8 0 2 0 30 0 2 1 12 8 10 69 8 1 46 1 11 26 72 7 83 12 73 6 10 85 8 87 34 13 10 5 9 0 45",
     "0 14 9 29 2 32 1 22 0 14 72 7 0 2 0 44 2 1 0 2 0 9 7 10 5 6 0 2 0 37 0 2 0 6 6 10 5 44 3",
     "10 245 25 6 17 0 41 2 29 84 1 14 50 12 923 101 111 0 5 10 196 2635 99 12 1110 9 3995 4 583",
     "6840 58 1733 569 6 31 0 10 3 81 0 10 5 30 1 6 9 70 9 10 0 7 0 21 4 19 431 58 197 91 4 25 1",
     "25 43 75 3 57 6 17 63 5 10 7 8 7382 40 32 96 115 8700 4 0 7 0 2 0 291 14 1 28 3 1 1 13 4 7",
     "396 2307 107 4 13 2 9 6 10 1 8 3931 253 2 436 5 23 14 17 14 46 1 23 8 116 59 246 9 39 1",
     "194 20 70 121 20 11 20 11 87 8 25 134 85 0 71 0 2 1 1 1 2 1 4 0 12 0 1 0 7 0 65 0 4 1 8 0",
     "7 0 28 0 4 0 5 0 1 2 7 0 340 1 292 1 702 14 5 0 15 1103 31 5 6 212 7 0 17 1 7 0 2 0 5 4 62",
     "32 1 111 45 2 14 1 10 3 2 319 31 16 58 4 1 463 42 213 43 3 1 191 31 0 22 7 2 223 7 0 4 0 2",
     "0 15 0 197 1 16 40 76 3 10 3 2 784 68 75 61 193 4 0 27 0 2 0 1 1 1 0 10 0 4 0 1 0 1 5 1 3",
     "1 0 1 0 1 0 3 0 2 0 1 1 1 0 1 0 1 0 1 0 1 0 2 0 1 1 4 0 7 0 4 0 4 0 1 0 10 0 17 4 3 0 5 0",
     "17 51 2 269 44 3 100 11 15 1 15 0 15 0 37 9 174 55 29 12 44 3 9 6 2 13 6 153 985 2 17 2 13",
     "2 218 5 12 3 1 14 12 3 56 7 10 5 40 7 30 1 12 3 2 13 9 38 344 7 14 1 13 2 11 2 57 0 1 3 16",
     "1 12 3 10 6 147 0 103 1028 42720 31 4382 1 5774 1 7473 14 622 2465 542 1505 4939 4 8490",
     "707462 1 29 96 127 240 196111"])]

end Appraisal.Unicode
