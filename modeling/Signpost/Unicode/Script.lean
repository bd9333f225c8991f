import Signpost.Unicode.Ranges

/-! The scripts of Unicode 16.0. `runs` holds the characters whose script property is the
script; `shared` holds those of another script that are used in this one too. -/
namespace Signpost.Unicode

structure Script where
  names : List String
  runs : String
  shared : String := ""
  deriving Repr

def Script.all : List Script := [
  { names := ["adlam", "adlm"]
    runs := "125184 76 4 10 4 2"
    shared := "1567 1 32 1 6670 1 3569 1" },
  { names := ["ahom"]
    runs := "71424 27 2 15 4 23" },
  { names := ["anatolianhieroglyphs", "hluw"]
    runs := "82944 583" },
  { names := ["arabic", "arab"]
    runs := "1536 5 1 6 1 14 1 3 1 32 1 10 11 26 1 108 1 34 80 48 240 31 1 2 5 75 1 29 62032 115
    16 363 2 80 2 54 7 1 32 16 112 5 1 135 3939 31 67 3 55 4 57088 4 1 27 1 2 1 1 2 1 1
    10 1 4 1 1 1 1 6 1 4 1 1 1 1 1 1 3 1 2 1 1 2 1 1 1 1 1 1 1 1 1 1 2 1 1 2 4 1 7 1 4 1
    4 1 1 1 10 1 17 5 3 1 5 1 17 52 2"
    shared := "1548 1 14 1 3 1 32 1 10 11 26 1 6622 1 3569 1 52988 2 1440 28" },
  { names := ["armenian", "armn"]
    runs := "1329 38 2 50 2 3 62851 5"
    shared := "776 1" },
  { names := ["avestan", "avst"]
    runs := "68352 54 3 7"
    shared := "183 1 11640 2" },
  { names := ["balinese", "bali"]
    runs := "6912 77 1 50" },
  { names := ["bamum", "bamu"]
    runs := "42656 88 49416 569" },
  { names := ["bassavah", "bass"]
    runs := "92880 30 2 6" },
  { names := ["batak", "batk"]
    runs := "7104 52 8 4" },
  { names := ["bengali", "beng"]
    runs := "2432 4 1 8 2 2 2 22 1 7 1 1 3 4 2 9 2 2 2 4 8 1 4 2 1 5 2 25"
    shared := "700 1 1684 2 17 2 4970 1 1 1 2 2 1 1 8 1 8 1 2 1 4 1 2 3 35833 1" },
  { names := ["bhaiksuki", "bhks"]
    runs := "72704 9 1 45 1 14 10 29" },
  { names := ["bopomofo", "bopo"]
    runs := "746 2 11801 43 112 32"
    shared := "711 1 1 3 13 1 11559 3 4 10 1 13 10 4 2 1 6 1 195 1 52553 2 282 5" },
  { names := ["brahmi", "brah"]
    runs := "69632 78 4 36 9 1" },
  { names := ["braille", "brai"]
    runs := "10240 256" },
  { names := ["buginese", "bugi"]
    runs := "6656 28 2 2"
    shared := "43471 1" },
  { names := ["buhid", "buhd"]
    runs := "5952 20"
    shared := "5941 2" },
  { names := ["canadianaboriginal", "cans"]
    runs := "5120 640 560 70 65978 16" },
  { names := ["carian", "cari"]
    runs := "66208 49"
    shared := "183 1 8098 1 2 1 3539 1" },
  { names := ["caucasianalbanian", "aghb"]
    runs := "66864 52 11 1"
    shared := "772 1 44 1 44 1" },
  { names := ["chakma", "cakm"]
    runs := "69888 53 1 18"
    shared := "2534 10 1616 10" },
  { names := ["cham"]
    runs := "43520 55 9 14 2 10 2 4" },
  { names := ["cherokee", "cher"]
    runs := "5024 86 2 6 38770 80"
    shared := "768 3 1 1 6 2 22 2 11 2" },
  { names := ["chorasmian", "chrs"]
    runs := "69552 28" },
  { names := ["common", "zyyy"]
    runs := "0 65 26 6 26 47 1 15 1 5 23 1 31 1 449 39 5 5 2 20 116 1 9 1 6 1 1 1 637 1 6 1 14 1
    3 1 32 1 156 1 516 1 129 2 1241 1 405 4 290 1 1519 3 71 2 203 2 1 1 1229 1 13 1 7 4
    1 6 1 3 2 1 773 12 2 87 1 11 3 11 1 15 17 33 63 38 1 3 2 6 1 27 1 17 41 3 4 666 22
    11 21 928 256 628 2 32 1 105 512 94 402 21 1 1 1 25 15 8 4 4 91 2 3 1 90 2 147 16 32
    38 9 1 48 64 31 81 47 1 88 168 6592 64 22784 34 102 3 165 10 244 1 160 1 395 1 14 2
    20946 2 208 10 22 35 1 19 1 4 147 1 1 32 26 6 26 11 10 1 45 2 64 7 1 7 10 5 258 3 4
    45 3 9 80 13 51 45 228 27 47524 4 3932 250 6 436 156 116 60 246 10 39 2 62 3 17 8 2
    7 30 4 61 213 20 12 20 12 87 9 25 135 85 1 71 1 2 2 1 2 2 2 4 1 12 1 1 1 7 1 65 1 4
    2 8 1 7 1 28 1 4 1 5 1 1 3 7 1 340 2 292 2 50 5233 68 76 61 706 44 4 100 12 15 2 15
    1 15 1 37 10 174 56 26 1 2 13 44 4 9 7 2 14 6 154 984 4 17 3 13 3 119 4 95 6 12 4 1
    15 12 4 56 8 10 6 40 8 30 2 12 4 2 62 340 12 14 2 13 3 10 5 56 7 15 2 11 6 9 7 147 1
    102 787463 1 30 96" },
  { names := ["coptic", "copt", "qaac"]
    runs := "994 14 10384 116 5 7"
    shared := "183 1 584 1 3 2 1 1 108 2 10913 1 54472 28" },
  { names := ["cuneiform", "xsux"]
    runs := "73728 922 102 111 1 5 11 196" },
  { names := ["cypriot", "cprt"]
    runs := "67584 6 2 1 1 44 1 2 3 1 2 1"
    shared := "65792 3 4 45 3 9" },
  { names := ["cyprominoan", "cpmn"]
    runs := "77712 99"
    shared := "65792 2" },
  { names := ["cyrillic", "cyrl"]
    runs := "1024 133 2 169 5968 11 160 1 76 1 4199 32 30784 96 22414 2 57856 62 33 1"
    shared := "700 1 67 3 1 1 1 1 1 1 2 1 5 1 371 2 6513 1 4170 1" },
  { names := ["deseret", "dsrt"]
    runs := "66560 80" },
  { names := ["devanagari", "deva"]
    runs := "2304 81 4 15 2 26 40800 32 29184 10"
    shared := "700 1 1684 2 17 2 4970 39 1 2 1014 1 34623 10" },
  { names := ["divesakuru", "diak"]
    runs := "71936 7 2 1 2 8 1 2 1 30 1 2 2 12 9 10" },
  { names := ["dogra", "dogr"]
    runs := "71680 60"
    shared := "2404 12 40640 10" },
  { names := ["duployan", "dupl"]
    runs := "113664 107 5 13 3 9 7 10 2 4"
    shared := "183 1 591 2 1 1 24 2 11031 1 101987 4" },
  { names := ["egyptianhieroglyphs", "egyp"]
    runs := "77824 1110 10 3995" },
  { names := ["elbasan", "elba"]
    runs := "66816 40"
    shared := "183 1 589 1" },
  { names := ["elymaic", "elym"]
    runs := "69600 23" },
  { names := ["ethiopic", "ethi"]
    runs := "4608 73 1 4 2 7 1 1 1 4 2 41 1 4 2 33 1 4 2 7 1 1 1 4 2 15 1 57 1 4 2 67 2 32 3 26
    6630 23 9 7 1 7 1 7 1 7 1 7 1 7 1 7 1 7 32034 6 2 6 2 6 9 7 1 7 81073 7 1 4 1 2 1 15"
    shared := "782 1" },
  { names := ["garay", "gara"]
    runs := "68928 38 3 29 8 2"
    shared := "1548 1 14 1 3 1" },
  { names := ["georgian", "geor"]
    runs := "4256 38 1 1 5 1 2 43 1 4 2960 43 2 3 4160 38 1 1 5 1"
    shared := "183 1 1233 1 2929 1 3934 1 3542 1" },
  { names := ["glagolitic", "glag"]
    runs := "11264 96 111520 7 1 17 2 7 1 2 1 5"
    shared := "183 1 587 1 1 1 382 1 2 1 257 1 2929 1 3934 1 3560 1 30763 1" },
  { names := ["gothic", "goth"]
    runs := "66352 27"
    shared := "183 1 588 2 2 1 40 1" },
  { names := ["grantha", "gran"]
    runs := "70400 4 1 8 2 2 2 22 1 7 1 2 1 5 2 9 2 2 2 3 2 1 6 1 5 7 2 7 3 5"
    shared := "2385 2 17 2 640 14 4316 1 1 2 30 3 3 2 1014 1 62026 1 3220 2 1 1" },
  { names := ["greek", "grek"]
    runs := "880 4 1 3 2 4 1 1 4 1 1 1 1 3 1 1 1 20 1 63 14 16 6438 5 50 5 4 5 84 1 320 22 2 6 2
    38 2 6 2 8 1 1 1 1 1 1 1 31 2 53 1 15 1 14 2 6 1 19 2 3 1 9 295 1 35390 1 21978 79
    17 1 53343 70"
    shared := "183 1 584 2 2 1 1 1 1 1 10 1 46 1 2 1 46 1 6731 2 667 1" },
  { names := ["gujarati", "gujr"]
    runs := "2689 3 1 9 1 3 1 22 1 7 1 2 1 5 2 10 1 3 1 3 2 1 15 4 2 12 7 7"
    shared := "2385 2 17 2 40650 10" },
  { names := ["gunjalagondi", "gong"]
    runs := "73056 6 1 2 1 37 1 2 1 6 7 10"
    shared := "183 1 2220 2" },
  { names := ["gurmukhi", "guru"]
    runs := "2561 3 1 6 4 2 2 22 1 7 1 2 1 2 1 2 2 1 1 5 4 2 2 3 3 1 7 4 1 1 7 17"
    shared := "2385 2 17 2 40650 10" },
  { names := ["gurungkhema", "gukh"]
    runs := "90368 58"
    shared := "2405 1" },
  { names := ["han", "hani"]
    runs := "11904 26 1 89 12 214 47 1 1 1 25 9 14 4 964 6592 64 20992 22784 366 2 106 29960 2 12
    2 36878 42720 32 4154 6 222 2 5762 14 7473 15 622 2466 542 1506 4939 5 4192"
    shared := "183 1 12088 16 1 3 2 1 1 10 1 13 10 4 2 1 6 1 4 4 187 1 148 16 32 38 9 1 48 40 56 49
    15 12 51 1 88 25 10 5 96 31 29441 8 22333 2 282 5 54266 18 7902 2" },
  { names := ["hangul", "hang"]
    runs := "4352 256 7726 2 257 94 113 31 65 31 30433 29 643 11172 12 23 4 49 10148 31 3 6 2 6 2
    6 2 3"
    shared := "12289 3 4 10 1 13 16 1 6 1 195 1 52553 2 282 5" },
  { names := ["hanifirohingya", "rohg"]
    runs := "68864 40 8 10"
    shared := "1548 1 14 1 3 1 32 1 147 1" },
  { names := ["hanunoo", "hano"]
    runs := "5920 21"
    shared := "5941 2" },
  { names := ["hatran", "hatr"]
    runs := "67808 19 1 2 5 5" },
  { names := ["hebrew", "hebr"]
    runs := "1425 55 8 27 4 6 62760 26 1 5 1 1 1 2 1 2 1 10"
    shared := "775 2" },
  { names := ["hiragana", "hira"]
    runs := "12353 86 6 3 98145 287 18 1 29 3 16557 1"
    shared := "12289 3 4 10 1 13 16 6 1 1 4 2 91 4 3 1 90 2 52552 2 282 5 10 1 45 2" },
  { names := ["imperialaramaic", "armi"]
    runs := "67648 22 1 9" },
  { names := ["inherited", "zinh", "qaai"]
    runs := "768 112 277 2 452 11 26 1 736 4 4443 31 513 3 1 13 1 7 4 1 6 1 3 2 198 64 524 2 194
    33 3897 4 107 2 52581 16 16 14 975 1 226 1 4186 1 48068 46 2 23 544 3 17 8 2 7 30 4
    798546 240" },
  { names := ["inscriptionalpahlavi", "phli"]
    runs := "68448 19 5 8" },
  { names := ["inscriptionalparthian", "prti"]
    runs := "68416 22 2 8" },
  { names := ["javanese", "java"]
    runs := "43392 78 2 10 4 2"
    shared := "43471 1" },
  { names := ["kaithi", "kthi"]
    runs := "69760 67 10 1"
    shared := "2406 10 9409 1 31230 10" },
  { names := ["kannada", "knda"]
    runs := "3200 13 1 3 1 23 1 10 1 5 2 9 1 3 1 4 7 2 6 2 1 4 2 10 1 3"
    shared := "2385 2 17 2 4970 1 1 2 6 1 23 1 1 1 35643 6" },
  { names := ["katakana", "kana"]
    runs := "12449 90 2 3 240 16 208 47 1 88 52238 10 1 45 45138 4 1 7 1 2 1 1 287 3 50 1 14 4"
    shared := "773 1 29 1 11485 3 4 10 1 13 16 6 1 1 4 2 91 4 3 1 90 2 52552 2 282 5 10 1 45 2" },
  { names := ["kawi"]
    runs := "73472 17 1 41 3 29" },
  { names := ["kayahli", "kali"]
    runs := "43264 46 1 1"
    shared := "43310 1" },
  { names := ["kharoshthi", "khar"]
    runs := "68096 4 1 2 5 8 1 3 1 29 2 3 4 10 7 9" },
  { names := ["khitansmallscript", "kits"]
    runs := "94180 1 6939 470 41 1" },
  { names := ["khmer", "khmr"]
    runs := "6016 94 2 10 6 10 486 32" },
  { names := ["khojki", "khoj"]
    runs := "70144 18 1 47"
    shared := "2790 10 40256 10" },
  { names := ["khudawadi", "sind"]
    runs := "70320 59 5 10"
    shared := "2404 2 40650 10" },
  { names := ["kiratrai", "krai"]
    runs := "93504 58" },
  { names := ["lao", "laoo"]
    runs := "3713 2 1 1 1 5 1 24 1 1 1 23 2 5 1 1 1 7 1 10 2 4" },
  { names := ["latin", "latn"]
    runs := "65 26 6 26 47 1 15 1 5 23 1 31 1 449 39 5 6683 38 6 49 5 4 5 13 1 70 65 256 369 1 13
    1 16 13 141 2 6 1 27 1 17 41 2775 32 31394 102 3 67 2 2 1 1 1 8 21 14 816 43 1 9 1 4
    20374 7 1050 26 6 26 2085 6 1 42 1 9 55109 31 6 6"
    shared := "183 1 516 1 10 1 1 3 1 1 9 1 1 1 38 15 1 2 1 1 12 1 2 3 7 2 1 2 38 1 5 1 4 13 277 2
    1226 2 1960 1 3324 1 566 1 192 1 3366 1 30952 8 550 1" },
  { names := ["lepcha", "lepc"]
    runs := "7168 56 3 15 3 3" },
  { names := ["limbu", "limb"]
    runs := "6400 31 1 12 4 12 4 1 3 12"
    shared := "2405 1" },
  { names := ["lineara", "lina"]
    runs := "67072 311 9 22 10 8"
    shared := "65799 45" },
  { names := ["linearb", "linb"]
    runs := "65536 12 1 26 1 19 1 2 1 15 2 14 34 123"
    shared := "65792 3 4 45 3 9" },
  { names := ["lisu"]
    runs := "42192 48 31408 1"
    shared := "700 1 16 1 11580 2" },
  { names := ["lycian", "lyci"]
    runs := "66176 29"
    shared := "8282 1" },
  { names := ["lydian", "lydi"]
    runs := "67872 26 5 1"
    shared := "183 1 11641 1" },
  { names := ["mahajani", "mahj"]
    runs := "69968 39"
    shared := "183 1 2220 12 40640 10" },
  { names := ["makasar", "maka"]
    runs := "73440 25" },
  { names := ["malayalam", "mlym"]
    runs := "3328 13 1 3 1 51 1 3 1 6 4 16 2 26"
    shared := "2385 2 17 2 4980 1 23 1 35645 3" },
  { names := ["mandaic", "mand"]
    runs := "2112 28 2 1"
    shared := "1600 1" },
  { names := ["manichaean", "mani"]
    runs := "68288 39 4 12"
    shared := "1600 1" },
  { names := ["marchen", "marc"]
    runs := "72816 32 2 22 1 14" },
  { names := ["masaramgondi", "gonm"]
    runs := "72960 7 1 2 1 44 3 1 1 2 1 9 8 10"
    shared := "2404 2" },
  { names := ["medefaidrin", "medf"]
    runs := "93760 91" },
  { names := ["meeteimayek", "mtei"]
    runs := "43744 23 201 46 2 10" },
  { names := ["mendekikakui", "mend"]
    runs := "124928 197 2 16" },
  { names := ["meroiticcursive", "merc"]
    runs := "68000 24 4 20 2 46" },
  { names := ["meroitichieroglyphs", "mero"]
    runs := "67968 32"
    shared := "8285 1" },
  { names := ["miao", "plrd"]
    runs := "93952 75 4 57 7 17" },
  { names := ["modi"]
    runs := "71168 69 11 10"
    shared := "43056 10" },
  { names := ["mongolian", "mong"]
    runs := "6144 2 2 1 1 20 6 89 7 43 64949 13"
    shared := "6146 2 1 1 2089 1 4049 2 5 4" },
  { names := ["mro", "mroo"]
    runs := "92736 31 1 10 4 2" },
  { names := ["multani", "mult"]
    runs := "70272 7 1 1 1 4 1 15 1 11"
    shared := "2662 10" },
  { names := ["myanmar", "mymr"]
    runs := "4096 160 39232 31 97 32 27728 20"
    shared := "43310 1" },
  { names := ["nabataean", "nbat"]
    runs := "67712 31 8 9" },
  { names := ["nagmundari", "nagm"]
    runs := "124112 42" },
  { names := ["nandinagari", "nand"]
    runs := "72096 8 2 46 2 11"
    shared := "2404 2 896 10 4089 1 8 1 7 1 35637 6" },
  { names := ["newtailue", "talu"]
    runs := "6528 44 4 26 6 11 3 2" },
  { names := ["newa"]
    runs := "70656 92 1 5" },
  { names := ["nko", "nkoo"]
    runs := "1984 59 2 3"
    shared := "1548 1 14 1 3 1 63262 2" },
  { names := ["nushu", "nshu"]
    runs := "94177 1 16782 396" },
  { names := ["nyiakengpuachuehmong", "hmnp"]
    runs := "123136 45 3 14 2 10 4 2" },
  { names := ["ogham", "ogam"]
    runs := "5760 29" },
  { names := ["olchiki", "olck"]
    runs := "7248 48" },
  { names := ["olonal", "onao"]
    runs := "124368 43 4 1"
    shared := "2404 2" },
  { names := ["oldhungarian", "hung"]
    runs := "68736 51 13 51 7 6"
    shared := "8282 1 2 1 3539 1 15 1" },
  { names := ["olditalic", "ital"]
    runs := "66304 36 9 3" },
  { names := ["oldnortharabian", "narb"]
    runs := "68224 32" },
  { names := ["oldpermic", "perm"]
    runs := "66384 43"
    shared := "183 1 584 1 5 3 10 1 367 1" },
  { names := ["oldpersian", "xpeo"]
    runs := "66464 36 4 14" },
  { names := ["oldsogdian", "sogo"]
    runs := "69376 40" },
  { names := ["oldsoutharabian", "sarb"]
    runs := "68192 32" },
  { names := ["oldturkic", "orkh"]
    runs := "68608 73"
    shared := "8282 1 3541 1" },
  { names := ["olduyghur", "ougr"]
    runs := "69488 26"
    shared := "1600 1 66737 1" },
  { names := ["oriya", "orya"]
    runs := "2817 3 1 8 2 2 2 22 1 7 1 2 1 5 2 9 2 2 2 3 7 3 4 2 1 5 2 18"
    shared := "2385 2 17 2 4980 1 23 1" },
  { names := ["osage", "osge"]
    runs := "66736 36 4 36"
    shared := "769 1 2 1 6 1 76 1" },
  { names := ["osmanya", "osma"]
    runs := "66688 30 2 10" },
  { names := ["pahawhhmong", "hmng"]
    runs := "92928 70 10 10 1 7 1 21 5 19" },
  { names := ["palmyrene", "palm"]
    runs := "67680 32" },
  { names := ["paucinhau", "pauc"]
    runs := "72384 57" },
  { names := ["phagspa", "phag"]
    runs := "43072 56"
    shared := "6146 2 1 1 2089 1 4050 1" },
  { names := ["phoenician", "phnx"]
    runs := "67840 28 3 1" },
  { names := ["psalterpahlavi", "phlp"]
    runs := "68480 18 7 4 12 7"
    shared := "1600 1" },
  { names := ["rejang", "rjng"]
    runs := "43312 36 11 1" },
  { names := ["runic", "runr"]
    runs := "5792 75 3 11"
    shared := "5867 3" },
  { names := ["samaritan", "samr"]
    runs := "2048 46 2 15"
    shared := "11825 1" },
  { names := ["saurashtra", "saur"]
    runs := "43136 70 8 12" },
  { names := ["sharada", "shrd"]
    runs := "70016 96"
    shared := "2385 1 4997 1 1 1 2 2 2 1 35663 6 2 1" },
  { names := ["shavian", "shaw"]
    runs := "66640 48"
    shared := "183 1" },
  { names := ["siddham", "sidd"]
    runs := "71040 54 2 38" },
  { names := ["signwriting", "sgnw"]
    runs := "120832 652 15 5 1 15" },
  { names := ["sinhala", "sinh"]
    runs := "3457 3 1 18 3 24 1 9 1 1 2 7 3 1 4 6 1 1 1 8 6 10 2 3 66540 20"
    shared := "2404 2 5004 1" },
  { names := ["sogdian", "sogd"]
    runs := "69424 42"
    shared := "1600 1" },
  { names := ["sorasompeng", "sora"]
    runs := "69840 25 7 10" },
  { names := ["soyombo", "soyo"]
    runs := "72272 83" },
  { names := ["sundanese", "sund"]
    runs := "7040 64 256 8" },
  { names := ["sunuwar", "sunu"]
    runs := "72640 34 14 10"
    shared := "768 2 1 1 9 1 2 1 28 1 3 1" },
  { names := ["sylotinagri", "sylo"]
    runs := "43008 45"
    shared := "2404 2 128 10" },
  { names := ["syriac", "syrc"]
    runs := "1792 14 1 60 2 3 272 11"
    shared := "771 2 2 2 1 1 21 1 2 3 7 2 1 1 731 1 14 2 2 1 32 1 10 11 26 1 6023 1 1 1" },
  { names := ["tagalog", "tglg"]
    runs := "5888 22 9 1"
    shared := "5941 2" },
  { names := ["tagbanwa", "tagb"]
    runs := "5984 13 1 3 1 2"
    shared := "5941 2" },
  { names := ["taile", "tale"]
    runs := "6480 30 2 5"
    shared := "768 2 5 2 3 1 3379 10" },
  { names := ["taitham", "lana"]
    runs := "6688 63 1 29 2 11 6 10 6 14" },
  { names := ["taiviet", "tavt"]
    runs := "43648 67 24 5" },
  { names := ["takri", "takr"]
    runs := "71296 58 6 10"
    shared := "2404 2 40650 10" },
  { names := ["tamil", "taml"]
    runs := "2946 2 1 6 3 3 1 4 3 2 1 1 1 2 3 2 3 3 3 12 4 5 3 3 1 4 2 1 6 1 14 21 70597 50 13 1"
    shared := "2385 2 17 2 4980 1 35864 1 27149 1 1 1 55 2" },
  { names := ["tangsa", "tnsa"]
    runs := "92784 79 1 10" },
  { names := ["tangut", "tang"]
    runs := "94176 1 31 6136 8 768 512 9"
    shared := "12272 16 495 1" },
  { names := ["telugu", "telu"]
    runs := "3072 13 1 3 1 23 1 16 2 9 1 3 1 4 7 2 1 3 2 1 2 4 2 10 7 9"
    shared := "2385 2 17 2 4980 1 23 1" },
  { names := ["thaana", "thaa"]
    runs := "1920 50"
    shared := "1548 1 14 2 2 1 64 10 63368 1 10 1" },
  { names := ["thai"]
    runs := "3585 58 5 28"
    shared := "700 1 26 1 43 1 45 1" },
  { names := ["tibetan", "tibt"]
    runs := "3840 72 1 36 4 39 1 36 1 15 1 7 4 2"
    shared := "12296 4" },
  { names := ["tifinagh", "tfng"]
    runs := "11568 56 7 2 14 1"
    shared := "770 1 1 1 2 1 1 1" },
  { names := ["tirhuta", "tirh"]
    runs := "70784 72 8 10"
    shared := "2385 2 17 2 5004 1 35645 10" },
  { names := ["todhri", "todr"]
    runs := "67008 52"
    shared := "769 1 2 1 2 1 9 1 1 1 74 1" },
  { names := ["toto"]
    runs := "123536 31"
    shared := "700 1" },
  { names := ["tulutigalari", "tutg"]
    runs := "70528 10 1 1 2 1 1 38 1 10 1 1 2 1 1 4 1 10 1 2 8 2"
    shared := "3302 10 4098 1 1 1 35643 6 187 1" },
  { names := ["ugaritic", "ugar"]
    runs := "66432 30 1 1" },
  { names := ["vai", "vaii"]
    runs := "42240 300" },
  { names := ["vithkuqi", "vith"]
    runs := "66928 11 1 15 1 7 1 2 1 11 1 15 1 7 1 2" },
  { names := ["wancho", "wcho"]
    runs := "123584 58 5 1" },
  { names := ["warangciti", "wara"]
    runs := "71840 83 12 1" },
  { names := ["yezidi", "yezi"]
    runs := "69248 42 1 3 2 2"
    shared := "1548 1 14 1 3 1 64 10" },
  { names := ["yi", "yiii"]
    runs := "40960 1165 3 55"
    shared := "12289 2 5 10 2 8 223 1 52837 5" },
  { names := ["zanabazarsquare", "zanb"]
    runs := "72192 72" }]

/- The characters of the two scripts for shared use that are listed under other scripts. -/
def Script.lentCommon : String :=
  "183 1 516 1 10 1 1 3 1 1 9 1 1 1 154 1 663 1 14 1 3 1 32 1 803 2 1941 1 1519 3 71 2
  203 2 1 1 1229 1 13 1 7 4 1 6 1 3 2 1 820 1 31 1 10 1 2 1 3513 1 24 2 10 1 4 1 1 1 428
  16 1 3 2 1 1 10 1 13 16 6 1 1 4 4 91 2 3 1 90 2 147 16 32 38 9 1 48 40 56 49 15 12 51
  1 88 25 10 5 96 31 29441 8 296 10 244 1 160 1 21358 2 261 2 282 5 10 1 45 2 352 3 4 45
  3 9 417 27 47524 4 5820 18 7902 2"

def Script.lentInherited : String :=
  "768 15 1 2 1 1 12 1 2 3 7 2 1 2 16 1 2 1 18 1 5 1 4 13 277 2 452 11 26 1 736 2 4989 3
  1 13 1 7 4 1 6 1 3 2 198 2 54 1 1 1 757 1 3897 4 107 2 53829 1 4186 1"

end Signpost.Unicode
