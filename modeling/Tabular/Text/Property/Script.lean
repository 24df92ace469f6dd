import Tabular.Text.CodeSet

set_option autoImplicit false

/-! # Scripts

The code points of each script, and those of its script extension: the code points that are used
with the script, whatever script they belong to. Names are given in their loose form: lower case,
without spaces, underscores and hyphens.
-/

namespace Tabular.Property

/-- A script: its names, its code points, and its extension where that differs. -/
structure Script where
  names : List String
  members : CodeSet
  extension : Option CodeSet

/-- The script Adlam. -/
def scriptAdlam : Script := ⟨["adlm", "adlam"], .ofRuns
    "125184 76 4 10 4 2",
  some (.ofRuns
    "1567 1 32 1 6670 1 3569 1 113342 76 4 10 4 2")⟩

/-- The script Caucasian Albanian. -/
def scriptCaucasianAlbanian : Script := ⟨["aghb", "caucasianalbanian"], .ofRuns
    "66864 52 11 1",
  some (.ofRuns
    "772 1 44 1 44 1 66001 52 11 1")⟩

/-- The script Ahom. -/
def scriptAhom : Script := ⟨["ahom"], .ofRuns
    "71424 27 2 15 4 23", none⟩

/-- The script Arabic. -/
def scriptArabic : Script := ⟨["arab", "arabic"], .ofRuns
    "1536 5 1 6 1 14 1 3 1 32 1 10 11 26 1 108 1 34 80 48 240 31 1 2 5 75 1 29 62032 115 16 363 2
    80 2 54 7 1 32 16 112 5 1 135 3939 31 67 3 55 4 57088 4 1 27 1 2 1 1 2 1 1 10 1 4 1 1 1 1 6
    1 4 1 1 1 1 1 1 3 1 2 1 1 2 1 1 1 1 1 1 1 1 1 1 2 1 1 2 4 1 7 1 4 1 4 1 1 1 10 1 17 5 3 1 5
    1 17 52 2",
  some (.ofRuns
    "1536 5 1 215 1 34 80 48 240 31 1 2 5 75 1 29 5967 1 3569 1 52494 115 16 445 2 54 7 1 32 16
    112 5 1 135 995 28 2916 31 67 3 55 4 57088 4 1 27 1 2 1 1 2 1 1 10 1 4 1 1 1 1 6 1 4 1 1 1 1
    1 1 3 1 2 1 1 2 1 1 1 1 1 1 1 1 1 1 2 1 1 2 4 1 7 1 4 1 4 1 1 1 10 1 17 5 3 1 5 1 17 52 2")⟩

/-- The script Imperial Aramaic. -/
def scriptImperialAramaic : Script := ⟨["armi", "imperialaramaic"], .ofRuns
    "67648 22 1 9", none⟩

/-- The script Armenian. -/
def scriptArmenian : Script := ⟨["armn", "armenian"], .ofRuns
    "1329 38 2 50 2 3 62851 5",
  some (.ofRuns
    "776 1 552 38 2 50 2 3 62851 5")⟩

/-- The script Avestan. -/
def scriptAvestan : Script := ⟨["avst", "avestan"], .ofRuns
    "68352 54 3 7",
  some (.ofRuns
    "183 1 11640 2 56526 54 3 7")⟩

/-- The script Balinese. -/
def scriptBalinese : Script := ⟨["bali", "balinese"], .ofRuns
    "6912 77 1 50", none⟩

/-- The script Bamum. -/
def scriptBamum : Script := ⟨["bamu", "bamum"], .ofRuns
    "42656 88 49416 569", none⟩

/-- The script Bassa Vah. -/
def scriptBassaVah : Script := ⟨["bass", "bassavah"], .ofRuns
    "92880 30 2 6", none⟩

/-- The script Batak. -/
def scriptBatak : Script := ⟨["batk", "batak"], .ofRuns
    "7104 52 8 4", none⟩

/-- The script Bengali. -/
def scriptBengali : Script := ⟨["beng", "bengali"], .ofRuns
    "2432 4 1 8 2 2 2 22 1 7 1 1 3 4 2 9 2 2 2 4 8 1 4 2 1 5 2 25",
  some (.ofRuns
    "700 1 1684 2 17 2 26 4 1 8 2 2 2 22 1 7 1 1 3 4 2 9 2 2 2 4 8 1 4 2 1 5 2 25 4817 1 1 1 2 2
    1 1 8 1 8 1 2 1 4 1 2 3 35833 1")⟩

/-- The script Bhaiksuki. -/
def scriptBhaiksuki : Script := ⟨["bhks", "bhaiksuki"], .ofRuns
    "72704 9 1 45 1 14 10 29", none⟩

/-- The script Bopomofo. -/
def scriptBopomofo : Script := ⟨["bopo", "bopomofo"], .ofRuns
    "746 2 11801 43 112 32",
  some (.ofRuns
    "711 1 1 3 13 1 16 2 11541 3 4 10 1 13 10 4 2 1 6 1 195 1 9 43 112 32 52357 2 282 5")⟩

/-- The script Brahmi. -/
def scriptBrahmi : Script := ⟨["brah", "brahmi"], .ofRuns
    "69632 78 4 36 9 1", none⟩

/-- The script Braille. -/
def scriptBraille : Script := ⟨["brai", "braille"], .ofRuns
    "10240 256", none⟩

/-- The script Buginese. -/
def scriptBuginese : Script := ⟨["bugi", "buginese"], .ofRuns
    "6656 28 2 2",
  some (.ofRuns
    "6656 28 2 2 36783 1")⟩

/-- The script Buhid. -/
def scriptBuhid : Script := ⟨["buhd", "buhid"], .ofRuns
    "5952 20",
  some (.ofRuns
    "5941 2 9 20")⟩

/-- The script Chakma. -/
def scriptChakma : Script := ⟨["cakm", "chakma"], .ofRuns
    "69888 53 1 18",
  some (.ofRuns
    "2534 10 1616 10 65718 53 1 18")⟩

/-- The script Canadian Aboriginal. -/
def scriptCanadianAboriginal : Script := ⟨["cans", "canadianaboriginal"], .ofRuns
    "5120 640 560 70 65978 16", none⟩

/-- The script Carian. -/
def scriptCarian : Script := ⟨["cari", "carian"], .ofRuns
    "66208 49",
  some (.ofRuns
    "183 1 8098 1 2 1 3539 1 54382 49")⟩

/-- The script Cham. -/
def scriptCham : Script := ⟨["cham"], .ofRuns
    "43520 55 9 14 2 10 2 4", none⟩

/-- The script Cherokee. -/
def scriptCherokee : Script := ⟨["cher", "cherokee"], .ofRuns
    "5024 86 2 6 38770 80",
  some (.ofRuns
    "768 3 1 1 6 2 22 2 11 2 4206 86 2 6 38770 80")⟩

/-- The script Chorasmian. -/
def scriptChorasmian : Script := ⟨["chrs", "chorasmian"], .ofRuns
    "69552 28", none⟩

/-- The script Coptic. -/
def scriptCoptic : Script := ⟨["copt", "qaac", "coptic"], .ofRuns
    "994 14 10384 116 5 7",
  some (.ofRuns
    "183 1 584 1 3 2 1 1 108 2 108 14 10384 116 5 7 279 1 54472 28")⟩

/-- The script Cypro Minoan. -/
def scriptCyproMinoan : Script := ⟨["cpmn", "cyprominoan"], .ofRuns
    "77712 99",
  some (.ofRuns
    "65792 2 11918 99")⟩

/-- The script Cypriot. -/
def scriptCypriot : Script := ⟨["cprt", "cypriot"], .ofRuns
    "67584 6 2 1 1 44 1 2 3 1 2 1",
  some (.ofRuns
    "65792 3 4 45 3 9 1728 6 2 1 1 44 1 2 3 1 2 1")⟩

/-- The script Cyrillic. -/
def scriptCyrillic : Script := ⟨["cyrl", "cyrillic"], .ofRuns
    "1024 133 2 169 5968 11 160 1 76 1 4199 32 30784 96 22414 2 57856 62 33 1",
  some (.ofRuns
    "700 1 67 3 1 1 1 1 1 1 2 1 5 1 238 304 5968 11 160 1 76 1 127 1 4071 32 67 1 30716 96 22414
    2 57856 62 33 1")⟩

/-- The script Devanagari. -/
def scriptDevanagari : Script := ⟨["deva", "devanagari"], .ofRuns
    "2304 81 4 15 2 26 40800 32 29184 10",
  some (.ofRuns
    "700 1 1603 83 2 43 4944 39 1 2 1014 1 34623 10 166 32 29184 10")⟩

/-- The script Dives Akuru. -/
def scriptDivesAkuru : Script := ⟨["diak", "divesakuru"], .ofRuns
    "71936 7 2 1 2 8 1 2 1 30 1 2 2 12 9 10", none⟩

/-- The script Dogra. -/
def scriptDogra : Script := ⟨["dogr", "dogra"], .ofRuns
    "71680 60",
  some (.ofRuns
    "2404 12 40640 10 28614 60")⟩

/-- The script Deseret. -/
def scriptDeseret : Script := ⟨["dsrt", "deseret"], .ofRuns
    "66560 80", none⟩

/-- The script Duployan. -/
def scriptDuployan : Script := ⟨["dupl", "duployan"], .ofRuns
    "113664 107 5 13 3 9 7 10 2 4",
  some (.ofRuns
    "183 1 591 2 1 1 24 2 11031 1 101827 107 5 13 3 9 7 10 2 8")⟩

/-- The script Egyptian Hieroglyphs. -/
def scriptEgyptianHieroglyphs : Script := ⟨["egyp", "egyptianhieroglyphs"], .ofRuns
    "77824 1110 10 3995", none⟩

/-- The script Elbasan. -/
def scriptElbasan : Script := ⟨["elba", "elbasan"], .ofRuns
    "66816 40",
  some (.ofRuns
    "183 1 589 1 66042 40")⟩

/-- The script Elymaic. -/
def scriptElymaic : Script := ⟨["elym", "elymaic"], .ofRuns
    "69600 23", none⟩

/-- The script Ethiopic. -/
def scriptEthiopic : Script := ⟨["ethi", "ethiopic"], .ofRuns
    "4608 73 1 4 2 7 1 1 1 4 2 41 1 4 2 33 1 4 2 7 1 1 1 4 2 15 1 57 1 4 2 67 2 32 3 26 6630 23 9
    7 1 7 1 7 1 7 1 7 1 7 1 7 1 7 32034 6 2 6 2 6 9 7 1 7 81073 7 1 4 1 2 1 15",
  some (.ofRuns
    "782 1 3825 73 1 4 2 7 1 1 1 4 2 41 1 4 2 33 1 4 2 7 1 1 1 4 2 15 1 57 1 4 2 67 2 32 3 26
    6630 23 9 7 1 7 1 7 1 7 1 7 1 7 1 7 1 7 32034 6 2 6 2 6 9 7 1 7 81073 7 1 4 1 2 1 15")⟩

/-- The script Georgian. -/
def scriptGeorgian : Script := ⟨["geor", "georgian"], .ofRuns
    "4256 38 1 1 5 1 2 43 1 4 2960 43 2 3 4160 38 1 1 5 1",
  some (.ofRuns
    "183 1 1233 1 2838 38 1 1 5 1 2 48 2960 43 2 3 922 1 3237 38 1 1 5 1 259 1")⟩

/-- The script Glagolitic. -/
def scriptGlagolitic : Script := ⟨["glag", "glagolitic"], .ofRuns
    "11264 96 111520 7 1 17 2 7 1 2 1 5",
  some (.ofRuns
    "183 1 587 1 1 1 382 1 2 1 257 1 2929 1 3934 1 2981 96 483 1 30763 1 80272 7 1 17 2 7 1 2 1 5")⟩

/-- The script Gunjala Gondi. -/
def scriptGunjalaGondi : Script := ⟨["gong", "gunjalagondi"], .ofRuns
    "73056 6 1 2 1 37 1 2 1 6 7 10",
  some (.ofRuns
    "183 1 2220 2 70650 6 1 2 1 37 1 2 1 6 7 10")⟩

/-- The script Masaram Gondi. -/
def scriptMasaramGondi : Script := ⟨["gonm", "masaramgondi"], .ofRuns
    "72960 7 1 2 1 44 3 1 1 2 1 9 8 10",
  some (.ofRuns
    "2404 2 70554 7 1 2 1 44 3 1 1 2 1 9 8 10")⟩

/-- The script Gothic. -/
def scriptGothic : Script := ⟨["goth", "gothic"], .ofRuns
    "66352 27",
  some (.ofRuns
    "183 1 588 2 2 1 40 1 65534 27")⟩

/-- The script Grantha. -/
def scriptGrantha : Script := ⟨["gran", "grantha"], .ofRuns
    "70400 4 1 8 2 2 2 22 1 7 1 2 1 5 2 9 2 2 2 3 2 1 6 1 5 7 2 7 3 5",
  some (.ofRuns
    "2385 2 17 2 640 14 4316 1 1 2 30 3 3 2 1014 1 61967 4 1 8 2 2 2 22 1 7 1 2 1 5 1 10 2 2 2 3
    2 1 6 1 5 7 2 7 3 5 3163 2 1 1")⟩

/-- The script Greek. -/
def scriptGreek : Script := ⟨["grek", "greek"], .ofRuns
    "880 4 1 3 2 4 1 1 4 1 1 1 1 3 1 1 1 20 1 63 14 16 6438 5 50 5 4 5 84 1 320 22 2 6 2 38 2 6 2
    8 1 1 1 1 1 1 1 31 2 53 1 15 1 14 2 6 1 19 2 3 1 9 295 1 35390 1 21978 79 17 1 53343 70",
  some (.ofRuns
    "183 1 584 2 2 1 1 1 1 1 10 1 46 1 2 1 42 8 2 4 1 1 4 1 1 1 1 3 1 1 1 20 1 63 14 16 6438 5 50
    5 4 5 84 3 318 22 2 6 2 38 2 6 2 8 1 1 1 1 1 1 1 31 2 53 1 15 1 14 2 6 1 19 2 3 1 9 94 1 200
    1 35390 1 21978 79 17 1 53343 70")⟩

/-- The script Gujarati. -/
def scriptGujarati : Script := ⟨["gujr", "gujarati"], .ofRuns
    "2689 3 1 9 1 3 1 22 1 7 1 2 1 5 2 10 1 3 1 3 2 1 15 4 2 12 7 7",
  some (.ofRuns
    "2385 2 17 2 283 3 1 9 1 3 1 22 1 7 1 2 1 5 2 10 1 3 1 3 2 1 15 4 2 12 7 7 40240 10")⟩

/-- The script Gurmukhi. -/
def scriptGurmukhi : Script := ⟨["guru", "gurmukhi"], .ofRuns
    "2561 3 1 6 4 2 2 22 1 7 1 2 1 2 1 2 2 1 1 5 4 2 2 3 3 1 7 4 1 1 7 17",
  some (.ofRuns
    "2385 2 17 2 155 3 1 6 4 2 2 22 1 7 1 2 1 2 1 2 2 1 1 5 4 2 2 3 3 1 7 4 1 1 7 17 40377 10")⟩

/-- The script Hangul. -/
def scriptHangul : Script := ⟨["hang", "hangul"], .ofRuns
    "4352 256 7726 2 257 94 113 31 65 31 30433 29 643 11172 12 23 4 49 10148 31 3 6 2 6 2 6 2 3",
  some (.ofRuns
    "4352 256 7681 3 4 10 1 13 14 3 6 1 195 1 53 94 113 31 65 31 30433 29 643 11172 12 23 4 49
    9801 2 282 5 58 31 3 6 2 6 2 6 2 3")⟩

/-- The script Han. -/
def scriptHan : Script := ⟨["han", "hani"], .ofRuns
    "11904 26 1 89 12 214 47 1 1 1 25 9 14 4 964 6592 64 20992 22784 366 2 106 29960 2 12 2 36878
    42720 32 4154 6 222 2 5762 14 7473 15 622 2466 542 1506 4939 5 4192",
  some (.ofRuns
    "183 1 11720 26 1 89 12 214 26 16 1 3 1 13 1 13 1 13 2 1 6 9 187 1 148 16 32 38 9 1 48 40 56
    49 15 12 51 1 88 25 10 5 96 31 1 6592 64 20992 1792 8 20984 366 2 106 875 2 282 5 28796 2 12
    2 25454 18 7902 2 3502 42720 32 4154 6 222 2 5762 14 7473 15 622 2466 542 1506 4939 5 4192")⟩

/-- The script Hanunoo. -/
def scriptHanunoo : Script := ⟨["hano", "hanunoo"], .ofRuns
    "5920 21",
  some (.ofRuns
    "5920 23")⟩

/-- The script Hatran. -/
def scriptHatran : Script := ⟨["hatr", "hatran"], .ofRuns
    "67808 19 1 2 5 5", none⟩

/-- The script Hebrew. -/
def scriptHebrew : Script := ⟨["hebr", "hebrew"], .ofRuns
    "1425 55 8 27 4 6 62760 26 1 5 1 1 1 2 1 2 1 10",
  some (.ofRuns
    "775 2 648 55 8 27 4 6 62760 26 1 5 1 1 1 2 1 2 1 10")⟩

/-- The script Hiragana. -/
def scriptHiragana : Script := ⟨["hira", "hiragana"], .ofRuns
    "12353 86 6 3 98145 287 18 1 29 3 16557 1",
  some (.ofRuns
    "12289 3 4 10 1 13 16 6 1 1 4 2 3 86 2 8 90 2 52552 2 282 5 10 1 45 2 45153 287 18 1 29 3
    16557 1")⟩

/-- The script Anatolian Hieroglyphs. -/
def scriptAnatolianHieroglyphs : Script := ⟨["hluw", "anatolianhieroglyphs"], .ofRuns
    "82944 583", none⟩

/-- The script Pahawh Hmong. -/
def scriptPahawhHmong : Script := ⟨["hmng", "pahawhhmong"], .ofRuns
    "92928 70 10 10 1 7 1 21 5 19", none⟩

/-- The script Nyiakeng Puachue Hmong. -/
def scriptNyiakengPuachueHmong : Script := ⟨["hmnp", "nyiakengpuachuehmong"], .ofRuns
    "123136 45 3 14 2 10 4 2", none⟩

/-- The script Old Hungarian. -/
def scriptOldHungarian : Script := ⟨["hung", "oldhungarian"], .ofRuns
    "68736 51 13 51 7 6",
  some (.ofRuns
    "8282 1 2 1 3539 1 15 1 56894 51 13 51 7 6")⟩

/-- The script Old Italic. -/
def scriptOldItalic : Script := ⟨["ital", "olditalic"], .ofRuns
    "66304 36 9 3", none⟩

/-- The script Javanese. -/
def scriptJavanese : Script := ⟨["java", "javanese"], .ofRuns
    "43392 78 2 10 4 2",
  some (.ofRuns
    "43392 78 1 11 4 2")⟩

/-- The script Kayah Li. -/
def scriptKayahLi : Script := ⟨["kali", "kayahli"], .ofRuns
    "43264 46 1 1",
  some (.ofRuns
    "43264 48")⟩

/-- The script Katakana. -/
def scriptKatakana : Script := ⟨["kana", "katakana"], .ofRuns
    "12449 90 2 3 240 16 208 47 1 88 52238 10 1 45 45138 4 1 7 1 2 1 1 287 3 50 1 14 4",
  some (.ofRuns
    "773 1 29 1 11485 3 4 10 1 13 16 6 1 1 4 2 91 4 3 96 240 16 208 47 1 88 51949 2 282 63 45136
    4 1 7 1 2 1 1 287 3 50 1 14 4")⟩

/-- The script Kawi. -/
def scriptKawi : Script := ⟨["kawi"], .ofRuns
    "73472 17 1 41 3 29", none⟩

/-- The script Kharoshthi. -/
def scriptKharoshthi : Script := ⟨["khar", "kharoshthi"], .ofRuns
    "68096 4 1 2 5 8 1 3 1 29 2 3 4 10 7 9", none⟩

/-- The script Khmer. -/
def scriptKhmer : Script := ⟨["khmr", "khmer"], .ofRuns
    "6016 94 2 10 6 10 486 32", none⟩

/-- The script Khojki. -/
def scriptKhojki : Script := ⟨["khoj", "khojki"], .ofRuns
    "70144 18 1 47",
  some (.ofRuns
    "2790 10 40256 10 27078 18 1 47")⟩

/-- The script Khitan Small Script. -/
def scriptKhitanSmallScript : Script := ⟨["kits", "khitansmallscript"], .ofRuns
    "94180 1 6939 470 41 1", none⟩

/-- The script Kannada. -/
def scriptKannada : Script := ⟨["knda", "kannada"], .ofRuns
    "3200 13 1 3 1 23 1 10 1 5 2 9 1 3 1 4 7 2 6 2 1 4 2 10 1 3",
  some (.ofRuns
    "2385 2 17 2 794 13 1 3 1 23 1 10 1 5 2 9 1 3 1 4 7 2 6 2 1 4 2 10 1 3 4060 1 1 2 6 1 23 1 1
    1 35643 6")⟩

/-- The script Kaithi. -/
def scriptKaithi : Script := ⟨["kthi", "kaithi"], .ofRuns
    "69760 67 10 1",
  some (.ofRuns
    "2406 10 9409 1 31230 10 26694 67 10 1")⟩

/-- The script Tai Tham. -/
def scriptTaiTham : Script := ⟨["lana", "taitham"], .ofRuns
    "6688 63 1 29 2 11 6 10 6 14", none⟩

/-- The script Lao. -/
def scriptLao : Script := ⟨["lao", "laoo"], .ofRuns
    "3713 2 1 1 1 5 1 24 1 1 1 23 2 5 1 1 1 7 1 10 2 4", none⟩

/-- The script Latin. -/
def scriptLatin : Script := ⟨["latn", "latin"], .ofRuns
    "65 26 6 26 47 1 15 1 5 23 1 31 1 449 39 5 6683 38 6 49 5 4 5 13 1 70 65 256 369 1 13 1 16 13
    141 2 6 1 27 1 17 41 2775 32 31394 102 3 67 2 2 1 1 1 8 21 14 816 43 1 9 1 4 20374 7 1050 26
    6 26 2085 6 1 42 1 9 55109 31 6 6",
  some (.ofRuns
    "65 26 6 26 47 1 12 1 2 1 5 23 1 31 1 449 3 1 10 1 1 3 1 1 9 1 1 1 6 5 27 15 1 2 1 1 12 1 2 3
    7 2 1 2 38 1 5 1 4 13 277 2 1226 2 1960 1 3076 38 6 49 5 4 5 13 1 70 57 1 7 256 303 1 65 1
    13 1 16 13 83 1 57 2 6 1 27 1 17 41 2775 32 407 1 30952 8 26 102 3 67 2 2 1 1 1 8 21 14 302
    1 513 43 1 9 1 4 20374 7 1050 26 6 26 2085 6 1 42 1 9 55109 31 6 6")⟩

/-- The script Lepcha. -/
def scriptLepcha : Script := ⟨["lepc", "lepcha"], .ofRuns
    "7168 56 3 15 3 3", none⟩

/-- The script Limbu. -/
def scriptLimbu : Script := ⟨["limb", "limbu"], .ofRuns
    "6400 31 1 12 4 12 4 1 3 12",
  some (.ofRuns
    "2405 1 3994 31 1 12 4 12 4 1 3 12")⟩

/-- The script Linear A. -/
def scriptLinearA : Script := ⟨["lina", "lineara"], .ofRuns
    "67072 311 9 22 10 8",
  some (.ofRuns
    "65799 45 1228 311 9 22 10 8")⟩

/-- The script Linear B. -/
def scriptLinearB : Script := ⟨["linb", "linearb"], .ofRuns
    "65536 12 1 26 1 19 1 2 1 15 2 14 34 123",
  some (.ofRuns
    "65536 12 1 26 1 19 1 2 1 15 2 14 34 123 5 3 4 45 3 9")⟩

/-- The script Lisu. -/
def scriptLisu : Script := ⟨["lisu"], .ofRuns
    "42192 48 31408 1",
  some (.ofRuns
    "700 1 16 1 11580 2 29892 48 31408 1")⟩

/-- The script Lycian. -/
def scriptLycian : Script := ⟨["lyci", "lycian"], .ofRuns
    "66176 29",
  some (.ofRuns
    "8282 1 57893 29")⟩

/-- The script Lydian. -/
def scriptLydian : Script := ⟨["lydi", "lydian"], .ofRuns
    "67872 26 5 1",
  some (.ofRuns
    "183 1 11641 1 56046 26 5 1")⟩

/-- The script Mahajani. -/
def scriptMahajani : Script := ⟨["mahj", "mahajani"], .ofRuns
    "69968 39",
  some (.ofRuns
    "183 1 2220 12 40640 10 26902 39")⟩

/-- The script Makasar. -/
def scriptMakasar : Script := ⟨["maka", "makasar"], .ofRuns
    "73440 25", none⟩

/-- The script Mandaic. -/
def scriptMandaic : Script := ⟨["mand", "mandaic"], .ofRuns
    "2112 28 2 1",
  some (.ofRuns
    "1600 1 511 28 2 1")⟩

/-- The script Manichaean. -/
def scriptManichaean : Script := ⟨["mani", "manichaean"], .ofRuns
    "68288 39 4 12",
  some (.ofRuns
    "1600 1 66687 39 4 12")⟩

/-- The script Marchen. -/
def scriptMarchen : Script := ⟨["marc", "marchen"], .ofRuns
    "72816 32 2 22 1 14", none⟩

/-- The script Medefaidrin. -/
def scriptMedefaidrin : Script := ⟨["medf", "medefaidrin"], .ofRuns
    "93760 91", none⟩

/-- The script Mende Kikakui. -/
def scriptMendeKikakui : Script := ⟨["mend", "mendekikakui"], .ofRuns
    "124928 197 2 16", none⟩

/-- The script Meroitic Cursive. -/
def scriptMeroiticCursive : Script := ⟨["merc", "meroiticcursive"], .ofRuns
    "68000 24 4 20 2 46", none⟩

/-- The script Meroitic Hieroglyphs. -/
def scriptMeroiticHieroglyphs : Script := ⟨["mero", "meroitichieroglyphs"], .ofRuns
    "67968 32",
  some (.ofRuns
    "8285 1 59682 32")⟩

/-- The script Malayalam. -/
def scriptMalayalam : Script := ⟨["mlym", "malayalam"], .ofRuns
    "3328 13 1 3 1 51 1 3 1 6 4 16 2 26",
  some (.ofRuns
    "2385 2 17 2 922 13 1 3 1 51 1 3 1 6 4 16 2 26 3930 1 23 1 35645 3")⟩

/-- The script Modi. -/
def scriptModi : Script := ⟨["modi"], .ofRuns
    "71168 69 11 10",
  some (.ofRuns
    "43056 10 28102 69 11 10")⟩

/-- The script Mongolian. -/
def scriptMongolian : Script := ⟨["mong", "mongolian"], .ofRuns
    "6144 2 2 1 1 20 6 89 7 43 64949 13",
  some (.ofRuns
    "6144 26 6 89 7 43 1924 1 4049 2 5 4 58964 13")⟩

/-- The script Mro. -/
def scriptMro : Script := ⟨["mro", "mroo"], .ofRuns
    "92736 31 1 10 4 2", none⟩

/-- The script Meetei Mayek. -/
def scriptMeeteiMayek : Script := ⟨["mtei", "meeteimayek"], .ofRuns
    "43744 23 201 46 2 10", none⟩

/-- The script Multani. -/
def scriptMultani : Script := ⟨["mult", "multani"], .ofRuns
    "70272 7 1 1 1 4 1 15 1 11",
  some (.ofRuns
    "2662 10 67600 7 1 1 1 4 1 15 1 11")⟩

/-- The script Myanmar. -/
def scriptMyanmar : Script := ⟨["mymr", "myanmar"], .ofRuns
    "4096 160 39232 31 97 32 27728 20",
  some (.ofRuns
    "4096 160 39054 1 177 31 97 32 27728 20")⟩

/-- The script Nag Mundari. -/
def scriptNagMundari : Script := ⟨["nagm", "nagmundari"], .ofRuns
    "124112 42", none⟩

/-- The script Nandinagari. -/
def scriptNandinagari : Script := ⟨["nand", "nandinagari"], .ofRuns
    "72096 8 2 46 2 11",
  some (.ofRuns
    "2385 1 18 2 896 10 4089 1 8 1 7 1 35637 6 29034 8 2 46 2 11")⟩

/-- The script Old North Arabian. -/
def scriptOldNorthArabian : Script := ⟨["narb", "oldnortharabian"], .ofRuns
    "68224 32", none⟩

/-- The script Nabataean. -/
def scriptNabataean : Script := ⟨["nbat", "nabataean"], .ofRuns
    "67712 31 8 9", none⟩

/-- The script Newa. -/
def scriptNewa : Script := ⟨["newa"], .ofRuns
    "70656 92 1 5", none⟩

/-- The script Nko. -/
def scriptNko : Script := ⟨["nko", "nkoo"], .ofRuns
    "1984 59 2 3",
  some (.ofRuns
    "1548 1 14 1 3 1 416 59 2 3 62782 2")⟩

/-- The script Nushu. -/
def scriptNushu : Script := ⟨["nshu", "nushu"], .ofRuns
    "94177 1 16782 396", none⟩

/-- The script Ogham. -/
def scriptOgham : Script := ⟨["ogam", "ogham"], .ofRuns
    "5760 29", none⟩

/-- The script Ol Chiki. -/
def scriptOlChiki : Script := ⟨["olck", "olchiki"], .ofRuns
    "7248 48", none⟩

/-- The script Old Turkic. -/
def scriptOldTurkic : Script := ⟨["orkh", "oldturkic"], .ofRuns
    "68608 73",
  some (.ofRuns
    "8282 1 3541 1 56783 73")⟩

/-- The script Oriya. -/
def scriptOriya : Script := ⟨["orya", "oriya"], .ofRuns
    "2817 3 1 8 2 2 2 22 1 7 1 2 1 5 2 9 2 2 2 3 7 3 4 2 1 5 2 18",
  some (.ofRuns
    "2385 2 17 2 411 3 1 8 2 2 2 22 1 7 1 2 1 5 2 9 2 2 2 3 7 3 4 2 1 5 2 18 4450 1 23 1")⟩

/-- The script Osage. -/
def scriptOsage : Script := ⟨["osge", "osage"], .ofRuns
    "66736 36 4 36",
  some (.ofRuns
    "769 1 2 1 6 1 76 1 65879 36 4 36")⟩

/-- The script Osmanya. -/
def scriptOsmanya : Script := ⟨["osma", "osmanya"], .ofRuns
    "66688 30 2 10", none⟩

/-- The script Old Uyghur. -/
def scriptOldUyghur : Script := ⟨["ougr", "olduyghur"], .ofRuns
    "69488 26",
  some (.ofRuns
    "1600 1 66737 1 1149 26")⟩

/-- The script Palmyrene. -/
def scriptPalmyrene : Script := ⟨["palm", "palmyrene"], .ofRuns
    "67680 32", none⟩

/-- The script Pau Cin Hau. -/
def scriptPauCinHau : Script := ⟨["pauc", "paucinhau"], .ofRuns
    "72384 57", none⟩

/-- The script Old Permic. -/
def scriptOldPermic : Script := ⟨["perm", "oldpermic"], .ofRuns
    "66384 43",
  some (.ofRuns
    "183 1 584 1 5 3 10 1 367 1 65228 43")⟩

/-- The script Phags Pa. -/
def scriptPhagsPa : Script := ⟨["phag", "phagspa"], .ofRuns
    "43072 56",
  some (.ofRuns
    "6146 2 1 1 2089 1 4050 1 30781 56")⟩

/-- The script Inscriptional Pahlavi. -/
def scriptInscriptionalPahlavi : Script := ⟨["phli", "inscriptionalpahlavi"], .ofRuns
    "68448 19 5 8", none⟩

/-- The script Psalter Pahlavi. -/
def scriptPsalterPahlavi : Script := ⟨["phlp", "psalterpahlavi"], .ofRuns
    "68480 18 7 4 12 7",
  some (.ofRuns
    "1600 1 66879 18 7 4 12 7")⟩

/-- The script Phoenician. -/
def scriptPhoenician : Script := ⟨["phnx", "phoenician"], .ofRuns
    "67840 28 3 1", none⟩

/-- The script Miao. -/
def scriptMiao : Script := ⟨["miao", "plrd"], .ofRuns
    "93952 75 4 57 7 17", none⟩

/-- The script Inscriptional Parthian. -/
def scriptInscriptionalParthian : Script := ⟨["prti", "inscriptionalparthian"], .ofRuns
    "68416 22 2 8", none⟩

/-- The script Rejang. -/
def scriptRejang : Script := ⟨["rjng", "rejang"], .ofRuns
    "43312 36 11 1", none⟩

/-- The script Hanifi Rohingya. -/
def scriptHanifiRohingya : Script := ⟨["rohg", "hanifirohingya"], .ofRuns
    "68864 40 8 10",
  some (.ofRuns
    "1548 1 14 1 3 1 32 1 147 1 67115 40 8 10")⟩

/-- The script Runic. -/
def scriptRunic : Script := ⟨["runr", "runic"], .ofRuns
    "5792 75 3 11",
  some (.ofRuns
    "5792 89")⟩

/-- The script Samaritan. -/
def scriptSamaritan : Script := ⟨["samr", "samaritan"], .ofRuns
    "2048 46 2 15",
  some (.ofRuns
    "2048 46 2 15 9714 1")⟩

/-- The script Old South Arabian. -/
def scriptOldSouthArabian : Script := ⟨["sarb", "oldsoutharabian"], .ofRuns
    "68192 32", none⟩

/-- The script Saurashtra. -/
def scriptSaurashtra : Script := ⟨["saur", "saurashtra"], .ofRuns
    "43136 70 8 12", none⟩

/-- The script SignWriting. -/
def scriptSignWriting : Script := ⟨["sgnw", "signwriting"], .ofRuns
    "120832 652 15 5 1 15", none⟩

/-- The script Shavian. -/
def scriptShavian : Script := ⟨["shaw", "shavian"], .ofRuns
    "66640 48",
  some (.ofRuns
    "183 1 66456 48")⟩

/-- The script Sharada. -/
def scriptSharada : Script := ⟨["shrd", "sharada"], .ofRuns
    "70016 96",
  some (.ofRuns
    "2385 1 4997 1 1 1 2 2 2 1 35663 6 2 1 26951 96")⟩

/-- The script Siddham. -/
def scriptSiddham : Script := ⟨["sidd", "siddham"], .ofRuns
    "71040 54 2 38", none⟩

/-- The script Khudawadi. -/
def scriptKhudawadi : Script := ⟨["sind", "khudawadi"], .ofRuns
    "70320 59 5 10",
  some (.ofRuns
    "2404 2 40650 10 27254 59 5 10")⟩

/-- The script Sinhala. -/
def scriptSinhala : Script := ⟨["sinh", "sinhala"], .ofRuns
    "3457 3 1 18 3 24 1 9 1 1 2 7 3 1 4 6 1 1 1 8 6 10 2 3 66540 20",
  some (.ofRuns
    "2404 2 1051 3 1 18 3 24 1 9 1 1 2 7 3 1 4 6 1 1 1 8 6 10 2 3 3837 1 62702 20")⟩

/-- The script Sogdian. -/
def scriptSogdian : Script := ⟨["sogd", "sogdian"], .ofRuns
    "69424 42",
  some (.ofRuns
    "1600 1 67823 42")⟩

/-- The script Old Sogdian. -/
def scriptOldSogdian : Script := ⟨["sogo", "oldsogdian"], .ofRuns
    "69376 40", none⟩

/-- The script Sora Sompeng. -/
def scriptSoraSompeng : Script := ⟨["sora", "sorasompeng"], .ofRuns
    "69840 25 7 10", none⟩

/-- The script Soyombo. -/
def scriptSoyombo : Script := ⟨["soyo", "soyombo"], .ofRuns
    "72272 83", none⟩

/-- The script Sundanese. -/
def scriptSundanese : Script := ⟨["sund", "sundanese"], .ofRuns
    "7040 64 256 8", none⟩

/-- The script Syloti Nagri. -/
def scriptSylotiNagri : Script := ⟨["sylo", "sylotinagri"], .ofRuns
    "43008 45",
  some (.ofRuns
    "2404 2 128 10 40464 45")⟩

/-- The script Syriac. -/
def scriptSyriac : Script := ⟨["syrc", "syriac"], .ofRuns
    "1792 14 1 60 2 3 272 11",
  some (.ofRuns
    "771 2 2 2 1 1 21 1 2 3 7 2 1 1 731 1 14 2 2 1 32 1 10 11 26 1 143 14 1 60 2 3 272 11 5517 1
    1 1")⟩

/-- The script Tagbanwa. -/
def scriptTagbanwa : Script := ⟨["tagb", "tagbanwa"], .ofRuns
    "5984 13 1 3 1 2",
  some (.ofRuns
    "5941 2 41 13 1 3 1 2")⟩

/-- The script Takri. -/
def scriptTakri : Script := ⟨["takr", "takri"], .ofRuns
    "71296 58 6 10",
  some (.ofRuns
    "2404 2 40650 10 28230 58 6 10")⟩

/-- The script Tai Le. -/
def scriptTaiLe : Script := ⟨["tale", "taile"], .ofRuns
    "6480 30 2 5",
  some (.ofRuns
    "768 2 5 2 3 1 3379 10 2310 30 2 5")⟩

/-- The script New Tai Lue. -/
def scriptNewTaiLue : Script := ⟨["talu", "newtailue"], .ofRuns
    "6528 44 4 26 6 11 3 2", none⟩

/-- The script Tamil. -/
def scriptTamil : Script := ⟨["taml", "tamil"], .ofRuns
    "2946 2 1 6 3 3 1 4 3 2 1 1 1 2 3 2 3 3 3 12 4 5 3 3 1 4 2 1 6 1 14 21 70597 50 13 1",
  some (.ofRuns
    "2385 2 17 2 540 2 1 6 3 3 1 4 3 2 1 1 1 2 3 2 3 3 3 12 4 5 3 3 1 4 2 1 6 1 14 21 4319 1
    35864 1 27149 1 1 1 55 2 3203 50 13 1")⟩

/-- The script Tangut. -/
def scriptTangut : Script := ⟨["tang", "tangut"], .ofRuns
    "94176 1 31 6136 8 768 512 9",
  some (.ofRuns
    "12272 16 495 1 81392 1 31 6136 8 768 512 9")⟩

/-- The script Tai Viet. -/
def scriptTaiViet : Script := ⟨["tavt", "taiviet"], .ofRuns
    "43648 67 24 5", none⟩

/-- The script Telugu. -/
def scriptTelugu : Script := ⟨["telu", "telugu"], .ofRuns
    "3072 13 1 3 1 23 1 16 2 9 1 3 1 4 7 2 1 3 2 1 2 4 2 10 7 9",
  some (.ofRuns
    "2385 2 17 2 666 13 1 3 1 23 1 16 2 9 1 3 1 4 7 2 1 3 2 1 2 4 2 10 7 9 4186 1 23 1")⟩

/-- The script Tifinagh. -/
def scriptTifinagh : Script := ⟨["tfng", "tifinagh"], .ofRuns
    "11568 56 7 2 14 1",
  some (.ofRuns
    "770 1 1 1 2 1 1 1 10790 56 7 2 14 1")⟩

/-- The script Tagalog. -/
def scriptTagalog : Script := ⟨["tglg", "tagalog"], .ofRuns
    "5888 22 9 1",
  some (.ofRuns
    "5888 22 9 1 21 2")⟩

/-- The script Thaana. -/
def scriptThaana : Script := ⟨["thaa", "thaana"], .ofRuns
    "1920 50",
  some (.ofRuns
    "1548 1 14 2 2 1 64 10 278 50 63040 1 10 1")⟩

/-- The script Thai. -/
def scriptThai : Script := ⟨["thai"], .ofRuns
    "3585 58 5 28",
  some (.ofRuns
    "700 1 26 1 43 1 45 1 2767 58 5 28")⟩

/-- The script Tibetan. -/
def scriptTibetan : Script := ⟨["tibt", "tibetan"], .ofRuns
    "3840 72 1 36 4 39 1 36 1 15 1 7 4 2",
  some (.ofRuns
    "3840 72 1 36 4 39 1 36 1 15 1 7 4 2 8237 4")⟩

/-- The script Tirhuta. -/
def scriptTirhuta : Script := ⟨["tirh", "tirhuta"], .ofRuns
    "70784 72 8 10",
  some (.ofRuns
    "2385 2 17 2 5004 1 35645 10 27718 72 8 10")⟩

/-- The script Tangsa. -/
def scriptTangsa : Script := ⟨["tnsa", "tangsa"], .ofRuns
    "92784 79 1 10", none⟩

/-- The script Toto. -/
def scriptToto : Script := ⟨["toto"], .ofRuns
    "123536 31",
  some (.ofRuns
    "700 1 122835 31")⟩

/-- The script Ugaritic. -/
def scriptUgaritic : Script := ⟨["ugar", "ugaritic"], .ofRuns
    "66432 30 1 1", none⟩

/-- The script Vai. -/
def scriptVai : Script := ⟨["vai", "vaii"], .ofRuns
    "42240 300", none⟩

/-- The script Vithkuqi. -/
def scriptVithkuqi : Script := ⟨["vith", "vithkuqi"], .ofRuns
    "66928 11 1 15 1 7 1 2 1 11 1 15 1 7 1 2", none⟩

/-- The script Warang Citi. -/
def scriptWarangCiti : Script := ⟨["wara", "warangciti"], .ofRuns
    "71840 83 12 1", none⟩

/-- The script Wancho. -/
def scriptWancho : Script := ⟨["wcho", "wancho"], .ofRuns
    "123584 58 5 1", none⟩

/-- The script Old Persian. -/
def scriptOldPersian : Script := ⟨["xpeo", "oldpersian"], .ofRuns
    "66464 36 4 14", none⟩

/-- The script Cuneiform. -/
def scriptCuneiform : Script := ⟨["xsux", "cuneiform"], .ofRuns
    "73728 922 102 111 1 5 11 196", none⟩

/-- The script Yezidi. -/
def scriptYezidi : Script := ⟨["yezi", "yezidi"], .ofRuns
    "69248 42 1 3 2 2",
  some (.ofRuns
    "1548 1 14 1 3 1 64 10 67606 42 1 3 2 2")⟩

/-- The script Yi. -/
def scriptYi : Script := ⟨["yi", "yiii"], .ofRuns
    "40960 1165 3 55",
  some (.ofRuns
    "12289 2 5 10 2 8 223 1 28420 1165 3 55 23194 5")⟩

/-- The script Zanabazar Square. -/
def scriptZanabazarSquare : Script := ⟨["zanb", "zanabazarsquare"], .ofRuns
    "72192 72", none⟩

/-- The script Inherited. -/
def scriptInherited : Script := ⟨["qaai", "zinh", "inherited"], .ofRuns
    "768 112 277 2 452 11 26 1 736 4 4443 31 513 3 1 13 1 7 4 1 6 1 3 2 198 64 524 2 194 33 3897
    4 107 2 52581 16 16 14 975 1 226 1 4186 1 48068 46 2 23 544 3 17 8 2 7 30 4 798546 240",
  some (.ofRuns
    "783 1 2 1 1 12 1 2 3 7 2 1 2 16 1 2 1 18 1 5 1 4 1520 2 4443 31 755 54 1 1 1 5 524 2 194 32
    56592 16 16 14 975 1 52482 46 2 23 544 3 17 8 2 7 30 4 798546 240")⟩

/-- The script Common. -/
def scriptCommon : Script := ⟨["zyyy", "common"], .ofRuns
    "0 65 26 6 26 47 1 15 1 5 23 1 31 1 449 39 5 5 2 20 116 1 9 1 6 1 1 1 637 1 6 1 14 1 3 1 32 1
    156 1 516 1 129 2 1241 1 405 4 290 1 1519 3 71 2 203 2 1 1 1229 1 13 1 7 4 1 6 1 3 2 1 773
    12 2 87 1 11 3 11 1 15 17 33 63 38 1 3 2 6 1 27 1 17 41 3 4 666 22 11 21 928 256 628 2 32 1
    105 512 94 402 21 1 1 1 25 15 8 4 4 91 2 3 1 90 2 147 16 32 38 9 1 48 64 31 81 47 1 88 168
    6592 64 22784 34 102 3 165 10 244 1 160 1 395 1 14 2 20946 2 208 10 22 35 1 19 1 4 147 1 1
    32 26 6 26 11 10 1 45 2 64 7 1 7 10 5 258 3 4 45 3 9 80 13 51 45 228 27 47524 4 3932 250 6
    436 156 116 60 246 10 39 2 62 3 17 8 2 7 30 4 61 213 20 12 20 12 87 9 25 135 85 1 71 1 2 2 1
    2 2 2 4 1 12 1 1 1 7 1 65 1 4 2 8 1 7 1 28 1 4 1 5 1 1 3 7 1 340 2 292 2 50 5233 68 76 61
    706 44 4 100 12 15 2 15 1 15 1 37 10 174 56 26 1 2 13 44 4 9 7 2 14 6 154 984 4 17 3 13 3
    119 4 95 6 12 4 1 15 12 4 56 8 10 6 40 8 30 2 12 4 2 62 340 12 14 2 13 3 10 5 56 7 15 2 11 6
    9 7 147 1 102 787463 1 30 96",
  some (.ofRuns
    "0 65 26 6 26 47 1 12 1 2 1 5 23 1 31 1 449 3 1 10 1 1 3 1 1 9 1 1 1 6 5 5 2 20 126 1 6 1 1 1
    637 1 215 1 516 1 1372 1 405 4 4135 12 2 33 1 31 1 10 1 2 1 7 1 11 3 11 1 15 17 33 63 38 1 3
    2 6 1 27 1 17 41 3 4 666 22 11 21 928 256 628 2 32 1 105 512 23 1 24 2 10 1 4 1 1 1 26 418 1
    3 1 13 1 13 1 21 1 529 24 31 1 49 15 12 4 161 10 5 96 31 1 6592 64 22792 26 102 3 976 1 14 2
    21156 10 22 21 2 12 1 19 1 4 147 1 1 32 26 6 26 6 127 7 1 7 10 5 402 13 51 45 51715 250 6
    436 156 116 60 246 10 39 2 62 3 17 8 2 7 30 4 61 213 20 12 20 12 87 27 7 135 85 1 71 1 2 2 1
    2 2 2 4 1 12 1 1 1 7 1 65 1 4 2 8 1 7 1 28 1 4 1 5 1 1 3 7 1 340 2 292 2 50 5233 68 76 61
    706 44 4 100 12 15 2 15 1 15 1 37 10 174 56 26 1 2 13 44 4 9 23 6 154 984 4 17 3 13 3 119 4
    95 6 12 4 1 15 12 4 56 8 10 6 40 8 30 2 12 4 2 62 340 12 14 2 13 3 10 5 56 7 15 2 11 6 9 7
    147 1 102 787463 1 30 96")⟩

/-- The script Garay. -/
def scriptGaray : Script := ⟨["gara", "garay"], .ofRuns
    "68928 38 3 29 8 2",
  some (.ofRuns
    "1548 1 14 1 3 1 67360 38 3 29 8 2")⟩

/-- The script Gurung Khema. -/
def scriptGurungKhema : Script := ⟨["gukh", "gurungkhema"], .ofRuns
    "90368 58",
  some (.ofRuns
    "2405 1 87962 58")⟩

/-- The script Kirat Rai. -/
def scriptKiratRai : Script := ⟨["krai", "kiratrai"], .ofRuns
    "93504 58", none⟩

/-- The script Ol Onal. -/
def scriptOlOnal : Script := ⟨["onao", "olonal"], .ofRuns
    "124368 43 4 1",
  some (.ofRuns
    "2404 2 121962 43 4 1")⟩

/-- The script Sunuwar. -/
def scriptSunuwar : Script := ⟨["sunu", "sunuwar"], .ofRuns
    "72640 34 14 10",
  some (.ofRuns
    "768 2 1 1 9 1 2 1 28 1 3 1 71822 34 14 10")⟩

/-- The script Todhri. -/
def scriptTodhri : Script := ⟨["todr", "todhri"], .ofRuns
    "67008 52",
  some (.ofRuns
    "769 1 2 1 2 1 9 1 1 1 74 1 66145 52")⟩

/-- The script Tulu Tigalari. -/
def scriptTuluTigalari : Script := ⟨["tutg", "tulutigalari"], .ofRuns
    "70528 10 1 1 2 1 1 38 1 10 1 1 2 1 1 4 1 10 1 2 8 2",
  some (.ofRuns
    "3302 10 4098 1 1 1 35643 6 187 1 27278 10 1 1 2 1 1 38 1 10 1 1 2 1 1 4 1 10 1 2 8 2")⟩

/-- Every script. -/
def scripts : List Script := [
  scriptAdlam, scriptCaucasianAlbanian, scriptAhom, scriptArabic, scriptImperialAramaic,
  scriptArmenian, scriptAvestan, scriptBalinese, scriptBamum, scriptBassaVah, scriptBatak,
  scriptBengali, scriptBhaiksuki, scriptBopomofo, scriptBrahmi, scriptBraille, scriptBuginese,
  scriptBuhid, scriptChakma, scriptCanadianAboriginal, scriptCarian, scriptCham, scriptCherokee,
  scriptChorasmian, scriptCoptic, scriptCyproMinoan, scriptCypriot, scriptCyrillic,
  scriptDevanagari, scriptDivesAkuru, scriptDogra, scriptDeseret, scriptDuployan,
  scriptEgyptianHieroglyphs, scriptElbasan, scriptElymaic, scriptEthiopic, scriptGeorgian,
  scriptGlagolitic, scriptGunjalaGondi, scriptMasaramGondi, scriptGothic, scriptGrantha,
  scriptGreek, scriptGujarati, scriptGurmukhi, scriptHangul, scriptHan, scriptHanunoo,
  scriptHatran, scriptHebrew, scriptHiragana, scriptAnatolianHieroglyphs, scriptPahawhHmong,
  scriptNyiakengPuachueHmong, scriptOldHungarian, scriptOldItalic, scriptJavanese,
  scriptKayahLi, scriptKatakana, scriptKawi, scriptKharoshthi, scriptKhmer, scriptKhojki,
  scriptKhitanSmallScript, scriptKannada, scriptKaithi, scriptTaiTham, scriptLao, scriptLatin,
  scriptLepcha, scriptLimbu, scriptLinearA, scriptLinearB, scriptLisu, scriptLycian,
  scriptLydian, scriptMahajani, scriptMakasar, scriptMandaic, scriptManichaean, scriptMarchen,
  scriptMedefaidrin, scriptMendeKikakui, scriptMeroiticCursive, scriptMeroiticHieroglyphs,
  scriptMalayalam, scriptModi, scriptMongolian, scriptMro, scriptMeeteiMayek, scriptMultani,
  scriptMyanmar, scriptNagMundari, scriptNandinagari, scriptOldNorthArabian, scriptNabataean,
  scriptNewa, scriptNko, scriptNushu, scriptOgham, scriptOlChiki, scriptOldTurkic, scriptOriya,
  scriptOsage, scriptOsmanya, scriptOldUyghur, scriptPalmyrene, scriptPauCinHau,
  scriptOldPermic, scriptPhagsPa, scriptInscriptionalPahlavi, scriptPsalterPahlavi,
  scriptPhoenician, scriptMiao, scriptInscriptionalParthian, scriptRejang, scriptHanifiRohingya,
  scriptRunic, scriptSamaritan, scriptOldSouthArabian, scriptSaurashtra, scriptSignWriting,
  scriptShavian, scriptSharada, scriptSiddham, scriptKhudawadi, scriptSinhala, scriptSogdian,
  scriptOldSogdian, scriptSoraSompeng, scriptSoyombo, scriptSundanese, scriptSylotiNagri,
  scriptSyriac, scriptTagbanwa, scriptTakri, scriptTaiLe, scriptNewTaiLue, scriptTamil,
  scriptTangut, scriptTaiViet, scriptTelugu, scriptTifinagh, scriptTagalog, scriptThaana,
  scriptThai, scriptTibetan, scriptTirhuta, scriptTangsa, scriptToto, scriptUgaritic, scriptVai,
  scriptVithkuqi, scriptWarangCiti, scriptWancho, scriptOldPersian, scriptCuneiform,
  scriptYezidi, scriptYi, scriptZanabazarSquare, scriptInherited, scriptCommon, scriptGaray,
  scriptGurungKhema, scriptKiratRai, scriptOlOnal, scriptSunuwar, scriptTodhri,
  scriptTuluTigalari]

end Tabular.Property
