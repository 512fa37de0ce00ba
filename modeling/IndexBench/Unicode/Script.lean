import IndexBench.Unicode.Ranges

/-!
# Scripts

The script of every character, by its names in lower case and the ranges of its
characters, and the characters that are used with each script.
-/

namespace IndexBench
namespace Unicode

/-- The scripts. -/
def scriptData : List PropertyData := [
  { names := ["adlm", "adlam"]
    ranges := "1e900-4c 4-a 4-2" },
  { names := ["ahom"]
    ranges := "11700-1b 2-f 4-17" },
  { names := ["hluw", "anatolianhieroglyphs"]
    ranges := "14400-247" },
  { names := ["arab", "arabic"]
    ranges := "600-5 1-6 1-e 1-3 1-20 1-a b-1a 1-6c 1-22 50-30 f0-1f 1-2 5-4b 1-1d f250-73
10-16b 2-50 2-36 7 20-10 70-5 1-87 f63-1f 43-3 37-4 df00-4 1-1b 1-2 1 2 1-a 1-4 1 1 6 4 1 1 1-3
1-2 1 2 1 1 1 1 1-2 1 2-4 1-7 1-4 1-4 1 1-a 1-11 5-3 1-5 1-11 34-2" },
  { names := ["armn", "armenian"]
    ranges := "531-26 2-32 2-3 f583-5" },
  { names := ["avst", "avestan"]
    ranges := "10b00-36 3-7" },
  { names := ["bali", "balinese"]
    ranges := "1b00-4d 1-32" },
  { names := ["bamu", "bamum"]
    ranges := "a6a0-58 c108-239" },
  { names := ["bass", "bassavah"]
    ranges := "16ad0-1e 2-6" },
  { names := ["batk", "batak"]
    ranges := "1bc0-34 8-4" },
  { names := ["beng", "bengali"]
    ranges := "980-4 1-8 2-2 2-16 1-7 1 3-4 2-9 2-2 2-4 8 4-2 1-5 2-19" },
  { names := ["bhks", "bhaiksuki"]
    ranges := "11c00-9 1-2d 1-e a-1d" },
  { names := ["bopo", "bopomofo"]
    ranges := "2ea-2 2e19-2b 70-20" },
  { names := ["brah", "brahmi"]
    ranges := "11000-4e 4-24 9" },
  { names := ["brai", "braille"]
    ranges := "2800-100" },
  { names := ["bugi", "buginese"]
    ranges := "1a00-1c 2-2" },
  { names := ["buhd", "buhid"]
    ranges := "1740-14" },
  { names := ["cans", "canadianaboriginal"]
    ranges := "1400-280 230-46 101ba-10" },
  { names := ["cari", "carian"]
    ranges := "102a0-31" },
  { names := ["aghb", "caucasianalbanian"]
    ranges := "10530-34 b" },
  { names := ["cakm", "chakma"]
    ranges := "11100-35 1-12" },
  { names := ["cham"]
    ranges := "aa00-37 9-e 2-a 2-4" },
  { names := ["cher", "cherokee"]
    ranges := "13a0-56 2-6 9772-50" },
  { names := ["chrs", "chorasmian"]
    ranges := "10fb0-1c" },
  { names := ["zyyy", "common"]
    ranges := "0-41 1a-6 1a-2f 1-f 1-5 17 1f 1c1-27 5-5 2-14 74 9 6 1 27d 6 e 3 20 9c 204 81-2
4d9 195-4 122 5ef-3 47-2 cb-2 1 4cd d 7-4 1-6 1-3 2 305-c 2-57 1-b 3-b 1-f 11-21 3f-26 1-3 2-6
1-1b 1-11 29-3 4-29a 16-b 15-3a0 100-274 2-20 1-69 200-5e 192-15 1 1-19 f-8 4-4 5b-2 3 5a-2
93-10 20-26 9 30-40 1f-51 2f 58-a8 19c0-40 5900-22 66-3 a5-a f4 a0 18b e-2 51d2-2 d0-a 16-23
1-13 1-4 93 1-20 1a-6 1a-b a 2d-2 40-7 1-7 a-5 102-3 4-2d 3-9 50-d 33-2d e4-1b b9a4-4 f5c-fa
6-1b4 9c-74 3c-f6 a-27 2-3e 3-11 8-2 7-1e 4-3d d5-14 c-14 c-57 9-19 87-55 1-47 1-2 2 2-2 2-4 1-c
1 1-7 1-41 1-4 2-8 1-7 1-1c 1-4 1-5 1 3-7 1-154 2-124 2-32 1471-44 4c-3d 2c2-2c 4-64 c-f 2-f 1-f
1-25 a-ae 38-1a 1-2 d-2c 4-9 7-2 e-6 9a-3d8 4-11 3-d 3-77 4-5f 6-c 4 f-c 4-38 8-a 6-28 8-1e 2-c
4-2 3e-154 c-e 2-d 3-a 5-38 7-f 2-b 6-9 7-93 1-66 c0407 1e-60" },
  { names := ["copt", "qaac", "coptic"]
    ranges := "3e2-e 2890-74 5-7" },
  { names := ["xsux", "cuneiform"]
    ranges := "12000-39a 66-6f 1-5 b-c4" },
  { names := ["cprt", "cypriot"]
    ranges := "10800-6 2 1-2c 1-2 3 2" },
  { names := ["cpmn", "cyprominoan"]
    ranges := "12f90-63" },
  { names := ["cyrl", "cyrillic"]
    ranges := "400-85 2-a9 1750-b a0 4c 1067-20 7840-60 578e-2 e200-3e 21" },
  { names := ["dsrt", "deseret"]
    ranges := "10400-50" },
  { names := ["deva", "devanagari"]
    ranges := "900-51 4-f 2-1a 9f60-20 7200-a" },
  { names := ["diak", "divesakuru"]
    ranges := "11900-7 2 2-8 1-2 1-1e 1-2 2-c 9-a" },
  { names := ["dogr", "dogra"]
    ranges := "11800-3c" },
  { names := ["dupl", "duployan"]
    ranges := "1bc00-6b 5-d 3-9 7-a 2-4" },
  { names := ["egyp", "egyptianhieroglyphs"]
    ranges := "13000-456 a-f9b" },
  { names := ["elba", "elbasan"]
    ranges := "10500-28" },
  { names := ["elym", "elymaic"]
    ranges := "10fe0-17" },
  { names := ["ethi", "ethiopic"]
    ranges := "1200-49 1-4 2-7 1 1-4 2-29 1-4 2-21 1-4 2-7 1 1-4 2-f 1-39 1-4 2-43 2-20 3-1a
19e6-17 9-7 1-7 1-7 1-7 1-7 1-7 1-7 1-7 7d22-6 2-6 2-6 9-7 1-7 13cb1-7 1-4 1-2 1-f" },
  { names := ["gara", "garay"]
    ranges := "10d40-26 3-1d 8-2" },
  { names := ["geor", "georgian"]
    ranges := "10a0-26 1 5 2-2b 1-4 b90-2b 2-3 1040-26 1 5" },
  { names := ["glag", "glagolitic"]
    ranges := "2c00-60 1b3a0-7 1-11 2-7 1-2 1-5" },
  { names := ["goth", "gothic"]
    ranges := "10330-1b" },
  { names := ["gran", "grantha"]
    ranges := "11300-4 1-8 2-2 2-16 1-7 1-2 1-5 2-9 2-2 2-3 2 6 5-7 2-7 3-5" },
  { names := ["grek", "greek"]
    ranges := "370-4 1-3 2-4 1 4 1 1-3 1 1-14 1-3f e-10 1926-5 32-5 4-5 54 140-16 2-6 2-26 2-6
2-8 1 1 1 1-1f 2-35 1-f 1-e 2-6 1-13 2-3 1-9 127 8a3e 55da-4f 11 d05f-46" },
  { names := ["gujr", "gujarati"]
    ranges := "a81-3 1-9 1-3 1-16 1-7 1-2 1-5 2-a 1-3 1-3 2 f-4 2-c 7-7" },
  { names := ["gong", "gunjalagondi"]
    ranges := "11d60-6 1-2 1-25 1-2 1-6 7-a" },
  { names := ["guru", "gurmukhi"]
    ranges := "a01-3 1-6 4-2 2-16 1-7 1-2 1-2 1-2 2 1-5 4-2 2-3 3 7-4 1 7-11" },
  { names := ["gukh", "gurungkhema"]
    ranges := "16100-3a" },
  { names := ["han", "hani"]
    ranges := "2e80-1a 1-59 c-d6 2f 1 19-9 e-4 3c4-19c0 40-5200 5900-16e 2-6a 7508-2 c-2
900e-a6e0 20-103a 6-de 2-1682 e-1d31 f-26e 9a2-21e 5e2-134b 5-1060" },
  { names := ["hang", "hangul"]
    ranges := "1100-100 1e2e-2 101-5e 71-1f 41-1f 76e1-1d 283-2ba4 c-17 4-31 27a4-1f 3-6 2-6 2-6
2-3" },
  { names := ["rohg", "hanifirohingya"]
    ranges := "10d00-28 8-a" },
  { names := ["hano", "hanunoo"]
    ranges := "1720-15" },
  { names := ["hatr", "hatran"]
    ranges := "108e0-13 1-2 5-5" },
  { names := ["hebr", "hebrew"]
    ranges := "591-37 8-1b 4-6 f528-1a 1-5 1 1-2 1-2 1-a" },
  { names := ["hira", "hiragana"]
    ranges := "3041-56 6-3 17f61-11f 12 1d-3 40ad" },
  { names := ["armi", "imperialaramaic"]
    ranges := "10840-16 1-9" },
  { names := ["qaai", "zinh", "inherited"]
    ranges := "300-70 115-2 1c4-b 1a 2e0-4 115b-1f 201-3 1-d 1-7 4 6 3-2 c6-40 20c-2 c2-21 f39-4
6b-2 cd65-10 10-e 3cf e2 105a bbc4-2e 2-17 220-3 11-8 2-7 1e-4 c2f52-f0" },
  { names := ["phli", "inscriptionalpahlavi"]
    ranges := "10b60-13 5-8" },
  { names := ["prti", "inscriptionalparthian"]
    ranges := "10b40-16 2-8" },
  { names := ["java", "javanese"]
    ranges := "a980-4e 2-a 4-2" },
  { names := ["kthi", "kaithi"]
    ranges := "11080-43 a" },
  { names := ["knda", "kannada"]
    ranges := "c80-d 1-3 1-17 1-a 1-5 2-9 1-3 1-4 7-2 6-2 1-4 2-a 1-3" },
  { names := ["kana", "katakana"]
    ranges := "30a1-5a 2-3 f0-10 d0-2f 1-58 cc0e-a 1-2d b052-4 1-7 1-2 1 11f-3 32 e-4" },
  { names := ["kawi"]
    ranges := "11f00-11 1-29 3-1d" },
  { names := ["kali", "kayahli"]
    ranges := "a900-2e 1" },
  { names := ["khar", "kharoshthi"]
    ranges := "10a00-4 1-2 5-8 1-3 1-1d 2-3 4-a 7-9" },
  { names := ["kits", "khitansmallscript"]
    ranges := "16fe4 1b1b-1d6 29" },
  { names := ["khmr", "khmer"]
    ranges := "1780-5e 2-a 6-a 1e6-20" },
  { names := ["khoj", "khojki"]
    ranges := "11200-12 1-2f" },
  { names := ["sind", "khudawadi"]
    ranges := "112b0-3b 5-a" },
  { names := ["krai", "kiratrai"]
    ranges := "16d40-3a" },
  { names := ["lao", "laoo"]
    ranges := "e81-2 1 1-5 1-18 1 1-17 2-5 1 1-7 1-a 2-4" },
  { names := ["latn", "latin"]
    ranges := "41-1a 6-1a 2f f 5-17 1-1f 1-1c1 27-5 1a1b-26 6-31 5-4 5-d 1-46 41-100 171 d 10-d
8d-2 6 1b 11-29 ad7-20 7aa2-66 3-43 2-2 1 1-8 15-e 330-2b 1-9 1-4 4f96-7 41a-1a 6-1a 825-6 1-2a
1-9 d745-1f 6-6" },
  { names := ["lepc", "lepcha"]
    ranges := "1c00-38 3-f 3-3" },
  { names := ["limb", "limbu"]
    ranges := "1900-1f 1-c 4-c 4 3-c" },
  { names := ["lina", "lineara"]
    ranges := "10600-137 9-16 a-8" },
  { names := ["linb", "linearb"]
    ranges := "10000-c 1-1a 1-13 1-2 1-f 2-e 22-7b" },
  { names := ["lisu"]
    ranges := "a4d0-30 7ab0" },
  { names := ["lyci", "lycian"]
    ranges := "10280-1d" },
  { names := ["lydi", "lydian"]
    ranges := "10920-1a 5" },
  { names := ["mahj", "mahajani"]
    ranges := "11150-27" },
  { names := ["maka", "makasar"]
    ranges := "11ee0-19" },
  { names := ["mlym", "malayalam"]
    ranges := "d00-d 1-3 1-33 1-3 1-6 4-10 2-1a" },
  { names := ["mand", "mandaic"]
    ranges := "840-1c 2" },
  { names := ["mani", "manichaean"]
    ranges := "10ac0-27 4-c" },
  { names := ["marc", "marchen"]
    ranges := "11c70-20 2-16 1-e" },
  { names := ["gonm", "masaramgondi"]
    ranges := "11d00-7 1-2 1-2c 3 1-2 1-9 8-a" },
  { names := ["medf", "medefaidrin"]
    ranges := "16e40-5b" },
  { names := ["mtei", "meeteimayek"]
    ranges := "aae0-17 c9-2e 2-a" },
  { names := ["mend", "mendekikakui"]
    ranges := "1e800-c5 2-10" },
  { names := ["merc", "meroiticcursive"]
    ranges := "109a0-18 4-14 2-2e" },
  { names := ["mero", "meroitichieroglyphs"]
    ranges := "10980-20" },
  { names := ["miao", "plrd"]
    ranges := "16f00-4b 4-39 7-11" },
  { names := ["modi"]
    ranges := "11600-45 b-a" },
  { names := ["mong", "mongolian"]
    ranges := "1800-2 2 1-14 6-59 7-2b fdb5-d" },
  { names := ["mro", "mroo"]
    ranges := "16a40-1f 1-a 4-2" },
  { names := ["mult", "multani"]
    ranges := "11280-7 1 1-4 1-f 1-b" },
  { names := ["mymr", "myanmar"]
    ranges := "1000-a0 9940-1f 61-20 6c50-14" },
  { names := ["nbat", "nabataean"]
    ranges := "10880-1f 8-9" },
  { names := ["nagm", "nagmundari"]
    ranges := "1e4d0-2a" },
  { names := ["nand", "nandinagari"]
    ranges := "119a0-8 2-2e 2-b" },
  { names := ["talu", "newtailue"]
    ranges := "1980-2c 4-1a 6-b 3-2" },
  { names := ["newa"]
    ranges := "11400-5c 1-5" },
  { names := ["nko", "nkoo"]
    ranges := "7c0-3b 2-3" },
  { names := ["nshu", "nushu"]
    ranges := "16fe1 418e-18c" },
  { names := ["hmnp", "nyiakengpuachuehmong"]
    ranges := "1e100-2d 3-e 2-a 4-2" },
  { names := ["ogam", "ogham"]
    ranges := "1680-1d" },
  { names := ["olck", "olchiki"]
    ranges := "1c50-30" },
  { names := ["onao", "olonal"]
    ranges := "1e5d0-2b 4" },
  { names := ["hung", "oldhungarian"]
    ranges := "10c80-33 d-33 7-6" },
  { names := ["ital", "olditalic"]
    ranges := "10300-24 9-3" },
  { names := ["narb", "oldnortharabian"]
    ranges := "10a80-20" },
  { names := ["perm", "oldpermic"]
    ranges := "10350-2b" },
  { names := ["xpeo", "oldpersian"]
    ranges := "103a0-24 4-e" },
  { names := ["sogo", "oldsogdian"]
    ranges := "10f00-28" },
  { names := ["sarb", "oldsoutharabian"]
    ranges := "10a60-20" },
  { names := ["orkh", "oldturkic"]
    ranges := "10c00-49" },
  { names := ["ougr", "olduyghur"]
    ranges := "10f70-1a" },
  { names := ["orya", "oriya"]
    ranges := "b01-3 1-8 2-2 2-16 1-7 1-2 1-5 2-9 2-2 2-3 7-3 4-2 1-5 2-12" },
  { names := ["osge", "osage"]
    ranges := "104b0-24 4-24" },
  { names := ["osma", "osmanya"]
    ranges := "10480-1e 2-a" },
  { names := ["hmng", "pahawhhmong"]
    ranges := "16b00-46 a-a 1-7 1-15 5-13" },
  { names := ["palm", "palmyrene"]
    ranges := "10860-20" },
  { names := ["pauc", "paucinhau"]
    ranges := "11ac0-39" },
  { names := ["phag", "phagspa"]
    ranges := "a840-38" },
  { names := ["phnx", "phoenician"]
    ranges := "10900-1c 3" },
  { names := ["phlp", "psalterpahlavi"]
    ranges := "10b80-12 7-4 c-7" },
  { names := ["rjng", "rejang"]
    ranges := "a930-24 b" },
  { names := ["runr", "runic"]
    ranges := "16a0-4b 3-b" },
  { names := ["samr", "samaritan"]
    ranges := "800-2e 2-f" },
  { names := ["saur", "saurashtra"]
    ranges := "a880-46 8-c" },
  { names := ["shrd", "sharada"]
    ranges := "11180-60" },
  { names := ["shaw", "shavian"]
    ranges := "10450-30" },
  { names := ["sidd", "siddham"]
    ranges := "11580-36 2-26" },
  { names := ["sgnw", "signwriting"]
    ranges := "1d800-28c f-5 1-f" },
  { names := ["sinh", "sinhala"]
    ranges := "d81-3 1-12 3-18 1-9 1 2-7 3 4-6 1 1-8 6-a 2-3 103ec-14" },
  { names := ["sogd", "sogdian"]
    ranges := "10f30-2a" },
  { names := ["sora", "sorasompeng"]
    ranges := "110d0-19 7-a" },
  { names := ["soyo", "soyombo"]
    ranges := "11a50-53" },
  { names := ["sund", "sundanese"]
    ranges := "1b80-40 100-8" },
  { names := ["sunu", "sunuwar"]
    ranges := "11bc0-22 e-a" },
  { names := ["sylo", "sylotinagri"]
    ranges := "a800-2d" },
  { names := ["syrc", "syriac"]
    ranges := "700-e 1-3c 2-3 110-b" },
  { names := ["tglg", "tagalog"]
    ranges := "1700-16 9" },
  { names := ["tagb", "tagbanwa"]
    ranges := "1760-d 1-3 1-2" },
  { names := ["tale", "taile"]
    ranges := "1950-1e 2-5" },
  { names := ["lana", "taitham"]
    ranges := "1a20-3f 1-1d 2-b 6-a 6-e" },
  { names := ["tavt", "taiviet"]
    ranges := "aa80-43 18-5" },
  { names := ["takr", "takri"]
    ranges := "11680-3a 6-a" },
  { names := ["taml", "tamil"]
    ranges := "b82-2 1-6 3-3 1-4 3-2 1 1-2 3-2 3-3 3-c 4-5 3-3 1-4 2 6 e-15 113c5-32 d" },
  { names := ["tnsa", "tangsa"]
    ranges := "16a70-4f 1-a" },
  { names := ["tang", "tangut"]
    ranges := "16fe0 1f-17f8 8-300 200-9" },
  { names := ["telu", "telugu"]
    ranges := "c00-d 1-3 1-17 1-10 2-9 1-3 1-4 7-2 1-3 2 2-4 2-a 7-9" },
  { names := ["thaa", "thaana"]
    ranges := "780-32" },
  { names := ["thai"]
    ranges := "e01-3a 5-1c" },
  { names := ["tibt", "tibetan"]
    ranges := "f00-48 1-24 4-27 1-24 1-f 1-7 4-2" },
  { names := ["tfng", "tifinagh"]
    ranges := "2d30-38 7-2 e" },
  { names := ["tirh", "tirhuta"]
    ranges := "11480-48 8-a" },
  { names := ["todr", "todhri"]
    ranges := "105c0-34" },
  { names := ["toto"]
    ranges := "1e290-1f" },
  { names := ["tutg", "tulutigalari"]
    ranges := "11380-a 1 2 1-26 1-a 1 2 1-4 1-a 1-2 8-2" },
  { names := ["ugar", "ugaritic"]
    ranges := "10380-1e 1" },
  { names := ["vai", "vaii"]
    ranges := "a500-12c" },
  { names := ["vith", "vithkuqi"]
    ranges := "10570-b 1-f 1-7 1-2 1-b 1-f 1-7 1-2" },
  { names := ["wcho", "wancho"]
    ranges := "1e2c0-3a 5" },
  { names := ["wara", "warangciti"]
    ranges := "118a0-53 c" },
  { names := ["yezi", "yezidi"]
    ranges := "10e80-2a 1-3 2-2" },
  { names := ["yi", "yiii"]
    ranges := "a000-48d 3-37" },
  { names := ["zanb", "zanabazarsquare"]
    ranges := "11a00-48" }]

/-- The script extensions that differ from their scripts. -/
def extensionData : List PropertyData := [
  { names := ["adlm", "adlam"]
    ranges := "61f 20 1a0e df1 1babe-4c 4-a 4-2" },
  { names := ["arab", "arabic"]
    ranges := "600-5 1-d7 1-22 50-30 f0-1f 1-2 5-4b 1-1d 174f df1 cd0e-73 10-1bd 2-36 7 20-10
70-5 1-87 3e3-1c b64-1f 43-3 37-4 df00-4 1-1b 1-2 1 2 1-a 1-4 1 1 6 4 1 1 1-3 1-2 1 2 1 1 1 1
1-2 1 2-4 1-7 1-4 1-4 1 1-a 1-11 5-3 1-5 1-11 34-2" },
  { names := ["armn", "armenian"]
    ranges := "308 228-26 2-32 2-3 f583-5" },
  { names := ["avst", "avestan"]
    ranges := "b7 2d78-2 dcce-36 3-7" },
  { names := ["beng", "bengali"]
    ranges := "2bc 694-2 11-2 1a-4 1-8 2-2 2-16 1-7 1 3-4 2-9 2-2 2-4 8 4-2 1-5 2-19 12d1 1 2-2
1 8 8 2 4 2-3 8bf9" },
  { names := ["bopo", "bopomofo"]
    ranges := "2c7 1-3 d 10-2 2d15-3 4-a 1-d a-4 2 6 c3 9-2b 70-20 cc85-2 11a-5" },
  { names := ["bugi", "buginese"]
    ranges := "1a00-1c 2-2 8faf" },
  { names := ["buhd", "buhid"]
    ranges := "1735-2 9-14" },
  { names := ["cari", "carian"]
    ranges := "b7 1fa2 2 dd3 d46e-31" },
  { names := ["aghb", "caucasianalbanian"]
    ranges := "304 2c 2c 101d1-34 b" },
  { names := ["cakm", "chakma"]
    ranges := "9e6-a 650-a 100b6-35 1-12" },
  { names := ["cher", "cherokee"]
    ranges := "300-3 1 6-2 16-2 b-2 106e-56 2-6 9772-50" },
  { names := ["zyyy", "common"]
    ranges := "0-41 1a-6 1a-2f 1-c 1-2 1-5 17 1f 1c1-3 1-a 1 3 1-9 1 1-6 5-5 2-14 7e 6 1 27d d7
204 55c 195-4 1027-c 2-21 1-1f 1-a 1-2 1-7 1-b 3-b 1-f 11-21 3f-26 1-3 2-6 1-1b 1-11 29-3 4-29a
16-b 15-3a0 100-274 2-20 1-69 200-17 1-18 2-a 1-4 1 1-1a 1a2 3 d d 15 211-18 1f 31-f c-4 a1-a
5-60 1f 19c0-40 5908-1a 66-3 3d0 e-2 52a4-a 16-15 2-c 1-13 1-4 93 1-20 1a-6 1a-6 7f-7 1-7 a-5
192-d 33-2d ca03-fa 6-1b4 9c-74 3c-f6 a-27 2-3e 3-11 8-2 7-1e 4-3d d5-14 c-14 c-57 1b-7 87-55
1-47 1-2 2 2-2 2-4 1-c 1 1-7 1-41 1-4 2-8 1-7 1-1c 1-4 1-5 1 3-7 1-154 2-124 2-32 1471-44 4c-3d
2c2-2c 4-64 c-f 2-f 1-f 1-25 a-ae 38-1a 1-2 d-2c 4-9 17-6 9a-3d8 4-11 3-d 3-77 4-5f 6-c 4 f-c
4-38 8-a 6-28 8-1e 2-c 4-2 3e-154 c-e 2-d 3-a 5-38 7-f 2-b 6-9 7-93 1-66 c0407 1e-60" },
  { names := ["copt", "qaac", "coptic"]
    ranges := "b7 248 3-2 1 6c-2 6c-e 2890-74 5-7 117 d4c8-1c" },
  { names := ["cprt", "cypriot"]
    ranges := "10100-3 4-2d 3-9 6c0-6 2 1-2c 1-2 3 2" },
  { names := ["cpmn", "cyprominoan"]
    ranges := "10100-2 2e8e-63" },
  { names := ["cyrl", "cyrillic"]
    ranges := "2bc 43-3 1 1 1 2 5 ee-130 1750-b a0 4c 7f fe7-20 43 77fc-60 578e-2 e200-3e 21" },
  { names := ["deva", "devanagari"]
    ranges := "2bc 643-53 2-2b 1350-27 1-2 3f6 873f-a a6-20 7200-a" },
  { names := ["dogr", "dogra"]
    ranges := "964-c 9ec0-a 6fc6-3c" },
  { names := ["dupl", "duployan"]
    ranges := "b7 24f-2 1 18-2 2b17 18dc3-6b 5-d 3-9 7-a 2-8" },
  { names := ["elba", "elbasan"]
    ranges := "b7 24d 101fa-28" },
  { names := ["ethi", "ethiopic"]
    ranges := "30e ef1-49 1-4 2-7 1 1-4 2-29 1-4 2-21 1-4 2-7 1 1-4 2-f 1-39 1-4 2-43 2-20 3-1a
19e6-17 9-7 1-7 1-7 1-7 1-7 1-7 1-7 1-7 7d22-6 2-6 2-6 9-7 1-7 13cb1-7 1-4 1-2 1-f" },
  { names := ["gara", "garay"]
    ranges := "60c e 3 10720-26 3-1d 8-2" },
  { names := ["geor", "georgian"]
    ranges := "b7 4d1 b16-26 1 5 2-30 b90-2b 2-3 39a ca5-26 1 5 103" },
  { names := ["glag", "glagolitic"]
    ranges := "b7 24b 1 17e 2 101 b71 f5e ba5-60 1e3 782b 13990-7 1-11 2-7 1-2 1-5" },
  { names := ["goth", "gothic"]
    ranges := "b7 24c-2 2 28 fffe-1b" },
  { names := ["gran", "grantha"]
    ranges := "951-2 11-2 280-e 10dc 1-2 1e-3 3-2 3f6 f20f-4 1-8 2-2 2-16 1-7 1-2 1-5 1-a 2-2
2-3 2 6 5-7 2-7 3-5 c5b-2 1" },
  { names := ["grek", "greek"]
    ranges := "b7 248-2 2 1 1 a 2e 2 2a-8 2-4 1 4 1 1-3 1 1-14 1-3f e-10 1926-5 32-5 4-5 54-3
13e-16 2-6 2-26 2-6 2-8 1 1 1 1-1f 2-35 1-f 1-e 2-6 1-13 2-3 1-9 5e c8 8a3e 55da-4f 11 d05f-46" },
  { names := ["gujr", "gujarati"]
    ranges := "951-2 11-2 11b-3 1-9 1-3 1-16 1-7 1-2 1-5 2-a 1-3 1-3 2 f-4 2-c 7-7 9d30-a" },
  { names := ["gong", "gunjalagondi"]
    ranges := "b7 8ac-2 113fa-6 1-2 1-25 1-2 1-6 7-a" },
  { names := ["guru", "gurmukhi"]
    ranges := "951-2 11-2 9b-3 1-6 4-2 2-16 1-7 1-2 1-2 1-2 2 1-5 4-2 2-3 3 7-4 1 7-11 9db9-a" },
  { names := ["gukh", "gurungkhema"]
    ranges := "965 1579a-3a" },
  { names := ["han", "hani"]
    ranges := "b7 2dc8-1a 1-59 c-d6 1a-10 1-3 1-d 1-d 1-d 2 6-9 bb 94-10 20-26 9 30-28 38-31 f-c
33 58-19 a-5 60-1f 1-19c0 40-5200 700-8 51f8-16e 2-6a 36b-2 11a-5 707c-2 c-2 636e-12 1ede-2
dae-a6e0 20-103a 6-de 2-1682 e-1d31 f-26e 9a2-21e 5e2-134b 5-1060" },
  { names := ["hang", "hangul"]
    ranges := "1100-100 1e01-3 4-a 1-d e-3 6 c3 35-5e 71-1f 41-1f 76e1-1d 283-2ba4 c-17 4-31
2649-2 11a-5 3a-1f 3-6 2-6 2-6 2-3" },
  { names := ["rohg", "hanifirohingya"]
    ranges := "60c e 3 20 93 1062b-28 8-a" },
  { names := ["hano", "hanunoo"]
    ranges := "1720-17" },
  { names := ["hebr", "hebrew"]
    ranges := "307-2 288-37 8-1b 4-6 f528-1a 1-5 1 1-2 1-2 1-a" },
  { names := ["hira", "hiragana"]
    ranges := "3001-3 4-a 1-d 10-6 1 4-2 3-56 2-8 5a-2 cd48-2 11a-5 a 2d-2 b061-11f 12 1d-3 40ad" },
  { names := ["qaai", "zinh", "inherited"]
    ranges := "30f 2 1-c 1-2 3-7 2 2-10 1-2 1-12 1-5 1-4 5f0-2 115b-1f 2f3-36 1 1-5 20c-2 c2-20
dd10-10 10-e 3cf cd02-2e 2-17 220-3 11-8 2-7 1e-4 c2f52-f0" },
  { names := ["java", "javanese"]
    ranges := "a980-4e 1-b 4-2" },
  { names := ["kthi", "kaithi"]
    ranges := "966-a 24c1 79fe-a 6846-43 a" },
  { names := ["knda", "kannada"]
    ranges := "951-2 11-2 31a-d 1-3 1-17 1-a 1-5 2-9 1-3 1-4 7-2 6-2 1-4 2-a 1-3 fdc 1-2 6 17 1
8b3b-6" },
  { names := ["kana", "katakana"]
    ranges := "305 1d 2cdd-3 4-a 1-d 10-6 1 4-2 5b-4 3-60 f0-10 d0-2f 1-58 caed-2 11a-3f b050-4
1-7 1-2 1 11f-3 32 e-4" },
  { names := ["kali", "kayahli"]
    ranges := "a900-30" },
  { names := ["khoj", "khojki"]
    ranges := "ae6-a 9d40-a 69c6-12 1-2f" },
  { names := ["sind", "khudawadi"]
    ranges := "964-2 9eca-a 6a76-3b 5-a" },
  { names := ["latn", "latin"]
    ranges := "41-1a 6-1a 2f c 2 5-17 1-1f 1-1c1 3 a 1-3 1 9 1 6-5 1b-f 1-2 1 c 2-3 7-2 1-2 26 5
4-d 115-2 4ca-2 7a8 c04-26 6-31 5-4 5-d 1-46 39 7-100 12f 41 d 10-d 53 39-2 6 1b 11-29 ad7-20
197 78e8-8 1a-66 3-43 2-2 1 1-8 15-e 12e 201-2b 1-9 1-4 4f96-7 41a-1a 6-1a 825-6 1-2a 1-9
d745-1f 6-6" },
  { names := ["limb", "limbu"]
    ranges := "965 f9a-1f 1-c 4-c 4 3-c" },
  { names := ["lina", "lineara"]
    ranges := "10107-2d 4cc-137 9-16 a-8" },
  { names := ["linb", "linearb"]
    ranges := "10000-c 1-1a 1-13 1-2 1-f 2-e 22-7b 5-3 4-2d 3-9" },
  { names := ["lisu"]
    ranges := "2bc 10 2d3c-2 74c4-30 7ab0" },
  { names := ["lyci", "lycian"]
    ranges := "205a e225-1d" },
  { names := ["lydi", "lydian"]
    ranges := "b7 2d79 daee-1a 5" },
  { names := ["mahj", "mahajani"]
    ranges := "b7 8ac-c 9ec0-a 6916-27" },
  { names := ["mlym", "malayalam"]
    ranges := "951-2 11-2 39a-d 1-3 1-33 1-3 1-6 4-10 2-1a f5a 17 8b3d-3" },
  { names := ["mand", "mandaic"]
    ranges := "640 1ff-1c 2" },
  { names := ["mani", "manichaean"]
    ranges := "640 1047f-27 4-c" },
  { names := ["gonm", "masaramgondi"]
    ranges := "964-2 1139a-7 1-2 1-2c 3 1-2 1-9 8-a" },
  { names := ["mero", "meroitichieroglyphs"]
    ranges := "205d e922-20" },
  { names := ["modi"]
    ranges := "a830-a 6dc6-45 b-a" },
  { names := ["mong", "mongolian"]
    ranges := "1800-1a 6-59 7-2b 784 fd1-2 5-4 e654-d" },
  { names := ["mult", "multani"]
    ranges := "a66-a 10810-7 1 1-4 1-f 1-b" },
  { names := ["mymr", "myanmar"]
    ranges := "1000-a0 988e b1-1f 61-20 6c50-14" },
  { names := ["nand", "nandinagari"]
    ranges := "964-2 380-a ff9 8 7 8b35-6 716a-8 2-2e 2-b" },
  { names := ["nko", "nkoo"]
    ranges := "60c e 3 1a0-3b 2-3 f53e-2" },
  { names := ["onao", "olonal"]
    ranges := "964-2 1dc6a-2b 4" },
  { names := ["hung", "oldhungarian"]
    ranges := "205a 2 dd3 f de3e-33 d-33 7-6" },
  { names := ["perm", "oldpermic"]
    ranges := "b7 248 5-3 a 16f fecc-2b" },
  { names := ["orkh", "oldturkic"]
    ranges := "205a dd5 ddcf-49" },
  { names := ["ougr", "olduyghur"]
    ranges := "640 104b1 47d-1a" },
  { names := ["orya", "oriya"]
    ranges := "951-2 11-2 19b-3 1-8 2-2 2-16 1-7 1-2 1-5 2-9 2-2 2-3 7-3 4-2 1-5 2-12 1162 17" },
  { names := ["osge", "osage"]
    ranges := "301 2 6 4c 10157-24 4-24" },
  { names := ["phag", "phagspa"]
    ranges := "1802-2 1 829 fd2 783d-38" },
  { names := ["phlp", "psalterpahlavi"]
    ranges := "640 1053f-12 7-4 c-7" },
  { names := ["runr", "runic"]
    ranges := "16a0-59" },
  { names := ["samr", "samaritan"]
    ranges := "800-2e 2-f 25f2" },
  { names := ["shrd", "sharada"]
    ranges := "951 1385 1 2-2 2 8b4f-6 2 6947-60" },
  { names := ["shaw", "shavian"]
    ranges := "b7 10398-30" },
  { names := ["sinh", "sinhala"]
    ranges := "964-2 41b-3 1-12 3-18 1-9 1 2-7 3 4-6 1 1-8 6-a 2-3 efd f4ee-14" },
  { names := ["sogd", "sogdian"]
    ranges := "640 108ef-2a" },
  { names := ["sunu", "sunuwar"]
    ranges := "300-2 1 9 2 1c 3 1188e-22 e-a" },
  { names := ["sylo", "sylotinagri"]
    ranges := "964-2 80-a 9e10-2d" },
  { names := ["syrc", "syriac"]
    ranges := "303-2 2-2 1 15 2-3 7-2 1 2db e-2 2 20 a-b 1a 8f-e 1-3c 2-3 110-b 158d 1" },
  { names := ["tglg", "tagalog"]
    ranges := "1700-16 9 15-2" },
  { names := ["tagb", "tagbanwa"]
    ranges := "1735-2 29-d 1-3 1-2" },
  { names := ["tale", "taile"]
    ranges := "300-2 5-2 3 d33-a 906-1e 2-5" },
  { names := ["takr", "takri"]
    ranges := "964-2 9eca-a 6e46-3a 6-a" },
  { names := ["taml", "tamil"]
    ranges := "951-2 11-2 21c-2 1-6 3-3 1-4 3-2 1 1-2 3-2 3-3 3-c 4-5 3-3 1-4 2 6 e-15 10df 8c18
6a0d 1 37-2 c83-32 d" },
  { names := ["tang", "tangut"]
    ranges := "2ff0-10 1ef 13df0 1f-17f8 8-300 200-9" },
  { names := ["telu", "telugu"]
    ranges := "951-2 11-2 29a-d 1-3 1-17 1-10 2-9 1-3 1-4 7-2 1-3 2 2-4 2-a 7-9 105a 17" },
  { names := ["thaa", "thaana"]
    ranges := "60c e-2 2 40-a 116-32 f640 a" },
  { names := ["thai"]
    ranges := "2bc 1a 2b 2d acf-3a 5-1c" },
  { names := ["tibt", "tibetan"]
    ranges := "f00-48 1-24 4-27 1-24 1-f 1-7 4-2 202d-4" },
  { names := ["tfng", "tifinagh"]
    ranges := "302 1 2 1 2a26-38 7-2 e" },
  { names := ["tirh", "tirhuta"]
    ranges := "951-2 11-2 138c 8b3d-a 6c46-48 8-a" },
  { names := ["todr", "todhri"]
    ranges := "301 2 2 9 1 4a 10261-34" },
  { names := ["toto"]
    ranges := "2bc 1dfd3-1f" },
  { names := ["tutg", "tulutigalari"]
    ranges := "ce6-a 1002 1 8b3b-6 bb 6a8e-a 1 2 1-26 1-a 1 2 1-4 1-a 1-2 8-2" },
  { names := ["yezi", "yezidi"]
    ranges := "60c e 3 40-a 10816-2a 1-3 2-2" },
  { names := ["yi", "yiii"]
    ranges := "3001-2 5-a 2-8 df 6f04-48d 3-37 5a9a-5" }]

/-- The scripts, decoded. -/
def scripts : Array Property :=
  (scriptData.map PropertyData.property).toArray

/-- The script extensions that differ from their scripts, decoded. -/
def scriptExtensions : Array Property :=
  (extensionData.map PropertyData.property).toArray

end Unicode
end IndexBench
