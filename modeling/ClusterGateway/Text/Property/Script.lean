import ClusterGateway.Text.CharSet

/-!
# Scripts

The Unicode script of a character.  `Script.table` lists every script with its four-letter code,
its full name and its characters, as runs (see `CharSet.ofRuns`).
-/

namespace ClusterGateway

namespace Text

namespace Script

/-- The scripts: code, name and characters. -/
def table : List (String × String × CharSet) := [
  ("Adlm", "Adlam", .ofRuns
    ["1E900 4C 4 A 4 2"]),
  ("Ahom", "Ahom", .ofRuns
    ["11700 1B 2 F 4 17"]),
  ("Hluw", "Anatolian_Hieroglyphs", .ofRuns
    ["14400 247"]),
  ("Arab", "Arabic", .ofRuns
    ["600 5 1 6 1 E 1 3 1 20 1 A B 1A 1 6C 1 22 50 30 F0 1F 1 2 6 4A 1 1D F250 73 10 16B 2 50 2",
     "36 7 1 20 10 70 5 1 87 F63 1F 7E 3 DF00 4 1 1B 1 2 1 1 2 1 1 A 1 4 1 1 1 1 6 1 4 1 1 1 1 1",
     "1 3 1 2 1 1 2 1 1 1 1 1 1 1 1 1 1 2 1 1 2 4 1 7 1 4 1 4 1 1 1 A 1 11 5 3 1 5 1 11 34 2"]),
  ("Armn", "Armenian", .ofRuns
    ["531 26 2 32 2 3 F583 5"]),
  ("Avst", "Avestan", .ofRuns
    ["10B00 36 3 7"]),
  ("Bali", "Balinese", .ofRuns
    ["1B00 4D 3 2F"]),
  ("Bamu", "Bamum", .ofRuns
    ["A6A0 58 C108 239"]),
  ("Bass", "Bassa_Vah", .ofRuns
    ["16AD0 1E 2 6"]),
  ("Batk", "Batak", .ofRuns
    ["1BC0 34 8 4"]),
  ("Beng", "Bengali", .ofRuns
    ["980 4 1 8 2 2 2 16 1 7 1 1 3 4 2 9 2 2 2 4 8 1 4 2 1 5 2 19"]),
  ("Bhks", "Bhaiksuki", .ofRuns
    ["11C00 9 1 2D 1 E A 1D"]),
  ("Bopo", "Bopomofo", .ofRuns
    ["2EA 2 2E19 2B 70 20"]),
  ("Brah", "Brahmi", .ofRuns
    ["11000 4E 4 24 9 1"]),
  ("Brai", "Braille", .ofRuns
    ["2800 100"]),
  ("Bugi", "Buginese", .ofRuns
    ["1A00 1C 2 2"]),
  ("Buhd", "Buhid", .ofRuns
    ["1740 14"]),
  ("Cans", "Canadian_Aboriginal", .ofRuns
    ["1400 280 230 46 101BA 10"]),
  ("Cari", "Carian", .ofRuns
    ["102A0 31"]),
  ("Aghb", "Caucasian_Albanian", .ofRuns
    ["10530 34 B 1"]),
  ("Cakm", "Chakma", .ofRuns
    ["11100 35 1 12"]),
  ("Cham", "Cham", .ofRuns
    ["AA00 37 9 E 2 A 2 4"]),
  ("Cher", "Cherokee", .ofRuns
    ["13A0 56 2 6 9772 50"]),
  ("Chrs", "Chorasmian", .ofRuns
    ["10FB0 1C"]),
  ("Zyyy", "Common", .ofRuns
    ["0 41 1A 6 1A 2F 1 F 1 5 17 1 1F 1 1C1 27 5 5 2 14 74 1 9 1 6 1 1 1 27D 1 6 1 E 1 3 1 20 1",
     "9C 1 204 1 81 2 4D9 1 195 4 122 1 5EF 3 47 2 CB 2 1 1 4CD 1 D 1 7 4 1 6 1 3 2 1 305 C 2 57",
     "1 B 3 B 1 F 11 21 3F 26 1 3 2 6 1 1B 1 11 29 3 4 297 19 B 15 3A0 100 274 2 20 1 69 200 5E",
     "192 C 4 5 1 1 1 19 F 8 4 4 5B 2 3 1 5A 2 93 10 20 24 3C 40 1F 51 2F 1 58 A8 19C0 40 5900",
     "22 66 3 A5 A F4 1 A0 1 18B 1 E 2 51D2 2 D0 A 16 23 1 13 1 4 93 1 1 20 1A 6 1A B A 1 2D 2",
     "40 7 1 7 A 5 102 3 4 2D 3 9 50 D 33 2D E4 1B B9A4 4 12AC 74 3C F6 A 27 2 3E 3 11 8 2 7 1E",
     "4 3D D5 14 C 14 C 57 9 19 87 55 1 47 1 2 2 1 2 2 2 4 1 C 1 1 1 7 1 41 1 4 2 8 1 7 1 1C 1 4",
     "1 5 1 1 3 7 1 154 2 124 2 32 1471 44 4C 3D 2C2 2C 4 64 C F 2 F 1 F 1 25 A AE 38 1A 1 2 D",
     "2C 4 9 7 2 E 6 9A 3D8 4 11 3 D 3 77 4 5F 6 C 4 1 F C 4 38 8 A 6 28 8 1E 2 2 4E 154 C E 2 D",
     "3 9 7 2E 1 7 8 E 4 9 7 9 7 93 1 37 25 A C0407 1 1E 60"]),
  ("Copt", "Coptic", .ofRuns
    ["3E2 E 2890 74 5 7"]),
  ("Xsux", "Cuneiform", .ofRuns
    ["12000 39A 66 6F 1 5 B C4"]),
  ("Cprt", "Cypriot", .ofRuns
    ["10800 6 2 1 1 2C 1 2 3 1 2 1"]),
  ("Cpmn", "Cypro_Minoan", .ofRuns
    ["12F90 63"]),
  ("Cyrl", "Cyrillic", .ofRuns
    ["400 85 2 A9 1750 9 A2 1 4C 1 1067 20 7840 60 578E 2 E200 3E 21 1"]),
  ("Dsrt", "Deseret", .ofRuns
    ["10400 50"]),
  ("Deva", "Devanagari", .ofRuns
    ["900 51 4 F 2 1A 9F60 20 7200 A"]),
  ("Diak", "Dives_Akuru", .ofRuns
    ["11900 7 2 1 2 8 1 2 1 1E 1 2 2 C 9 A"]),
  ("Dogr", "Dogra", .ofRuns
    ["11800 3C"]),
  ("Dupl", "Duployan", .ofRuns
    ["1BC00 6B 5 D 3 9 7 A 2 4"]),
  ("Egyp", "Egyptian_Hieroglyphs", .ofRuns
    ["13000 456"]),
  ("Elba", "Elbasan", .ofRuns
    ["10500 28"]),
  ("Elym", "Elymaic", .ofRuns
    ["10FE0 17"]),
  ("Ethi", "Ethiopic", .ofRuns
    ["1200 49 1 4 2 7 1 1 1 4 2 29 1 4 2 21 1 4 2 7 1 1 1 4 2 F 1 39 1 4 2 43 2 20 3 1A 19E6 17",
     "9 7 1 7 1 7 1 7 1 7 1 7 1 7 1 7 7D22 6 2 6 2 6 9 7 1 7 13CB1 7 1 4 1 2 1 F"]),
  ("Geor", "Georgian", .ofRuns
    ["10A0 26 1 1 5 1 2 2B 1 4 B90 2B 2 3 1040 26 1 1 5 1"]),
  ("Glag", "Glagolitic", .ofRuns
    ["2C00 60 1B3A0 7 1 11 2 7 1 2 1 5"]),
  ("Goth", "Gothic", .ofRuns
    ["10330 1B"]),
  ("Gran", "Grantha", .ofRuns
    ["11300 4 1 8 2 2 2 16 1 7 1 2 1 5 2 9 2 2 2 3 2 1 6 1 5 7 2 7 3 5"]),
  ("Grek", "Greek", .ofRuns
    ["370 4 1 3 2 4 1 1 4 1 1 1 1 3 1 1 1 14 1 3F E 10 1926 5 32 5 4 5 54 1 140 16 2 6 2 26 2 6",
     "2 8 1 1 1 1 1 1 1 1F 2 35 1 F 1 E 2 6 1 13 2 3 1 9 127 1 8A3E 1 55DA 4F 11 1 D05F 46"]),
  ("Gujr", "Gujarati", .ofRuns
    ["A81 3 1 9 1 3 1 16 1 7 1 2 1 5 2 A 1 3 1 3 2 1 F 4 2 C 7 7"]),
  ("Gong", "Gunjala_Gondi", .ofRuns
    ["11D60 6 1 2 1 25 1 2 1 6 7 A"]),
  ("Guru", "Gurmukhi", .ofRuns
    ["A01 3 1 6 4 2 2 16 1 7 1 2 1 2 1 2 2 1 1 5 4 2 2 3 3 1 7 4 1 1 7 11"]),
  ("Hani", "Han", .ofRuns
    ["2E80 1A 1 59 C D6 2F 1 1 1 19 9 E 4 3C4 19C0 40 5200 5900 16E 2 6A 7508 2 C 2 900E A6E0 20",
     "103A 6 DE 2 1682 E 1D31 C1F 21E 5E2 134B 5 1060"]),
  ("Hang", "Hangul", .ofRuns
    ["1100 100 1E2E 2 101 5E 71 1F 41 1F 76E1 1D 283 2BA4 C 17 4 31 27A4 1F 3 6 2 6 2 6 2 3"]),
  ("Rohg", "Hanifi_Rohingya", .ofRuns
    ["10D00 28 8 A"]),
  ("Hano", "Hanunoo", .ofRuns
    ["1720 15"]),
  ("Hatr", "Hatran", .ofRuns
    ["108E0 13 1 2 5 5"]),
  ("Hebr", "Hebrew", .ofRuns
    ["591 37 8 1B 4 6 F528 1A 1 5 1 1 1 2 1 2 1 A"]),
  ("Hira", "Hiragana", .ofRuns
    ["3041 56 6 3 17F61 11F 12 1 1D 3 40AD 1"]),
  ("Armi", "Imperial_Aramaic", .ofRuns
    ["10840 16 1 9"]),
  ("Zinh", "Inherited", .ofRuns
    ["300 70 115 2 1C4 B 1A 1 2E0 4 115B 1F 201 3 1 D 1 7 4 1 6 1 3 2 C6 40 20C 2 C2 21 F39 4 6B",
     "2 CD65 10 10 E 3CF 1 E2 1 105A 1 BBC4 2E 2 17 220 3 11 8 2 7 1E 4 C2F52 F0"]),
  ("Phli", "Inscriptional_Pahlavi", .ofRuns
    ["10B60 13 5 8"]),
  ("Prti", "Inscriptional_Parthian", .ofRuns
    ["10B40 16 2 8"]),
  ("Java", "Javanese", .ofRuns
    ["A980 4E 2 A 4 2"]),
  ("Kthi", "Kaithi", .ofRuns
    ["11080 43 A 1"]),
  ("Knda", "Kannada", .ofRuns
    ["C80 D 1 3 1 17 1 A 1 5 2 9 1 3 1 4 7 2 6 2 1 4 2 A 1 3"]),
  ("Kana", "Katakana", .ofRuns
    ["30A1 5A 2 3 F0 10 D0 2F 1 58 CC0E A 1 2D B052 4 1 7 1 2 1 1 11F 3 32 1 E 4"]),
  ("Kawi", "Kawi", .ofRuns
    ["11F00 11 1 29 3 1C"]),
  ("Kali", "Kayah_Li", .ofRuns
    ["A900 2E 1 1"]),
  ("Khar", "Kharoshthi", .ofRuns
    ["10A00 4 1 2 5 8 1 3 1 1D 2 3 4 A 7 9"]),
  ("Kits", "Khitan_Small_Script", .ofRuns
    ["16FE4 1 1B1B 1D6"]),
  ("Khmr", "Khmer", .ofRuns
    ["1780 5E 2 A 6 A 1E6 20"]),
  ("Khoj", "Khojki", .ofRuns
    ["11200 12 1 2F"]),
  ("Sind", "Khudawadi", .ofRuns
    ["112B0 3B 5 A"]),
  ("Laoo", "Lao", .ofRuns
    ["E81 2 1 1 1 5 1 18 1 1 1 17 2 5 1 1 1 7 1 A 2 4"]),
  ("Latn", "Latin", .ofRuns
    ["41 1A 6 1A 2F 1 F 1 5 17 1 1F 1 1C1 27 5 1A1B 26 6 31 5 4 5 D 1 46 41 100 171 1 D 1 10 D",
     "8D 2 6 1 1B 1 11 29 AD7 20 7AA2 66 3 40 5 2 1 1 1 5 18 E 330 2B 1 9 1 4 4F96 7 41A 1A 6 1A",
     "825 6 1 2A 1 9 D745 1F 6 6"]),
  ("Lepc", "Lepcha", .ofRuns
    ["1C00 38 3 F 3 3"]),
  ("Limb", "Limbu", .ofRuns
    ["1900 1F 1 C 4 C 4 1 3 C"]),
  ("Lina", "Linear_A", .ofRuns
    ["10600 137 9 16 A 8"]),
  ("Linb", "Linear_B", .ofRuns
    ["10000 C 1 1A 1 13 1 2 1 F 2 E 22 7B"]),
  ("Lisu", "Lisu", .ofRuns
    ["A4D0 30 7AB0 1"]),
  ("Lyci", "Lycian", .ofRuns
    ["10280 1D"]),
  ("Lydi", "Lydian", .ofRuns
    ["10920 1A 5 1"]),
  ("Mahj", "Mahajani", .ofRuns
    ["11150 27"]),
  ("Maka", "Makasar", .ofRuns
    ["11EE0 19"]),
  ("Mlym", "Malayalam", .ofRuns
    ["D00 D 1 3 1 33 1 3 1 6 4 10 2 1A"]),
  ("Mand", "Mandaic", .ofRuns
    ["840 1C 2 1"]),
  ("Mani", "Manichaean", .ofRuns
    ["10AC0 27 4 C"]),
  ("Marc", "Marchen", .ofRuns
    ["11C70 20 2 16 1 E"]),
  ("Gonm", "Masaram_Gondi", .ofRuns
    ["11D00 7 1 2 1 2C 3 1 1 2 1 9 8 A"]),
  ("Medf", "Medefaidrin", .ofRuns
    ["16E40 5B"]),
  ("Mtei", "Meetei_Mayek", .ofRuns
    ["AAE0 17 C9 2E 2 A"]),
  ("Mend", "Mende_Kikakui", .ofRuns
    ["1E800 C5 2 10"]),
  ("Merc", "Meroitic_Cursive", .ofRuns
    ["109A0 18 4 14 2 2E"]),
  ("Mero", "Meroitic_Hieroglyphs", .ofRuns
    ["10980 20"]),
  ("Plrd", "Miao", .ofRuns
    ["16F00 4B 4 39 7 11"]),
  ("Modi", "Modi", .ofRuns
    ["11600 45 B A"]),
  ("Mong", "Mongolian", .ofRuns
    ["1800 2 2 1 1 14 6 59 7 2B FDB5 D"]),
  ("Mroo", "Mro", .ofRuns
    ["16A40 1F 1 A 4 2"]),
  ("Mult", "Multani", .ofRuns
    ["11280 7 1 1 1 4 1 F 1 B"]),
  ("Mymr", "Myanmar", .ofRuns
    ["1000 A0 9940 1F 61 20"]),
  ("Nbat", "Nabataean", .ofRuns
    ["10880 1F 8 9"]),
  ("Nagm", "Nag_Mundari", .ofRuns
    ["1E4D0 2A"]),
  ("Nand", "Nandinagari", .ofRuns
    ["119A0 8 2 2E 2 B"]),
  ("Talu", "New_Tai_Lue", .ofRuns
    ["1980 2C 4 1A 6 B 3 2"]),
  ("Newa", "Newa", .ofRuns
    ["11400 5C 1 5"]),
  ("Nkoo", "Nko", .ofRuns
    ["7C0 3B 2 3"]),
  ("Nshu", "Nushu", .ofRuns
    ["16FE1 1 418E 18C"]),
  ("Hmnp", "Nyiakeng_Puachue_Hmong", .ofRuns
    ["1E100 2D 3 E 2 A 4 2"]),
  ("Ogam", "Ogham", .ofRuns
    ["1680 1D"]),
  ("Olck", "Ol_Chiki", .ofRuns
    ["1C50 30"]),
  ("Hung", "Old_Hungarian", .ofRuns
    ["10C80 33 D 33 7 6"]),
  ("Ital", "Old_Italic", .ofRuns
    ["10300 24 9 3"]),
  ("Narb", "Old_North_Arabian", .ofRuns
    ["10A80 20"]),
  ("Perm", "Old_Permic", .ofRuns
    ["10350 2B"]),
  ("Xpeo", "Old_Persian", .ofRuns
    ["103A0 24 4 E"]),
  ("Sogo", "Old_Sogdian", .ofRuns
    ["10F00 28"]),
  ("Sarb", "Old_South_Arabian", .ofRuns
    ["10A60 20"]),
  ("Orkh", "Old_Turkic", .ofRuns
    ["10C00 49"]),
  ("Ougr", "Old_Uyghur", .ofRuns
    ["10F70 1A"]),
  ("Orya", "Oriya", .ofRuns
    ["B01 3 1 8 2 2 2 16 1 7 1 2 1 5 2 9 2 2 2 3 7 3 4 2 1 5 2 12"]),
  ("Osge", "Osage", .ofRuns
    ["104B0 24 4 24"]),
  ("Osma", "Osmanya", .ofRuns
    ["10480 1E 2 A"]),
  ("Hmng", "Pahawh_Hmong", .ofRuns
    ["16B00 46 A A 1 7 1 15 5 13"]),
  ("Palm", "Palmyrene", .ofRuns
    ["10860 20"]),
  ("Pauc", "Pau_Cin_Hau", .ofRuns
    ["11AC0 39"]),
  ("Phag", "Phags_Pa", .ofRuns
    ["A840 38"]),
  ("Phnx", "Phoenician", .ofRuns
    ["10900 1C 3 1"]),
  ("Phlp", "Psalter_Pahlavi", .ofRuns
    ["10B80 12 7 4 C 7"]),
  ("Rjng", "Rejang", .ofRuns
    ["A930 24 B 1"]),
  ("Runr", "Runic", .ofRuns
    ["16A0 4B 3 B"]),
  ("Samr", "Samaritan", .ofRuns
    ["800 2E 2 F"]),
  ("Saur", "Saurashtra", .ofRuns
    ["A880 46 8 C"]),
  ("Shrd", "Sharada", .ofRuns
    ["11180 60"]),
  ("Shaw", "Shavian", .ofRuns
    ["10450 30"]),
  ("Sidd", "Siddham", .ofRuns
    ["11580 36 2 26"]),
  ("Sgnw", "SignWriting", .ofRuns
    ["1D800 28C F 5 1 F"]),
  ("Sinh", "Sinhala", .ofRuns
    ["D81 3 1 12 3 18 1 9 1 1 2 7 3 1 4 6 1 1 1 8 6 A 2 3 103EC 14"]),
  ("Sogd", "Sogdian", .ofRuns
    ["10F30 2A"]),
  ("Sora", "Sora_Sompeng", .ofRuns
    ["110D0 19 7 A"]),
  ("Soyo", "Soyombo", .ofRuns
    ["11A50 53"]),
  ("Sund", "Sundanese", .ofRuns
    ["1B80 40 100 8"]),
  ("Sylo", "Syloti_Nagri", .ofRuns
    ["A800 2D"]),
  ("Syrc", "Syriac", .ofRuns
    ["700 E 1 3C 2 3 110 B"]),
  ("Tglg", "Tagalog", .ofRuns
    ["1700 16 9 1"]),
  ("Tagb", "Tagbanwa", .ofRuns
    ["1760 D 1 3 1 2"]),
  ("Tale", "Tai_Le", .ofRuns
    ["1950 1E 2 5"]),
  ("Lana", "Tai_Tham", .ofRuns
    ["1A20 3F 1 1D 2 B 6 A 6 E"]),
  ("Tavt", "Tai_Viet", .ofRuns
    ["AA80 43 18 5"]),
  ("Takr", "Takri", .ofRuns
    ["11680 3A 6 A"]),
  ("Taml", "Tamil", .ofRuns
    ["B82 2 1 6 3 3 1 4 3 2 1 1 1 2 3 2 3 3 3 C 4 5 3 3 1 4 2 1 6 1 E 15 113C5 32 D 1"]),
  ("Tnsa", "Tangsa", .ofRuns
    ["16A70 4F 1 A"]),
  ("Tang", "Tangut", .ofRuns
    ["16FE0 1 1F 17F8 8 300 200 9"]),
  ("Telu", "Telugu", .ofRuns
    ["C00 D 1 3 1 17 1 10 2 9 1 3 1 4 7 2 1 3 2 1 2 4 2 A 7 9"]),
  ("Thaa", "Thaana", .ofRuns
    ["780 32"]),
  ("Thai", "Thai", .ofRuns
    ["E01 3A 5 1C"]),
  ("Tibt", "Tibetan", .ofRuns
    ["F00 48 1 24 4 27 1 24 1 F 1 7 4 2"]),
  ("Tfng", "Tifinagh", .ofRuns
    ["2D30 38 7 2 E 1"]),
  ("Tirh", "Tirhuta", .ofRuns
    ["11480 48 8 A"]),
  ("Toto", "Toto", .ofRuns
    ["1E290 1F"]),
  ("Ugar", "Ugaritic", .ofRuns
    ["10380 1E 1 1"]),
  ("Vaii", "Vai", .ofRuns
    ["A500 12C"]),
  ("Vith", "Vithkuqi", .ofRuns
    ["10570 B 1 F 1 7 1 2 1 B 1 F 1 7 1 2"]),
  ("Wcho", "Wancho", .ofRuns
    ["1E2C0 3A 5 1"]),
  ("Wara", "Warang_Citi", .ofRuns
    ["118A0 53 C 1"]),
  ("Yezi", "Yezidi", .ofRuns
    ["10E80 2A 1 3 2 2"]),
  ("Yiii", "Yi", .ofRuns
    ["A000 48D 3 37"]),
  ("Zanb", "Zanabazar_Square", .ofRuns
    ["11A00 48"])]

end Script

end Text

end ClusterGateway
