import PatternProse.Unicode.RangeTable

/-!
# Scripts

Every code point belongs to one script, and it may be used with several.

## Main definitions

* `script?` — the code points of a script, by name.
* `scriptExtensions?` — the code points used with a script, by its name.
-/

namespace PatternProse.Unicode

/-- The names of each script with the code points that belong to it. -/
def scriptTable : List (List String × List String) :=
  [
    (["Adlm", "Adlam"],
      ["1e900 4b 4 9 4 1"]),
    (["Aghb", "Caucasian_Albanian"],
      ["10530 33 b 0"]),
    (["Ahom"],
      ["11700 1a 2 e 4 16"]),
    (["Arab", "Arabic"],
      ["600 4 1 5 1 d 1 2 1 1f 1 9 b 19 1 6b 1 21 50 2f f0 21 5 4a 1 1c f250 1ed 2 8f 20 f 70 4",
       "1 86 f63 1e 43 5 8 8 21 5 df00 3 1 1a 1 1 1 0 2 0 1 9 1 3 1 0 1 0 6 0 4 0 1 0 1 0 1 2 1",
       "1 1 0 2 0 1 0 1 0 1 0 1 0 1 1 1 0 2 3 1 6 1 3 1 3 1 0 1 9 1 10 5 2 1 4 1 10 34 1"]),
    (["Armi", "Imperial_Aramaic"],
      ["10840 15 1 8"]),
    (["Armn", "Armenian"],
      ["531 25 2 31 2 2 f583 4"]),
    (["Avst", "Avestan"],
      ["10b00 35 3 6"]),
    (["Bali", "Balinese"],
      ["1b00 4c 1 31"]),
    (["Bamu", "Bamum"],
      ["a6a0 57 c108 238"]),
    (["Bass", "Bassa_Vah"],
      ["16ad0 1d 2 5"]),
    (["Batk", "Batak"],
      ["1bc0 33 8 3"]),
    (["Beng", "Bengali"],
      ["980 3 1 7 2 1 2 15 1 6 1 0 3 3 2 8 2 1 2 3 8 0 4 1 1 4 2 18"]),
    (["Berf", "Beria_Erfe"],
      ["16ea0 18 2 18"]),
    (["Bhks", "Bhaiksuki"],
      ["11c00 8 1 2c 1 d a 1c"]),
    (["Bopo", "Bopomofo"],
      ["2ea 1 2e19 2a 70 1f"]),
    (["Brah", "Brahmi"],
      ["11000 4d 4 23 9 0"]),
    (["Brai", "Braille"],
      ["2800 ff"]),
    (["Bugi", "Buginese"],
      ["1a00 1b 2 1"]),
    (["Buhd", "Buhid"],
      ["1740 13"]),
    (["Cakm", "Chakma"],
      ["11100 34 1 11"]),
    (["Cans", "Canadian_Aboriginal"],
      ["1400 27f 230 45 101ba f"]),
    (["Cari", "Carian"],
      ["102a0 30"]),
    (["Cham"],
      ["aa00 36 9 d 2 9 2 3"]),
    (["Cher", "Cherokee"],
      ["13a0 55 2 5 9772 4f"]),
    (["Chrs", "Chorasmian"],
      ["10fb0 1b"]),
    (["Copt", "Coptic", "Qaac"],
      ["3e2 d 2890 73 5 6"]),
    (["Cpmn", "Cypro_Minoan"],
      ["12f90 62"]),
    (["Cprt", "Cypriot"],
      ["10800 5 2 0 1 2b 1 1 3 0 2 0"]),
    (["Cyrl", "Cyrillic"],
      ["400 84 2 a8 1750 a a0 0 4c 0 1067 1f 7840 5f 578e 1 e200 3d 21 0"]),
    (["Deva", "Devanagari"],
      ["900 50 4 e 2 19 9f60 1f 7200 9"]),
    (["Diak", "Dives_Akuru"],
      ["11900 6 2 0 2 7 1 1 1 1d 1 1 2 b 9 9"]),
    (["Dogr", "Dogra"],
      ["11800 3b"]),
    (["Dsrt", "Deseret"],
      ["10400 4f"]),
    (["Dupl", "Duployan"],
      ["1bc00 6a 5 c 3 8 7 9 2 3"]),
    (["Egyp", "Egyptian_Hieroglyphs"],
      ["13000 455 a f9a"]),
    (["Elba", "Elbasan"],
      ["10500 27"]),
    (["Elym", "Elymaic"],
      ["10fe0 16"]),
    (["Ethi", "Ethiopic"],
      ["1200 48 1 3 2 6 1 0 1 3 2 28 1 3 2 20 1 3 2 6 1 0 1 3 2 e 1 38 1 3 2 42 2 1f 3 19 19e6",
       "16 9 6 1 6 1 6 1 6 1 6 1 6 1 6 1 6 7d22 5 2 5 2 5 9 6 1 6 13cb1 6 1 3 1 1 1 e"]),
    (["Gara", "Garay"],
      ["10d40 25 3 1c 8 1"]),
    (["Geor", "Georgian"],
      ["10a0 25 1 0 5 0 2 2a 1 3 b90 2a 2 2 1040 25 1 0 5 0"]),
    (["Glag", "Glagolitic"],
      ["2c00 5f 1b3a0 6 1 10 2 6 1 1 1 4"]),
    (["Gong", "Gunjala_Gondi"],
      ["11d60 5 1 1 1 24 1 1 1 5 7 9"]),
    (["Gonm", "Masaram_Gondi"],
      ["11d00 6 1 1 1 2b 3 0 1 1 1 8 8 9"]),
    (["Goth", "Gothic"],
      ["10330 1a"]),
    (["Gran", "Grantha"],
      ["11300 3 1 7 2 1 2 15 1 6 1 1 1 4 2 8 2 1 2 2 2 0 6 0 5 6 2 6 3 4"]),
    (["Grek", "Greek"],
      ["370 3 1 2 2 3 1 0 4 0 1 0 1 2 1 0 1 13 1 3e e f 1926 4 32 4 4 4 54 0 140 15 2 5 2 25 2",
       "5 2 7 1 0 1 0 1 0 1 1e 2 34 1 e 1 d 2 5 1 12 2 2 1 8 127 0 8a3e 0 55da 4e 11 0 d05f 45"]),
    (["Gujr", "Gujarati"],
      ["a81 2 1 8 1 2 1 15 1 6 1 1 1 4 2 9 1 2 1 2 2 0 f 3 2 b 7 6"]),
    (["Gukh", "Gurung_Khema"],
      ["16100 39"]),
    (["Guru", "Gurmukhi"],
      ["a01 2 1 5 4 1 2 15 1 6 1 1 1 1 1 1 2 0 1 4 4 1 2 2 3 0 7 3 1 0 7 10"]),
    (["Hang", "Hangul"],
      ["1100 ff 1e2e 1 101 5d 71 1e 41 1e 76e1 1c 283 2ba3 c 16 4 30 27a4 1e 3 5 2 5 2 5 2 2"]),
    (["Hani", "Han"],
      ["2e80 19 1 58 c d5 2f 0 1 0 19 8 e 3 3c4 19bf 40 51ff 5900 16d 2 69 7508 1 c 6 9009 a6df",
       "20 111d 2 168d 2 1d30 f 26d 9a2 21d 5e2 134a 5 2129"]),
    (["Hano", "Hanunoo"],
      ["1720 14"]),
    (["Hatr", "Hatran"],
      ["108e0 12 1 1 5 4"]),
    (["Hebr", "Hebrew"],
      ["591 36 8 1a 4 5 f528 19 1 4 1 0 1 1 1 1 1 9"]),
    (["Hira", "Hiragana"],
      ["3041 55 6 2 17f61 11e 12 0 1d 2 40ad 0"]),
    (["Hluw", "Anatolian_Hieroglyphs"],
      ["14400 246"]),
    (["Hmng", "Pahawh_Hmong"],
      ["16b00 45 a 9 1 6 1 14 5 12"]),
    (["Hmnp", "Nyiakeng_Puachue_Hmong"],
      ["1e100 2c 3 d 2 9 4 1"]),
    (["Hung", "Old_Hungarian"],
      ["10c80 32 d 32 7 5"]),
    (["Ital", "Old_Italic"],
      ["10300 23 9 2"]),
    (["Java", "Javanese"],
      ["a980 4d 2 9 4 1"]),
    (["Kali", "Kayah_Li"],
      ["a900 2d 1 0"]),
    (["Kana", "Katakana"],
      ["30a1 59 2 2 f0 f d0 2e 1 57 cc0e 9 1 2c b052 3 1 6 1 1 1 0 11f 2 32 0 e 3"]),
    (["Kawi"],
      ["11f00 10 1 28 3 1c"]),
    (["Khar", "Kharoshthi"],
      ["10a00 3 1 1 5 7 1 2 1 1c 2 2 4 9 7 8"]),
    (["Khmr", "Khmer"],
      ["1780 5d 2 9 6 9 1e6 1f"]),
    (["Khoj", "Khojki"],
      ["11200 11 1 2e"]),
    (["Kits", "Khitan_Small_Script"],
      ["16fe4 0 1b1b 1d5 29 0"]),
    (["Knda", "Kannada"],
      ["c80 c 1 2 1 16 1 9 1 4 2 8 1 2 1 3 7 1 5 2 1 3 2 9 1 2"]),
    (["Krai", "Kirat_Rai"],
      ["16d40 39"]),
    (["Kthi", "Kaithi"],
      ["11080 42 a 0"]),
    (["Lana", "Tai_Tham"],
      ["1a20 3e 1 1c 2 a 6 9 6 d"]),
    (["Laoo", "Lao"],
      ["e81 1 1 0 1 4 1 17 1 0 1 16 2 4 1 0 1 6 1 9 2 3"]),
    (["Latn", "Latin"],
      ["41 19 6 19 2f 0 f 0 5 16 1 1e 1 1c0 27 4 1a1b 25 6 30 5 3 5 c 1 45 41 ff 171 0 d 0 10 c",
       "8d 1 6 0 1b 0 11 28 ad7 1f 7aa2 65 3 51 14 e 330 2a 1 8 1 3 4f96 6 41a 19 6 19 825 5 1",
       "29 1 8 d745 1e 6 5"]),
    (["Lepc", "Lepcha"],
      ["1c00 37 3 e 3 2"]),
    (["Limb", "Limbu"],
      ["1900 1e 1 b 4 b 4 0 3 b"]),
    (["Lina", "Linear_A"],
      ["10600 136 9 15 a 7"]),
    (["Linb", "Linear_B"],
      ["10000 b 1 19 1 12 1 1 1 e 2 d 22 7a"]),
    (["Lisu"],
      ["a4d0 2f 7ab0 0"]),
    (["Lyci", "Lycian"],
      ["10280 1c"]),
    (["Lydi", "Lydian"],
      ["10920 19 5 0"]),
    (["Mahj", "Mahajani"],
      ["11150 26"]),
    (["Maka", "Makasar"],
      ["11ee0 18"]),
    (["Mand", "Mandaic"],
      ["840 1b 2 0"]),
    (["Mani", "Manichaean"],
      ["10ac0 26 4 b"]),
    (["Marc", "Marchen"],
      ["11c70 1f 2 15 1 d"]),
    (["Medf", "Medefaidrin"],
      ["16e40 5a"]),
    (["Mend", "Mende_Kikakui"],
      ["1e800 c4 2 f"]),
    (["Merc", "Meroitic_Cursive"],
      ["109a0 17 4 13 2 2d"]),
    (["Mero", "Meroitic_Hieroglyphs"],
      ["10980 1f"]),
    (["Mlym", "Malayalam"],
      ["d00 c 1 2 1 32 1 2 1 5 4 f 2 19"]),
    (["Modi"],
      ["11600 44 b 9"]),
    (["Mong", "Mongolian"],
      ["1800 1 2 0 1 13 6 58 7 2a fdb5 c"]),
    (["Mroo", "Mro"],
      ["16a40 1e 1 9 4 1"]),
    (["Mtei", "Meetei_Mayek"],
      ["aae0 16 c9 2d 2 9"]),
    (["Mult", "Multani"],
      ["11280 6 1 0 1 3 1 e 1 a"]),
    (["Mymr", "Myanmar"],
      ["1000 9f 9940 1e 61 1f 6c50 13"]),
    (["Nagm", "Nag_Mundari"],
      ["1e4d0 29"]),
    (["Nand", "Nandinagari"],
      ["119a0 7 2 2d 2 a"]),
    (["Narb", "Old_North_Arabian"],
      ["10a80 1f"]),
    (["Nbat", "Nabataean"],
      ["10880 1e 8 8"]),
    (["Newa"],
      ["11400 5b 1 4"]),
    (["Nkoo", "Nko"],
      ["7c0 3a 2 2"]),
    (["Nshu", "Nushu"],
      ["16fe1 0 418e 18b"]),
    (["Ogam", "Ogham"],
      ["1680 1c"]),
    (["Olck", "Ol_Chiki"],
      ["1c50 2f"]),
    (["Onao", "Ol_Onal"],
      ["1e5d0 2a 4 0"]),
    (["Orkh", "Old_Turkic"],
      ["10c00 48"]),
    (["Orya", "Oriya"],
      ["b01 2 1 7 2 1 2 15 1 6 1 1 1 4 2 8 2 1 2 2 7 2 4 1 1 4 2 11"]),
    (["Osge", "Osage"],
      ["104b0 23 4 23"]),
    (["Osma", "Osmanya"],
      ["10480 1d 2 9"]),
    (["Ougr", "Old_Uyghur"],
      ["10f70 19"]),
    (["Palm", "Palmyrene"],
      ["10860 1f"]),
    (["Pauc", "Pau_Cin_Hau"],
      ["11ac0 38"]),
    (["Perm", "Old_Permic"],
      ["10350 2a"]),
    (["Phag", "Phags_Pa"],
      ["a840 37"]),
    (["Phli", "Inscriptional_Pahlavi"],
      ["10b60 12 5 7"]),
    (["Phlp", "Psalter_Pahlavi"],
      ["10b80 11 7 3 c 6"]),
    (["Phnx", "Phoenician"],
      ["10900 1b 3 0"]),
    (["Plrd", "Miao"],
      ["16f00 4a 4 38 7 10"]),
    (["Prti", "Inscriptional_Parthian"],
      ["10b40 15 2 7"]),
    (["Rjng", "Rejang"],
      ["a930 23 b 0"]),
    (["Rohg", "Hanifi_Rohingya"],
      ["10d00 27 8 9"]),
    (["Runr", "Runic"],
      ["16a0 4a 3 a"]),
    (["Samr", "Samaritan"],
      ["800 2d 2 e"]),
    (["Sarb", "Old_South_Arabian"],
      ["10a60 1f"]),
    (["Saur", "Saurashtra"],
      ["a880 45 8 b"]),
    (["Sgnw", "SignWriting"],
      ["1d800 28b f 4 1 e"]),
    (["Shaw", "Shavian"],
      ["10450 2f"]),
    (["Shrd", "Sharada"],
      ["11180 5f 980 7"]),
    (["Sidd", "Siddham"],
      ["11580 35 2 25"]),
    (["Sidt", "Sidetic"],
      ["10940 19"]),
    (["Sind", "Khudawadi"],
      ["112b0 3a 5 9"]),
    (["Sinh", "Sinhala"],
      ["d81 2 1 11 3 17 1 8 1 0 2 6 3 0 4 5 1 0 1 7 6 9 2 2 103ec 13"]),
    (["Sogd", "Sogdian"],
      ["10f30 29"]),
    (["Sogo", "Old_Sogdian"],
      ["10f00 27"]),
    (["Sora", "Sora_Sompeng"],
      ["110d0 18 7 9"]),
    (["Soyo", "Soyombo"],
      ["11a50 52"]),
    (["Sund", "Sundanese"],
      ["1b80 3f 100 7"]),
    (["Sunu", "Sunuwar"],
      ["11bc0 21 e 9"]),
    (["Sylo", "Syloti_Nagri"],
      ["a800 2c"]),
    (["Syrc", "Syriac"],
      ["700 d 1 3b 2 2 110 a"]),
    (["Tagb", "Tagbanwa"],
      ["1760 c 1 2 1 1"]),
    (["Takr", "Takri"],
      ["11680 39 6 9"]),
    (["Tale", "Tai_Le"],
      ["1950 1d 2 4"]),
    (["Talu", "New_Tai_Lue"],
      ["1980 2b 4 19 6 a 3 1"]),
    (["Taml", "Tamil"],
      ["b82 1 1 5 3 2 1 3 3 1 1 0 1 1 3 1 3 2 3 b 4 4 3 2 1 3 2 0 6 0 e 14 113c5 31 d 0"]),
    (["Tang", "Tangut"],
      ["16fe0 0 1f 1aff 200 1e 61 72"]),
    (["Tavt", "Tai_Viet"],
      ["aa80 42 18 4"]),
    (["Tayo", "Tai_Yo"],
      ["1e6c0 1e 1 15 8 1"]),
    (["Telu", "Telugu"],
      ["c00 c 1 2 1 16 1 f 2 8 1 2 1 3 7 1 1 2 1 1 2 3 2 9 7 8"]),
    (["Tfng", "Tifinagh"],
      ["2d30 37 7 1 e 0"]),
    (["Tglg", "Tagalog"],
      ["1700 15 9 0"]),
    (["Thaa", "Thaana"],
      ["780 31"]),
    (["Thai"],
      ["e01 39 5 1b"]),
    (["Tibt", "Tibetan"],
      ["f00 47 1 23 4 26 1 23 1 e 1 6 4 1"]),
    (["Tirh", "Tirhuta"],
      ["11480 47 8 9"]),
    (["Tnsa", "Tangsa"],
      ["16a70 4e 1 9"]),
    (["Todr", "Todhri"],
      ["105c0 33"]),
    (["Tols", "Tolong_Siki"],
      ["11db0 2b 4 9"]),
    (["Toto"],
      ["1e290 1e"]),
    (["Tutg", "Tulu_Tigalari"],
      ["11380 9 1 0 2 0 1 25 1 9 1 0 2 0 1 3 1 9 1 1 8 1"]),
    (["Ugar", "Ugaritic"],
      ["10380 1d 1 0"]),
    (["Vaii", "Vai"],
      ["a500 12b"]),
    (["Vith", "Vithkuqi"],
      ["10570 a 1 e 1 6 1 1 1 a 1 e 1 6 1 1"]),
    (["Wara", "Warang_Citi"],
      ["118a0 52 c 0"]),
    (["Wcho", "Wancho"],
      ["1e2c0 39 5 0"]),
    (["Xpeo", "Old_Persian"],
      ["103a0 23 4 d"]),
    (["Xsux", "Cuneiform"],
      ["12000 399 66 6e 1 4 b c3"]),
    (["Yezi", "Yezidi"],
      ["10e80 29 1 2 2 1"]),
    (["Yiii", "Yi"],
      ["a000 48c 3 36"]),
    (["Zanb", "Zanabazar_Square"],
      ["11a00 47"]),
    (["Zinh", "Inherited", "Qaai"],
      ["300 6f 115 1 1c4 a 1a 0 2e0 3 115b 2d 2 b 1e4 2 1 c 1 6 4 0 6 0 3 1 c6 3f 20c 1 c2 20",
       "f39 3 6b 1 cd65 f 10 d 3cf 0 e2 0 105a 0 bbc4 2d 2 16 220 2 11 7 2 6 1e 3 c2f52 ef"]),
    (["Zyyy", "Common"],
      ["0 40 1a 5 1a 2e 1 e 1 4 17 0 1f 0 1c1 26 5 4 2 13 74 0 9 0 6 0 1 0 27d 0 6 0 e 0 3 0 20",
       "0 9c 0 204 0 81 1 4d9 0 195 3 122 0 5ef 2 47 1 cb 1 1 0 4cd 0 d 0 7 3 1 5 1 2 2 0 305 b",
       "2 56 1 a 3 a 1 e 11 21 3e 25 1 2 2 5 1 1a 1 10 29 2 4 299 16 a 15 39f 100 273 2 89 200",
       "5d 192 14 1 0 1 18 f 7 4 3 5b 1 3 0 5a 1 93 f 20 25 9 0 30 3f 1f 50 2f 0 58 a7 19c0 3f",
       "5900 21 66 2 a5 9 f4 0 a0 0 18b 0 e 1 51d2 1 d0 9 16 22 1 12 1 3 93 0 1 1f 1a 5 1a a a",
       "0 2d 1 40 6 1 6 a 4 102 2 4 2c 3 8 50 c 33 2c e4 1a b9a4 3 f5c fc 3 1b3 6 16 f 10 5f 73",
       "3c f5 a 26 2 3d 3 10 8 1 7 1d 4 3c d5 13 c 13 c 56 9 18 87 54 1 46 1 1 2 0 2 1 2 3 1 b",
       "1 0 1 6 1 40 1 3 2 7 1 6 1 1b 1 3 1 4 1 0 3 6 1 153 2 123 2 31 1471 43 4c 3c 2c2 2b 4",
       "63 c e 2 e 1 e 1 24 a ad 38 19 1 1 d 2b 4 8 7 1 e 5 9a 3d8 3 10 3 c 3 d9 6 b 4 0 f b 4",
       "37 8 9 6 27 8 1d 2 b 4 1 e 8 27 157 8 d 2 c 3 a 3 38 1 0 4 f 2 b 4 9 7 92 1 66 c0406 0",
       "1e 5f"]),
    (["Zzzz", "Unknown"],
      ["378 1 6 3 7 0 1 0 14 0 18d 0 26 1 32 1 3 0 37 7 1b 3 6 a 10e 0 3c 1 65 d 3b 1 31 1 f 0",
       "1c 1 1 0 b 4 22 4 ed 0 8 1 2 1 16 0 7 0 1 2 4 1 9 1 2 1 4 7 1 3 2 0 5 1 19 1 3 0 6 3 2",
       "1 16 0 7 0 2 0 2 0 2 1 1 0 5 3 2 1 3 2 1 6 4 0 1 6 11 9 3 0 9 0 3 0 16 0 7 0 2 0 5 1 a",
       "0 3 0 3 1 1 e 4 1 c 6 7 0 3 0 8 1 2 1 16 0 7 0 2 0 5 1 9 1 2 1 3 6 3 3 2 0 5 1 12 9 2 0",
       "6 2 3 0 4 2 2 0 1 0 2 2 2 2 3 2 c 3 5 2 3 0 4 1 1 5 1 d 15 4 d 0 3 0 17 0 10 1 9 0 3 0",
       "4 6 2 0 3 0 2 1 4 1 a 6 16 0 3 0 17 0 a 0 5 1 9 0 3 0 4 6 2 4 3 0 4 1 a 0 3 b d 0 3 0",
       "33 0 3 0 6 3 10 1 1a 0 3 0 12 2 18 0 9 0 1 1 7 2 1 3 6 0 1 0 8 5 a 1 3 b 3a 3 1d 24 2 0",
       "1 0 5 0 18 0 1 0 17 1 5 0 1 0 7 0 a 1 4 1f 48 0 24 3 27 0 24 0 f 0 d 24 c6 0 1 4 1 1",
       "179 0 4 1 7 0 1 0 4 1 29 0 4 1 21 0 4 1 7 0 1 0 4 1 f 0 39 0 4 1 43 1 20 2 1a 5 56 1 6",
       "1 29d 2 59 6 16 8 18 8 14 b d 0 3 0 2 b 5e 1 a 5 a 5 1a 5 59 6 2b 4 46 9 1f 0 c 3 c 3 1",
       "2 2a 1 5 a 2c 3 1a 5 b 2 3e 1 41 0 1d 1 b 5 a 5 e 1 2e 1 c 13 4d 0 a6 7 3c 2 f 2 3e 4",
       "2b 1 b 7 2b 4 216 1 6 1 26 1 6 1 8 0 1 0 1 0 1 0 1f 1 35 0 f 0 e 1 6 0 13 1 3 0 9 0 65",
       "0 c 1 1b 0 d 2 22 d 21 e 8c 3 29a 15 b 14 714 1 17e 4 2d 0 1 4 1 1 38 6 2 d 18 8 7 0 7",
       "0 7 0 7 0 7 0 7 0 7 0 7 0 7e 21 1a 0 59 b d6 19 50 0 56 1 67 4 2b 0 5e 0 56 8 30 0 726d",
       "2 37 8 15c 13 b8 7 dd 13 3c 2 a 5 38 7 46 7 c 5 74 a 1e 2 4e 0 b 3 21 0 37 8 e 1 a 1 67",
       "17 1c 9 6 1 6 1 6 8 7 0 7 0 3c 3 7e 1 a 5 2ba4 b 17 3 31 2103 16e 1 6a 25 7 b 5 4 1a 0",
       "5 0 1 0 2 0 2 0 28a 1f 2a 5 33 0 13 0 4 3 5 0 87 1 1 0 be 2 6 1 6 1 6 1 3 2 7 0 7 9 5 1",
       "c 0 1a 0 13 0 2 0 f 1 e 21 7b 4 3 3 2d 2 58 0 d 2 1 2e 2e 81 1d 2 31 e 1c 3 24 8 1e 4",
       "2b 4 1e 0 25 3 e 29 9e 1 a 5 24 3 24 3 28 7 34 a c 0 f 0 7 0 2 0 b 0 f 0 7 0 2 2 34 b",
       "137 8 16 9 8 17 6 0 2a 0 9 44 6 1 1 0 2c 0 2 2 1 1 17 0 48 7 9 2f 13 0 2 4 21 2 1b 4 1b",
       "25 38 3 14 1 32 0 2 4 8 0 3 0 1d 1 3 3 a 6 9 6 40 1f 27 3 c 8 36 2 1d 1 1b 4 1a 6 4 b 7",
       "4f 49 36 33 c 33 6 2e 7 a 5 26 2 1d 7 2 cf 1f 0 2a 0 3 1 2 f 6 7 9 20 2e 7 2a 15 1a 25",
       "1c 13 17 8 4e 3 24 8 44 9 1 1 19 6 a 5 35 0 12 7 27 8 60 0 14 a 12 0 2f 3d 7 0 1 0 4 0",
       "f 0 b 5 3b 4 a 5 4 0 8 1 2 1 16 0 7 0 2 0 5 0 a 1 2 1 3 1 1 5 1 4 7 1 7 2 5 a a 0 1 1 1",
       "0 26 0 a 0 1 1 1 0 4 0 a 0 2 7 2 1c 5c 0 5 1d 48 7 a a5 36 1 26 21 45 a a 5 d 12 3a 5 a",
       "5 14 1b 1b 1 f 3 17 b8 3c 63 53 b 8 1 1 1 8 0 2 0 1e 0 2 1 c 8 a 45 8 1 2e 1 b 1a 48 7",
       "53 c 49 6 a 55 8 57 22 d a 5 9 0 2d 0 e 9 1d 2 20 1 16 0 e 48 7 0 2 0 2c 2 1 0 2 0 9 7",
       "a 5 6 0 2 0 25 0 2 0 6 6 a 5 2c 3 a f5 19 6 11 0 29 2 1d 54 1 e 32 c 39b 65 6f 0 5 a c4",
       "a4b 63 c 456 9 f9b 4 247 1ab8 3a 6c5 239 6 1f 0 a 3 51 0 a 5 1e 1 6 9 46 9 a 0 7 0 15 4",
       "13 1af 3a c5 5b 4 19 1 19 2b 4b 3 39 6 11 3f 5 a 7 8 1cd6 28 20 60 73 21fc 4 0 7 0 2 0",
       "123 e 1 1c 3 1 1 d 4 7 18c 903 6b 4 d 2 9 6 a 1 8 f5b fd 2 1b4 5 17 e 11 e 2e 1 17 8 74",
       "3b f6 9 27 1 c2 14 46 79 14 b 14 b 57 8 19 86 55 0 47 0 2 1 1 1 2 1 4 0 c 0 1 0 7 0 41",
       "0 4 1 8 0 7 0 1c 0 4 0 5 0 1 2 7 0 154 1 124 1 2be e 5 0 f 44f 1f 5 6 d4 7 0 11 1 7 0 2",
       "0 5 4 3e 20 1 6f 2d 2 e 1 a 3 2 13f 1f 10 3a 4 1 1cf 2a d5 2b 3 1 bf 1f 0 16 7 2 df 7 0",
       "4 0 2 0 f 0 c5 1 10 28 4c 3 a 3 2 310 44 4b 3d c1 4 0 1b 0 2 0 1 1 1 0 a 0 4 0 1 0 1 5",
       "1 3 1 0 1 0 1 0 3 0 2 0 1 1 1 0 1 0 1 0 1 0 1 0 2 0 1 1 4 0 7 0 4 0 4 0 1 0 a 0 11 4 3",
       "0 5 0 11 33 2 10d 2c 3 64 b f 1 f 0 f 0 25 9 ae 37 1d c 2c 3 9 6 2 d 6 99 3d9 2 11 2 d",
       "2 da 5 c 3 1 e c 3 38 7 a 5 28 7 1e 1 c 3 2 d 9 26 158 7 e 1 d 2 b 2 39 0 1 3 10 1 c 3",
       "a 6 93 0 67 404 a6e0 1f 111e 1 168e 1 1d31 e 26e 9a1 21e 5e1 134b 4 212a acb86 1 1d 60",
       "7f f0 2fe0f"])
  ]

/-- The scripts whose use does not coincide with belonging to them, by short name, with the code
points used with each. -/
def scriptExtensionsTable : List (String × List String) :=
  [
    ("Adlm",
      ["61f 0 20 0 1a0e 0 df1 0 1babe 4b 4 9 4 1"]),
    ("Aghb",
      ["304 0 2c 0 2c 0 101d1 33 b 0"]),
    ("Arab",
      ["600 4 1 d6 1 21 50 2f f0 21 5 4a 1 1c 174f 0 df1 0 cd0e 27f 20 f 70 4 1 86 3e3 1b b64",
       "1e 43 5 8 8 21 5 df00 3 1 1a 1 1 1 0 2 0 1 9 1 3 1 0 1 0 6 0 4 0 1 0 1 0 1 2 1 1 1 0 2",
       "0 1 0 1 0 1 0 1 0 1 1 1 0 2 3 1 6 1 3 1 3 1 0 1 9 1 10 5 2 1 4 1 10 34 1"]),
    ("Armn",
      ["308 0 228 25 2 31 2 2 f583 4"]),
    ("Avst",
      ["b7 0 2d78 1 dcce 35 3 6"]),
    ("Beng",
      ["2bc 0 694 1 11 1 1a 3 1 7 2 1 2 15 1 6 1 0 3 3 2 8 2 1 2 3 8 0 4 1 1 4 2 18 12d1 0 1 0",
       "2 1 1 0 8 0 8 0 2 0 4 0 2 2 8bf9 0"]),
    ("Bopo",
      ["2c7 0 1 2 d 0 10 1 2d15 2 4 9 1 c a 3 2 0 6 0 c3 0 9 2a 70 1f cc85 1 11a 4"]),
    ("Bugi",
      ["1a00 1b 2 1 8faf 0"]),
    ("Buhd",
      ["1735 1 9 13"]),
    ("Cakm",
      ["9e6 9 650 9 100b6 34 1 11"]),
    ("Cari",
      ["b7 0 1fa2 0 2 0 dd3 0 d46e 30"]),
    ("Cher",
      ["300 2 1 0 6 1 16 1 b 1 106e 55 2 5 9772 4f"]),
    ("Copt",
      ["b7 0 248 0 3 1 1 0 6c 1 6c d 2890 73 5 6 117 0 d4c8 1b"]),
    ("Cpmn",
      ["10100 1 2e8e 62"]),
    ("Cprt",
      ["10100 2 4 2c 3 8 6c0 5 2 0 1 2b 1 1 3 0 2 0"]),
    ("Cyrl",
      ["2bc 0 43 2 1 0 1 0 1 0 2 0 5 0 ee 12f 1750 a a0 0 4c 0 7f 0 fe7 1f 43 0 77fc 5f 578e 1",
       "e200 3d 21 0"]),
    ("Deva",
      ["2bc 0 643 52 2 2a 1350 26 1 1 3f6 0 873f 9 a6 1f 7200 9"]),
    ("Dogr",
      ["964 b 9ec0 9 6fc6 3b"]),
    ("Dupl",
      ["b7 0 24f 1 1 0 18 1 2b17 0 18dc3 6a 5 c 3 8 7 9 2 7"]),
    ("Elba",
      ["b7 0 24d 0 101fa 27"]),
    ("Ethi",
      ["30e 0 ef1 48 1 3 2 6 1 0 1 3 2 28 1 3 2 20 1 3 2 6 1 0 1 3 2 e 1 38 1 3 2 42 2 1f 3 19",
       "19e6 16 9 6 1 6 1 6 1 6 1 6 1 6 1 6 1 6 7d22 5 2 5 2 5 9 6 1 6 13cb1 6 1 3 1 1 1 e"]),
    ("Gara",
      ["60c 0 e 0 3 0 10720 25 3 1c 8 1"]),
    ("Geor",
      ["b7 0 4d1 0 b16 25 1 0 5 0 2 2f b90 2a 2 2 39a 0 ca5 25 1 0 5 0 103 0"]),
    ("Glag",
      ["b7 0 24b 0 1 0 17e 0 2 0 101 0 b71 0 f5e 0 ba5 5f 1e3 0 782b 0 13990 6 1 10 2 6 1 1 1 4"]),
    ("Gong",
      ["b7 0 8ac 1 113fa 5 1 1 1 24 1 1 1 5 7 9"]),
    ("Gonm",
      ["964 1 1139a 6 1 1 1 2b 3 0 1 1 1 8 8 9"]),
    ("Goth",
      ["b7 0 24c 1 2 0 28 0 fffe 1a"]),
    ("Gran",
      ["951 1 11 1 280 d 10dc 0 1 1 1e 2 3 1 3f6 0 f20f 3 1 7 2 1 2 15 1 6 1 1 1 4 1 9 2 1 2 2",
       "2 0 6 0 5 6 2 6 3 4 c5b 1 1 0"]),
    ("Grek",
      ["b7 0 248 1 2 0 1 0 1 0 a 0 2e 0 2 0 2a 7 2 3 1 0 4 0 1 0 1 2 1 0 1 13 1 3e e f 1926 4",
       "32 4 4 4 54 2 13e 15 2 5 2 25 2 5 2 7 1 0 1 0 1 0 1 1e 2 34 1 e 1 d 2 5 1 12 2 2 1 8 5e",
       "0 c8 0 8a3e 0 55da 4e 11 0 d05f 45"]),
    ("Gujr",
      ["951 1 11 1 11b 2 1 8 1 2 1 15 1 6 1 1 1 4 2 9 1 2 1 2 2 0 f 3 2 b 7 6 9d30 9"]),
    ("Gukh",
      ["965 0 1579a 39"]),
    ("Guru",
      ["951 1 11 1 9b 2 1 5 4 1 2 15 1 6 1 1 1 1 1 1 2 0 1 4 4 1 2 2 3 0 7 3 1 0 7 10 9db9 9"]),
    ("Hang",
      ["1100 ff 1e01 2 4 9 1 c e 2 6 0 c3 0 35 5d 71 1e 41 1e 76e1 1c 283 2ba3 c 16 4 30 2649 1",
       "11a 4 3a 1e 3 5 2 5 2 5 2 2"]),
    ("Hani",
      ["b7 0 2dc8 19 1 58 c d5 1a f 1 2 1 c 1 c 1 c 2 0 6 8 bb 0 94 f 20 25 9 0 30 27 38 30 f b",
       "33 0 58 18 a 4 60 1e 1 19bf 40 51ff 700 7 51f8 16d 2 69 36b 1 11a 4 707c 1 c 6 6369 11",
       "1ede 1 dae a6df 20 111d 2 168d 2 1d30 f 26d 9a2 21d 5e2 134a 5 2129"]),
    ("Hano",
      ["1720 16"]),
    ("Hebr",
      ["307 1 288 36 8 1a 4 5 f528 19 1 4 1 0 1 1 1 1 1 9"]),
    ("Hira",
      ["3001 2 4 9 1 c 10 5 1 0 4 1 3 55 2 7 5a 1 cd48 1 11a 4 a 0 2d 1 b061 11e 12 0 1d 2 40ad",
       "0"]),
    ("Hung",
      ["205a 0 2 0 dd3 0 f 0 de3e 32 d 32 7 5"]),
    ("Java",
      ["a980 4d 1 a 4 1"]),
    ("Kali",
      ["a900 2f"]),
    ("Kana",
      ["305 0 1d 0 2cdd 2 4 9 1 c 10 5 1 0 4 1 5b 3 3 5f f0 f d0 2e 1 57 caed 1 11a 3e b050 3 1",
       "6 1 1 1 0 11f 2 32 0 e 3"]),
    ("Khoj",
      ["ae6 9 9d40 9 69c6 11 1 2e"]),
    ("Knda",
      ["951 1 11 1 31a c 1 2 1 16 1 9 1 4 2 8 1 2 1 3 7 1 5 2 1 3 2 9 1 2 fdc 0 1 1 6 0 17 0 1",
       "0 8b3b 5"]),
    ("Kthi",
      ["966 9 24c1 0 79fe 9 6846 42 a 0"]),
    ("Latn",
      ["41 19 6 19 2f 0 c 0 2 0 5 16 1 1e 1 1c0 3 0 a 0 1 2 1 0 9 0 1 0 6 4 1b e 1 1 1 0 f 2 7",
       "1 1 1 26 0 5 0 4 c 115 1 4ca 1 7a8 0 c04 25 6 30 5 3 5 c 1 45 39 0 7 ff 12f 0 41 0 d 0",
       "10 c 53 0 39 1 6 0 1b 0 11 28 ad7 1f 197 0 78e8 7 1a 65 3 51 14 e 12e 0 201 2a 1 8 1 3",
       "4f96 6 41a 19 6 19 825 5 1 29 1 8 d745 1e 6 5"]),
    ("Limb",
      ["965 0 f9a 1e 1 b 4 b 4 0 3 b"]),
    ("Lina",
      ["10107 2c 4cc 136 9 15 a 7"]),
    ("Linb",
      ["10000 b 1 19 1 12 1 1 1 e 2 d 22 7a 5 2 4 2c 3 8"]),
    ("Lisu",
      ["2bc 0 10 0 2d3c 1 74c4 2f 7ab0 0"]),
    ("Lyci",
      ["205a 0 e225 1c"]),
    ("Lydi",
      ["b7 0 2d79 0 daee 19 5 0"]),
    ("Mahj",
      ["b7 0 8ac b 9ec0 9 6916 26"]),
    ("Mand",
      ["640 0 1ff 1b 2 0"]),
    ("Mani",
      ["640 0 1047f 26 4 b"]),
    ("Mero",
      ["205d 0 e922 1f"]),
    ("Mlym",
      ["951 1 11 1 39a c 1 2 1 32 1 2 1 5 4 f 2 19 f5a 0 17 0 8b3d 2"]),
    ("Modi",
      ["a830 9 6dc6 44 b 9"]),
    ("Mong",
      ["1800 19 6 58 7 2a 784 0 fd1 1 5 3 e654 c"]),
    ("Mult",
      ["a66 9 10810 6 1 0 1 3 1 e 1 a"]),
    ("Mymr",
      ["1000 9f 988e 0 b1 1e 61 1f 6c50 13"]),
    ("Nand",
      ["951 0 12 1 380 9 ff9 0 8 0 7 0 8b35 5 716a 7 2 2d 2 a"]),
    ("Newa",
      ["951 1 1382 0 1 1 9 0 6 0 1 0 1 0 f712 5b 1 4"]),
    ("Nkoo",
      ["60c 0 e 0 3 0 1a0 3a 2 2 f53e 1"]),
    ("Onao",
      ["964 1 1dc6a 2a 4 0"]),
    ("Orkh",
      ["205a 0 dd5 0 ddcf 48"]),
    ("Orya",
      ["951 1 11 1 19b 2 1 7 2 1 2 15 1 6 1 1 1 4 2 8 2 1 2 2 7 2 4 1 1 4 2 11 1162 0 17 0"]),
    ("Osge",
      ["301 0 2 0 6 0 4c 0 10157 23 4 23"]),
    ("Ougr",
      ["640 0 104b1 0 47d 19"]),
    ("Perm",
      ["b7 0 248 0 5 2 a 0 16f 0 fecc 2a"]),
    ("Phag",
      ["1802 1 1 0 829 0 fd2 0 783d 37"]),
    ("Phlp",
      ["640 0 1053f 11 7 3 c 6"]),
    ("Rohg",
      ["60c 0 e 0 3 0 20 0 93 0 1062b 27 8 9"]),
    ("Runr",
      ["16a0 58"]),
    ("Samr",
      ["800 2d 2 e 25f2 0"]),
    ("Shaw",
      ["b7 0 10398 2f"]),
    ("Shrd",
      ["951 0 1385 0 1 0 2 1 2 0 9 0 2 0 8b42 5 2 0 6947 5f 980 7"]),
    ("Sind",
      ["964 1 9eca 9 6a76 3a 5 9"]),
    ("Sinh",
      ["964 1 41b 2 1 11 3 17 1 8 1 0 2 6 3 0 4 5 1 0 1 7 6 9 2 2 efd 0 f4ee 13"]),
    ("Sogd",
      ["640 0 108ef 29"]),
    ("Sunu",
      ["300 1 1 0 9 0 2 0 1c 0 3 0 1188e 21 e 9"]),
    ("Sylo",
      ["964 1 80 9 9e10 2c"]),
    ("Syrc",
      ["303 1 2 1 1 0 18 2 7 1 1 1 2da 0 e 1 2 0 20 0 a a 1a 0 8f d 1 3b 2 2 110 a 158d 0 1 0"]),
    ("Tagb",
      ["1735 1 29 c 1 2 1 1"]),
    ("Takr",
      ["964 1 9eca 9 6e46 39 6 9"]),
    ("Tale",
      ["300 1 5 1 3 0 d33 9 906 1d 2 4"]),
    ("Taml",
      ["951 1 11 1 21c 1 1 5 3 2 1 3 3 1 1 0 1 1 3 1 3 2 3 b 4 4 3 2 1 3 2 0 6 0 e 14 10df 0",
       "8c18 0 6a0d 0 1 0 37 1 c83 31 d 0"]),
    ("Tang",
      ["2ff0 f 1ef 0 13df0 0 1f 1aff 200 1e 61 72"]),
    ("Telu",
      ["951 1 11 1 29a c 1 2 1 16 1 f 2 8 1 2 1 3 7 1 1 2 1 1 2 3 2 9 7 8 1055 1 1 0 1 0 17 0"]),
    ("Tfng",
      ["302 0 1 0 1 3 19 0 2a0c 37 7 1 e 0"]),
    ("Tglg",
      ["1700 15 9 0 15 1"]),
    ("Thaa",
      ["60c 0 e 1 2 0 40 9 116 31 f640 0 a 0"]),
    ("Thai",
      ["2bc 0 1a 0 2b 0 2d 0 acf 39 5 1b"]),
    ("Tibt",
      ["f00 47 1 23 4 26 1 23 1 e 1 6 4 1 202d 3"]),
    ("Tirh",
      ["951 1 11 1 136f 0 c 0 f 0 8b3d 9 6c46 47 8 9"]),
    ("Todr",
      ["301 0 2 0 2 0 9 0 1 0 4a 0 10261 33"]),
    ("Toto",
      ["2bc 0 1dfd3 1e"]),
    ("Tutg",
      ["ce6 9 1002 0 1 0 8b3b 5 bb 0 6a8e 9 1 0 2 0 1 25 1 9 1 0 2 0 1 3 1 9 1 1 8 1"]),
    ("Yezi",
      ["60c 0 e 0 3 0 40 9 10816 29 1 2 2 1"]),
    ("Yiii",
      ["3001 1 5 9 2 7 df 0 6f04 48c 3 36 5a9a 4"]),
    ("Zinh",
      ["30f 0 2 0 1 e 3 6 2 0 2 f 1 1 1 11 1 4 1 3 5f0 1 115b 2d 2 b 2d6 35 1 0 1 4 20c 1 c2 1f",
       "dd10 f 10 d 3cf 0 cd02 2d 2 16 220 2 11 7 2 6 1e 3 c2f52 ef"]),
    ("Zyyy",
      ["0 40 1a 5 1a 2e 1 b 1 1 1 4 17 0 1f 0 1c1 2 1 9 1 0 3 0 1 8 1 0 1 5 5 4 2 13 7e 0 6 0 1",
       "0 27d 0 d7 0 204 0 55c 0 195 3 1027 b 2 20 1 1e 1 9 1 1 1 6 1 a 3 a 1 e 11 21 3e 25 1 2",
       "2 5 1 1a 1 10 29 2 4 299 16 a 15 39f 100 273 2 89 200 16 1 17 2 9 1 3 1 0 1 19 1a2 0 3",
       "0 d 0 d 0 15 0 211 17 1f 0 31 e c 3 a1 9 5 5f 1f 0 19c0 3f 5908 19 66 2 3d0 0 e 1 52a4",
       "9 16 14 2 b 1 12 1 3 93 0 1 1f 1a 5 1a 5 7f 6 1 6 a 4 192 c 33 2c ca03 fc 3 1b3 6 16 f",
       "10 5f 73 3c f5 a 26 2 3d 3 10 8 1 7 1d 4 3c d5 13 c 13 c 56 1b 6 87 54 1 46 1 1 2 0 2 1",
       "2 3 1 b 1 0 1 6 1 40 1 3 2 7 1 6 1 1b 1 3 1 4 1 0 3 6 1 153 2 123 2 31 1471 43 4c 3c",
       "2c2 2b 4 63 c e 2 e 1 e 1 24 a ad 38 19 1 1 d 2b 4 8 17 5 9a 3d8 3 10 3 c 3 d9 6 b 4 0",
       "f b 4 37 8 9 6 27 8 1d 2 b 4 1 e 8 27 157 8 d 2 c 3 a 3 38 1 0 4 f 2 b 4 9 7 92 1 66",
       "c0406 0 1e 5f"])
  ]

/-- The code points that belong to a script, by any of its names. -/
def script? (name : String) : Option (List CodeRange) :=
  (scriptTable.find? (·.1.contains name)).map (CodeRange.ofLines ·.2)

/-- The code points used with a script, by any of its names. -/
def scriptExtensions? (name : String) : Option (List CodeRange) :=
  (scriptTable.find? (·.1.contains name)).map fun (names, ranges) =>
    CodeRange.ofLines ((names.firstM (scriptExtensionsTable.lookup ·)).getD ranges)

end PatternProse.Unicode
