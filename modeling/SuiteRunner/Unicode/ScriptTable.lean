/-!
# Scripts

The scripts of the characters, as ranges of code points in ascending order that give the four-letter code of the
script, and the long name of each code (Unicode 15.0).
-/

namespace SuiteRunner.Unicode

/-- The long name and the four-letter code of each script. -/
def scriptNames : List (String × String) := [
  ("Adlam", "Adlm"), ("Ahom", "Ahom"), ("Anatolian_Hieroglyphs", "Hluw"), ("Arabic", "Arab"),
  ("Armenian", "Armn"), ("Avestan", "Avst"), ("Balinese", "Bali"), ("Bamum", "Bamu"),
  ("Bassa_Vah", "Bass"), ("Batak", "Batk"), ("Bengali", "Beng"), ("Bhaiksuki", "Bhks"),
  ("Bopomofo", "Bopo"), ("Brahmi", "Brah"), ("Braille", "Brai"), ("Buginese", "Bugi"),
  ("Buhid", "Buhd"), ("Canadian_Aboriginal", "Cans"), ("Carian", "Cari"),
  ("Caucasian_Albanian", "Aghb"), ("Chakma", "Cakm"), ("Cham", "Cham"), ("Cherokee", "Cher"),
  ("Chorasmian", "Chrs"), ("Common", "Zyyy"), ("Coptic", "Copt"), ("Cuneiform", "Xsux"),
  ("Cypriot", "Cprt"), ("Cypro_Minoan", "Cpmn"), ("Cyrillic", "Cyrl"), ("Deseret", "Dsrt"),
  ("Devanagari", "Deva"), ("Dives_Akuru", "Diak"), ("Dogra", "Dogr"), ("Duployan", "Dupl"),
  ("Egyptian_Hieroglyphs", "Egyp"), ("Elbasan", "Elba"), ("Elymaic", "Elym"), ("Ethiopic", "Ethi"),
  ("Georgian", "Geor"), ("Glagolitic", "Glag"), ("Gothic", "Goth"), ("Grantha", "Gran"),
  ("Greek", "Grek"), ("Gujarati", "Gujr"), ("Gunjala_Gondi", "Gong"), ("Gurmukhi", "Guru"),
  ("Han", "Hani"), ("Hangul", "Hang"), ("Hanifi_Rohingya", "Rohg"), ("Hanunoo", "Hano"),
  ("Hatran", "Hatr"), ("Hebrew", "Hebr"), ("Hiragana", "Hira"), ("Imperial_Aramaic", "Armi"),
  ("Inherited", "Zinh"), ("Inscriptional_Pahlavi", "Phli"), ("Inscriptional_Parthian", "Prti"),
  ("Javanese", "Java"), ("Kaithi", "Kthi"), ("Kannada", "Knda"), ("Katakana", "Kana"),
  ("Kawi", "Kawi"), ("Kayah_Li", "Kali"), ("Kharoshthi", "Khar"), ("Khitan_Small_Script", "Kits"),
  ("Khmer", "Khmr"), ("Khojki", "Khoj"), ("Khudawadi", "Sind"), ("Lao", "Laoo"), ("Latin", "Latn"),
  ("Lepcha", "Lepc"), ("Limbu", "Limb"), ("Linear_A", "Lina"), ("Linear_B", "Linb"),
  ("Lisu", "Lisu"), ("Lycian", "Lyci"), ("Lydian", "Lydi"), ("Mahajani", "Mahj"),
  ("Makasar", "Maka"), ("Malayalam", "Mlym"), ("Mandaic", "Mand"), ("Manichaean", "Mani"),
  ("Marchen", "Marc"), ("Masaram_Gondi", "Gonm"), ("Medefaidrin", "Medf"), ("Meetei_Mayek", "Mtei"),
  ("Mende_Kikakui", "Mend"), ("Meroitic_Cursive", "Merc"), ("Meroitic_Hieroglyphs", "Mero"),
  ("Miao", "Plrd"), ("Modi", "Modi"), ("Mongolian", "Mong"), ("Mro", "Mroo"), ("Multani", "Mult"),
  ("Myanmar", "Mymr"), ("Nabataean", "Nbat"), ("Nag_Mundari", "Nagm"), ("Nandinagari", "Nand"),
  ("New_Tai_Lue", "Talu"), ("Newa", "Newa"), ("Nko", "Nkoo"), ("Nushu", "Nshu"),
  ("Nyiakeng_Puachue_Hmong", "Hmnp"), ("Ogham", "Ogam"), ("Ol_Chiki", "Olck"),
  ("Old_Hungarian", "Hung"), ("Old_Italic", "Ital"), ("Old_North_Arabian", "Narb"),
  ("Old_Permic", "Perm"), ("Old_Persian", "Xpeo"), ("Old_Sogdian", "Sogo"),
  ("Old_South_Arabian", "Sarb"), ("Old_Turkic", "Orkh"), ("Old_Uyghur", "Ougr"), ("Oriya", "Orya"),
  ("Osage", "Osge"), ("Osmanya", "Osma"), ("Pahawh_Hmong", "Hmng"), ("Palmyrene", "Palm"),
  ("Pau_Cin_Hau", "Pauc"), ("Phags_Pa", "Phag"), ("Phoenician", "Phnx"),
  ("Psalter_Pahlavi", "Phlp"), ("Rejang", "Rjng"), ("Runic", "Runr"), ("Samaritan", "Samr"),
  ("Saurashtra", "Saur"), ("Sharada", "Shrd"), ("Shavian", "Shaw"), ("Siddham", "Sidd"),
  ("SignWriting", "Sgnw"), ("Sinhala", "Sinh"), ("Sogdian", "Sogd"), ("Sora_Sompeng", "Sora"),
  ("Soyombo", "Soyo"), ("Sundanese", "Sund"), ("Syloti_Nagri", "Sylo"), ("Syriac", "Syrc"),
  ("Tagalog", "Tglg"), ("Tagbanwa", "Tagb"), ("Tai_Le", "Tale"), ("Tai_Tham", "Lana"),
  ("Tai_Viet", "Tavt"), ("Takri", "Takr"), ("Tamil", "Taml"), ("Tangsa", "Tnsa"),
  ("Tangut", "Tang"), ("Telugu", "Telu"), ("Thaana", "Thaa"), ("Thai", "Thai"), ("Tibetan", "Tibt"),
  ("Tifinagh", "Tfng"), ("Tirhuta", "Tirh"), ("Toto", "Toto"), ("Ugaritic", "Ugar"),
  ("Vai", "Vaii"), ("Vithkuqi", "Vith"), ("Wancho", "Wcho"), ("Warang_Citi", "Wara"),
  ("Yezidi", "Yezi"), ("Yi", "Yiii"), ("Zanabazar_Square", "Zanb")]

/-- The ranges from `U+0000` to `U+1CF7`. -/
def scriptRanges0 : Array (Nat × Nat × String) := #[
  (0x0, 0x40, "Zyyy"), (0x41, 0x5A, "Latn"), (0x5B, 0x60, "Zyyy"), (0x61, 0x7A, "Latn"),
  (0x7B, 0xA9, "Zyyy"), (0xAA, 0xAA, "Latn"), (0xAB, 0xB9, "Zyyy"), (0xBA, 0xBA, "Latn"),
  (0xBB, 0xBF, "Zyyy"), (0xC0, 0xD6, "Latn"), (0xD7, 0xD7, "Zyyy"), (0xD8, 0xF6, "Latn"),
  (0xF7, 0xF7, "Zyyy"), (0xF8, 0x2B8, "Latn"), (0x2B9, 0x2DF, "Zyyy"), (0x2E0, 0x2E4, "Latn"),
  (0x2E5, 0x2E9, "Zyyy"), (0x2EA, 0x2EB, "Bopo"), (0x2EC, 0x2FF, "Zyyy"), (0x300, 0x36F, "Zinh"),
  (0x370, 0x373, "Grek"), (0x374, 0x374, "Zyyy"), (0x375, 0x377, "Grek"), (0x37A, 0x37D, "Grek"),
  (0x37E, 0x37E, "Zyyy"), (0x37F, 0x37F, "Grek"), (0x384, 0x384, "Grek"), (0x385, 0x385, "Zyyy"),
  (0x386, 0x386, "Grek"), (0x387, 0x387, "Zyyy"), (0x388, 0x38A, "Grek"), (0x38C, 0x38C, "Grek"),
  (0x38E, 0x3A1, "Grek"), (0x3A3, 0x3E1, "Grek"), (0x3E2, 0x3EF, "Copt"), (0x3F0, 0x3FF, "Grek"),
  (0x400, 0x484, "Cyrl"), (0x485, 0x486, "Zinh"), (0x487, 0x52F, "Cyrl"), (0x531, 0x556, "Armn"),
  (0x559, 0x58A, "Armn"), (0x58D, 0x58F, "Armn"), (0x591, 0x5C7, "Hebr"), (0x5D0, 0x5EA, "Hebr"),
  (0x5EF, 0x5F4, "Hebr"), (0x600, 0x604, "Arab"), (0x605, 0x605, "Zyyy"), (0x606, 0x60B, "Arab"),
  (0x60C, 0x60C, "Zyyy"), (0x60D, 0x61A, "Arab"), (0x61B, 0x61B, "Zyyy"), (0x61C, 0x61E, "Arab"),
  (0x61F, 0x61F, "Zyyy"), (0x620, 0x63F, "Arab"), (0x640, 0x640, "Zyyy"), (0x641, 0x64A, "Arab"),
  (0x64B, 0x655, "Zinh"), (0x656, 0x66F, "Arab"), (0x670, 0x670, "Zinh"), (0x671, 0x6DC, "Arab"),
  (0x6DD, 0x6DD, "Zyyy"), (0x6DE, 0x6FF, "Arab"), (0x700, 0x70D, "Syrc"), (0x70F, 0x74A, "Syrc"),
  (0x74D, 0x74F, "Syrc"), (0x750, 0x77F, "Arab"), (0x780, 0x7B1, "Thaa"), (0x7C0, 0x7FA, "Nkoo"),
  (0x7FD, 0x7FF, "Nkoo"), (0x800, 0x82D, "Samr"), (0x830, 0x83E, "Samr"), (0x840, 0x85B, "Mand"),
  (0x85E, 0x85E, "Mand"), (0x860, 0x86A, "Syrc"), (0x870, 0x88E, "Arab"), (0x890, 0x891, "Arab"),
  (0x898, 0x8E1, "Arab"), (0x8E2, 0x8E2, "Zyyy"), (0x8E3, 0x8FF, "Arab"), (0x900, 0x950, "Deva"),
  (0x951, 0x954, "Zinh"), (0x955, 0x963, "Deva"), (0x964, 0x965, "Zyyy"), (0x966, 0x97F, "Deva"),
  (0x980, 0x983, "Beng"), (0x985, 0x98C, "Beng"), (0x98F, 0x990, "Beng"), (0x993, 0x9A8, "Beng"),
  (0x9AA, 0x9B0, "Beng"), (0x9B2, 0x9B2, "Beng"), (0x9B6, 0x9B9, "Beng"), (0x9BC, 0x9C4, "Beng"),
  (0x9C7, 0x9C8, "Beng"), (0x9CB, 0x9CE, "Beng"), (0x9D7, 0x9D7, "Beng"), (0x9DC, 0x9DD, "Beng"),
  (0x9DF, 0x9E3, "Beng"), (0x9E6, 0x9FE, "Beng"), (0xA01, 0xA03, "Guru"), (0xA05, 0xA0A, "Guru"),
  (0xA0F, 0xA10, "Guru"), (0xA13, 0xA28, "Guru"), (0xA2A, 0xA30, "Guru"), (0xA32, 0xA33, "Guru"),
  (0xA35, 0xA36, "Guru"), (0xA38, 0xA39, "Guru"), (0xA3C, 0xA3C, "Guru"), (0xA3E, 0xA42, "Guru"),
  (0xA47, 0xA48, "Guru"), (0xA4B, 0xA4D, "Guru"), (0xA51, 0xA51, "Guru"), (0xA59, 0xA5C, "Guru"),
  (0xA5E, 0xA5E, "Guru"), (0xA66, 0xA76, "Guru"), (0xA81, 0xA83, "Gujr"), (0xA85, 0xA8D, "Gujr"),
  (0xA8F, 0xA91, "Gujr"), (0xA93, 0xAA8, "Gujr"), (0xAAA, 0xAB0, "Gujr"), (0xAB2, 0xAB3, "Gujr"),
  (0xAB5, 0xAB9, "Gujr"), (0xABC, 0xAC5, "Gujr"), (0xAC7, 0xAC9, "Gujr"), (0xACB, 0xACD, "Gujr"),
  (0xAD0, 0xAD0, "Gujr"), (0xAE0, 0xAE3, "Gujr"), (0xAE6, 0xAF1, "Gujr"), (0xAF9, 0xAFF, "Gujr"),
  (0xB01, 0xB03, "Orya"), (0xB05, 0xB0C, "Orya"), (0xB0F, 0xB10, "Orya"), (0xB13, 0xB28, "Orya"),
  (0xB2A, 0xB30, "Orya"), (0xB32, 0xB33, "Orya"), (0xB35, 0xB39, "Orya"), (0xB3C, 0xB44, "Orya"),
  (0xB47, 0xB48, "Orya"), (0xB4B, 0xB4D, "Orya"), (0xB55, 0xB57, "Orya"), (0xB5C, 0xB5D, "Orya"),
  (0xB5F, 0xB63, "Orya"), (0xB66, 0xB77, "Orya"), (0xB82, 0xB83, "Taml"), (0xB85, 0xB8A, "Taml"),
  (0xB8E, 0xB90, "Taml"), (0xB92, 0xB95, "Taml"), (0xB99, 0xB9A, "Taml"), (0xB9C, 0xB9C, "Taml"),
  (0xB9E, 0xB9F, "Taml"), (0xBA3, 0xBA4, "Taml"), (0xBA8, 0xBAA, "Taml"), (0xBAE, 0xBB9, "Taml"),
  (0xBBE, 0xBC2, "Taml"), (0xBC6, 0xBC8, "Taml"), (0xBCA, 0xBCD, "Taml"), (0xBD0, 0xBD0, "Taml"),
  (0xBD7, 0xBD7, "Taml"), (0xBE6, 0xBFA, "Taml"), (0xC00, 0xC0C, "Telu"), (0xC0E, 0xC10, "Telu"),
  (0xC12, 0xC28, "Telu"), (0xC2A, 0xC39, "Telu"), (0xC3C, 0xC44, "Telu"), (0xC46, 0xC48, "Telu"),
  (0xC4A, 0xC4D, "Telu"), (0xC55, 0xC56, "Telu"), (0xC58, 0xC5A, "Telu"), (0xC5D, 0xC5D, "Telu"),
  (0xC60, 0xC63, "Telu"), (0xC66, 0xC6F, "Telu"), (0xC77, 0xC7F, "Telu"), (0xC80, 0xC8C, "Knda"),
  (0xC8E, 0xC90, "Knda"), (0xC92, 0xCA8, "Knda"), (0xCAA, 0xCB3, "Knda"), (0xCB5, 0xCB9, "Knda"),
  (0xCBC, 0xCC4, "Knda"), (0xCC6, 0xCC8, "Knda"), (0xCCA, 0xCCD, "Knda"), (0xCD5, 0xCD6, "Knda"),
  (0xCDD, 0xCDE, "Knda"), (0xCE0, 0xCE3, "Knda"), (0xCE6, 0xCEF, "Knda"), (0xCF1, 0xCF3, "Knda"),
  (0xD00, 0xD0C, "Mlym"), (0xD0E, 0xD10, "Mlym"), (0xD12, 0xD44, "Mlym"), (0xD46, 0xD48, "Mlym"),
  (0xD4A, 0xD4F, "Mlym"), (0xD54, 0xD63, "Mlym"), (0xD66, 0xD7F, "Mlym"), (0xD81, 0xD83, "Sinh"),
  (0xD85, 0xD96, "Sinh"), (0xD9A, 0xDB1, "Sinh"), (0xDB3, 0xDBB, "Sinh"), (0xDBD, 0xDBD, "Sinh"),
  (0xDC0, 0xDC6, "Sinh"), (0xDCA, 0xDCA, "Sinh"), (0xDCF, 0xDD4, "Sinh"), (0xDD6, 0xDD6, "Sinh"),
  (0xDD8, 0xDDF, "Sinh"), (0xDE6, 0xDEF, "Sinh"), (0xDF2, 0xDF4, "Sinh"), (0xE01, 0xE3A, "Thai"),
  (0xE3F, 0xE3F, "Zyyy"), (0xE40, 0xE5B, "Thai"), (0xE81, 0xE82, "Laoo"), (0xE84, 0xE84, "Laoo"),
  (0xE86, 0xE8A, "Laoo"), (0xE8C, 0xEA3, "Laoo"), (0xEA5, 0xEA5, "Laoo"), (0xEA7, 0xEBD, "Laoo"),
  (0xEC0, 0xEC4, "Laoo"), (0xEC6, 0xEC6, "Laoo"), (0xEC8, 0xECE, "Laoo"), (0xED0, 0xED9, "Laoo"),
  (0xEDC, 0xEDF, "Laoo"), (0xF00, 0xF47, "Tibt"), (0xF49, 0xF6C, "Tibt"), (0xF71, 0xF97, "Tibt"),
  (0xF99, 0xFBC, "Tibt"), (0xFBE, 0xFCC, "Tibt"), (0xFCE, 0xFD4, "Tibt"), (0xFD5, 0xFD8, "Zyyy"),
  (0xFD9, 0xFDA, "Tibt"), (0x1000, 0x109F, "Mymr"), (0x10A0, 0x10C5, "Geor"),
  (0x10C7, 0x10C7, "Geor"), (0x10CD, 0x10CD, "Geor"), (0x10D0, 0x10FA, "Geor"),
  (0x10FB, 0x10FB, "Zyyy"), (0x10FC, 0x10FF, "Geor"), (0x1100, 0x11FF, "Hang"),
  (0x1200, 0x1248, "Ethi"), (0x124A, 0x124D, "Ethi"), (0x1250, 0x1256, "Ethi"),
  (0x1258, 0x1258, "Ethi"), (0x125A, 0x125D, "Ethi"), (0x1260, 0x1288, "Ethi"),
  (0x128A, 0x128D, "Ethi"), (0x1290, 0x12B0, "Ethi"), (0x12B2, 0x12B5, "Ethi"),
  (0x12B8, 0x12BE, "Ethi"), (0x12C0, 0x12C0, "Ethi"), (0x12C2, 0x12C5, "Ethi"),
  (0x12C8, 0x12D6, "Ethi"), (0x12D8, 0x1310, "Ethi"), (0x1312, 0x1315, "Ethi"),
  (0x1318, 0x135A, "Ethi"), (0x135D, 0x137C, "Ethi"), (0x1380, 0x1399, "Ethi"),
  (0x13A0, 0x13F5, "Cher"), (0x13F8, 0x13FD, "Cher"), (0x1400, 0x167F, "Cans"),
  (0x1680, 0x169C, "Ogam"), (0x16A0, 0x16EA, "Runr"), (0x16EB, 0x16ED, "Zyyy"),
  (0x16EE, 0x16F8, "Runr"), (0x1700, 0x1715, "Tglg"), (0x171F, 0x171F, "Tglg"),
  (0x1720, 0x1734, "Hano"), (0x1735, 0x1736, "Zyyy"), (0x1740, 0x1753, "Buhd"),
  (0x1760, 0x176C, "Tagb"), (0x176E, 0x1770, "Tagb"), (0x1772, 0x1773, "Tagb"),
  (0x1780, 0x17DD, "Khmr"), (0x17E0, 0x17E9, "Khmr"), (0x17F0, 0x17F9, "Khmr"),
  (0x1800, 0x1801, "Mong"), (0x1802, 0x1803, "Zyyy"), (0x1804, 0x1804, "Mong"),
  (0x1805, 0x1805, "Zyyy"), (0x1806, 0x1819, "Mong"), (0x1820, 0x1878, "Mong"),
  (0x1880, 0x18AA, "Mong"), (0x18B0, 0x18F5, "Cans"), (0x1900, 0x191E, "Limb"),
  (0x1920, 0x192B, "Limb"), (0x1930, 0x193B, "Limb"), (0x1940, 0x1940, "Limb"),
  (0x1944, 0x194F, "Limb"), (0x1950, 0x196D, "Tale"), (0x1970, 0x1974, "Tale"),
  (0x1980, 0x19AB, "Talu"), (0x19B0, 0x19C9, "Talu"), (0x19D0, 0x19DA, "Talu"),
  (0x19DE, 0x19DF, "Talu"), (0x19E0, 0x19FF, "Khmr"), (0x1A00, 0x1A1B, "Bugi"),
  (0x1A1E, 0x1A1F, "Bugi"), (0x1A20, 0x1A5E, "Lana"), (0x1A60, 0x1A7C, "Lana"),
  (0x1A7F, 0x1A89, "Lana"), (0x1A90, 0x1A99, "Lana"), (0x1AA0, 0x1AAD, "Lana"),
  (0x1AB0, 0x1ACE, "Zinh"), (0x1B00, 0x1B4C, "Bali"), (0x1B50, 0x1B7E, "Bali"),
  (0x1B80, 0x1BBF, "Sund"), (0x1BC0, 0x1BF3, "Batk"), (0x1BFC, 0x1BFF, "Batk"),
  (0x1C00, 0x1C37, "Lepc"), (0x1C3B, 0x1C49, "Lepc"), (0x1C4D, 0x1C4F, "Lepc"),
  (0x1C50, 0x1C7F, "Olck"), (0x1C80, 0x1C88, "Cyrl"), (0x1C90, 0x1CBA, "Geor"),
  (0x1CBD, 0x1CBF, "Geor"), (0x1CC0, 0x1CC7, "Sund"), (0x1CD0, 0x1CD2, "Zinh"),
  (0x1CD3, 0x1CD3, "Zyyy"), (0x1CD4, 0x1CE0, "Zinh"), (0x1CE1, 0x1CE1, "Zyyy"),
  (0x1CE2, 0x1CE8, "Zinh"), (0x1CE9, 0x1CEC, "Zyyy"), (0x1CED, 0x1CED, "Zinh"),
  (0x1CEE, 0x1CF3, "Zyyy"), (0x1CF4, 0x1CF4, "Zinh"), (0x1CF5, 0x1CF7, "Zyyy")]

/-- The ranges from `U+1CF8` to `U+10D39`. -/
def scriptRanges1 : Array (Nat × Nat × String) := #[
  (0x1CF8, 0x1CF9, "Zinh"), (0x1CFA, 0x1CFA, "Zyyy"), (0x1D00, 0x1D25, "Latn"),
  (0x1D26, 0x1D2A, "Grek"), (0x1D2B, 0x1D2B, "Cyrl"), (0x1D2C, 0x1D5C, "Latn"),
  (0x1D5D, 0x1D61, "Grek"), (0x1D62, 0x1D65, "Latn"), (0x1D66, 0x1D6A, "Grek"),
  (0x1D6B, 0x1D77, "Latn"), (0x1D78, 0x1D78, "Cyrl"), (0x1D79, 0x1DBE, "Latn"),
  (0x1DBF, 0x1DBF, "Grek"), (0x1DC0, 0x1DFF, "Zinh"), (0x1E00, 0x1EFF, "Latn"),
  (0x1F00, 0x1F15, "Grek"), (0x1F18, 0x1F1D, "Grek"), (0x1F20, 0x1F45, "Grek"),
  (0x1F48, 0x1F4D, "Grek"), (0x1F50, 0x1F57, "Grek"), (0x1F59, 0x1F59, "Grek"),
  (0x1F5B, 0x1F5B, "Grek"), (0x1F5D, 0x1F5D, "Grek"), (0x1F5F, 0x1F7D, "Grek"),
  (0x1F80, 0x1FB4, "Grek"), (0x1FB6, 0x1FC4, "Grek"), (0x1FC6, 0x1FD3, "Grek"),
  (0x1FD6, 0x1FDB, "Grek"), (0x1FDD, 0x1FEF, "Grek"), (0x1FF2, 0x1FF4, "Grek"),
  (0x1FF6, 0x1FFE, "Grek"), (0x2000, 0x200B, "Zyyy"), (0x200C, 0x200D, "Zinh"),
  (0x200E, 0x2064, "Zyyy"), (0x2066, 0x2070, "Zyyy"), (0x2071, 0x2071, "Latn"),
  (0x2074, 0x207E, "Zyyy"), (0x207F, 0x207F, "Latn"), (0x2080, 0x208E, "Zyyy"),
  (0x2090, 0x209C, "Latn"), (0x20A0, 0x20C0, "Zyyy"), (0x20D0, 0x20F0, "Zinh"),
  (0x2100, 0x2125, "Zyyy"), (0x2126, 0x2126, "Grek"), (0x2127, 0x2129, "Zyyy"),
  (0x212A, 0x212B, "Latn"), (0x212C, 0x2131, "Zyyy"), (0x2132, 0x2132, "Latn"),
  (0x2133, 0x214D, "Zyyy"), (0x214E, 0x214E, "Latn"), (0x214F, 0x215F, "Zyyy"),
  (0x2160, 0x2188, "Latn"), (0x2189, 0x218B, "Zyyy"), (0x2190, 0x2426, "Zyyy"),
  (0x2440, 0x244A, "Zyyy"), (0x2460, 0x27FF, "Zyyy"), (0x2800, 0x28FF, "Brai"),
  (0x2900, 0x2B73, "Zyyy"), (0x2B76, 0x2B95, "Zyyy"), (0x2B97, 0x2BFF, "Zyyy"),
  (0x2C00, 0x2C5F, "Glag"), (0x2C60, 0x2C7F, "Latn"), (0x2C80, 0x2CF3, "Copt"),
  (0x2CF9, 0x2CFF, "Copt"), (0x2D00, 0x2D25, "Geor"), (0x2D27, 0x2D27, "Geor"),
  (0x2D2D, 0x2D2D, "Geor"), (0x2D30, 0x2D67, "Tfng"), (0x2D6F, 0x2D70, "Tfng"),
  (0x2D7F, 0x2D7F, "Tfng"), (0x2D80, 0x2D96, "Ethi"), (0x2DA0, 0x2DA6, "Ethi"),
  (0x2DA8, 0x2DAE, "Ethi"), (0x2DB0, 0x2DB6, "Ethi"), (0x2DB8, 0x2DBE, "Ethi"),
  (0x2DC0, 0x2DC6, "Ethi"), (0x2DC8, 0x2DCE, "Ethi"), (0x2DD0, 0x2DD6, "Ethi"),
  (0x2DD8, 0x2DDE, "Ethi"), (0x2DE0, 0x2DFF, "Cyrl"), (0x2E00, 0x2E5D, "Zyyy"),
  (0x2E80, 0x2E99, "Hani"), (0x2E9B, 0x2EF3, "Hani"), (0x2F00, 0x2FD5, "Hani"),
  (0x2FF0, 0x2FFB, "Zyyy"), (0x3000, 0x3004, "Zyyy"), (0x3005, 0x3005, "Hani"),
  (0x3006, 0x3006, "Zyyy"), (0x3007, 0x3007, "Hani"), (0x3008, 0x3020, "Zyyy"),
  (0x3021, 0x3029, "Hani"), (0x302A, 0x302D, "Zinh"), (0x302E, 0x302F, "Hang"),
  (0x3030, 0x3037, "Zyyy"), (0x3038, 0x303B, "Hani"), (0x303C, 0x303F, "Zyyy"),
  (0x3041, 0x3096, "Hira"), (0x3099, 0x309A, "Zinh"), (0x309B, 0x309C, "Zyyy"),
  (0x309D, 0x309F, "Hira"), (0x30A0, 0x30A0, "Zyyy"), (0x30A1, 0x30FA, "Kana"),
  (0x30FB, 0x30FC, "Zyyy"), (0x30FD, 0x30FF, "Kana"), (0x3105, 0x312F, "Bopo"),
  (0x3131, 0x318E, "Hang"), (0x3190, 0x319F, "Zyyy"), (0x31A0, 0x31BF, "Bopo"),
  (0x31C0, 0x31E3, "Zyyy"), (0x31F0, 0x31FF, "Kana"), (0x3200, 0x321E, "Hang"),
  (0x3220, 0x325F, "Zyyy"), (0x3260, 0x327E, "Hang"), (0x327F, 0x32CF, "Zyyy"),
  (0x32D0, 0x32FE, "Kana"), (0x32FF, 0x32FF, "Zyyy"), (0x3300, 0x3357, "Kana"),
  (0x3358, 0x33FF, "Zyyy"), (0x3400, 0x4DBF, "Hani"), (0x4DC0, 0x4DFF, "Zyyy"),
  (0x4E00, 0x9FFF, "Hani"), (0xA000, 0xA48C, "Yiii"), (0xA490, 0xA4C6, "Yiii"),
  (0xA4D0, 0xA4FF, "Lisu"), (0xA500, 0xA62B, "Vaii"), (0xA640, 0xA69F, "Cyrl"),
  (0xA6A0, 0xA6F7, "Bamu"), (0xA700, 0xA721, "Zyyy"), (0xA722, 0xA787, "Latn"),
  (0xA788, 0xA78A, "Zyyy"), (0xA78B, 0xA7CA, "Latn"), (0xA7D0, 0xA7D1, "Latn"),
  (0xA7D3, 0xA7D3, "Latn"), (0xA7D5, 0xA7D9, "Latn"), (0xA7F2, 0xA7FF, "Latn"),
  (0xA800, 0xA82C, "Sylo"), (0xA830, 0xA839, "Zyyy"), (0xA840, 0xA877, "Phag"),
  (0xA880, 0xA8C5, "Saur"), (0xA8CE, 0xA8D9, "Saur"), (0xA8E0, 0xA8FF, "Deva"),
  (0xA900, 0xA92D, "Kali"), (0xA92E, 0xA92E, "Zyyy"), (0xA92F, 0xA92F, "Kali"),
  (0xA930, 0xA953, "Rjng"), (0xA95F, 0xA95F, "Rjng"), (0xA960, 0xA97C, "Hang"),
  (0xA980, 0xA9CD, "Java"), (0xA9CF, 0xA9CF, "Zyyy"), (0xA9D0, 0xA9D9, "Java"),
  (0xA9DE, 0xA9DF, "Java"), (0xA9E0, 0xA9FE, "Mymr"), (0xAA00, 0xAA36, "Cham"),
  (0xAA40, 0xAA4D, "Cham"), (0xAA50, 0xAA59, "Cham"), (0xAA5C, 0xAA5F, "Cham"),
  (0xAA60, 0xAA7F, "Mymr"), (0xAA80, 0xAAC2, "Tavt"), (0xAADB, 0xAADF, "Tavt"),
  (0xAAE0, 0xAAF6, "Mtei"), (0xAB01, 0xAB06, "Ethi"), (0xAB09, 0xAB0E, "Ethi"),
  (0xAB11, 0xAB16, "Ethi"), (0xAB20, 0xAB26, "Ethi"), (0xAB28, 0xAB2E, "Ethi"),
  (0xAB30, 0xAB5A, "Latn"), (0xAB5B, 0xAB5B, "Zyyy"), (0xAB5C, 0xAB64, "Latn"),
  (0xAB65, 0xAB65, "Grek"), (0xAB66, 0xAB69, "Latn"), (0xAB6A, 0xAB6B, "Zyyy"),
  (0xAB70, 0xABBF, "Cher"), (0xABC0, 0xABED, "Mtei"), (0xABF0, 0xABF9, "Mtei"),
  (0xAC00, 0xD7A3, "Hang"), (0xD7B0, 0xD7C6, "Hang"), (0xD7CB, 0xD7FB, "Hang"),
  (0xF900, 0xFA6D, "Hani"), (0xFA70, 0xFAD9, "Hani"), (0xFB00, 0xFB06, "Latn"),
  (0xFB13, 0xFB17, "Armn"), (0xFB1D, 0xFB36, "Hebr"), (0xFB38, 0xFB3C, "Hebr"),
  (0xFB3E, 0xFB3E, "Hebr"), (0xFB40, 0xFB41, "Hebr"), (0xFB43, 0xFB44, "Hebr"),
  (0xFB46, 0xFB4F, "Hebr"), (0xFB50, 0xFBC2, "Arab"), (0xFBD3, 0xFD3D, "Arab"),
  (0xFD3E, 0xFD3F, "Zyyy"), (0xFD40, 0xFD8F, "Arab"), (0xFD92, 0xFDC7, "Arab"),
  (0xFDCF, 0xFDCF, "Arab"), (0xFDF0, 0xFDFF, "Arab"), (0xFE00, 0xFE0F, "Zinh"),
  (0xFE10, 0xFE19, "Zyyy"), (0xFE20, 0xFE2D, "Zinh"), (0xFE2E, 0xFE2F, "Cyrl"),
  (0xFE30, 0xFE52, "Zyyy"), (0xFE54, 0xFE66, "Zyyy"), (0xFE68, 0xFE6B, "Zyyy"),
  (0xFE70, 0xFE74, "Arab"), (0xFE76, 0xFEFC, "Arab"), (0xFEFF, 0xFEFF, "Zyyy"),
  (0xFF01, 0xFF20, "Zyyy"), (0xFF21, 0xFF3A, "Latn"), (0xFF3B, 0xFF40, "Zyyy"),
  (0xFF41, 0xFF5A, "Latn"), (0xFF5B, 0xFF65, "Zyyy"), (0xFF66, 0xFF6F, "Kana"),
  (0xFF70, 0xFF70, "Zyyy"), (0xFF71, 0xFF9D, "Kana"), (0xFF9E, 0xFF9F, "Zyyy"),
  (0xFFA0, 0xFFBE, "Hang"), (0xFFC2, 0xFFC7, "Hang"), (0xFFCA, 0xFFCF, "Hang"),
  (0xFFD2, 0xFFD7, "Hang"), (0xFFDA, 0xFFDC, "Hang"), (0xFFE0, 0xFFE6, "Zyyy"),
  (0xFFE8, 0xFFEE, "Zyyy"), (0xFFF9, 0xFFFD, "Zyyy"), (0x10000, 0x1000B, "Linb"),
  (0x1000D, 0x10026, "Linb"), (0x10028, 0x1003A, "Linb"), (0x1003C, 0x1003D, "Linb"),
  (0x1003F, 0x1004D, "Linb"), (0x10050, 0x1005D, "Linb"), (0x10080, 0x100FA, "Linb"),
  (0x10100, 0x10102, "Zyyy"), (0x10107, 0x10133, "Zyyy"), (0x10137, 0x1013F, "Zyyy"),
  (0x10140, 0x1018E, "Grek"), (0x10190, 0x1019C, "Zyyy"), (0x101A0, 0x101A0, "Grek"),
  (0x101D0, 0x101FC, "Zyyy"), (0x101FD, 0x101FD, "Zinh"), (0x10280, 0x1029C, "Lyci"),
  (0x102A0, 0x102D0, "Cari"), (0x102E0, 0x102E0, "Zinh"), (0x102E1, 0x102FB, "Zyyy"),
  (0x10300, 0x10323, "Ital"), (0x1032D, 0x1032F, "Ital"), (0x10330, 0x1034A, "Goth"),
  (0x10350, 0x1037A, "Perm"), (0x10380, 0x1039D, "Ugar"), (0x1039F, 0x1039F, "Ugar"),
  (0x103A0, 0x103C3, "Xpeo"), (0x103C8, 0x103D5, "Xpeo"), (0x10400, 0x1044F, "Dsrt"),
  (0x10450, 0x1047F, "Shaw"), (0x10480, 0x1049D, "Osma"), (0x104A0, 0x104A9, "Osma"),
  (0x104B0, 0x104D3, "Osge"), (0x104D8, 0x104FB, "Osge"), (0x10500, 0x10527, "Elba"),
  (0x10530, 0x10563, "Aghb"), (0x1056F, 0x1056F, "Aghb"), (0x10570, 0x1057A, "Vith"),
  (0x1057C, 0x1058A, "Vith"), (0x1058C, 0x10592, "Vith"), (0x10594, 0x10595, "Vith"),
  (0x10597, 0x105A1, "Vith"), (0x105A3, 0x105B1, "Vith"), (0x105B3, 0x105B9, "Vith"),
  (0x105BB, 0x105BC, "Vith"), (0x10600, 0x10736, "Lina"), (0x10740, 0x10755, "Lina"),
  (0x10760, 0x10767, "Lina"), (0x10780, 0x10785, "Latn"), (0x10787, 0x107B0, "Latn"),
  (0x107B2, 0x107BA, "Latn"), (0x10800, 0x10805, "Cprt"), (0x10808, 0x10808, "Cprt"),
  (0x1080A, 0x10835, "Cprt"), (0x10837, 0x10838, "Cprt"), (0x1083C, 0x1083C, "Cprt"),
  (0x1083F, 0x1083F, "Cprt"), (0x10840, 0x10855, "Armi"), (0x10857, 0x1085F, "Armi"),
  (0x10860, 0x1087F, "Palm"), (0x10880, 0x1089E, "Nbat"), (0x108A7, 0x108AF, "Nbat"),
  (0x108E0, 0x108F2, "Hatr"), (0x108F4, 0x108F5, "Hatr"), (0x108FB, 0x108FF, "Hatr"),
  (0x10900, 0x1091B, "Phnx"), (0x1091F, 0x1091F, "Phnx"), (0x10920, 0x10939, "Lydi"),
  (0x1093F, 0x1093F, "Lydi"), (0x10980, 0x1099F, "Mero"), (0x109A0, 0x109B7, "Merc"),
  (0x109BC, 0x109CF, "Merc"), (0x109D2, 0x109FF, "Merc"), (0x10A00, 0x10A03, "Khar"),
  (0x10A05, 0x10A06, "Khar"), (0x10A0C, 0x10A13, "Khar"), (0x10A15, 0x10A17, "Khar"),
  (0x10A19, 0x10A35, "Khar"), (0x10A38, 0x10A3A, "Khar"), (0x10A3F, 0x10A48, "Khar"),
  (0x10A50, 0x10A58, "Khar"), (0x10A60, 0x10A7F, "Sarb"), (0x10A80, 0x10A9F, "Narb"),
  (0x10AC0, 0x10AE6, "Mani"), (0x10AEB, 0x10AF6, "Mani"), (0x10B00, 0x10B35, "Avst"),
  (0x10B39, 0x10B3F, "Avst"), (0x10B40, 0x10B55, "Prti"), (0x10B58, 0x10B5F, "Prti"),
  (0x10B60, 0x10B72, "Phli"), (0x10B78, 0x10B7F, "Phli"), (0x10B80, 0x10B91, "Phlp"),
  (0x10B99, 0x10B9C, "Phlp"), (0x10BA9, 0x10BAF, "Phlp"), (0x10C00, 0x10C48, "Orkh"),
  (0x10C80, 0x10CB2, "Hung"), (0x10CC0, 0x10CF2, "Hung"), (0x10CFA, 0x10CFF, "Hung"),
  (0x10D00, 0x10D27, "Rohg"), (0x10D30, 0x10D39, "Rohg")]

/-- The ranges from `U+10E60` to `U+E01EF`. -/
def scriptRanges2 : Array (Nat × Nat × String) := #[
  (0x10E60, 0x10E7E, "Arab"), (0x10E80, 0x10EA9, "Yezi"), (0x10EAB, 0x10EAD, "Yezi"),
  (0x10EB0, 0x10EB1, "Yezi"), (0x10EFD, 0x10EFF, "Arab"), (0x10F00, 0x10F27, "Sogo"),
  (0x10F30, 0x10F59, "Sogd"), (0x10F70, 0x10F89, "Ougr"), (0x10FB0, 0x10FCB, "Chrs"),
  (0x10FE0, 0x10FF6, "Elym"), (0x11000, 0x1104D, "Brah"), (0x11052, 0x11075, "Brah"),
  (0x1107F, 0x1107F, "Brah"), (0x11080, 0x110C2, "Kthi"), (0x110CD, 0x110CD, "Kthi"),
  (0x110D0, 0x110E8, "Sora"), (0x110F0, 0x110F9, "Sora"), (0x11100, 0x11134, "Cakm"),
  (0x11136, 0x11147, "Cakm"), (0x11150, 0x11176, "Mahj"), (0x11180, 0x111DF, "Shrd"),
  (0x111E1, 0x111F4, "Sinh"), (0x11200, 0x11211, "Khoj"), (0x11213, 0x11241, "Khoj"),
  (0x11280, 0x11286, "Mult"), (0x11288, 0x11288, "Mult"), (0x1128A, 0x1128D, "Mult"),
  (0x1128F, 0x1129D, "Mult"), (0x1129F, 0x112A9, "Mult"), (0x112B0, 0x112EA, "Sind"),
  (0x112F0, 0x112F9, "Sind"), (0x11300, 0x11303, "Gran"), (0x11305, 0x1130C, "Gran"),
  (0x1130F, 0x11310, "Gran"), (0x11313, 0x11328, "Gran"), (0x1132A, 0x11330, "Gran"),
  (0x11332, 0x11333, "Gran"), (0x11335, 0x11339, "Gran"), (0x1133B, 0x1133B, "Zinh"),
  (0x1133C, 0x11344, "Gran"), (0x11347, 0x11348, "Gran"), (0x1134B, 0x1134D, "Gran"),
  (0x11350, 0x11350, "Gran"), (0x11357, 0x11357, "Gran"), (0x1135D, 0x11363, "Gran"),
  (0x11366, 0x1136C, "Gran"), (0x11370, 0x11374, "Gran"), (0x11400, 0x1145B, "Newa"),
  (0x1145D, 0x11461, "Newa"), (0x11480, 0x114C7, "Tirh"), (0x114D0, 0x114D9, "Tirh"),
  (0x11580, 0x115B5, "Sidd"), (0x115B8, 0x115DD, "Sidd"), (0x11600, 0x11644, "Modi"),
  (0x11650, 0x11659, "Modi"), (0x11660, 0x1166C, "Mong"), (0x11680, 0x116B9, "Takr"),
  (0x116C0, 0x116C9, "Takr"), (0x11700, 0x1171A, "Ahom"), (0x1171D, 0x1172B, "Ahom"),
  (0x11730, 0x11746, "Ahom"), (0x11800, 0x1183B, "Dogr"), (0x118A0, 0x118F2, "Wara"),
  (0x118FF, 0x118FF, "Wara"), (0x11900, 0x11906, "Diak"), (0x11909, 0x11909, "Diak"),
  (0x1190C, 0x11913, "Diak"), (0x11915, 0x11916, "Diak"), (0x11918, 0x11935, "Diak"),
  (0x11937, 0x11938, "Diak"), (0x1193B, 0x11946, "Diak"), (0x11950, 0x11959, "Diak"),
  (0x119A0, 0x119A7, "Nand"), (0x119AA, 0x119D7, "Nand"), (0x119DA, 0x119E4, "Nand"),
  (0x11A00, 0x11A47, "Zanb"), (0x11A50, 0x11AA2, "Soyo"), (0x11AB0, 0x11ABF, "Cans"),
  (0x11AC0, 0x11AF8, "Pauc"), (0x11B00, 0x11B09, "Deva"), (0x11C00, 0x11C08, "Bhks"),
  (0x11C0A, 0x11C36, "Bhks"), (0x11C38, 0x11C45, "Bhks"), (0x11C50, 0x11C6C, "Bhks"),
  (0x11C70, 0x11C8F, "Marc"), (0x11C92, 0x11CA7, "Marc"), (0x11CA9, 0x11CB6, "Marc"),
  (0x11D00, 0x11D06, "Gonm"), (0x11D08, 0x11D09, "Gonm"), (0x11D0B, 0x11D36, "Gonm"),
  (0x11D3A, 0x11D3A, "Gonm"), (0x11D3C, 0x11D3D, "Gonm"), (0x11D3F, 0x11D47, "Gonm"),
  (0x11D50, 0x11D59, "Gonm"), (0x11D60, 0x11D65, "Gong"), (0x11D67, 0x11D68, "Gong"),
  (0x11D6A, 0x11D8E, "Gong"), (0x11D90, 0x11D91, "Gong"), (0x11D93, 0x11D98, "Gong"),
  (0x11DA0, 0x11DA9, "Gong"), (0x11EE0, 0x11EF8, "Maka"), (0x11F00, 0x11F10, "Kawi"),
  (0x11F12, 0x11F3A, "Kawi"), (0x11F3E, 0x11F59, "Kawi"), (0x11FB0, 0x11FB0, "Lisu"),
  (0x11FC0, 0x11FF1, "Taml"), (0x11FFF, 0x11FFF, "Taml"), (0x12000, 0x12399, "Xsux"),
  (0x12400, 0x1246E, "Xsux"), (0x12470, 0x12474, "Xsux"), (0x12480, 0x12543, "Xsux"),
  (0x12F90, 0x12FF2, "Cpmn"), (0x13000, 0x13455, "Egyp"), (0x14400, 0x14646, "Hluw"),
  (0x16800, 0x16A38, "Bamu"), (0x16A40, 0x16A5E, "Mroo"), (0x16A60, 0x16A69, "Mroo"),
  (0x16A6E, 0x16A6F, "Mroo"), (0x16A70, 0x16ABE, "Tnsa"), (0x16AC0, 0x16AC9, "Tnsa"),
  (0x16AD0, 0x16AED, "Bass"), (0x16AF0, 0x16AF5, "Bass"), (0x16B00, 0x16B45, "Hmng"),
  (0x16B50, 0x16B59, "Hmng"), (0x16B5B, 0x16B61, "Hmng"), (0x16B63, 0x16B77, "Hmng"),
  (0x16B7D, 0x16B8F, "Hmng"), (0x16E40, 0x16E9A, "Medf"), (0x16F00, 0x16F4A, "Plrd"),
  (0x16F4F, 0x16F87, "Plrd"), (0x16F8F, 0x16F9F, "Plrd"), (0x16FE0, 0x16FE0, "Tang"),
  (0x16FE1, 0x16FE1, "Nshu"), (0x16FE2, 0x16FE3, "Hani"), (0x16FE4, 0x16FE4, "Kits"),
  (0x16FF0, 0x16FF1, "Hani"), (0x17000, 0x187F7, "Tang"), (0x18800, 0x18AFF, "Tang"),
  (0x18B00, 0x18CD5, "Kits"), (0x18D00, 0x18D08, "Tang"), (0x1AFF0, 0x1AFF3, "Kana"),
  (0x1AFF5, 0x1AFFB, "Kana"), (0x1AFFD, 0x1AFFE, "Kana"), (0x1B000, 0x1B000, "Kana"),
  (0x1B001, 0x1B11F, "Hira"), (0x1B120, 0x1B122, "Kana"), (0x1B132, 0x1B132, "Hira"),
  (0x1B150, 0x1B152, "Hira"), (0x1B155, 0x1B155, "Kana"), (0x1B164, 0x1B167, "Kana"),
  (0x1B170, 0x1B2FB, "Nshu"), (0x1BC00, 0x1BC6A, "Dupl"), (0x1BC70, 0x1BC7C, "Dupl"),
  (0x1BC80, 0x1BC88, "Dupl"), (0x1BC90, 0x1BC99, "Dupl"), (0x1BC9C, 0x1BC9F, "Dupl"),
  (0x1BCA0, 0x1BCA3, "Zyyy"), (0x1CF00, 0x1CF2D, "Zinh"), (0x1CF30, 0x1CF46, "Zinh"),
  (0x1CF50, 0x1CFC3, "Zyyy"), (0x1D000, 0x1D0F5, "Zyyy"), (0x1D100, 0x1D126, "Zyyy"),
  (0x1D129, 0x1D166, "Zyyy"), (0x1D167, 0x1D169, "Zinh"), (0x1D16A, 0x1D17A, "Zyyy"),
  (0x1D17B, 0x1D182, "Zinh"), (0x1D183, 0x1D184, "Zyyy"), (0x1D185, 0x1D18B, "Zinh"),
  (0x1D18C, 0x1D1A9, "Zyyy"), (0x1D1AA, 0x1D1AD, "Zinh"), (0x1D1AE, 0x1D1EA, "Zyyy"),
  (0x1D200, 0x1D245, "Grek"), (0x1D2C0, 0x1D2D3, "Zyyy"), (0x1D2E0, 0x1D2F3, "Zyyy"),
  (0x1D300, 0x1D356, "Zyyy"), (0x1D360, 0x1D378, "Zyyy"), (0x1D400, 0x1D454, "Zyyy"),
  (0x1D456, 0x1D49C, "Zyyy"), (0x1D49E, 0x1D49F, "Zyyy"), (0x1D4A2, 0x1D4A2, "Zyyy"),
  (0x1D4A5, 0x1D4A6, "Zyyy"), (0x1D4A9, 0x1D4AC, "Zyyy"), (0x1D4AE, 0x1D4B9, "Zyyy"),
  (0x1D4BB, 0x1D4BB, "Zyyy"), (0x1D4BD, 0x1D4C3, "Zyyy"), (0x1D4C5, 0x1D505, "Zyyy"),
  (0x1D507, 0x1D50A, "Zyyy"), (0x1D50D, 0x1D514, "Zyyy"), (0x1D516, 0x1D51C, "Zyyy"),
  (0x1D51E, 0x1D539, "Zyyy"), (0x1D53B, 0x1D53E, "Zyyy"), (0x1D540, 0x1D544, "Zyyy"),
  (0x1D546, 0x1D546, "Zyyy"), (0x1D54A, 0x1D550, "Zyyy"), (0x1D552, 0x1D6A5, "Zyyy"),
  (0x1D6A8, 0x1D7CB, "Zyyy"), (0x1D7CE, 0x1D7FF, "Zyyy"), (0x1D800, 0x1DA8B, "Sgnw"),
  (0x1DA9B, 0x1DA9F, "Sgnw"), (0x1DAA1, 0x1DAAF, "Sgnw"), (0x1DF00, 0x1DF1E, "Latn"),
  (0x1DF25, 0x1DF2A, "Latn"), (0x1E000, 0x1E006, "Glag"), (0x1E008, 0x1E018, "Glag"),
  (0x1E01B, 0x1E021, "Glag"), (0x1E023, 0x1E024, "Glag"), (0x1E026, 0x1E02A, "Glag"),
  (0x1E030, 0x1E06D, "Cyrl"), (0x1E08F, 0x1E08F, "Cyrl"), (0x1E100, 0x1E12C, "Hmnp"),
  (0x1E130, 0x1E13D, "Hmnp"), (0x1E140, 0x1E149, "Hmnp"), (0x1E14E, 0x1E14F, "Hmnp"),
  (0x1E290, 0x1E2AE, "Toto"), (0x1E2C0, 0x1E2F9, "Wcho"), (0x1E2FF, 0x1E2FF, "Wcho"),
  (0x1E4D0, 0x1E4F9, "Nagm"), (0x1E7E0, 0x1E7E6, "Ethi"), (0x1E7E8, 0x1E7EB, "Ethi"),
  (0x1E7ED, 0x1E7EE, "Ethi"), (0x1E7F0, 0x1E7FE, "Ethi"), (0x1E800, 0x1E8C4, "Mend"),
  (0x1E8C7, 0x1E8D6, "Mend"), (0x1E900, 0x1E94B, "Adlm"), (0x1E950, 0x1E959, "Adlm"),
  (0x1E95E, 0x1E95F, "Adlm"), (0x1EC71, 0x1ECB4, "Zyyy"), (0x1ED01, 0x1ED3D, "Zyyy"),
  (0x1EE00, 0x1EE03, "Arab"), (0x1EE05, 0x1EE1F, "Arab"), (0x1EE21, 0x1EE22, "Arab"),
  (0x1EE24, 0x1EE24, "Arab"), (0x1EE27, 0x1EE27, "Arab"), (0x1EE29, 0x1EE32, "Arab"),
  (0x1EE34, 0x1EE37, "Arab"), (0x1EE39, 0x1EE39, "Arab"), (0x1EE3B, 0x1EE3B, "Arab"),
  (0x1EE42, 0x1EE42, "Arab"), (0x1EE47, 0x1EE47, "Arab"), (0x1EE49, 0x1EE49, "Arab"),
  (0x1EE4B, 0x1EE4B, "Arab"), (0x1EE4D, 0x1EE4F, "Arab"), (0x1EE51, 0x1EE52, "Arab"),
  (0x1EE54, 0x1EE54, "Arab"), (0x1EE57, 0x1EE57, "Arab"), (0x1EE59, 0x1EE59, "Arab"),
  (0x1EE5B, 0x1EE5B, "Arab"), (0x1EE5D, 0x1EE5D, "Arab"), (0x1EE5F, 0x1EE5F, "Arab"),
  (0x1EE61, 0x1EE62, "Arab"), (0x1EE64, 0x1EE64, "Arab"), (0x1EE67, 0x1EE6A, "Arab"),
  (0x1EE6C, 0x1EE72, "Arab"), (0x1EE74, 0x1EE77, "Arab"), (0x1EE79, 0x1EE7C, "Arab"),
  (0x1EE7E, 0x1EE7E, "Arab"), (0x1EE80, 0x1EE89, "Arab"), (0x1EE8B, 0x1EE9B, "Arab"),
  (0x1EEA1, 0x1EEA3, "Arab"), (0x1EEA5, 0x1EEA9, "Arab"), (0x1EEAB, 0x1EEBB, "Arab"),
  (0x1EEF0, 0x1EEF1, "Arab"), (0x1F000, 0x1F02B, "Zyyy"), (0x1F030, 0x1F093, "Zyyy"),
  (0x1F0A0, 0x1F0AE, "Zyyy"), (0x1F0B1, 0x1F0BF, "Zyyy"), (0x1F0C1, 0x1F0CF, "Zyyy"),
  (0x1F0D1, 0x1F0F5, "Zyyy"), (0x1F100, 0x1F1AD, "Zyyy"), (0x1F1E6, 0x1F1FF, "Zyyy"),
  (0x1F200, 0x1F200, "Hira"), (0x1F201, 0x1F202, "Zyyy"), (0x1F210, 0x1F23B, "Zyyy"),
  (0x1F240, 0x1F248, "Zyyy"), (0x1F250, 0x1F251, "Zyyy"), (0x1F260, 0x1F265, "Zyyy"),
  (0x1F300, 0x1F6D7, "Zyyy"), (0x1F6DC, 0x1F6EC, "Zyyy"), (0x1F6F0, 0x1F6FC, "Zyyy"),
  (0x1F700, 0x1F776, "Zyyy"), (0x1F77B, 0x1F7D9, "Zyyy"), (0x1F7E0, 0x1F7EB, "Zyyy"),
  (0x1F7F0, 0x1F7F0, "Zyyy"), (0x1F800, 0x1F80B, "Zyyy"), (0x1F810, 0x1F847, "Zyyy"),
  (0x1F850, 0x1F859, "Zyyy"), (0x1F860, 0x1F887, "Zyyy"), (0x1F890, 0x1F8AD, "Zyyy"),
  (0x1F8B0, 0x1F8B1, "Zyyy"), (0x1F900, 0x1FA53, "Zyyy"), (0x1FA60, 0x1FA6D, "Zyyy"),
  (0x1FA70, 0x1FA7C, "Zyyy"), (0x1FA80, 0x1FA88, "Zyyy"), (0x1FA90, 0x1FABD, "Zyyy"),
  (0x1FABF, 0x1FAC5, "Zyyy"), (0x1FACE, 0x1FADB, "Zyyy"), (0x1FAE0, 0x1FAE8, "Zyyy"),
  (0x1FAF0, 0x1FAF8, "Zyyy"), (0x1FB00, 0x1FB92, "Zyyy"), (0x1FB94, 0x1FBCA, "Zyyy"),
  (0x1FBF0, 0x1FBF9, "Zyyy"), (0x20000, 0x2A6DF, "Hani"), (0x2A700, 0x2B739, "Hani"),
  (0x2B740, 0x2B81D, "Hani"), (0x2B820, 0x2CEA1, "Hani"), (0x2CEB0, 0x2EBE0, "Hani"),
  (0x2F800, 0x2FA1D, "Hani"), (0x30000, 0x3134A, "Hani"), (0x31350, 0x323AF, "Hani"),
  (0xE0001, 0xE0001, "Zyyy"), (0xE0020, 0xE007F, "Zyyy"), (0xE0100, 0xE01EF, "Zinh")]

/-- All ranges, in ascending order. -/
def scriptRanges : Array (Nat × Nat × String) :=
  scriptRanges0 ++ scriptRanges1 ++ scriptRanges2

end SuiteRunner.Unicode
