import SuggestGateway.Text.RunTable
/-!
# Unicode blocks

The named ranges of code points that Unicode calls blocks, as text-quality heuristics group
characters by them. The controls below the space form a range of their own, `Control
character`, and `Basic Latin` starts at the space. The blocks are those of Unicode 13; a code
point outside them, and one of a block added later, is in no range.
-/
namespace SuggestGateway

/-- The names of the ranges, in the order of their code points. -/
def blockNames : Array String := #[
  "Control character", "Basic Latin", "Latin-1 Supplement", "Latin Extended-A",
  "Latin Extended-B", "IPA Extensions", "Spacing Modifier Letters",
  "Combining Diacritical Marks", "Greek and Coptic", "Cyrillic", "Cyrillic Supplement",
  "Armenian", "Hebrew", "Arabic", "Syriac", "Arabic Supplement", "Thaana", "NKo", "Samaritan",
  "Mandaic", "Syriac Supplement", "Arabic Extended-A", "Devanagari", "Bengali", "Gurmukhi",
  "Gujarati", "Oriya", "Tamil", "Telugu", "Kannada", "Malayalam", "Sinhala", "Thai", "Lao",
  "Tibetan", "Myanmar", "Georgian", "Hangul Jamo", "Ethiopic", "Ethiopic Supplement", "Cherokee",
  "Unified Canadian Aboriginal Syllabics", "Ogham", "Runic", "Tagalog", "Hanunoo", "Buhid",
  "Tagbanwa", "Khmer", "Mongolian", "Unified Canadian Aboriginal Syllabics Extended", "Limbu",
  "Tai Le", "New Tai Lue", "Khmer Symbols", "Buginese", "Tai Tham",
  "Combining Diacritical Marks Extended", "Balinese", "Sundanese", "Batak", "Lepcha", "Ol Chiki",
  "Cyrillic Extended-C", "Georgian Extended", "Sundanese Supplement", "Vedic Extensions",
  "Phonetic Extensions", "Phonetic Extensions Supplement",
  "Combining Diacritical Marks Supplement", "Latin Extended Additional", "Greek Extended",
  "General Punctuation", "Superscripts and Subscripts", "Currency Symbols",
  "Combining Diacritical Marks for Symbols", "Letterlike Symbols", "Number Forms", "Arrows",
  "Mathematical Operators", "Miscellaneous Technical", "Control Pictures",
  "Optical Character Recognition", "Enclosed Alphanumerics", "Box Drawing", "Block Elements",
  "Geometric Shapes", "Miscellaneous Symbols", "Dingbats",
  "Miscellaneous Mathematical Symbols-A", "Supplemental Arrows-A", "Braille Patterns",
  "Supplemental Arrows-B", "Miscellaneous Mathematical Symbols-B",
  "Supplemental Mathematical Operators", "Miscellaneous Symbols and Arrows", "Glagolitic",
  "Latin Extended-C", "Coptic", "Georgian Supplement", "Tifinagh", "Ethiopic Extended",
  "Cyrillic Extended-A", "Supplemental Punctuation", "CJK Radicals Supplement",
  "Kangxi Radicals", "Ideographic Description Characters", "CJK Symbols and Punctuation",
  "Hiragana", "Katakana", "Bopomofo", "Hangul Compatibility Jamo", "Kanbun", "Bopomofo Extended",
  "CJK Strokes", "Katakana Phonetic Extensions", "Enclosed CJK Letters and Months",
  "CJK Compatibility", "CJK Unified Ideographs Extension A", "Yijing Hexagram Symbols",
  "CJK Unified Ideographs", "Yi Syllables", "Yi Radicals", "Lisu", "Vai", "Cyrillic Extended-B",
  "Bamum", "Modifier Tone Letters", "Latin Extended-D", "Syloti Nagri",
  "Common Indic Number Forms", "Phags-pa", "Saurashtra", "Devanagari Extended", "Kayah Li",
  "Rejang", "Hangul Jamo Extended-A", "Javanese", "Myanmar Extended-B", "Cham",
  "Myanmar Extended-A", "Tai Viet", "Meetei Mayek Extensions", "Ethiopic Extended-A",
  "Latin Extended-E", "Cherokee Supplement", "Meetei Mayek", "Hangul Syllables",
  "Hangul Jamo Extended-B", "High Surrogates", "High Private Use Surrogates", "Low Surrogates",
  "Private Use Area", "CJK Compatibility Ideographs", "Alphabetic Presentation Forms",
  "Arabic Presentation Forms-A", "Variation Selectors", "Vertical Forms", "Combining Half Marks",
  "CJK Compatibility Forms", "Small Form Variants", "Arabic Presentation Forms-B",
  "Halfwidth and Fullwidth Forms", "Specials", "Linear B Syllabary", "Linear B Ideograms",
  "Aegean Numbers", "Ancient Greek Numbers", "Ancient Symbols", "Phaistos Disc", "Lycian",
  "Carian", "Coptic Epact Numbers", "Old Italic", "Gothic", "Old Permic", "Ugaritic",
  "Old Persian", "Deseret", "Shavian", "Osmanya", "Osage", "Elbasan", "Caucasian Albanian",
  "Linear A", "Cypriot Syllabary", "Imperial Aramaic", "Palmyrene", "Nabataean", "Hatran",
  "Phoenician", "Lydian", "Meroitic Hieroglyphs", "Meroitic Cursive", "Kharoshthi",
  "Old South Arabian", "Old North Arabian", "Manichaean", "Avestan", "Inscriptional Parthian",
  "Inscriptional Pahlavi", "Psalter Pahlavi", "Old Turkic", "Old Hungarian", "Hanifi Rohingya",
  "Rumi Numeral Symbols", "Yezidi", "Old Sogdian", "Sogdian", "Chorasmian", "Elymaic", "Brahmi",
  "Kaithi", "Sora Sompeng", "Chakma", "Mahajani", "Sharada", "Sinhala Archaic Numbers", "Khojki",
  "Multani", "Khudawadi", "Grantha", "Newa", "Tirhuta", "Siddham", "Modi",
  "Mongolian Supplement", "Takri", "Ahom", "Dogra", "Warang Citi", "Dives Akuru", "Nandinagari",
  "Zanabazar Square", "Soyombo", "Pau Cin Hau", "Bhaiksuki", "Marchen", "Masaram Gondi",
  "Gunjala Gondi", "Makasar", "Lisu Supplement", "Tamil Supplement", "Cuneiform",
  "Cuneiform Numbers and Punctuation", "Early Dynastic Cuneiform", "Egyptian Hieroglyphs",
  "Egyptian Hieroglyph Format Controls", "Anatolian Hieroglyphs", "Bamum Supplement", "Mro",
  "Tangsa", "Bassa Vah", "Pahawh Hmong", "Medefaidrin", "Miao",
  "Ideographic Symbols and Punctuation", "Tangut", "Tangut Components", "Khitan Small Script",
  "Tangut Supplement", "Kana Supplement", "Kana Extended-A", "Small Kana Extension", "Nushu",
  "Duployan", "Shorthand Format Controls", "Byzantine Musical Symbols", "Musical Symbols",
  "Ancient Greek Musical Notation", "Mayan Numerals", "Tai Xuan Jing Symbols",
  "Counting Rod Numerals", "Mathematical Alphanumeric Symbols", "Sutton SignWriting",
  "Glagolitic Supplement", "Nyiakeng Puachue Hmong", "Wancho", "Mende Kikakui", "Adlam",
  "Indic Siyaq Numbers", "Ottoman Siyaq Numbers", "Arabic Mathematical Alphabetic Symbols",
  "Mahjong Tiles", "Domino Tiles", "Playing Cards", "Enclosed Alphanumeric Supplement",
  "Enclosed Ideographic Supplement", "Miscellaneous Symbols and Pictographs", "Emoticons",
  "Ornamental Dingbats", "Transport and Map Symbols", "Alchemical Symbols",
  "Geometric Shapes Extended", "Supplemental Arrows-C", "Supplemental Symbols and Pictographs",
  "Chess Symbols", "Symbols and Pictographs Extended-A", "Symbols for Legacy Computing",
  "CJK Unified Ideographs Extension B", "CJK Unified Ideographs Extension C",
  "CJK Unified Ideographs Extension D", "CJK Unified Ideographs Extension E",
  "CJK Unified Ideographs Extension F", "CJK Compatibility Ideographs Supplement",
  "CJK Unified Ideographs Extension G", "Tags", "Variation Selectors Supplement",
  "Supplementary Private Use Area-A", "Supplementary Private Use Area-B"]

/-- Where the range changes, with the number of the range from there on counted from one, and
zero where no range holds. -/
def blockTable : RunTable := RunTable.parse <| String.join [
    "0:1,20:2,80:3,100:4,180:5,250:6,2B0:7,300:8,370:9,400:A,500:B,530:C,590:D,600:E,700:F,750:10,",
    "780:11,7C0:12,800:13,840:14,860:15,870:0,8A0:16,900:17,980:18,A00:19,A80:1A,B00:1B,B80:1C,",
    "C00:1D,C80:1E,D00:1F,D80:20,E00:21,E80:22,F00:23,1000:24,10A0:25,1100:26,1200:27,1380:28,",
    "13A0:29,1400:2A,1680:2B,16A0:2C,1700:2D,1720:2E,1740:2F,1760:30,1780:31,1800:32,18B0:33,1900:34,",
    "1950:35,1980:36,19E0:37,1A00:38,1A20:39,1AB0:3A,1B00:3B,1B80:3C,1BC0:3D,1C00:3E,1C50:3F,1C80:40,",
    "1C90:41,1CC0:42,1CD0:43,1D00:44,1D80:45,1DC0:46,1E00:47,1F00:48,2000:49,2070:4A,20A0:4B,20D0:4C,",
    "2100:4D,2150:4E,2190:4F,2200:50,2300:51,2400:52,2440:53,2460:54,2500:55,2580:56,25A0:57,2600:58,",
    "2700:59,27C0:5A,27F0:5B,2800:5C,2900:5D,2980:5E,2A00:5F,2B00:60,2C00:61,2C60:62,2C80:63,2D00:64,",
    "2D30:65,2D80:66,2DE0:67,2E00:68,2E80:69,2F00:6A,2FE0:0,2FF0:6B,3000:6C,3040:6D,30A0:6E,3100:6F,",
    "3130:70,3190:71,31A0:72,31C0:73,31F0:74,3200:75,3300:76,3400:77,4DC0:78,4E00:79,A000:7A,A490:7B,",
    "A4D0:7C,A500:7D,A640:7E,A6A0:7F,A700:80,A720:81,A800:82,A830:83,A840:84,A880:85,A8E0:86,A900:87,",
    "A930:88,A960:89,A980:8A,A9E0:8B,AA00:8C,AA60:8D,AA80:8E,AAE0:8F,AB00:90,AB30:91,AB70:92,ABC0:93,",
    "AC00:94,D7B0:95,D800:96,DB80:97,DC00:98,E000:99,F900:9A,FB00:9B,FB50:9C,FE00:9D,FE10:9E,FE20:9F,",
    "FE30:A0,FE50:A1,FE70:A2,FF00:A3,FFF0:A4,10000:A5,10080:A6,10100:A7,10140:A8,10190:A9,101D0:AA,",
    "10200:0,10280:AB,102A0:AC,102E0:AD,10300:AE,10330:AF,10350:B0,10380:B1,103A0:B2,103E0:0,",
    "10400:B3,10450:B4,10480:B5,104B0:B6,10500:B7,10530:B8,10570:0,10600:B9,10780:0,10800:BA,",
    "10840:BB,10860:BC,10880:BD,108B0:0,108E0:BE,10900:BF,10920:C0,10940:0,10980:C1,109A0:C2,",
    "10A00:C3,10A60:C4,10A80:C5,10AA0:0,10AC0:C6,10B00:C7,10B40:C8,10B60:C9,10B80:CA,10BB0:0,",
    "10C00:CB,10C50:0,10C80:CC,10D00:CD,10D40:0,10E60:CE,10E80:CF,10EC0:0,10F00:D0,10F30:D1,10F70:0,",
    "10FB0:D2,10FE0:D3,11000:D4,11080:D5,110D0:D6,11100:D7,11150:D8,11180:D9,111E0:DA,11200:DB,",
    "11250:0,11280:DC,112B0:DD,11300:DE,11380:0,11400:DF,11480:E0,114E0:0,11580:E1,11600:E2,11660:E3,",
    "11680:E4,116D0:0,11700:E5,11750:0,11800:E6,11850:0,118A0:E7,11900:E8,11960:0,119A0:E9,11A00:EA,",
    "11A50:EB,11AB0:0,11AC0:EC,11B00:0,11C00:ED,11C70:EE,11CC0:0,11D00:EF,11D60:F0,11DB0:0,11EE0:F1,",
    "11F00:0,11FB0:F2,11FC0:F3,12000:F4,12400:F5,12480:F6,12550:0,13000:F7,13430:F8,13460:0,14400:F9,",
    "14680:0,16800:FA,16A40:FB,16A70:FC,16AD0:FD,16B00:FE,16B90:0,16E40:FF,16EA0:0,16F00:100,16FA0:0,",
    "16FE0:101,17000:102,18800:103,18B00:104,18D00:105,18D80:0,1B000:106,1B100:107,1B130:108,",
    "1B170:109,1B300:0,1BC00:10A,1BCA0:10B,1BCB0:0,1D000:10C,1D100:10D,1D200:10E,1D250:0,1D2E0:10F,",
    "1D300:110,1D360:111,1D380:0,1D400:112,1D800:113,1DAB0:0,1E000:114,1E030:0,1E100:115,1E150:0,",
    "1E2C0:116,1E300:0,1E800:117,1E8E0:0,1E900:118,1E960:0,1EC70:119,1ECC0:0,1ED00:11A,1ED50:0,",
    "1EE00:11B,1EF00:0,1F000:11C,1F030:11D,1F0A0:11E,1F100:11F,1F200:120,1F300:121,1F600:122,",
    "1F650:123,1F680:124,1F700:125,1F780:126,1F800:127,1F900:128,1FA00:129,1FA70:12A,1FB00:12B,",
    "1FC00:0,20000:12C,2A6E0:0,2A700:12D,2B740:12E,2B820:12F,2CEB0:130,2EBF0:0,2F800:131,2FA20:0,",
    "30000:132,31350:0,E0000:133,E0080:0,E0100:134,E01F0:0,F0000:135,100000:136,"]

def blockOf? (c : Char) : Option String :=
  match blockTable.lookup c.toNat with
  | 0 => none
  | i + 1 => blockNames[i]?

end SuggestGateway
