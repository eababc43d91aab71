/-!
# Characters of domain names

Beyond ASCII, a character of a domain name is kept, replaced by other characters, left out, or not
allowed. The replacements fold capitals to small letters and variants of a character to the
character itself.
-/
namespace HealthAgent.Url

/-- A row `(first, last, step, target)`: the characters from `first` to `last` in steps stand for
those from `target` on in the same steps. -/
def replacementRuns : Array (Nat × Nat × Nat × Nat) := #[
  (0xC0, 0xD6, 1, 0xE0), (0xD8, 0xDE, 1, 0xF8), (0x100, 0x12E, 2, 0x101), (0x139, 0x13D, 2, 0x13A),
  (0x141, 0x147, 2, 0x142), (0x14A, 0x176, 2, 0x14B), (0x179, 0x17D, 2, 0x17A),
  (0x1A0, 0x1A4, 2, 0x1A1), (0x1CD, 0x1DB, 2, 0x1CE), (0x1DE, 0x1EE, 2, 0x1DF),
  (0x1F8, 0x21E, 2, 0x1F9), (0x222, 0x232, 2, 0x223), (0x246, 0x24E, 2, 0x247),
  (0x388, 0x38A, 1, 0x3AD), (0x391, 0x3A1, 1, 0x3B1), (0x3A3, 0x3AB, 1, 0x3C3),
  (0x3D8, 0x3EE, 2, 0x3D9), (0x3FD, 0x3FF, 1, 0x37B), (0x400, 0x40F, 1, 0x450),
  (0x410, 0x42F, 1, 0x430), (0x460, 0x480, 2, 0x461), (0x48A, 0x4BE, 2, 0x48B),
  (0x4C1, 0x4CD, 2, 0x4C2), (0x4D0, 0x52E, 2, 0x4D1), (0x531, 0x556, 1, 0x561),
  (0x10A0, 0x10C5, 1, 0x2D00), (0x13F8, 0x13FD, 1, 0x13F0), (0x1C90, 0x1CBA, 1, 0x10D0),
  (0x1CBD, 0x1CBF, 1, 0x10FD), (0x1D31, 0x1D39, 2, 0x65), (0x1D34, 0x1D3A, 2, 0x68),
  (0x1D5D, 0x1D5F, 1, 0x3B2), (0x1DA4, 0x1DA6, 1, 0x268), (0x1DAE, 0x1DB1, 1, 0x272),
  (0x1DBC, 0x1DBE, 1, 0x290), (0x1E00, 0x1E94, 2, 0x1E01), (0x1EA0, 0x1EFE, 2, 0x1EA1),
  (0x1F08, 0x1F0F, 1, 0x1F00), (0x1F18, 0x1F1D, 1, 0x1F10), (0x1F28, 0x1F2F, 1, 0x1F20),
  (0x1F38, 0x1F3F, 1, 0x1F30), (0x1F48, 0x1F4D, 1, 0x1F40), (0x1F59, 0x1F5F, 2, 0x1F51),
  (0x1F68, 0x1F6F, 1, 0x1F60), (0x2074, 0x2079, 1, 0x34), (0x2080, 0x2089, 1, 0x30),
  (0x2096, 0x2099, 1, 0x6B), (0x2119, 0x211B, 1, 0x70), (0x2135, 0x2138, 1, 0x5D0),
  (0x2460, 0x2468, 1, 0x31), (0x24B6, 0x24CF, 1, 0x61), (0x24D0, 0x24E9, 1, 0x61),
  (0x2C00, 0x2C2F, 1, 0x2C30), (0x2C67, 0x2C6B, 2, 0x2C68), (0x2C80, 0x2CE2, 2, 0x2C81),
  (0x3137, 0x3139, 1, 0x1103), (0x313A, 0x313F, 1, 0x11B0), (0x3141, 0x3143, 1, 0x1106),
  (0x3145, 0x314E, 1, 0x1109), (0x314F, 0x3163, 1, 0x1161), (0x3178, 0x317C, 1, 0x112B),
  (0x3184, 0x3186, 1, 0x1157), (0x3263, 0x3265, 1, 0x1105), (0x3269, 0x326D, 1, 0x110E),
  (0x32E4, 0x32E9, 1, 0x30CA), (0x32EE, 0x32F2, 1, 0x30DE), (0x32F5, 0x32FA, 1, 0x30E8),
  (0x32FB, 0x32FE, 1, 0x30EF), (0xA640, 0xA66C, 2, 0xA641), (0xA680, 0xA69A, 2, 0xA681),
  (0xA722, 0xA72E, 2, 0xA723), (0xA732, 0xA76E, 2, 0xA733), (0xA77E, 0xA786, 2, 0xA77F),
  (0xA796, 0xA7A8, 2, 0xA797), (0xA7B4, 0xA7C2, 2, 0xA7B5), (0xA7CC, 0xA7DA, 2, 0xA7CD),
  (0xAB70, 0xABBF, 1, 0x13A0), (0xFB24, 0xFB26, 1, 0x5DB), (0xFE41, 0xFE44, 1, 0x300C),
  (0xFF01, 0xFF20, 1, 0x21), (0xFF21, 0xFF3A, 1, 0x61), (0xFF3B, 0xFF5E, 1, 0x5B),
  (0xFF85, 0xFF8A, 1, 0x30CA), (0xFF8F, 0xFF93, 1, 0x30DE), (0xFF96, 0xFF9B, 1, 0x30E8),
  (0xFFA7, 0xFFA9, 1, 0x1103), (0xFFAA, 0xFFAF, 1, 0x11B0), (0xFFB1, 0xFFB3, 1, 0x1106),
  (0xFFB5, 0xFFBE, 1, 0x1109), (0xFFC2, 0xFFC7, 1, 0x1161), (0xFFCA, 0xFFCF, 1, 0x1167),
  (0xFFD2, 0xFFD7, 1, 0x116D), (0xFFDA, 0xFFDC, 1, 0x1173), (0xFFE9, 0xFFEC, 1, 0x2190),
  (0x10400, 0x10427, 1, 0x10428), (0x104B0, 0x104D3, 1, 0x104D8), (0x10570, 0x10594, 2, 0x10597),
  (0x10571, 0x10579, 2, 0x10598), (0x1057D, 0x10589, 2, 0x105A4), (0x1058D, 0x10591, 2, 0x105B4),
  (0x107B6, 0x107B8, 1, 0x1C0), (0x10C80, 0x10CB2, 1, 0x10CC0), (0x10D50, 0x10D65, 1, 0x10D70),
  (0x118A0, 0x118BF, 1, 0x118C0), (0x16E40, 0x16E5F, 1, 0x16E60), (0x16EA0, 0x16EB8, 1, 0x16EBB),
  (0x1CCD6, 0x1CCEF, 1, 0x61), (0x1CCF0, 0x1CCF9, 1, 0x30), (0x1D400, 0x1D419, 1, 0x61),
  (0x1D41A, 0x1D433, 1, 0x61), (0x1D434, 0x1D44D, 1, 0x61), (0x1D44E, 0x1D466, 2, 0x61),
  (0x1D44F, 0x1D453, 2, 0x62), (0x1D457, 0x1D467, 2, 0x6A), (0x1D468, 0x1D481, 1, 0x61),
  (0x1D482, 0x1D49B, 1, 0x61), (0x1D4A9, 0x1D4AC, 1, 0x6E), (0x1D4AE, 0x1D4B5, 1, 0x73),
  (0x1D4B6, 0x1D4B9, 1, 0x61), (0x1D4BB, 0x1D4CF, 2, 0x66), (0x1D4BE, 0x1D4C2, 2, 0x69),
  (0x1D4C6, 0x1D4CE, 2, 0x71), (0x1D4D0, 0x1D4E9, 1, 0x61), (0x1D4EA, 0x1D503, 1, 0x61),
  (0x1D505, 0x1D509, 2, 0x62), (0x1D50D, 0x1D514, 1, 0x6A), (0x1D516, 0x1D51C, 1, 0x73),
  (0x1D51E, 0x1D537, 1, 0x61), (0x1D539, 0x1D53D, 2, 0x62), (0x1D53C, 0x1D546, 2, 0x65),
  (0x1D54A, 0x1D550, 1, 0x73), (0x1D552, 0x1D56B, 1, 0x61), (0x1D56C, 0x1D585, 1, 0x61),
  (0x1D586, 0x1D59F, 1, 0x61), (0x1D5A0, 0x1D5B9, 1, 0x61), (0x1D5BA, 0x1D5D3, 1, 0x61),
  (0x1D5D4, 0x1D5ED, 1, 0x61), (0x1D5EE, 0x1D607, 1, 0x61), (0x1D608, 0x1D621, 1, 0x61),
  (0x1D622, 0x1D63B, 1, 0x61), (0x1D63C, 0x1D655, 1, 0x61), (0x1D656, 0x1D66F, 1, 0x61),
  (0x1D670, 0x1D689, 1, 0x61), (0x1D68A, 0x1D6A3, 1, 0x61), (0x1D6A8, 0x1D6B8, 1, 0x3B1),
  (0x1D6BA, 0x1D6C0, 1, 0x3C3), (0x1D6C2, 0x1D6D2, 1, 0x3B1), (0x1D6D4, 0x1D6DA, 1, 0x3C3),
  (0x1D6E2, 0x1D6F2, 1, 0x3B1), (0x1D6F4, 0x1D6FA, 1, 0x3C3), (0x1D6FC, 0x1D70C, 1, 0x3B1),
  (0x1D70E, 0x1D714, 1, 0x3C3), (0x1D71C, 0x1D72C, 1, 0x3B1), (0x1D72E, 0x1D734, 1, 0x3C3),
  (0x1D736, 0x1D746, 1, 0x3B1), (0x1D748, 0x1D74E, 1, 0x3C3), (0x1D756, 0x1D766, 1, 0x3B1),
  (0x1D768, 0x1D76E, 1, 0x3C3), (0x1D770, 0x1D780, 1, 0x3B1), (0x1D782, 0x1D788, 1, 0x3C3),
  (0x1D790, 0x1D7A0, 1, 0x3B1), (0x1D7A2, 0x1D7A8, 1, 0x3C3), (0x1D7AA, 0x1D7BA, 1, 0x3B1),
  (0x1D7BC, 0x1D7C2, 1, 0x3C3), (0x1D7CE, 0x1D7D7, 1, 0x30), (0x1D7D8, 0x1D7E1, 1, 0x30),
  (0x1D7E2, 0x1D7EB, 1, 0x30), (0x1D7EC, 0x1D7F5, 1, 0x30), (0x1D7F6, 0x1D7FF, 1, 0x30),
  (0x1E030, 0x1E038, 1, 0x430), (0x1E039, 0x1E03B, 1, 0x43A), (0x1E03C, 0x1E046, 1, 0x43E),
  (0x1E051, 0x1E059, 1, 0x430), (0x1E05F, 0x1E064, 1, 0x443), (0x1E900, 0x1E921, 1, 0x1E922),
  (0x1EE0A, 0x1EE0D, 1, 0x643), (0x1EE2A, 0x1EE2D, 1, 0x643), (0x1EE8B, 0x1EE8D, 1, 0x644),
  (0x1EEAB, 0x1EEAD, 1, 0x644), (0x1F130, 0x1F149, 1, 0x61), (0x1FBF0, 0x1FBF9, 1, 0x30)]

/-- A row `(first, texts)`: the characters from `first` on stand for the texts between the bars. -/
def replacementTexts : Array (Nat × String) := #[
  (0xA0, " "), (0xA8, " \u0308"), (0xAA, "a"), (0xAF, " \u0304"), (0xB2, "2|3| \u0301|μ"),
  (0xB8, " \u0327|1|o"), (0xBC, "1⁄4|1⁄2|3⁄4"), (0x130, "i\u0307"), (0x132, "ij|ij|ĵ"),
  (0x136, "ķ"), (0x13F, "l·|l·"), (0x149, "ʼn"), (0x178, "ÿ"), (0x17F, "s"), (0x181, "ɓ|ƃ"),
  (0x184, "ƅ"), (0x186, "ɔ|ƈ"), (0x189, "ɖ|ɗ|ƌ"), (0x18E, "ǝ|ə|ɛ|ƒ"), (0x193, "ɠ|ɣ"),
  (0x196, "ɩ|ɨ|ƙ"), (0x19C, "ɯ|ɲ"), (0x19F, "ɵ"), (0x1A6, "ʀ|ƨ"), (0x1A9, "ʃ"), (0x1AC, "ƭ"),
  (0x1AE, "ʈ|ư"), (0x1B1, "ʊ|ʋ|ƴ"), (0x1B5, "ƶ"), (0x1B7, "ʒ|ƹ"), (0x1BC, "ƽ"),
  (0x1C4, "dž|dž|dž|lj|lj|lj|nj|nj|nj"), (0x1F1, "dz|dz|dz|ǵ"), (0x1F6, "ƕ|ƿ"), (0x220, "ƞ"),
  (0x23A, "ⱥ|ȼ"), (0x23D, "ƚ|ⱦ"), (0x241, "ɂ"), (0x243, "ƀ|ʉ|ʌ"), (0x2B0, "h|ɦ|j|r|ɹ|ɻ|ʁ|w|y"),
  (0x2D8, " \u0306| \u0307| \u030a| \u0328| \u0303| \u030b"), (0x2E0, "ɣ|l|s|x|ʕ"),
  (0x340, "\u0300|\u0301"), (0x343, "\u0313|\u0308\u0301|ι"), (0x370, "ͱ"), (0x372, "ͳ"),
  (0x374, "ʹ"), (0x376, "ͷ"), (0x37A, " ι"), (0x37E, ";|ϳ"), (0x384, " \u0301| \u0308\u0301|ά|·"),
  (0x38C, "ό"), (0x38E, "ύ|ώ"), (0x3CF, "ϗ|β|θ|υ|ύ|ϋ|φ|π"), (0x3F0, "κ|ρ|σ"), (0x3F4, "θ|ε"),
  (0x3F7, "ϸ"), (0x3F9, "σ|ϻ"), (0x4C0, "ӏ"), (0x558, "է"), (0x587, "եւ"),
  (0x675, "\u0627\u0674|\u0648\u0674|\u06c7\u0674|\u064a\u0674"),
  (0x958, "क\u093c|ख\u093c|ग\u093c|ज\u093c|ड\u093c|ढ\u093c|फ\u093c|य\u093c"),
  (0x9DC, "ড\u09bc|ঢ\u09bc"), (0x9DF, "য\u09bc"), (0xA33, "ਲ\u0a3c"), (0xA36, "ਸ\u0a3c"),
  (0xA59, "ਖ\u0a3c|ਗ\u0a3c|ਜ\u0a3c"), (0xA5E, "ਫ\u0a3c"), (0xB5C, "ଡ\u0b3c|ଢ\u0b3c"),
  (0xE33, "\u0e4dา"), (0xEB3, "\u0ecdາ"), (0xEDC, "ຫນ|ຫມ"), (0xF0C, "་"), (0xF43, "ག\u0fb7"),
  (0xF4D, "ཌ\u0fb7"), (0xF52, "ད\u0fb7"), (0xF57, "བ\u0fb7"), (0xF5C, "ཛ\u0fb7"),
  (0xF69, "ཀ\u0fb5"), (0xF73, "\u0f71\u0f72"),
  (0xF75, "\u0f71\u0f74|\u0fb2\u0f80|\u0fb2\u0f71\u0f80|\u0fb3\u0f80|\u0fb3\u0f71\u0f80"),
  (0xF81, "\u0f71\u0f80"), (0xF93, "\u0f92\u0fb7"), (0xF9D, "\u0f9c\u0fb7"),
  (0xFA2, "\u0fa1\u0fb7"), (0xFA7, "\u0fa6\u0fb7"), (0xFAC, "\u0fab\u0fb7"),
  (0xFB9, "\u0f90\u0fb5"), (0x10C7, "ⴧ"), (0x10CD, "ⴭ"), (0x10FC, "ნ"),
  (0x1C80, "в|д|о|с|т|т|ъ|ѣ|ꙋ|\u1c8a"), (0x1D2C, "a|æ|b"), (0x1D30, "d"), (0x1D32, "ǝ"),
  (0x1D3C, "o|ȣ|p|r|t|u|w|a|ɐ|ɑ|ᴂ|b|d|e|ə|ɛ|ɜ|g"), (0x1D4F, "k|m|ŋ|o|ɔ|ᴖ|ᴗ|p|t|u|ᴝ|ɯ|v|ᴥ"),
  (0x1D60, "φ|χ|i|r|u|v|β|γ|ρ|φ|χ"), (0x1D78, "н"), (0x1D9B, "ɒ|c|ɕ|ð|ɜ|f|ɟ|ɡ|ɥ"),
  (0x1DA7, "ᵻ|ʝ|ɭ|ᶅ|ʟ|ɱ|ɰ"), (0x1DB2, "ɸ|ʂ|ʃ|ƫ|ʉ|ʊ|ᴜ|ʋ|ʌ|z"), (0x1DBF, "θ"), (0x1E9A, "aʾ|ṡ"),
  (0x1E9E, "ß"), (0x1F71, "ά"), (0x1F73, "έ"), (0x1F75, "ή"), (0x1F77, "ί"), (0x1F79, "ό"),
  (0x1F7B, "ύ"), (0x1F7D, "ώ"),
  (0x1F80, "ἀι|ἁι|ἂι|ἃι|ἄι|ἅι|ἆι|ἇι|ἀι|ἁι|ἂι|ἃι|ἄι|ἅι|ἆι|ἇι|ἠι|ἡι|ἢι|ἣι|ἤι|ἥι|ἦι|ἧι|ἠι|ἡι"),
  (0x1F9A, "ἢι|ἣι|ἤι|ἥι|ἦι|ἧι|ὠι|ὡι|ὢι|ὣι|ὤι|ὥι|ὦι|ὧι|ὠι|ὡι|ὢι|ὣι|ὤι|ὥι|ὦι|ὧι"),
  (0x1FB2, "ὰι|αι|άι"), (0x1FB7, "ᾶι|ᾰ|ᾱ|ὰ|ά|αι| \u0313|ι| \u0313| \u0342| \u0308\u0342|ὴι|ηι|ήι"),
  (0x1FC7, "ῆι|ὲ|έ|ὴ|ή|ηι| \u0313\u0300| \u0313\u0301| \u0313\u0342"), (0x1FD3, "ΐ"),
  (0x1FD8, "ῐ|ῑ|ὶ|ί"), (0x1FDD, " \u0314\u0300| \u0314\u0301| \u0314\u0342"), (0x1FE3, "ΰ"),
  (0x1FE8, "ῠ|ῡ|ὺ|ύ|ῥ| \u0308\u0300| \u0308\u0301|\x60"), (0x1FF2, "ὼι|ωι|ώι"),
  (0x1FF7, "ῶι|ὸ|ό|ὼ|ώ|ωι| \u0301| \u0314"), (0x2000, " | | | | | | | | | | "), (0x2011, "‐"),
  (0x2017, " \u0333"), (0x202F, " "), (0x2033, "′′|′′′"), (0x2036, "‵‵|‵‵‵"), (0x203C, "!!"),
  (0x203E, " \u0305"), (0x2047, "??|?!|!?"), (0x2057, "′′′′"), (0x205F, " "), (0x2070, "0|i"),
  (0x207A, "+|−|=|(|)|n"), (0x208A, "+|−|=|(|)"), (0x2090, "a|e|o|x|ə|h"), (0x209A, "p|s|t"),
  (0x20A8, "rs"), (0x2100, "a/c|a/s|c|°c"), (0x2105, "c/o|c/u|ɛ"),
  (0x2109, "°f|g|h|h|h|h|ħ|i|i|l|l"), (0x2115, "n|no"), (0x211C, "r|r"), (0x2120, "sm|tel|tm"),
  (0x2124, "z"), (0x2126, "ω"), (0x2128, "z"), (0x212A, "k|å|b|c"), (0x212F, "e|e|f|ⅎ|m|o"),
  (0x2139, "i"), (0x213B, "fax|π|γ|γ|π|∑"), (0x2145, "d|d|e|i|j"),
  (0x2150, "1⁄7|1⁄9|1⁄10|1⁄3|2⁄3|1⁄5|2⁄5|3⁄5|4⁄5|1⁄6|5⁄6|1⁄8|3⁄8|5⁄8|7⁄8|1⁄|i|ii|iii|iv|v"),
  (0x2165, "vi|vii|viii|ix|x|xi|xii|l|c|d|m|i|ii|iii|iv|v|vi|vii|viii|ix|x|xi|xii|l|c|d|m"),
  (0x2183, "ↄ"), (0x2189, "0⁄3"), (0x222C, "∫∫|∫∫∫"), (0x222F, "∮∮|∮∮∮"), (0x2329, "〈|〉"),
  (0x2469, "10|11|12|13|14|15|16|17|18|19|20|(1)|(2)|(3)|(4)|(5)|(6)|(7)|(8)|(9)|(10)"),
  (0x247E, "(11)|(12)|(13)|(14)|(15)|(16)|(17)|(18)|(19)|(20)"),
  (0x249C, "(a)|(b)|(c)|(d)|(e)|(f)|(g)|(h)|(i)|(j)|(k)|(l)|(m)|(n)|(o)|(p)|(q)|(r)|(s)"),
  (0x24AF, "(t)|(u)|(v)|(w)|(x)|(y)|(z)"), (0x24EA, "0"), (0x2A0C, "∫∫∫∫"), (0x2A74, "::=|==|==="),
  (0x2ADC, "⫝\u0338"), (0x2C60, "ⱡ"), (0x2C62, "ɫ|ᵽ|ɽ"), (0x2C6D, "ɑ|ɱ|ɐ|ɒ"), (0x2C72, "ⱳ"),
  (0x2C75, "ⱶ"), (0x2C7C, "j|v|ȿ|ɀ"), (0x2CEB, "ⳬ"), (0x2CED, "ⳮ"), (0x2CF2, "ⳳ"), (0x2D6F, "ⵡ"),
  (0x2E9F, "母"), (0x2EF3, "龟"),
  (0x2F00, "一|丨|丶|丿|乙|亅|二|亠|人|儿|入|八|冂|冖|冫|几|凵|刀|力|勹|匕|匚|匸|十|卜|卩|厂|厶|又|口|囗|土|士|夂|夊|夕|大|女|子"),
  (0x2F27, "宀|寸|小|尢|尸|屮|山|巛|工|己|巾|干|幺|广|廴|廾|弋|弓|彐|彡|彳|心|戈|戶|手|支|攴|文|斗|斤|方|无|日|曰|月|木|欠|止|歹"),
  (0x2F4E, "殳|毋|比|毛|氏|气|水|火|爪|父|爻|爿|片|牙|牛|犬|玄|玉|瓜|瓦|甘|生|用|田|疋|疒|癶|白|皮|皿|目|矛|矢|石|示|禸|禾|穴|立"),
  (0x2F75, "竹|米|糸|缶|网|羊|羽|老|而|耒|耳|聿|肉|臣|自|至|臼|舌|舛|舟|艮|色|艸|虍|虫|血|行|衣|襾|見|角|言|谷|豆|豕|豸|貝|赤|走"),
  (0x2F9C, "足|身|車|辛|辰|辵|邑|酉|釆|里|金|長|門|阜|隶|隹|雨|靑|非|面|革|韋|韭|音|頁|風|飛|食|首|香|馬|骨|高|髟|鬥|鬯|鬲|鬼|魚"),
  (0x2FC3, "鳥|鹵|鹿|麥|麻|黃|黍|黑|黹|黽|鼎|鼓|鼠|鼻|齊|齒|龍|龜|龠"), (0x3000, " "), (0x3002, "."), (0x3036, "〒"),
  (0x3038, "十|卄|卅"), (0x309B, " \u3099| \u309a"), (0x309F, "より"), (0x30FF, "コト"),
  (0x3131, "ᄀ|ᄁ|ᆪ|ᄂ|ᆬ|ᆭ"), (0x3140, "ᄚ"), (0x3144, "ᄡ"),
  (0x3165, "ᄔ|ᄕ|ᇇ|ᇈ|ᇌ|ᇎ|ᇓ|ᇗ|ᇙ|ᄜ|ᇝ|ᇟ|ᄝ|ᄞ|ᄠ|ᄢ|ᄣ|ᄧ|ᄩ"), (0x317D, "ᄲ|ᄶ|ᅀ|ᅇ|ᅌ|ᇱ|ᇲ"),
  (0x3187, "ᆄ|ᆅ|ᆈ|ᆑ|ᆒ|ᆔ|ᆞ|ᆡ"), (0x3192, "一|二|三|四|上|中|下|甲|乙|丙|丁|天|地|人"),
  (0x3200, "(ᄀ)|(ᄂ)|(ᄃ)|(ᄅ)|(ᄆ)|(ᄇ)|(ᄉ)|(ᄋ)|(ᄌ)|(ᄎ)|(ᄏ)|(ᄐ)|(ᄑ)|(ᄒ)|(가)|(나)|(다)|(라)|(마)"),
  (0x3213, "(바)|(사)|(아)|(자)|(차)|(카)|(타)|(파)|(하)|(주)|(오전)|(오후)"),
  (0x3220, "(一)|(二)|(三)|(四)|(五)|(六)|(七)|(八)|(九)|(十)|(月)|(火)|(水)|(木)|(金)|(土)|(日)|(株)|(有)"),
  (0x3233, "(社)|(名)|(特)|(財)|(祝)|(労)|(代)|(呼)|(学)|(監)|(企)|(資)|(協)|(祭)|(休)|(自)|(至)|問|幼|文|箏"),
  (0x3250, "pte|21|22|23|24|25|26|27|28|29|30|31|32|33|34|35|ᄀ|ᄂ|ᄃ"), (0x3266, "ᄉ|ᄋ|ᄌ"),
  (0x326E, "가|나|다|라|마|바|사|아|자|차|카|타|파|하|참고|주의|우"),
  (0x3280, "一|二|三|四|五|六|七|八|九|十|月|火|水|木|金|土|日|株|有|社|名|特|財|祝|労|秘|男|女|適|優|印|注|項|休|写|正|上|中|下"),
  (0x32A7, "左|右|医|宗|学|監|企|資|協|夜|36|37|38|39|40|41|42|43|44|45|46|47|48|49|50|1月|2月|3月|4月"),
  (0x32C4, "5月|6月|7月|8月|9月|10月|11月|12月|hg|erg|ev|ltd|ア|イ|ウ|エ|オ|カ|キ|ク|ケ|コ|サ|シ|ス|セ|ソ|タ|チ|ツ"),
  (0x32E2, "テ|ト"), (0x32EA, "ヒ|フ|ヘ|ホ"), (0x32F3, "ヤ|ユ"),
  (0x32FF, "令和|アパート|アルファ|アンペア|アール|イニング|インチ|ウォン|エスクード|エーカー|オンス|オーム|カイリ|カラット|カロリー|ガロン|ガンマ"),
  (0x3310, "ギガ|ギニー|キュリー|ギルダー|キロ|キログラム|キロメートル|キロワット|グラム|グラムトン|クルゼイロ|クローネ|ケース|コルナ|コーポ|サイクル"),
  (0x3320, "サンチーム|シリング|センチ|セント|ダース|デシ|ドル|トン|ナノ|ノット|ハイツ|パーセント|パーツ|バーレル|ピアストル|ピクル|ピコ|ビル"),
  (0x3332, "ファラッド|フィート|ブッシェル|フラン|ヘクタール|ペソ|ペニヒ|ヘルツ|ペンス|ページ|ベータ|ポイント|ボルト|ホン|ポンド|ホール|ホーン"),
  (0x3343, "マイクロ|マイル|マッハ|マルク|マンション|ミクロン|ミリ|ミリバール|メガ|メガトン|メートル|ヤード|ヤール|ユアン|リットル|リラ|ルピー"),
  (0x3354, "ルーブル|レム|レントゲン|ワット|0点|1点|2点|3点|4点|5点|6点|7点|8点|9点|10点|11点|12点|13点|14点|15点|16点"),
  (0x3369, "17点|18点|19点|20点|21点|22点|23点|24点|hpa|da|au|bar|ov|pc|dm|dm2|dm3|iu|平成|昭和|大正|明治"),
  (0x337F, "株式会社|pa|na|μa|ma|ka|kb|mb|gb|cal|kcal|pf|nf|μf|μg|mg|kg|hz|khz|mhz|ghz|thz|μl"),
  (0x3396, "ml|dl|kl|fm|nm|μm|mm|cm|km|mm2|cm2|m2|km2|mm3|cm3|m3|km3|m∕s|m∕s2|pa|kpa|mpa"),
  (0x33AC, "gpa|rad|rad∕s|rad∕s2|ps|ns|μs|ms|pv|nv|μv|mv|kv|mv|pw|nw|μw|mw|kw|mw|kω|mω"),
  (0x33C3, "bq|cc|cd|c∕kg"), (0x33C8, "db|gy|ha|hp|in|kk|km|kt|lm|ln|log|lx|mb|mil|mol|ph"),
  (0x33D9, "ppm|pr|sr|sv|wb|v∕m|a∕m|1日|2日|3日|4日|5日|6日|7日|8日|9日|10日|11日|12日|13日|14日|15日"),
  (0x33EF, "16日|17日|18日|19日|20日|21日|22日|23日|24日|25日|26日|27日|28日|29日|30日|31日|gal"), (0xA69C, "ъ|ь"),
  (0xA770, "ꝯ"), (0xA779, "ꝺ"), (0xA77B, "ꝼ"), (0xA77D, "ᵹ"), (0xA78B, "ꞌ"), (0xA78D, "ɥ"),
  (0xA790, "ꞑ"), (0xA792, "ꞓ"), (0xA7AA, "ɦ|ɜ|ɡ|ɬ|ɪ"), (0xA7B0, "ʞ|ʇ|ʝ|ꭓ"), (0xA7C4, "ꞔ|ʂ|ᶎ|ꟈ"),
  (0xA7C9, "ꟊ"), (0xA7CB, "ɤ"), (0xA7DC, "ƛ"), (0xA7F1, "s|c|f|q|ꟶ"), (0xA7F8, "ħ|œ"),
  (0xAB5C, "ꜧ|ꬷ|ɫ|ꭒ"), (0xAB69, "ʍ"),
  (0xF900, "豈|更|車|賈|滑|串|句|龜|龜|契|金|喇|奈|懶|癩|羅|蘿|螺|裸|邏|樂|洛|烙|珞|落|酪|駱|亂|卵|欄|爛|蘭|鸞|嵐|濫|藍|襤|拉|臘"),
  (0xF927, "蠟|廊|朗|浪|狼|郎|來|冷|勞|擄|櫓|爐|盧|老|蘆|虜|路|露|魯|鷺|碌|祿|綠|菉|錄|鹿|論|壟|弄|籠|聾|牢|磊|賂|雷|壘|屢|樓|淚"),
  (0xF94E, "漏|累|縷|陋|勒|肋|凜|凌|稜|綾|菱|陵|讀|拏|樂|諾|丹|寧|怒|率|異|北|磻|便|復|不|泌|數|索|參|塞|省|葉|說|殺|辰|沈|拾|若"),
  (0xF975, "掠|略|亮|兩|凉|梁|糧|良|諒|量|勵|呂|女|廬|旅|濾|礪|閭|驪|麗|黎|力|曆|歷|轢|年|憐|戀|撚|漣|煉|璉|秊|練|聯|輦|蓮|連|鍊"),
  (0xF99C, "列|劣|咽|烈|裂|說|廉|念|捻|殮|簾|獵|令|囹|寧|嶺|怜|玲|瑩|羚|聆|鈴|零|靈|領|例|禮|醴|隸|惡|了|僚|寮|尿|料|樂|燎|療|蓼"),
  (0xF9C3, "遼|龍|暈|阮|劉|杻|柳|流|溜|琉|留|硫|紐|類|六|戮|陸|倫|崙|淪|輪|律|慄|栗|率|隆|利|吏|履|易|李|梨|泥|理|痢|罹|裏|裡|里"),
  (0xF9EA, "離|匿|溺|吝|燐|璘|藺|隣|鱗|麟|林|淋|臨|立|笠|粒|狀|炙|識|什|茶|刺|切|度|拓|糖|宅|洞|暴|輻|行|降|見|廓|兀|嗀"),
  (0xFA10, "塚"), (0xFA12, "晴"), (0xFA15, "凞|猪|益|礼|神|祥|福|靖|精|羽"), (0xFA20, "蘒"), (0xFA22, "諸"),
  (0xFA25, "逸|都"),
  (0xFA2A, "飯|飼|館|鶴|郞|隷|侮|僧|免|勉|勤|卑|喝|嘆|器|塀|墨|層|屮|悔|慨|憎|懲|敏|既|暑|梅|海|渚|漢|煮|爫|琢|碑|社|祉|祈|祐|祖"),
  (0xFA51, "祝|禍|禎|穀|突|節|練|縉|繁|署|者|臭|艹|艹|著|褐|視|謁|謹|賓|贈|辶|逸|難|響|頻|恵|𤋮|舘"),
  (0xFA70, "並|况|全|侀|充|冀|勇|勺|喝|啕|喙|嗢|塚|墳|奄|奔|婢|嬨|廒|廙|彩|徭|惘|慎|愈|憎|慠|懲|戴|揄|搜|摒|敖|晴|朗|望|杖|歹|殺"),
  (0xFA97, "流|滛|滋|漢|瀞|煮|瞧|爵|犯|猪|瑱|甆|画|瘝|瘟|益|盛|直|睊|着|磌|窱|節|类|絛|練|缾|者|荒|華|蝹|襁|覆|視|調|諸|請|謁|諾"),
  (0xFABE, "諭|謹|變|贈|輸|遲|醙|鉶|陼|難|靖|韛|響|頋|頻|鬒|龜|𢡊|𢡄|𣏕|㮝|䀘|䀹|𥉉|𥳐|𧻓|齃|龎"),
  (0xFB00, "ff|fi|fl|ffi|ffl|st|st"), (0xFB13, "մն|մե|մի|վն|մխ"), (0xFB1D, "\u05d9\u05b4"),
  (0xFB1F, "\u05f2\u05b7|\u05e2|\u05d0|\u05d3|\u05d4"),
  (0xFB27, "\u05e8|\u05ea|+|\u05e9\u05c1|\u05e9\u05c2|\u05e9\u05bc\u05c1"),
  (0xFB2D, "\u05e9\u05bc\u05c2|\u05d0\u05b7|\u05d0\u05b8|\u05d0\u05bc|\u05d1\u05bc"),
  (0xFB32, "\u05d2\u05bc|\u05d3\u05bc|\u05d4\u05bc|\u05d5\u05bc|\u05d6\u05bc"),
  (0xFB38, "\u05d8\u05bc|\u05d9\u05bc|\u05da\u05bc|\u05db\u05bc|\u05dc\u05bc"),
  (0xFB3E, "\u05de\u05bc"), (0xFB40, "\u05e0\u05bc|\u05e1\u05bc"),
  (0xFB43, "\u05e3\u05bc|\u05e4\u05bc"),
  (0xFB46, "\u05e6\u05bc|\u05e7\u05bc|\u05e8\u05bc|\u05e9\u05bc|\u05ea\u05bc|\u05d5\u05b9"),
  (0xFB4C, "\u05d1\u05bf|\u05db\u05bf|\u05e4\u05bf|\u05d0\u05dc|\u0671|\u0671|\u067b"),
  (0xFB53, "\u067b|\u067b|\u067b|\u067e|\u067e|\u067e|\u067e|\u0680|\u0680|\u0680|\u0680"),
  (0xFB5E, "\u067a|\u067a|\u067a|\u067a|\u067f|\u067f|\u067f|\u067f|\u0679|\u0679|\u0679"),
  (0xFB69, "\u0679|\u06a4|\u06a4|\u06a4|\u06a4|\u06a6|\u06a6|\u06a6|\u06a6|\u0684|\u0684"),
  (0xFB74, "\u0684|\u0684|\u0683|\u0683|\u0683|\u0683|\u0686|\u0686|\u0686|\u0686|\u0687"),
  (0xFB7F, "\u0687|\u0687|\u0687|\u068d|\u068d|\u068c|\u068c|\u068e|\u068e|\u0688|\u0688"),
  (0xFB8A, "\u0698|\u0698|\u0691|\u0691|\u06a9|\u06a9|\u06a9|\u06a9|\u06af|\u06af|\u06af"),
  (0xFB95, "\u06af|\u06b3|\u06b3|\u06b3|\u06b3|\u06b1|\u06b1|\u06b1|\u06b1|\u06ba|\u06ba"),
  (0xFBA0, "\u06bb|\u06bb|\u06bb|\u06bb|\u06c0|\u06c0|\u06c1|\u06c1|\u06c1|\u06c1|\u06be"),
  (0xFBAB, "\u06be|\u06be|\u06be|\u06d2|\u06d2|\u06d3|\u06d3"),
  (0xFBD3, "\u06ad|\u06ad|\u06ad|\u06ad|\u06c7|\u06c7|\u06c6|\u06c6|\u06c8|\u06c8"),
  (0xFBDD, "\u06c7\u0674|\u06cb|\u06cb|\u06c5|\u06c5|\u06c9|\u06c9|\u06d0|\u06d0|\u06d0"),
  (0xFBE7, "\u06d0|\u0649|\u0649|\u0626\u0627|\u0626\u0627|\u0626\u06d5|\u0626\u06d5"),
  (0xFBEE, "\u0626\u0648|\u0626\u0648|\u0626\u06c7|\u0626\u06c7|\u0626\u06c6|\u0626\u06c6"),
  (0xFBF4, "\u0626\u06c8|\u0626\u06c8|\u0626\u06d0|\u0626\u06d0|\u0626\u06d0|\u0626\u0649"),
  (0xFBFA, "\u0626\u0649|\u0626\u0649|\u06cc|\u06cc|\u06cc|\u06cc|\u0626\u062c"),
  (0xFC01, "\u0626\u062d|\u0626\u0645|\u0626\u0649|\u0626\u064a|\u0628\u062c|\u0628\u062d"),
  (0xFC07, "\u0628\u062e|\u0628\u0645|\u0628\u0649|\u0628\u064a|\u062a\u062c|\u062a\u062d"),
  (0xFC0D, "\u062a\u062e|\u062a\u0645|\u062a\u0649|\u062a\u064a|\u062b\u062c|\u062b\u0645"),
  (0xFC13, "\u062b\u0649|\u062b\u064a|\u062c\u062d|\u062c\u0645|\u062d\u062c|\u062d\u0645"),
  (0xFC19, "\u062e\u062c|\u062e\u062d|\u062e\u0645|\u0633\u062c|\u0633\u062d|\u0633\u062e"),
  (0xFC1F, "\u0633\u0645|\u0635\u062d|\u0635\u0645|\u0636\u062c|\u0636\u062d|\u0636\u062e"),
  (0xFC25, "\u0636\u0645|\u0637\u062d|\u0637\u0645|\u0638\u0645|\u0639\u062c|\u0639\u0645"),
  (0xFC2B, "\u063a\u062c|\u063a\u0645|\u0641\u062c|\u0641\u062d|\u0641\u062e|\u0641\u0645"),
  (0xFC31, "\u0641\u0649|\u0641\u064a|\u0642\u062d|\u0642\u0645|\u0642\u0649|\u0642\u064a"),
  (0xFC37, "\u0643\u0627|\u0643\u062c|\u0643\u062d|\u0643\u062e|\u0643\u0644|\u0643\u0645"),
  (0xFC3D, "\u0643\u0649|\u0643\u064a|\u0644\u062c|\u0644\u062d|\u0644\u062e|\u0644\u0645"),
  (0xFC43, "\u0644\u0649|\u0644\u064a|\u0645\u062c|\u0645\u062d|\u0645\u062e|\u0645\u0645"),
  (0xFC49, "\u0645\u0649|\u0645\u064a|\u0646\u062c|\u0646\u062d|\u0646\u062e|\u0646\u0645"),
  (0xFC4F, "\u0646\u0649|\u0646\u064a|\u0647\u062c|\u0647\u0645|\u0647\u0649|\u0647\u064a"),
  (0xFC55, "\u064a\u062c|\u064a\u062d|\u064a\u062e|\u064a\u0645|\u064a\u0649|\u064a\u064a"),
  (0xFC5B, "\u0630\u0670|\u0631\u0670|\u0649\u0670| \u064c\u0651| \u064d\u0651"),
  (0xFC60, " \u064e\u0651| \u064f\u0651| \u0650\u0651| \u0651\u0670|\u0626\u0631"),
  (0xFC65, "\u0626\u0632|\u0626\u0645|\u0626\u0646|\u0626\u0649|\u0626\u064a|\u0628\u0631"),
  (0xFC6B, "\u0628\u0632|\u0628\u0645|\u0628\u0646|\u0628\u0649|\u0628\u064a|\u062a\u0631"),
  (0xFC71, "\u062a\u0632|\u062a\u0645|\u062a\u0646|\u062a\u0649|\u062a\u064a|\u062b\u0631"),
  (0xFC77, "\u062b\u0632|\u062b\u0645|\u062b\u0646|\u062b\u0649|\u062b\u064a|\u0641\u0649"),
  (0xFC7D, "\u0641\u064a|\u0642\u0649|\u0642\u064a|\u0643\u0627|\u0643\u0644|\u0643\u0645"),
  (0xFC83, "\u0643\u0649|\u0643\u064a|\u0644\u0645|\u0644\u0649|\u0644\u064a|\u0645\u0627"),
  (0xFC89, "\u0645\u0645|\u0646\u0631|\u0646\u0632|\u0646\u0645|\u0646\u0646|\u0646\u0649"),
  (0xFC8F, "\u0646\u064a|\u0649\u0670|\u064a\u0631|\u064a\u0632|\u064a\u0645|\u064a\u0646"),
  (0xFC95, "\u064a\u0649|\u064a\u064a|\u0626\u062c|\u0626\u062d|\u0626\u062e|\u0626\u0645"),
  (0xFC9B, "\u0626\u0647|\u0628\u062c|\u0628\u062d|\u0628\u062e|\u0628\u0645|\u0628\u0647"),
  (0xFCA1, "\u062a\u062c|\u062a\u062d|\u062a\u062e|\u062a\u0645|\u062a\u0647|\u062b\u0645"),
  (0xFCA7, "\u062c\u062d|\u062c\u0645|\u062d\u062c|\u062d\u0645|\u062e\u062c|\u062e\u0645"),
  (0xFCAD, "\u0633\u062c|\u0633\u062d|\u0633\u062e|\u0633\u0645|\u0635\u062d|\u0635\u062e"),
  (0xFCB3, "\u0635\u0645|\u0636\u062c|\u0636\u062d|\u0636\u062e|\u0636\u0645|\u0637\u062d"),
  (0xFCB9, "\u0638\u0645|\u0639\u062c|\u0639\u0645|\u063a\u062c|\u063a\u0645|\u0641\u062c"),
  (0xFCBF, "\u0641\u062d|\u0641\u062e|\u0641\u0645|\u0642\u062d|\u0642\u0645|\u0643\u062c"),
  (0xFCC5, "\u0643\u062d|\u0643\u062e|\u0643\u0644|\u0643\u0645|\u0644\u062c|\u0644\u062d"),
  (0xFCCB, "\u0644\u062e|\u0644\u0645|\u0644\u0647|\u0645\u062c|\u0645\u062d|\u0645\u062e"),
  (0xFCD1, "\u0645\u0645|\u0646\u062c|\u0646\u062d|\u0646\u062e|\u0646\u0645|\u0646\u0647"),
  (0xFCD7, "\u0647\u062c|\u0647\u0645|\u0647\u0670|\u064a\u062c|\u064a\u062d|\u064a\u062e"),
  (0xFCDD, "\u064a\u0645|\u064a\u0647|\u0626\u0645|\u0626\u0647|\u0628\u0645|\u0628\u0647"),
  (0xFCE3, "\u062a\u0645|\u062a\u0647|\u062b\u0645|\u062b\u0647|\u0633\u0645|\u0633\u0647"),
  (0xFCE9, "\u0634\u0645|\u0634\u0647|\u0643\u0644|\u0643\u0645|\u0644\u0645|\u0646\u0645"),
  (0xFCEF, "\u0646\u0647|\u064a\u0645|\u064a\u0647|\u0640\u064e\u0651|\u0640\u064f\u0651"),
  (0xFCF4, "\u0640\u0650\u0651|\u0637\u0649|\u0637\u064a|\u0639\u0649|\u0639\u064a"),
  (0xFCF9, "\u063a\u0649|\u063a\u064a|\u0633\u0649|\u0633\u064a|\u0634\u0649|\u0634\u064a"),
  (0xFCFF, "\u062d\u0649|\u062d\u064a|\u062c\u0649|\u062c\u064a|\u062e\u0649|\u062e\u064a"),
  (0xFD05, "\u0635\u0649|\u0635\u064a|\u0636\u0649|\u0636\u064a|\u0634\u062c|\u0634\u062d"),
  (0xFD0B, "\u0634\u062e|\u0634\u0645|\u0634\u0631|\u0633\u0631|\u0635\u0631|\u0636\u0631"),
  (0xFD11, "\u0637\u0649|\u0637\u064a|\u0639\u0649|\u0639\u064a|\u063a\u0649|\u063a\u064a"),
  (0xFD17, "\u0633\u0649|\u0633\u064a|\u0634\u0649|\u0634\u064a|\u062d\u0649|\u062d\u064a"),
  (0xFD1D, "\u062c\u0649|\u062c\u064a|\u062e\u0649|\u062e\u064a|\u0635\u0649|\u0635\u064a"),
  (0xFD23, "\u0636\u0649|\u0636\u064a|\u0634\u062c|\u0634\u062d|\u0634\u062e|\u0634\u0645"),
  (0xFD29, "\u0634\u0631|\u0633\u0631|\u0635\u0631|\u0636\u0631|\u0634\u062c|\u0634\u062d"),
  (0xFD2F, "\u0634\u062e|\u0634\u0645|\u0633\u0647|\u0634\u0647|\u0637\u0645|\u0633\u062c"),
  (0xFD35, "\u0633\u062d|\u0633\u062e|\u0634\u062c|\u0634\u062d|\u0634\u062e|\u0637\u0645"),
  (0xFD3B, "\u0638\u0645|\u0627\u064b|\u0627\u064b"),
  (0xFD50, "\u062a\u062c\u0645|\u062a\u062d\u062c|\u062a\u062d\u062c|\u062a\u062d\u0645"),
  (0xFD54, "\u062a\u062e\u0645|\u062a\u0645\u062c|\u062a\u0645\u062d|\u062a\u0645\u062e"),
  (0xFD58, "\u062c\u0645\u062d|\u062c\u0645\u062d|\u062d\u0645\u064a|\u062d\u0645\u0649"),
  (0xFD5C, "\u0633\u062d\u062c|\u0633\u062c\u062d|\u0633\u062c\u0649|\u0633\u0645\u062d"),
  (0xFD60, "\u0633\u0645\u062d|\u0633\u0645\u062c|\u0633\u0645\u0645|\u0633\u0645\u0645"),
  (0xFD64, "\u0635\u062d\u062d|\u0635\u062d\u062d|\u0635\u0645\u0645|\u0634\u062d\u0645"),
  (0xFD68, "\u0634\u062d\u0645|\u0634\u062c\u064a|\u0634\u0645\u062e|\u0634\u0645\u062e"),
  (0xFD6C, "\u0634\u0645\u0645|\u0634\u0645\u0645|\u0636\u062d\u0649|\u0636\u062e\u0645"),
  (0xFD70, "\u0636\u062e\u0645|\u0637\u0645\u062d|\u0637\u0645\u062d|\u0637\u0645\u0645"),
  (0xFD74, "\u0637\u0645\u064a|\u0639\u062c\u0645|\u0639\u0645\u0645|\u0639\u0645\u0645"),
  (0xFD78, "\u0639\u0645\u0649|\u063a\u0645\u0645|\u063a\u0645\u064a|\u063a\u0645\u0649"),
  (0xFD7C, "\u0641\u062e\u0645|\u0641\u062e\u0645|\u0642\u0645\u062d|\u0642\u0645\u0645"),
  (0xFD80, "\u0644\u062d\u0645|\u0644\u062d\u064a|\u0644\u062d\u0649|\u0644\u062c\u062c"),
  (0xFD84, "\u0644\u062c\u062c|\u0644\u062e\u0645|\u0644\u062e\u0645|\u0644\u0645\u062d"),
  (0xFD88, "\u0644\u0645\u062d|\u0645\u062d\u062c|\u0645\u062d\u0645|\u0645\u062d\u064a"),
  (0xFD8C, "\u0645\u062c\u062d|\u0645\u062c\u0645|\u0645\u062e\u062c|\u0645\u062e\u0645"),
  (0xFD92, "\u0645\u062c\u062e|\u0647\u0645\u062c|\u0647\u0645\u0645|\u0646\u062d\u0645"),
  (0xFD96, "\u0646\u062d\u0649|\u0646\u062c\u0645|\u0646\u062c\u0645|\u0646\u062c\u0649"),
  (0xFD9A, "\u0646\u0645\u064a|\u0646\u0645\u0649|\u064a\u0645\u0645|\u064a\u0645\u0645"),
  (0xFD9E, "\u0628\u062e\u064a|\u062a\u062c\u064a|\u062a\u062c\u0649|\u062a\u062e\u064a"),
  (0xFDA2, "\u062a\u062e\u0649|\u062a\u0645\u064a|\u062a\u0645\u0649|\u062c\u0645\u064a"),
  (0xFDA6, "\u062c\u062d\u0649|\u062c\u0645\u0649|\u0633\u062e\u0649|\u0635\u062d\u064a"),
  (0xFDAA, "\u0634\u062d\u064a|\u0636\u062d\u064a|\u0644\u062c\u064a|\u0644\u0645\u064a"),
  (0xFDAE, "\u064a\u062d\u064a|\u064a\u062c\u064a|\u064a\u0645\u064a|\u0645\u0645\u064a"),
  (0xFDB2, "\u0642\u0645\u064a|\u0646\u062d\u064a|\u0642\u0645\u062d|\u0644\u062d\u0645"),
  (0xFDB6, "\u0639\u0645\u064a|\u0643\u0645\u064a|\u0646\u062c\u062d|\u0645\u062e\u064a"),
  (0xFDBA, "\u0644\u062c\u0645|\u0643\u0645\u0645|\u0644\u062c\u0645|\u0646\u062c\u062d"),
  (0xFDBE, "\u062c\u062d\u064a|\u062d\u062c\u064a|\u0645\u062c\u064a|\u0641\u0645\u064a"),
  (0xFDC2, "\u0628\u062d\u064a|\u0643\u0645\u0645|\u0639\u062c\u0645|\u0635\u0645\u0645"),
  (0xFDC6, "\u0633\u062e\u064a|\u0646\u062c\u064a"),
  (0xFDF0, "\u0635\u0644\u06d2|\u0642\u0644\u06d2|\u0627\u0644\u0644\u0647"),
  (0xFDF3, "\u0627\u0643\u0628\u0631|\u0645\u062d\u0645\u062f|\u0635\u0644\u0639\u0645"),
  (0xFDF6, "\u0631\u0633\u0648\u0644|\u0639\u0644\u064a\u0647|\u0648\u0633\u0644\u0645"),
  (0xFDF9, "\u0635\u0644\u0649"),
  (0xFDFA, "\u0635\u0644\u0649 \u0627\u0644\u0644\u0647 \u0639\u0644\u064a\u0647 \u0648\u0633\u0644\u0645"),
  (0xFDFB, "\u062c\u0644 \u062c\u0644\u0627\u0644\u0647|\u0631\u06cc\u0627\u0644"),
  (0xFE10, ",|、"), (0xFE13, ":|;|!|?|〖|〗"), (0xFE31, "—|–|_|_|(|)|\x7b|\x7d|〔|〕|【|】|《|》|〈|〉"),
  (0xFE47, "[|]| \u0305| \u0305| \u0305| \u0305|_|_|_|,|、"),
  (0xFE54, ";|:|?|!|—|(|)|\x7b|\x7d|〔|〕|#|&|*|+|-|<|>|="), (0xFE68, "\x5c|$|%|@"),
  (0xFE70, " \u064b|\u0640\u064b| \u064c"), (0xFE74, " \u064d"),
  (0xFE76, " \u064e|\u0640\u064e| \u064f|\u0640\u064f| \u0650|\u0640\u0650| \u0651"),
  (0xFE7D, "\u0640\u0651| \u0652|\u0640\u0652|\u0621|\u0622|\u0622|\u0623|\u0623|\u0624"),
  (0xFE86, "\u0624|\u0625|\u0625|\u0626|\u0626|\u0626|\u0626|\u0627|\u0627|\u0628|\u0628"),
  (0xFE91, "\u0628|\u0628|\u0629|\u0629|\u062a|\u062a|\u062a|\u062a|\u062b|\u062b|\u062b"),
  (0xFE9C, "\u062b|\u062c|\u062c|\u062c|\u062c|\u062d|\u062d|\u062d|\u062d|\u062e|\u062e"),
  (0xFEA7, "\u062e|\u062e|\u062f|\u062f|\u0630|\u0630|\u0631|\u0631|\u0632|\u0632|\u0633"),
  (0xFEB2, "\u0633|\u0633|\u0633|\u0634|\u0634|\u0634|\u0634|\u0635|\u0635|\u0635|\u0635"),
  (0xFEBD, "\u0636|\u0636|\u0636|\u0636|\u0637|\u0637|\u0637|\u0637|\u0638|\u0638|\u0638"),
  (0xFEC8, "\u0638|\u0639|\u0639|\u0639|\u0639|\u063a|\u063a|\u063a|\u063a|\u0641|\u0641"),
  (0xFED3, "\u0641|\u0641|\u0642|\u0642|\u0642|\u0642|\u0643|\u0643|\u0643|\u0643|\u0644"),
  (0xFEDE, "\u0644|\u0644|\u0644|\u0645|\u0645|\u0645|\u0645|\u0646|\u0646|\u0646|\u0646"),
  (0xFEE9, "\u0647|\u0647|\u0647|\u0647|\u0648|\u0648|\u0649|\u0649|\u064a|\u064a|\u064a"),
  (0xFEF4, "\u064a|\u0644\u0622|\u0644\u0622|\u0644\u0623|\u0644\u0623|\u0644\u0625"),
  (0xFEFA, "\u0644\u0625|\u0644\u0627|\u0644\u0627"),
  (0xFF5F, "⦅|⦆|.|「|」|、|・|ヲ|ァ|ィ|ゥ|ェ|ォ|ャ|ュ|ョ|ッ|ー|ア|イ|ウ|エ|オ|カ|キ|ク|ケ|コ|サ|シ|ス|セ|ソ|タ|チ|ツ|テ|ト"),
  (0xFF8B, "ヒ|フ|ヘ|ホ"), (0xFF94, "ヤ|ユ"), (0xFF9C, "ワ|ン|\u3099|\u309a"), (0xFFA1, "ᄀ|ᄁ|ᆪ|ᄂ|ᆬ|ᆭ"),
  (0xFFB0, "ᄚ"), (0xFFB4, "ᄡ"), (0xFFE0, "¢|£|¬| \u0304|¦|¥|₩"), (0xFFE8, "│"), (0xFFED, "■|○"),
  (0x10595, "𐖼"), (0x10781, "ː|ˑ|æ|ʙ|ɓ"),
  (0x10787, "ʣ|ꭦ|ʥ|ʤ|ɖ|ɗ|ᶑ|ɘ|ɞ|ʩ|ɤ|ɢ|ɠ|ʛ|ħ|ʜ|ɧ|ʄ|ʪ|ʫ|ɬ|𝼄|ꞎ|ɮ|𝼅|ʎ|𝼆|ø|ɶ|ɷ|q|ɺ|𝼈|ɽ|ɾ|ʀ|ʨ|ʦ|ꭧ"),
  (0x107AE, "ʧ|ʈ|ⱱ"), (0x107B2, "ʏ|ʡ|ʢ|ʘ"), (0x107B9, "𝼊|𝼞"),
  (0x1D15E, "𝅗𝅥|𝅘𝅥|𝅘𝅥𝅮|𝅘𝅥𝅯|𝅘𝅥𝅰|𝅘𝅥𝅱|𝅘𝅥𝅲"), (0x1D1BB, "𝆹𝅥|𝆺𝅥|𝆹𝅥𝅮|𝆺𝅥𝅮|𝆹𝅥𝅯|𝆺𝅥𝅯"), (0x1D49C, "a"),
  (0x1D49E, "c|d"), (0x1D4A2, "g"), (0x1D4A5, "j|k"), (0x1D504, "a"), (0x1D508, "e"),
  (0x1D50A, "g"), (0x1D538, "a"), (0x1D541, "j"), (0x1D543, "l"), (0x1D6A4, "ı|ȷ"), (0x1D6B9, "θ"),
  (0x1D6C1, "∇"), (0x1D6D3, "σ"), (0x1D6DB, "∂|ε|θ|κ|φ|ρ|π"), (0x1D6F3, "θ"), (0x1D6FB, "∇"),
  (0x1D70D, "σ"), (0x1D715, "∂|ε|θ|κ|φ|ρ|π"), (0x1D72D, "θ"), (0x1D735, "∇"), (0x1D747, "σ"),
  (0x1D74F, "∂|ε|θ|κ|φ|ρ|π"), (0x1D767, "θ"), (0x1D76F, "∇"), (0x1D781, "σ"),
  (0x1D789, "∂|ε|θ|κ|φ|ρ|π"), (0x1D7A1, "θ"), (0x1D7A9, "∇"), (0x1D7BB, "σ"),
  (0x1D7C3, "∂|ε|θ|κ|φ|ρ|π|ϝ|ϝ"), (0x1E047, "ы|э|ю|ꚉ|ә|і|ј|ө|ү|ӏ"), (0x1E05A, "к|л|о|п|с"),
  (0x1E065, "ъ|ы|ґ|і|ѕ|џ|ҫ|ꙑ|ұ"), (0x1EE00, "\u0627|\u0628|\u062c|\u062f"),
  (0x1EE05, "\u0648|\u0632|\u062d|\u0637|\u064a"),
  (0x1EE0E, "\u0633|\u0639|\u0641|\u0635|\u0642|\u0631|\u0634|\u062a|\u062b|\u062e|\u0630"),
  (0x1EE19, "\u0636|\u0638|\u063a|\u066e|\u06ba|\u06a1|\u066f"), (0x1EE21, "\u0628|\u062c"),
  (0x1EE24, "\u0647"), (0x1EE27, "\u062d"), (0x1EE29, "\u064a"),
  (0x1EE2E, "\u0633|\u0639|\u0641|\u0635|\u0642"), (0x1EE34, "\u0634|\u062a|\u062b|\u062e"),
  (0x1EE39, "\u0636"), (0x1EE3B, "\u063a"), (0x1EE42, "\u062c"), (0x1EE47, "\u062d"),
  (0x1EE49, "\u064a"), (0x1EE4B, "\u0644"), (0x1EE4D, "\u0646|\u0633|\u0639"),
  (0x1EE51, "\u0635|\u0642"), (0x1EE54, "\u0634"), (0x1EE57, "\u062e"), (0x1EE59, "\u0636"),
  (0x1EE5B, "\u063a"), (0x1EE5D, "\u06ba"), (0x1EE5F, "\u066f"), (0x1EE61, "\u0628|\u062c"),
  (0x1EE64, "\u0647"), (0x1EE67, "\u062d|\u0637|\u064a|\u0643"),
  (0x1EE6C, "\u0645|\u0646|\u0633|\u0639|\u0641|\u0635|\u0642"),
  (0x1EE74, "\u0634|\u062a|\u062b|\u062e"), (0x1EE79, "\u0636|\u0638|\u063a|\u066e"),
  (0x1EE7E, "\u06a1"),
  (0x1EE80, "\u0627|\u0628|\u062c|\u062f|\u0647|\u0648|\u0632|\u062d|\u0637|\u064a"),
  (0x1EE8E, "\u0633|\u0639|\u0641|\u0635|\u0642|\u0631|\u0634|\u062a|\u062b|\u062e|\u0630"),
  (0x1EE99, "\u0636|\u0638|\u063a"), (0x1EEA1, "\u0628|\u062c|\u062f"),
  (0x1EEA5, "\u0648|\u0632|\u062d|\u0637|\u064a"),
  (0x1EEAE, "\u0633|\u0639|\u0641|\u0635|\u0642|\u0631|\u0634|\u062a|\u062b|\u062e|\u0630"),
  (0x1EEB9, "\u0636|\u0638|\u063a"), (0x1F101, "0,|1,|2,|3,|4,|5,|6,|7,|8,|9,"),
  (0x1F110, "(a)|(b)|(c)|(d)|(e)|(f)|(g)|(h)|(i)|(j)|(k)|(l)|(m)|(n)|(o)|(p)|(q)|(r)|(s)"),
  (0x1F123, "(t)|(u)|(v)|(w)|(x)|(y)|(z)|〔s〕|c|r|cd|wz"), (0x1F14A, "hv|mv|sd|ss|ppv|wc"),
  (0x1F16A, "mc|md|mr"), (0x1F190, "dj"), (0x1F200, "ほか|ココ|サ"),
  (0x1F210, "手|字|双|デ|二|多|解|天|交|映|無|料|前|後|再|新|初|終|生|販|声|吹|演|投|捕|一|三|遊|左|中|右|指|走|打|禁|空|合|満|有"),
  (0x1F237, "月|申|割|営|配"), (0x1F240, "〔本〕|〔三〕|〔二〕|〔安〕|〔点〕|〔打〕|〔盗〕|〔勝〕|〔敗〕"), (0x1F250, "得|可"),
  (0x2F800, "丽|丸|乁|𠄢|你|侮|侻|倂|偺|備|僧|像|㒞|𠘺|免|兔|兤|具|𠔜|㒹|內|再|𠕋|冗|冤|仌|冬|况|𩇟|凵|刃|㓟|刻|剆|割|剷|㔕|勇|勉"),
  (0x2F827, "勤|勺|包|匆|北|卉|卑|博|即|卽|卿|卿|卿|𠨬|灰|及|叟|𠭣|叫|叱|吆|咞|吸|呈|周|咢|哶|唐|啓|啣|善|善|喙|喫|喳|嗂|圖|嘆|圗"),
  (0x2F84E, "噑|噴|切|壮|城|埴|堍|型|堲|報|墬|𡓤|売|壷|夆|多|夢|奢|𡚨|𡛪|姬|娛|娧|姘|婦|㛮|㛼|嬈|嬾|嬾|𡧈|寃|寘|寧|寳|𡬘|寿|将|当"),
  (0x2F875, "尢|㞁|屠|屮|峀|岍|𡷤|嵃|𡷦|嵮|嵫|嵼|巡|巢|㠯|巽|帨|帽|幩|㡢|𢆃|㡼|庰|庳|庶|廊|𪎒|廾|𢌱|𢌱|舁|弢|弢|㣇|𣊸|𦇚|形|彫|㣣"),
  (0x2F89C, "徚|忍|志|忹|悁|㤺|㤜|悔|𢛔|惇|慈|慌|慎|慌|慺|憎|憲|憤|憯|懞|懲|懶|成|戛|扝|抱|拔|捐|𢬌|挽|拼|捨|掃|揤|𢯱|搢|揅|掩|㨮"),
  (0x2F8C3, "摩|摾|撝|摷|㩬|敏|敬|𣀊|旣|書|晉|㬙|暑|㬈|㫤|冒|冕|最|暜|肭|䏙|朗|望|朡|杞|杓|𣏃|㭉|柺|枅|桒|梅|𣑭|梎|栟|椔|㮝|楂|榣"),
  (0x2F8EA, "槪|檨|𣚣|櫛|㰘|次|𣢧|歔|㱎|歲|殟|殺|殻|𣪍|𡴋|𣫺|汎|𣲼|沿|泍|汧|洖|派|海|流|浩|浸|涅|𣴞|洴|港|湮|㴳|滋|滇|𣻑|淹|潮|𣽞"),
  (0x2F911, "𣾎|濆|瀹|瀞|瀛|㶖|灊|災|灷|炭|𠔥|煅|𤉣|熜|𤎫|爨|爵|牐|𤘈|犀|犕|𤜵|𤠔|獺|王|㺬|玥|㺸|㺸|瑇|瑜|瑱|璅|瓊|㼛|甤|𤰶|甾|𤲒"),
  (0x2F938, "異|𢆟|瘐|𤾡|𤾸|𥁄|㿼|䀈|直|𥃳|𥃲|𥄙|𥄳|眞|真|真|睊|䀹|瞋|䁆|䂖|𥐝|硎|碌|磌|䃣|𥘦|祖|𥚚|𥛅|福|秫|䄯|穀|穊|穏|𥥼|𥪧|𥪧"),
  (0x2F95F, "竮|䈂|𥮫|篆|築|䈧|𥲀|糒|䊠|糨|糣|紀|𥾆|絣|䌁|緇|縂|繅|䌴|𦈨|𦉇|䍙|𦋙|罺|𦌾|羕|翺|者|𦓚|𦔣|聠|𦖨|聰|𣍟|䏕|育|脃|䐋|脾"),
  (0x2F986, "媵|𦞧|𦞵|𣎓|𣎜|舁|舄|辞|䑫|芑|芋|芝|劳|花|芳|芽|苦|𦬼|若|茝|荣|莭|茣|莽|菧|著|荓|菊|菌|菜|𦰶|𦵫|𦳕|䔫|蓱|蓳|蔖|𧏊|蕤"),
  (0x2F9AD, "𦼬|䕝|䕡|𦾱|𧃒|䕫|虐|虜|虧|虩|蚩|蚈|蜎|蛢|蝹|蜨|蝫|螆|䗗|蟡|蠁|䗹|衠|衣|𧙧|裗|裞|䘵|裺|㒻|𧢮|𧥦|䚾|䛇|誠|諭|變|豕|𧲨"),
  (0x2F9D4, "貫|賁|贛|起|𧼯|𠠄|跋|趼|跰|𠣞|軔|輸|𨗒|𨗭|邔|郱|鄑|𨜮|鄛|鈸|鋗|鋘|鉼|鏹|鐕|𨯺|開|䦕|閷|𨵷|䧦|雃|嶲|霣|𩅅|𩈚|䩮|䩶|韠"),
  (0x2F9FB, "𩐊|䪲|𩒖|頋|頋|頩|𩖶|飢|䬳|餩|馧|駂|駾|䯎|𩬰|鬒|鱀|鳽|䳎|䳭|鵧|𪃎|䳸|𪄅|𪈎|𪊑|麻|䵖|黹|黾|鼅|鼏|鼖|鼻|𪘀")]

/-- Ranges of characters that are left out. -/
def ignoredRanges : Array (Nat × Nat) := #[
  (0xAD, 0xAD), (0x34F, 0x34F), (0x115F, 0x1160), (0x17B4, 0x17B5), (0x180B, 0x180F),
  (0x200B, 0x200B), (0x2060, 0x2064), (0x206A, 0x206F), (0x3164, 0x3164), (0xFE00, 0xFE0F),
  (0xFEFF, 0xFEFF), (0xFFA0, 0xFFA0), (0x1BCA0, 0x1BCA3), (0x1D173, 0x1D17A), (0xE0100, 0xE01EF)]

/-- Ranges of characters that are not allowed. -/
def forbiddenRanges : Array (Nat × Nat) := #[
  (0x80, 0x9F), (0x378, 0x379), (0x380, 0x383), (0x38B, 0x38B), (0x38D, 0x38D), (0x3A2, 0x3A2),
  (0x530, 0x530), (0x557, 0x557), (0x58C, 0x58C), (0x590, 0x590), (0x5C8, 0x5CF), (0x5EB, 0x5EE),
  (0x5F5, 0x605), (0x61C, 0x61C), (0x6DD, 0x6DD), (0x70E, 0x70F), (0x74B, 0x74C), (0x7B2, 0x7BF),
  (0x7FB, 0x7FC), (0x82E, 0x82F), (0x83F, 0x83F), (0x85C, 0x85D), (0x85F, 0x85F), (0x86B, 0x86F),
  (0x890, 0x896), (0x8E2, 0x8E2), (0x984, 0x984), (0x98D, 0x98E), (0x991, 0x992), (0x9A9, 0x9A9),
  (0x9B1, 0x9B1), (0x9B3, 0x9B5), (0x9BA, 0x9BB), (0x9C5, 0x9C6), (0x9C9, 0x9CA), (0x9CF, 0x9D6),
  (0x9D8, 0x9DB), (0x9DE, 0x9DE), (0x9E4, 0x9E5), (0x9FF, 0xA00), (0xA04, 0xA04), (0xA0B, 0xA0E),
  (0xA11, 0xA12), (0xA29, 0xA29), (0xA31, 0xA31), (0xA34, 0xA34), (0xA37, 0xA37), (0xA3A, 0xA3B),
  (0xA3D, 0xA3D), (0xA43, 0xA46), (0xA49, 0xA4A), (0xA4E, 0xA50), (0xA52, 0xA58), (0xA5D, 0xA5D),
  (0xA5F, 0xA65), (0xA77, 0xA80), (0xA84, 0xA84), (0xA8E, 0xA8E), (0xA92, 0xA92), (0xAA9, 0xAA9),
  (0xAB1, 0xAB1), (0xAB4, 0xAB4), (0xABA, 0xABB), (0xAC6, 0xAC6), (0xACA, 0xACA), (0xACE, 0xACF),
  (0xAD1, 0xADF), (0xAE4, 0xAE5), (0xAF2, 0xAF8), (0xB00, 0xB00), (0xB04, 0xB04), (0xB0D, 0xB0E),
  (0xB11, 0xB12), (0xB29, 0xB29), (0xB31, 0xB31), (0xB34, 0xB34), (0xB3A, 0xB3B), (0xB45, 0xB46),
  (0xB49, 0xB4A), (0xB4E, 0xB54), (0xB58, 0xB5B), (0xB5E, 0xB5E), (0xB64, 0xB65), (0xB78, 0xB81),
  (0xB84, 0xB84), (0xB8B, 0xB8D), (0xB91, 0xB91), (0xB96, 0xB98), (0xB9B, 0xB9B), (0xB9D, 0xB9D),
  (0xBA0, 0xBA2), (0xBA5, 0xBA7), (0xBAB, 0xBAD), (0xBBA, 0xBBD), (0xBC3, 0xBC5), (0xBC9, 0xBC9),
  (0xBCE, 0xBCF), (0xBD1, 0xBD6), (0xBD8, 0xBE5), (0xBFB, 0xBFF), (0xC0D, 0xC0D), (0xC11, 0xC11),
  (0xC29, 0xC29), (0xC3A, 0xC3B), (0xC45, 0xC45), (0xC49, 0xC49), (0xC4E, 0xC54), (0xC57, 0xC57),
  (0xC5B, 0xC5B), (0xC5E, 0xC5F), (0xC64, 0xC65), (0xC70, 0xC76), (0xC8D, 0xC8D), (0xC91, 0xC91),
  (0xCA9, 0xCA9), (0xCB4, 0xCB4), (0xCBA, 0xCBB), (0xCC5, 0xCC5), (0xCC9, 0xCC9), (0xCCE, 0xCD4),
  (0xCD7, 0xCDB), (0xCDF, 0xCDF), (0xCE4, 0xCE5), (0xCF0, 0xCF0), (0xCF4, 0xCFF), (0xD0D, 0xD0D),
  (0xD11, 0xD11), (0xD45, 0xD45), (0xD49, 0xD49), (0xD50, 0xD53), (0xD64, 0xD65), (0xD80, 0xD80),
  (0xD84, 0xD84), (0xD97, 0xD99), (0xDB2, 0xDB2), (0xDBC, 0xDBC), (0xDBE, 0xDBF), (0xDC7, 0xDC9),
  (0xDCB, 0xDCE), (0xDD5, 0xDD5), (0xDD7, 0xDD7), (0xDE0, 0xDE5), (0xDF0, 0xDF1), (0xDF5, 0xE00),
  (0xE3B, 0xE3E), (0xE5C, 0xE80), (0xE83, 0xE83), (0xE85, 0xE85), (0xE8B, 0xE8B), (0xEA4, 0xEA4),
  (0xEA6, 0xEA6), (0xEBE, 0xEBF), (0xEC5, 0xEC5), (0xEC7, 0xEC7), (0xECF, 0xECF), (0xEDA, 0xEDB),
  (0xEE0, 0xEFF), (0xF48, 0xF48), (0xF6D, 0xF70), (0xF98, 0xF98), (0xFBD, 0xFBD), (0xFCD, 0xFCD),
  (0xFDB, 0xFFF), (0x10C6, 0x10C6), (0x10C8, 0x10CC), (0x10CE, 0x10CF), (0x1249, 0x1249),
  (0x124E, 0x124F), (0x1257, 0x1257), (0x1259, 0x1259), (0x125E, 0x125F), (0x1289, 0x1289),
  (0x128E, 0x128F), (0x12B1, 0x12B1), (0x12B6, 0x12B7), (0x12BF, 0x12BF), (0x12C1, 0x12C1),
  (0x12C6, 0x12C7), (0x12D7, 0x12D7), (0x1311, 0x1311), (0x1316, 0x1317), (0x135B, 0x135C),
  (0x137D, 0x137F), (0x139A, 0x139F), (0x13F6, 0x13F7), (0x13FE, 0x13FF), (0x1680, 0x1680),
  (0x169D, 0x169F), (0x16F9, 0x16FF), (0x1716, 0x171E), (0x1737, 0x173F), (0x1754, 0x175F),
  (0x176D, 0x176D), (0x1771, 0x1771), (0x1774, 0x177F), (0x17DE, 0x17DF), (0x17EA, 0x17EF),
  (0x17FA, 0x17FF), (0x181A, 0x181F), (0x1879, 0x187F), (0x18AB, 0x18AF), (0x18F6, 0x18FF),
  (0x191F, 0x191F), (0x192C, 0x192F), (0x193C, 0x193F), (0x1941, 0x1943), (0x196E, 0x196F),
  (0x1975, 0x197F), (0x19AC, 0x19AF), (0x19CA, 0x19CF), (0x19DB, 0x19DD), (0x1A1C, 0x1A1D),
  (0x1A5F, 0x1A5F), (0x1A7D, 0x1A7E), (0x1A8A, 0x1A8F), (0x1A9A, 0x1A9F), (0x1AAE, 0x1AAF),
  (0x1ADE, 0x1ADF), (0x1AEC, 0x1AFF), (0x1B4D, 0x1B4D), (0x1BF4, 0x1BFB), (0x1C38, 0x1C3A),
  (0x1C4A, 0x1C4C), (0x1C8B, 0x1C8F), (0x1CBB, 0x1CBC), (0x1CC8, 0x1CCF), (0x1CFB, 0x1CFF),
  (0x1F16, 0x1F17), (0x1F1E, 0x1F1F), (0x1F46, 0x1F47), (0x1F4E, 0x1F4F), (0x1F58, 0x1F58),
  (0x1F5A, 0x1F5A), (0x1F5C, 0x1F5C), (0x1F5E, 0x1F5E), (0x1F7E, 0x1F7F), (0x1FB5, 0x1FB5),
  (0x1FC5, 0x1FC5), (0x1FD4, 0x1FD5), (0x1FDC, 0x1FDC), (0x1FF0, 0x1FF1), (0x1FF5, 0x1FF5),
  (0x1FFF, 0x1FFF), (0x200E, 0x200F), (0x2024, 0x2026), (0x2028, 0x202E), (0x2065, 0x2069),
  (0x2072, 0x2073), (0x208F, 0x208F), (0x209D, 0x209F), (0x20C4, 0x20CF), (0x20F1, 0x20FF),
  (0x218C, 0x218F), (0x242A, 0x243F), (0x244B, 0x245F), (0x2488, 0x249B), (0x2B74, 0x2B75),
  (0x2CF4, 0x2CF8), (0x2D26, 0x2D26), (0x2D28, 0x2D2C), (0x2D2E, 0x2D2F), (0x2D68, 0x2D6E),
  (0x2D71, 0x2D7E), (0x2D97, 0x2D9F), (0x2DA7, 0x2DA7), (0x2DAF, 0x2DAF), (0x2DB7, 0x2DB7),
  (0x2DBF, 0x2DBF), (0x2DC7, 0x2DC7), (0x2DCF, 0x2DCF), (0x2DD7, 0x2DD7), (0x2DDF, 0x2DDF),
  (0x2E5E, 0x2E7F), (0x2E9A, 0x2E9A), (0x2EF4, 0x2EFF), (0x2FD6, 0x2FFF), (0x3040, 0x3040),
  (0x3097, 0x3098), (0x3100, 0x3104), (0x3130, 0x3130), (0x318F, 0x318F), (0x31E6, 0x31EF),
  (0x321F, 0x321F), (0x33C2, 0x33C2), (0x33C7, 0x33C7), (0x33D8, 0x33D8), (0xA48D, 0xA48F),
  (0xA4C7, 0xA4CF), (0xA62C, 0xA63F), (0xA6F8, 0xA6FF), (0xA7DD, 0xA7F0), (0xA82D, 0xA82F),
  (0xA83A, 0xA83F), (0xA878, 0xA87F), (0xA8C6, 0xA8CD), (0xA8DA, 0xA8DF), (0xA954, 0xA95E),
  (0xA97D, 0xA97F), (0xA9CE, 0xA9CE), (0xA9DA, 0xA9DD), (0xA9FF, 0xA9FF), (0xAA37, 0xAA3F),
  (0xAA4E, 0xAA4F), (0xAA5A, 0xAA5B), (0xAAC3, 0xAADA), (0xAAF7, 0xAB00), (0xAB07, 0xAB08),
  (0xAB0F, 0xAB10), (0xAB17, 0xAB1F), (0xAB27, 0xAB27), (0xAB2F, 0xAB2F), (0xAB6C, 0xAB6F),
  (0xABEE, 0xABEF), (0xABFA, 0xABFF), (0xD7A4, 0xD7AF), (0xD7C7, 0xD7CA), (0xD7FC, 0xD7FF),
  (0xE000, 0xF8FF), (0xFA6E, 0xFA6F), (0xFADA, 0xFAFF), (0xFB07, 0xFB12), (0xFB18, 0xFB1C),
  (0xFB37, 0xFB37), (0xFB3D, 0xFB3D), (0xFB3F, 0xFB3F), (0xFB42, 0xFB42), (0xFB45, 0xFB45),
  (0xFDD0, 0xFDEF), (0xFE12, 0xFE12), (0xFE19, 0xFE1F), (0xFE30, 0xFE30), (0xFE52, 0xFE53),
  (0xFE67, 0xFE67), (0xFE6C, 0xFE6F), (0xFE75, 0xFE75), (0xFEFD, 0xFEFE), (0xFF00, 0xFF00),
  (0xFFBF, 0xFFC1), (0xFFC8, 0xFFC9), (0xFFD0, 0xFFD1), (0xFFD8, 0xFFD9), (0xFFDD, 0xFFDF),
  (0xFFE7, 0xFFE7), (0xFFEF, 0xFFFF), (0x1000C, 0x1000C), (0x10027, 0x10027), (0x1003B, 0x1003B),
  (0x1003E, 0x1003E), (0x1004E, 0x1004F), (0x1005E, 0x1007F), (0x100FB, 0x100FF),
  (0x10103, 0x10106), (0x10134, 0x10136), (0x1018F, 0x1018F), (0x1019D, 0x1019F),
  (0x101A1, 0x101CF), (0x101FE, 0x1027F), (0x1029D, 0x1029F), (0x102D1, 0x102DF),
  (0x102FC, 0x102FF), (0x10324, 0x1032C), (0x1034B, 0x1034F), (0x1037B, 0x1037F),
  (0x1039E, 0x1039E), (0x103C4, 0x103C7), (0x103D6, 0x103FF), (0x1049E, 0x1049F),
  (0x104AA, 0x104AF), (0x104D4, 0x104D7), (0x104FC, 0x104FF), (0x10528, 0x1052F),
  (0x10564, 0x1056E), (0x1057B, 0x1057B), (0x1058B, 0x1058B), (0x10593, 0x10593),
  (0x10596, 0x10596), (0x105A2, 0x105A2), (0x105B2, 0x105B2), (0x105BA, 0x105BA),
  (0x105BD, 0x105BF), (0x105F4, 0x105FF), (0x10737, 0x1073F), (0x10756, 0x1075F),
  (0x10768, 0x1077F), (0x10786, 0x10786), (0x107B1, 0x107B1), (0x107BB, 0x107FF),
  (0x10806, 0x10807), (0x10809, 0x10809), (0x10836, 0x10836), (0x10839, 0x1083B),
  (0x1083D, 0x1083E), (0x10856, 0x10856), (0x1089F, 0x108A6), (0x108B0, 0x108DF),
  (0x108F3, 0x108F3), (0x108F6, 0x108FA), (0x1091C, 0x1091E), (0x1093A, 0x1093E),
  (0x1095A, 0x1097F), (0x109B8, 0x109BB), (0x109D0, 0x109D1), (0x10A04, 0x10A04),
  (0x10A07, 0x10A0B), (0x10A14, 0x10A14), (0x10A18, 0x10A18), (0x10A36, 0x10A37),
  (0x10A3B, 0x10A3E), (0x10A49, 0x10A4F), (0x10A59, 0x10A5F), (0x10AA0, 0x10ABF),
  (0x10AE7, 0x10AEA), (0x10AF7, 0x10AFF), (0x10B36, 0x10B38), (0x10B56, 0x10B57),
  (0x10B73, 0x10B77), (0x10B92, 0x10B98), (0x10B9D, 0x10BA8), (0x10BB0, 0x10BFF),
  (0x10C49, 0x10C7F), (0x10CB3, 0x10CBF), (0x10CF3, 0x10CF9), (0x10D28, 0x10D2F),
  (0x10D3A, 0x10D3F), (0x10D66, 0x10D68), (0x10D86, 0x10D8D), (0x10D90, 0x10E5F),
  (0x10E7F, 0x10E7F), (0x10EAA, 0x10EAA), (0x10EAE, 0x10EAF), (0x10EB2, 0x10EC1),
  (0x10EC8, 0x10ECF), (0x10ED9, 0x10EF9), (0x10F28, 0x10F2F), (0x10F5A, 0x10F6F),
  (0x10F8A, 0x10FAF), (0x10FCC, 0x10FDF), (0x10FF7, 0x10FFF), (0x1104E, 0x11051),
  (0x11076, 0x1107E), (0x110BD, 0x110BD), (0x110C3, 0x110CF), (0x110E9, 0x110EF),
  (0x110FA, 0x110FF), (0x11135, 0x11135), (0x11148, 0x1114F), (0x11177, 0x1117F),
  (0x111E0, 0x111E0), (0x111F5, 0x111FF), (0x11212, 0x11212), (0x11242, 0x1127F),
  (0x11287, 0x11287), (0x11289, 0x11289), (0x1128E, 0x1128E), (0x1129E, 0x1129E),
  (0x112AA, 0x112AF), (0x112EB, 0x112EF), (0x112FA, 0x112FF), (0x11304, 0x11304),
  (0x1130D, 0x1130E), (0x11311, 0x11312), (0x11329, 0x11329), (0x11331, 0x11331),
  (0x11334, 0x11334), (0x1133A, 0x1133A), (0x11345, 0x11346), (0x11349, 0x1134A),
  (0x1134E, 0x1134F), (0x11351, 0x11356), (0x11358, 0x1135C), (0x11364, 0x11365),
  (0x1136D, 0x1136F), (0x11375, 0x1137F), (0x1138A, 0x1138A), (0x1138C, 0x1138D),
  (0x1138F, 0x1138F), (0x113B6, 0x113B6), (0x113C1, 0x113C1), (0x113C3, 0x113C4),
  (0x113C6, 0x113C6), (0x113CB, 0x113CB), (0x113D6, 0x113D6), (0x113D9, 0x113E0),
  (0x113E3, 0x113FF), (0x1145C, 0x1145C), (0x11462, 0x1147F), (0x114C8, 0x114CF),
  (0x114DA, 0x1157F), (0x115B6, 0x115B7), (0x115DE, 0x115FF), (0x11645, 0x1164F),
  (0x1165A, 0x1165F), (0x1166D, 0x1167F), (0x116BA, 0x116BF), (0x116CA, 0x116CF),
  (0x116E4, 0x116FF), (0x1171B, 0x1171C), (0x1172C, 0x1172F), (0x11747, 0x117FF),
  (0x1183C, 0x1189F), (0x118F3, 0x118FE), (0x11907, 0x11908), (0x1190A, 0x1190B),
  (0x11914, 0x11914), (0x11917, 0x11917), (0x11936, 0x11936), (0x11939, 0x1193A),
  (0x11947, 0x1194F), (0x1195A, 0x1199F), (0x119A8, 0x119A9), (0x119D8, 0x119D9),
  (0x119E5, 0x119FF), (0x11A48, 0x11A4F), (0x11AA3, 0x11AAF), (0x11AF9, 0x11AFF),
  (0x11B0A, 0x11B5F), (0x11B68, 0x11BBF), (0x11BE2, 0x11BEF), (0x11BFA, 0x11BFF),
  (0x11C09, 0x11C09), (0x11C37, 0x11C37), (0x11C46, 0x11C4F), (0x11C6D, 0x11C6F),
  (0x11C90, 0x11C91), (0x11CA8, 0x11CA8), (0x11CB7, 0x11CFF), (0x11D07, 0x11D07),
  (0x11D0A, 0x11D0A), (0x11D37, 0x11D39), (0x11D3B, 0x11D3B), (0x11D3E, 0x11D3E),
  (0x11D48, 0x11D4F), (0x11D5A, 0x11D5F), (0x11D66, 0x11D66), (0x11D69, 0x11D69),
  (0x11D8F, 0x11D8F), (0x11D92, 0x11D92), (0x11D99, 0x11D9F), (0x11DAA, 0x11DAF),
  (0x11DDC, 0x11DDF), (0x11DEA, 0x11EDF), (0x11EF9, 0x11EFF), (0x11F11, 0x11F11),
  (0x11F3B, 0x11F3D), (0x11F5B, 0x11FAF), (0x11FB1, 0x11FBF), (0x11FF2, 0x11FFE),
  (0x1239A, 0x123FF), (0x1246F, 0x1246F), (0x12475, 0x1247F), (0x12544, 0x12F8F),
  (0x12FF3, 0x12FFF), (0x13430, 0x1343F), (0x13456, 0x1345F), (0x143FB, 0x143FF),
  (0x14647, 0x160FF), (0x1613A, 0x167FF), (0x16A39, 0x16A3F), (0x16A5F, 0x16A5F),
  (0x16A6A, 0x16A6D), (0x16ABF, 0x16ABF), (0x16ACA, 0x16ACF), (0x16AEE, 0x16AEF),
  (0x16AF6, 0x16AFF), (0x16B46, 0x16B4F), (0x16B5A, 0x16B5A), (0x16B62, 0x16B62),
  (0x16B78, 0x16B7C), (0x16B90, 0x16D3F), (0x16D7A, 0x16E3F), (0x16E9B, 0x16E9F),
  (0x16EB9, 0x16EBA), (0x16ED4, 0x16EFF), (0x16F4B, 0x16F4E), (0x16F88, 0x16F8E),
  (0x16FA0, 0x16FDF), (0x16FE5, 0x16FEF), (0x16FF7, 0x16FFF), (0x18CD6, 0x18CFE),
  (0x18D1F, 0x18D7F), (0x18DF3, 0x1AFEF), (0x1AFF4, 0x1AFF4), (0x1AFFC, 0x1AFFC),
  (0x1AFFF, 0x1AFFF), (0x1B123, 0x1B131), (0x1B133, 0x1B14F), (0x1B153, 0x1B154),
  (0x1B156, 0x1B163), (0x1B168, 0x1B16F), (0x1B2FC, 0x1BBFF), (0x1BC6B, 0x1BC6F),
  (0x1BC7D, 0x1BC7F), (0x1BC89, 0x1BC8F), (0x1BC9A, 0x1BC9B), (0x1BCA4, 0x1CBFF),
  (0x1CCFD, 0x1CCFF), (0x1CEB4, 0x1CEB9), (0x1CED1, 0x1CEDF), (0x1CEF1, 0x1CEFF),
  (0x1CF2E, 0x1CF2F), (0x1CF47, 0x1CF4F), (0x1CFC4, 0x1CFFF), (0x1D0F6, 0x1D0FF),
  (0x1D127, 0x1D128), (0x1D1EB, 0x1D1FF), (0x1D246, 0x1D2BF), (0x1D2D4, 0x1D2DF),
  (0x1D2F4, 0x1D2FF), (0x1D357, 0x1D35F), (0x1D379, 0x1D3FF), (0x1D455, 0x1D455),
  (0x1D49D, 0x1D49D), (0x1D4A0, 0x1D4A1), (0x1D4A3, 0x1D4A4), (0x1D4A7, 0x1D4A8),
  (0x1D4AD, 0x1D4AD), (0x1D4BA, 0x1D4BA), (0x1D4BC, 0x1D4BC), (0x1D4C4, 0x1D4C4),
  (0x1D506, 0x1D506), (0x1D50B, 0x1D50C), (0x1D515, 0x1D515), (0x1D51D, 0x1D51D),
  (0x1D53A, 0x1D53A), (0x1D53F, 0x1D53F), (0x1D545, 0x1D545), (0x1D547, 0x1D549),
  (0x1D551, 0x1D551), (0x1D6A6, 0x1D6A7), (0x1D7CC, 0x1D7CD), (0x1DA8C, 0x1DA9A),
  (0x1DAA0, 0x1DAA0), (0x1DAB0, 0x1DEFF), (0x1DF1F, 0x1DF24), (0x1DF2B, 0x1DFFF),
  (0x1E007, 0x1E007), (0x1E019, 0x1E01A), (0x1E022, 0x1E022), (0x1E025, 0x1E025),
  (0x1E02B, 0x1E02F), (0x1E06E, 0x1E08E), (0x1E090, 0x1E0FF), (0x1E12D, 0x1E12F),
  (0x1E13E, 0x1E13F), (0x1E14A, 0x1E14D), (0x1E150, 0x1E28F), (0x1E2AF, 0x1E2BF),
  (0x1E2FA, 0x1E2FE), (0x1E300, 0x1E4CF), (0x1E4FA, 0x1E5CF), (0x1E5FB, 0x1E5FE),
  (0x1E600, 0x1E6BF), (0x1E6DF, 0x1E6DF), (0x1E6F6, 0x1E6FD), (0x1E700, 0x1E7DF),
  (0x1E7E7, 0x1E7E7), (0x1E7EC, 0x1E7EC), (0x1E7EF, 0x1E7EF), (0x1E7FF, 0x1E7FF),
  (0x1E8C5, 0x1E8C6), (0x1E8D7, 0x1E8FF), (0x1E94C, 0x1E94F), (0x1E95A, 0x1E95D),
  (0x1E960, 0x1EC70), (0x1ECB5, 0x1ED00), (0x1ED3E, 0x1EDFF), (0x1EE04, 0x1EE04),
  (0x1EE20, 0x1EE20), (0x1EE23, 0x1EE23), (0x1EE25, 0x1EE26), (0x1EE28, 0x1EE28),
  (0x1EE33, 0x1EE33), (0x1EE38, 0x1EE38), (0x1EE3A, 0x1EE3A), (0x1EE3C, 0x1EE41),
  (0x1EE43, 0x1EE46), (0x1EE48, 0x1EE48), (0x1EE4A, 0x1EE4A), (0x1EE4C, 0x1EE4C),
  (0x1EE50, 0x1EE50), (0x1EE53, 0x1EE53), (0x1EE55, 0x1EE56), (0x1EE58, 0x1EE58),
  (0x1EE5A, 0x1EE5A), (0x1EE5C, 0x1EE5C), (0x1EE5E, 0x1EE5E), (0x1EE60, 0x1EE60),
  (0x1EE63, 0x1EE63), (0x1EE65, 0x1EE66), (0x1EE6B, 0x1EE6B), (0x1EE73, 0x1EE73),
  (0x1EE78, 0x1EE78), (0x1EE7D, 0x1EE7D), (0x1EE7F, 0x1EE7F), (0x1EE8A, 0x1EE8A),
  (0x1EE9C, 0x1EEA0), (0x1EEA4, 0x1EEA4), (0x1EEAA, 0x1EEAA), (0x1EEBC, 0x1EEEF),
  (0x1EEF2, 0x1EFFF), (0x1F02C, 0x1F02F), (0x1F094, 0x1F09F), (0x1F0AF, 0x1F0B0),
  (0x1F0C0, 0x1F0C0), (0x1F0D0, 0x1F0D0), (0x1F0F6, 0x1F100), (0x1F1AE, 0x1F1E5),
  (0x1F203, 0x1F20F), (0x1F23C, 0x1F23F), (0x1F249, 0x1F24F), (0x1F252, 0x1F25F),
  (0x1F266, 0x1F2FF), (0x1F6D9, 0x1F6DB), (0x1F6ED, 0x1F6EF), (0x1F6FD, 0x1F6FF),
  (0x1F7DA, 0x1F7DF), (0x1F7EC, 0x1F7EF), (0x1F7F1, 0x1F7FF), (0x1F80C, 0x1F80F),
  (0x1F848, 0x1F84F), (0x1F85A, 0x1F85F), (0x1F888, 0x1F88F), (0x1F8AE, 0x1F8AF),
  (0x1F8BC, 0x1F8BF), (0x1F8C2, 0x1F8CF), (0x1F8D9, 0x1F8FF), (0x1FA58, 0x1FA5F),
  (0x1FA6E, 0x1FA6F), (0x1FA7D, 0x1FA7F), (0x1FA8B, 0x1FA8D), (0x1FAC7, 0x1FAC7),
  (0x1FAC9, 0x1FACC), (0x1FADD, 0x1FADE), (0x1FAEB, 0x1FAEE), (0x1FAF9, 0x1FAFF),
  (0x1FB93, 0x1FB93), (0x1FBFB, 0x1FFFF), (0x2A6E0, 0x2A6FF), (0x2B81E, 0x2B81F),
  (0x2CEAE, 0x2CEAF), (0x2EBE1, 0x2EBEF), (0x2EE5E, 0x2F7FF), (0x2FA1E, 0x2FFFF),
  (0x3134B, 0x3134F), (0x3347A, 0x3CFFF), (0x3FC40, 0xE00FF), (0xE01F0, 0x10FFFF)]

end HealthAgent.Url
