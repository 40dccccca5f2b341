import StyleAudit.Text.CodeMap
import StyleAudit.Text.Mark

/-!
# Composed texts

A letter with a mark can be written as two characters or, often, as one.  A text is composed by
taking every character apart, putting the marks behind each letter in the order of their classes,
and joining each letter with the marks that follow it as far as there is one character for both.
A mark joins the letter only if no mark of the same or a higher class stands between them.

The syllables of Hangul follow from their parts by arithmetic.  All others are in a table.
Characters that come apart and may not be joined again are not in it: they are folded away before
a text is composed.
-/

namespace StyleAudit.Text

/-- The characters that can be taken apart, each with its two parts. -/
def compositionTable : CodeMap where
  shifted := []
  alternating := []
  rows :=
    [(0xC0, "41+300 41+301 41+302 41+303 41+308 41+30A - 43+327 45+300 45+301 45+302 45+308"),
    (0xCC, "49+300 49+301 49+302 49+308 - 4E+303 4F+300 4F+301 4F+302 4F+303 4F+308 - - 55+300"),
    (0xDA, "55+301 55+302 55+308 59+301 - - 61+300 61+301 61+302 61+303 61+308 61+30A - 63+327"),
    (0xE8, "65+300 65+301 65+302 65+308 69+300 69+301 69+302 69+308 - 6E+303 6F+300 6F+301"),
    (0xF4, "6F+302 6F+303 6F+308 - - 75+300 75+301 75+302 75+308 79+301 - 79+308 41+304 61+304"),
    (0x102, "41+306 61+306 41+328 61+328 43+301 63+301 43+302 63+302 43+307 63+307 43+30C 63+30C"),
    (0x10E, "44+30C 64+30C - - 45+304 65+304 45+306 65+306 45+307 65+307 45+328 65+328 45+30C"),
    (0x11B, "65+30C 47+302 67+302 47+306 67+306 47+307 67+307 47+327 67+327 48+302 68+302"),
    (0x128, "49+303 69+303 49+304 69+304 49+306 69+306 49+328 69+328 49+307"),
    (0x134, "4A+302 6A+302 4B+327 6B+327 - 4C+301 6C+301 4C+327 6C+327 4C+30C 6C+30C"),
    (0x143, "4E+301 6E+301 4E+327 6E+327 4E+30C 6E+30C"),
    (0x14C, "4F+304 6F+304 4F+306 6F+306 4F+30B 6F+30B - - 52+301 72+301 52+327 72+327 52+30C"),
    (0x159, "72+30C 53+301 73+301 53+302 73+302 53+327 73+327 53+30C 73+30C 54+327 74+327 54+30C"),
    (0x165, "74+30C - - 55+303 75+303 55+304 75+304 55+306 75+306 55+30A 75+30A 55+30B 75+30B"),
    (0x172, "55+328 75+328 57+302 77+302 59+302 79+302 59+308 5A+301 7A+301 5A+307 7A+307 5A+30C"),
    (0x17E, "7A+30C"), (0x1A0, "4F+31B 6F+31B"), (0x1AF, "55+31B 75+31B"),
    (0x1CD, "41+30C 61+30C 49+30C 69+30C 4F+30C 6F+30C 55+30C 75+30C DC+304 FC+304 DC+301 FC+301"),
    (0x1D9, "DC+30C FC+30C DC+300 FC+300 - C4+304 E4+304 226+304 227+304 C6+304 E6+304"),
    (0x1E6, "47+30C 67+30C 4B+30C 6B+30C 4F+328 6F+328 1EA+304 1EB+304 1B7+30C 292+30C 6A+30C"),
    (0x1F4, "47+301 67+301 - - 4E+300 6E+300 C5+301 E5+301 C6+301 E6+301 D8+301 F8+301 41+30F"),
    (0x201, "61+30F 41+311 61+311 45+30F 65+30F 45+311 65+311 49+30F 69+30F 49+311 69+311 4F+30F"),
    (0x20D, "6F+30F 4F+311 6F+311 52+30F 72+30F 52+311 72+311 55+30F 75+30F 55+311 75+311 53+326"),
    (0x219, "73+326 54+326 74+326 - - 48+30C 68+30C"),
    (0x226, "41+307 61+307 45+327 65+327 D6+304 F6+304 D5+304 F5+304 4F+307 6F+307 22E+304"),
    (0x231, "22F+304 59+304 79+304"),
    (0x385, "A8+301 391+301 - 395+301 397+301 399+301 - 39F+301 - 3A5+301 3A9+301 3CA+301"),
    (0x3AA, "399+308 3A5+308 3B1+301 3B5+301 3B7+301 3B9+301 3CB+301"),
    (0x3CA, "3B9+308 3C5+308 3BF+301 3C5+301 3C9+301"), (0x3D3, "3D2+301 3D2+308"),
    (0x400, "415+300 415+308 - 413+301"), (0x407, "406+308"), (0x40C, "41A+301 418+300 423+306"),
    (0x419, "418+306"), (0x439, "438+306"), (0x450, "435+300 435+308 - 433+301"),
    (0x457, "456+308"), (0x45C, "43A+301 438+300 443+306"), (0x476, "474+30F 475+30F"),
    (0x4C1, "416+306 436+306"),
    (0x4D0, "410+306 430+306 410+308 430+308 - - 415+306 435+306 - - 4D8+308 4D9+308 416+308"),
    (0x4DD, "436+308 417+308 437+308 - - 418+304 438+304 418+308 438+308 41E+308 43E+308"),
    (0x4EA, "4E8+308 4E9+308 42D+308 44D+308 423+304 443+304 423+308 443+308 423+30B 443+30B"),
    (0x4F4, "427+308 447+308 - - 42B+308 44B+308"),
    (0x622, "627+653 627+654 648+654 627+655 64A+654"), (0x6C0, "6D5+654 - 6C1+654"),
    (0x6D3, "6D2+654"), (0x929, "928+93C"), (0x931, "930+93C - - 933+93C"),
    (0x9CB, "9C7+9BE 9C7+9D7"), (0xB48, "B47+B56 - - B47+B3E B47+B57"), (0xB94, "B92+BD7"),
    (0xBCA, "BC6+BBE BC7+BBE BC6+BD7"), (0xC48, "C46+C56"), (0xCC0, "CBF+CD5"),
    (0xCC7, "CC6+CD5 CC6+CD6 - CC6+CC2 CCA+CD5"), (0xD4A, "D46+D3E D47+D3E D46+D57"),
    (0xDDA, "DD9+DCA - DD9+DCF DDC+DCA DD9+DDF"), (0x1026, "1025+102E"),
    (0x1B06, "1B05+1B35 - 1B07+1B35 - 1B09+1B35 - 1B0B+1B35 - 1B0D+1B35"), (0x1B12, "1B11+1B35"),
    (0x1B3B, "1B3A+1B35 - 1B3C+1B35 - - 1B3E+1B35 1B3F+1B35 - 1B42+1B35"),
    (0x1E00, "41+325 61+325 42+307 62+307 42+323 62+323 42+331 62+331 C7+301 E7+301 44+307"),
    (0x1E0B, "64+307 44+323 64+323 44+331 64+331 44+327 64+327 44+32D 64+32D 112+300 113+300"),
    (0x1E16, "112+301 113+301 45+32D 65+32D 45+330 65+330 228+306 229+306 46+307 66+307 47+304"),
    (0x1E21, "67+304 48+307 68+307 48+323 68+323 48+308 68+308 48+327 68+327 48+32E 68+32E"),
    (0x1E2C, "49+330 69+330 CF+301 EF+301 4B+301 6B+301 4B+323 6B+323 4B+331 6B+331 4C+323"),
    (0x1E37, "6C+323 1E36+304 1E37+304 4C+331 6C+331 4C+32D 6C+32D 4D+301 6D+301 4D+307 6D+307"),
    (0x1E42, "4D+323 6D+323 4E+307 6E+307 4E+323 6E+323 4E+331 6E+331 4E+32D 6E+32D D5+301"),
    (0x1E4D, "F5+301 D5+308 F5+308 14C+300 14D+300 14C+301 14D+301 50+301 70+301 50+307 70+307"),
    (0x1E58, "52+307 72+307 52+323 72+323 1E5A+304 1E5B+304 52+331 72+331 53+307 73+307 53+323"),
    (0x1E63, "73+323 15A+307 15B+307 160+307 161+307 1E62+307 1E63+307 54+307 74+307 54+323"),
    (0x1E6D, "74+323 54+331 74+331 54+32D 74+32D 55+324 75+324 55+330 75+330 55+32D 75+32D"),
    (0x1E78, "168+301 169+301 16A+308 16B+308 56+303 76+303 56+323 76+323 57+300 77+300 57+301"),
    (0x1E83, "77+301 57+308 77+308 57+307 77+307 57+323 77+323 58+307 78+307 58+308 78+308"),
    (0x1E8E, "59+307 79+307 5A+302 7A+302 5A+323 7A+323 5A+331 7A+331 68+331 74+308 77+30A"),
    (0x1E99, "79+30A - 17F+307"),
    (0x1EA0, "41+323 61+323 41+309 61+309 C2+301 E2+301 C2+300 E2+300 C2+309 E2+309 C2+303"),
    (0x1EAB, "E2+303 1EA0+302 1EA1+302 102+301 103+301 102+300 103+300 102+309 103+309 102+303"),
    (0x1EB5, "103+303 1EA0+306 1EA1+306 45+323 65+323 45+309 65+309 45+303 65+303 CA+301 EA+301"),
    (0x1EC0, "CA+300 EA+300 CA+309 EA+309 CA+303 EA+303 1EB8+302 1EB9+302 49+309 69+309 49+323"),
    (0x1ECB, "69+323 4F+323 6F+323 4F+309 6F+309 D4+301 F4+301 D4+300 F4+300 D4+309 F4+309"),
    (0x1ED6, "D4+303 F4+303 1ECC+302 1ECD+302 1A0+301 1A1+301 1A0+300 1A1+300 1A0+309 1A1+309"),
    (0x1EE0, "1A0+303 1A1+303 1A0+323 1A1+323 55+323 75+323 55+309 75+309 1AF+301 1B0+301"),
    (0x1EEA, "1AF+300 1B0+300 1AF+309 1B0+309 1AF+303 1B0+303 1AF+323 1B0+323 59+300 79+300"),
    (0x1EF4, "59+323 79+323 59+309 79+309 59+303 79+303"),
    (0x1F00, "3B1+313 3B1+314 1F00+300 1F01+300 1F00+301 1F01+301 1F00+342 1F01+342 391+313"),
    (0x1F09, "391+314 1F08+300 1F09+300 1F08+301 1F09+301 1F08+342 1F09+342 3B5+313 3B5+314"),
    (0x1F12, "1F10+300 1F11+300 1F10+301 1F11+301 - - 395+313 395+314 1F18+300 1F19+300 1F18+301"),
    (0x1F1D, "1F19+301 - - 3B7+313 3B7+314 1F20+300 1F21+300 1F20+301 1F21+301 1F20+342 1F21+342"),
    (0x1F28, "397+313 397+314 1F28+300 1F29+300 1F28+301 1F29+301 1F28+342 1F29+342 3B9+313"),
    (0x1F31, "3B9+314 1F30+300 1F31+300 1F30+301 1F31+301 1F30+342 1F31+342 399+313 399+314"),
    (0x1F3A, "1F38+300 1F39+300 1F38+301 1F39+301 1F38+342 1F39+342 3BF+313 3BF+314 1F40+300"),
    (0x1F43, "1F41+300 1F40+301 1F41+301 - - 39F+313 39F+314 1F48+300 1F49+300 1F48+301 1F49+301"),
    (0x1F50, "3C5+313 3C5+314 1F50+300 1F51+300 1F50+301 1F51+301 1F50+342 1F51+342 - 3A5+314"),
    (0x1F5B, "1F59+300 - 1F59+301 - 1F59+342 3C9+313 3C9+314 1F60+300 1F61+300 1F60+301 1F61+301"),
    (0x1F66, "1F60+342 1F61+342 3A9+313 3A9+314 1F68+300 1F69+300 1F68+301 1F69+301 1F68+342"),
    (0x1F6F, "1F69+342 3B1+300 - 3B5+300 - 3B7+300 - 3B9+300 - 3BF+300 - 3C5+300 - 3C9+300"),
    (0x1F80, "1F00+345 1F01+345 1F02+345 1F03+345 1F04+345 1F05+345 1F06+345 1F07+345 1F08+345"),
    (0x1F89, "1F09+345 1F0A+345 1F0B+345 1F0C+345 1F0D+345 1F0E+345 1F0F+345 1F20+345 1F21+345"),
    (0x1F92, "1F22+345 1F23+345 1F24+345 1F25+345 1F26+345 1F27+345 1F28+345 1F29+345 1F2A+345"),
    (0x1F9B, "1F2B+345 1F2C+345 1F2D+345 1F2E+345 1F2F+345 1F60+345 1F61+345 1F62+345 1F63+345"),
    (0x1FA4, "1F64+345 1F65+345 1F66+345 1F67+345 1F68+345 1F69+345 1F6A+345 1F6B+345 1F6C+345"),
    (0x1FAD, "1F6D+345 1F6E+345 1F6F+345 3B1+306 3B1+304 1F70+345 3B1+345 3AC+345 - 3B1+342"),
    (0x1FB7, "1FB6+345 391+306 391+304 391+300 - 391+345"),
    (0x1FC1, "A8+342 1F74+345 3B7+345 3AE+345 - 3B7+342 1FC6+345 395+300 - 397+300 - 397+345"),
    (0x1FCD, "1FBF+300 1FBF+301 1FBF+342 3B9+306 3B9+304 3CA+300"),
    (0x1FD6, "3B9+342 3CA+342 399+306 399+304 399+300 - - 1FFE+300 1FFE+301 1FFE+342 3C5+306"),
    (0x1FE1, "3C5+304 3CB+300 - 3C1+313 3C1+314 3C5+342 3CB+342 3A5+306 3A5+304 3A5+300"),
    (0x1FEC, "3A1+314 A8+300"),
    (0x1FF2, "1F7C+345 3C9+345 3CE+345 - 3C9+342 1FF6+345 39F+300 - 3A9+300 - 3A9+345"),
    (0x219A, "2190+338 2192+338"), (0x21AE, "2194+338"), (0x21CD, "21D0+338 21D4+338 21D2+338"),
    (0x2204, "2203+338"), (0x2209, "2208+338 - - 220B+338"), (0x2224, "2223+338 - 2225+338"),
    (0x2241, "223C+338 - - 2243+338 - - 2245+338 - 2248+338"), (0x2260, "3D+338 - 2261+338"),
    (0x226D, "224D+338 3C+338 3E+338 2264+338 2265+338 - - 2272+338 2273+338 - - 2276+338"),
    (0x2279, "2277+338"), (0x2280, "227A+338 227B+338 - - 2282+338 2283+338 - - 2286+338 2287+338"),
    (0x22AC, "22A2+338 22A8+338 22A9+338 22AB+338"),
    (0x22E0, "227C+338 227D+338 2291+338 2292+338"),
    (0x22EA, "22B2+338 22B3+338 22B4+338 22B5+338"),
    (0x304C, "304B+3099 - 304D+3099 - 304F+3099 - 3051+3099 - 3053+3099 - 3055+3099 - 3057+3099"),
    (0x305A, "3059+3099 - 305B+3099 - 305D+3099 - 305F+3099 - 3061+3099 - - 3064+3099"),
    (0x3067, "3066+3099 - 3068+3099"),
    (0x3070, "306F+3099 306F+309A - 3072+3099 3072+309A - 3075+3099 3075+309A - 3078+3099"),
    (0x307A, "3078+309A - 307B+3099 307B+309A"), (0x3094, "3046+3099"), (0x309E, "309D+3099"),
    (0x30AC, "30AB+3099 - 30AD+3099 - 30AF+3099 - 30B1+3099 - 30B3+3099 - 30B5+3099 - 30B7+3099"),
    (0x30BA, "30B9+3099 - 30BB+3099 - 30BD+3099 - 30BF+3099 - 30C1+3099 - - 30C4+3099"),
    (0x30C7, "30C6+3099 - 30C8+3099"),
    (0x30D0, "30CF+3099 30CF+309A - 30D2+3099 30D2+309A - 30D5+3099 30D5+309A - 30D8+3099"),
    (0x30DA, "30D8+309A - 30DB+3099 30DB+309A"),
    (0x30F4, "30A6+3099 - - 30EF+3099 30F0+3099 30F1+3099 30F2+3099"), (0x30FE, "30FD+3099"),
    (0x105C9, "105D2+307"), (0x105E4, "105DA+307"), (0x1109A, "11099+110BA - 1109B+110BA"),
    (0x110AB, "110A5+110BA"), (0x1112E, "11131+11127 11132+11127"),
    (0x1134B, "11347+1133E 11347+11357"), (0x11383, "11382+113C9 - 11384+113BB"),
    (0x1138E, "1138B+113C2 - - 11390+113C9"), (0x113C5, "113C2+113C2 - 113C2+113B8 113C2+113C9"),
    (0x114BB, "114B9+114BA 114B9+114B0 - 114B9+114BD"), (0x115BA, "115B8+115AF 115B9+115AF"),
    (0x11938, "11935+11930"),
    (0x16121, "1611E+1611E 1611E+16129 1611E+1611F 16129+1611F 1611E+16120 16121+1611F"),
    (0x16127, "16122+1611F 16121+16120"), (0x16D68, "16D67+16D67 16D63+16D67 16D69+16D67")]

/-! ### Pairs -/

/-- The syllable of a consonant and a vowel, or of such a syllable and a final consonant. -/
def joinHangul? (a b : Char) : Option Char :=
  let m := a.toNat
  let n := b.toNat
  if 0x1100 ≤ m && m < 0x1113 && 0x1161 ≤ n && n < 0x1176 then
    some (Char.ofNat (0xAC00 + ((m - 0x1100) * 21 + (n - 0x1161)) * 28))
  else if 0xAC00 ≤ m && m < 0xD7A4 && (m - 0xAC00) % 28 == 0 && 0x11A8 ≤ n && n < 0x11C3 then
    some (Char.ofNat (m + (n - 0x11A7)))
  else none

/-- The two parts of a syllable. -/
def splitHangul? (c : Char) : Option (List Char) :=
  let n := c.toNat - 0xAC00
  if c.toNat < 0xAC00 || 0xD7A4 ≤ c.toNat then none
  else if n % 28 == 0 then
    some [Char.ofNat (0x1100 + n / 588), Char.ofNat (0x1161 + n % 588 / 28)]
  else some [Char.ofNat (c.toNat - n % 28), Char.ofNat (0x11A7 + n % 28)]

/-- All pairs of the table, with the characters that stand for them. -/
def compositions : List (Nat × List Char) := compositionTable.rows.flatMap readRow

/-- The character for two others, if there is one. -/
def join? (a b : Char) : Option Char :=
  (joinHangul? a b).or
    ((compositions.find? fun pair => pair.2 == [a, b]).map fun pair => Char.ofNat pair.1)

/-! ### Texts -/

/-- A character taken apart; its first part may come apart again, `depth` times at most. -/
def takeApart (depth : Nat) (c : Char) : List Char :=
  match depth with
  | 0 => [c]
  | depth + 1 =>
    match (splitHangul? c).or (compositionTable.image? c.toNat) with
    | some (a :: marks) => takeApart depth a ++ marks
    | _ => [c]

/-- Puts a character behind a text, which is reversed.  A mark passes the marks of higher
classes. -/
def settle (c : Char) : List Char → List Char
  | [] => [c]
  | d :: t =>
    if 0 < combiningClass c && combiningClass c < combiningClass d then d :: settle c t
    else c :: d :: t

/-- The text with its marks in the order of their classes. -/
def inClassOrder (t : List Char) : List Char :=
  (t.foldl (fun out c => settle c out) []).reverse

/-- Joins a letter with what follows it.  `kept` holds the marks that did not join it,
reversed. -/
def joinFrom (letter : Char) (kept : List Char) : List Char → List Char
  | [] => letter :: kept.reverse
  | c :: t =>
    let isFree := kept.head?.all fun d => combiningClass d < combiningClass c
    match if isFree then join? letter c else none with
    | some joined => joinFrom joined kept t
    | none =>
      if combiningClass c == 0 then letter :: kept.reverse ++ joinFrom c [] t
      else joinFrom letter (c :: kept) t

/-- Joins letters and marks.  Marks at the start of a text have nothing to join. -/
def joinMarks : List Char → List Char
  | [] => []
  | c :: t => if combiningClass c == 0 then joinFrom c [] t else c :: joinMarks t

/-- The composed form of a text. -/
def composed (t : List Char) : List Char := joinMarks (inClassOrder (t.flatMap (takeApart 4)))

end StyleAudit.Text
