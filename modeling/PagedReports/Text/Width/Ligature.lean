import PagedReports.Text.Width.Places

/-!
# Ligatures

Letters of some scripts share one place. Texts are measured from their end, so what is kept is
the end of a ligature that has been seen, and a character before it may complete it.
-/

namespace PagedReports.Text

/-- The characters without a place that keep an Arabic letter from joining the next one. -/
def dividingRanges : List (Nat × Nat) :=
  [(0x605, 0x605), (0x890, 0x891), (0x8E2, 0x8E2), (0x9BE, 0x9BE), (0x9D7, 0x9D7), (0xB3E, 0xB3E),
   (0xB57, 0xB57), (0xBBE, 0xBBE), (0xBD7, 0xBD7), (0xCC0, 0xCC0), (0xCC2, 0xCC2), (0xCC7, 0xCC8),
   (0xCCA, 0xCCB), (0xCD5, 0xCD6), (0xD3E, 0xD3E), (0xD4E, 0xD4E), (0xD57, 0xD57), (0xDCF, 0xDCF),
   (0xDDF, 0xDDF), (0x1160, 0x11FF), (0x1715, 0x1715), (0x1734, 0x1734), (0x180E, 0x180E),
   (0x1B35, 0x1B35), (0x1B3B, 0x1B3B), (0x1B3D, 0x1B3D), (0x1B43, 0x1B44), (0x1BAA, 0x1BAA),
   (0x1BF2, 0x1BF3), (0x200C, 0x200D), (0x2065, 0x2069), (0x302E, 0x302F), (0x3164, 0x3164),
   (0xA8FA, 0xA8FA), (0xA953, 0xA953), (0xA9C0, 0xA9C0), (0xD7B0, 0xD7C6), (0xD7CB, 0xD7FB),
   (0xFFA0, 0xFFA0), (0xFFF0, 0xFFF8), (0x111C0, 0x111C0), (0x111C2, 0x111C3), (0x11235, 0x11235),
   (0x1133E, 0x1133E), (0x1134D, 0x1134D), (0x11357, 0x11357), (0x113B8, 0x113B8),
   (0x113C2, 0x113C2), (0x113C5, 0x113C5), (0x113C7, 0x113C9), (0x113CF, 0x113CF),
   (0x113D1, 0x113D1), (0x114B0, 0x114B0), (0x114BD, 0x114BD), (0x115AF, 0x115AF),
   (0x116B6, 0x116B6), (0x11930, 0x11930), (0x1193D, 0x1193D), (0x1193F, 0x1193F),
   (0x11941, 0x11941), (0x11A84, 0x11A89), (0x11D46, 0x11D46), (0x11F02, 0x11F02),
   (0x11F41, 0x11F41), (0x16FF0, 0x16FF1), (0x1D165, 0x1D166), (0x1D16D, 0x1D172),
   (0xE0000, 0xE0000), (0xE0002, 0xE001F), (0xE0080, 0xE00FF), (0xE01F0, 0xE0FFF)]

/-- Whether Arabic letters join across a character that takes no place. -/
def isTransparent (c : Char) : Bool := charWidth c == 0 && !inRanges dividingRanges c.toNat

/-- The joiner, which asks for one shape of the characters around it. -/
def joiner : Char := Char.ofNat 0x200D

/-- Whether a character is an invisible mark, which may stand inside any ligature. -/
def isInvisibleMark (c : Char) : Bool :=
  inRanges [(0x34F, 0x34F), (0x17B4, 0x17B5), (0x180B, 0x180D), (0x180F, 0x180F),
    (0xFE00, 0xFE0F), (0xE0100, 0xE01EF)] c.toNat

/-- Whether a character is an Arabic Alef. -/
def isAlef (c : Char) : Bool :=
  inRanges [(0x622, 0x623), (0x625, 0x625), (0x627, 0x627), (0x671, 0x673), (0x675, 0x675),
    (0x773, 0x774), (0x870, 0x882)] c.toNat

/-- Whether a character is an Arabic Lam. -/
def isLam (c : Char) : Bool :=
  inRanges [(0x644, 0x644), (0x6B5, 0x6B8), (0x76A, 0x76A), (0x8A6, 0x8A6), (0x8C7, 0x8C7)] c.toNat

/-- Whether a character is a Khmer letter that takes no place when it is written below another
one. -/
def isSubscriptLetter (c : Char) : Bool :=
  inRanges [(0x1780, 0x1782), (0x1784, 0x1787), (0x1789, 0x178C), (0x178E, 0x1793),
    (0x1795, 0x1798), (0x179B, 0x179D), (0x17A0, 0x17A0), (0x17A2, 0x17A2), (0x17A7, 0x17A7),
    (0x17AB, 0x17AC), (0x17AF, 0x17AF)] c.toNat

/-- Whether a character is a Tifinagh consonant. -/
def isConsonant (c : Char) : Bool := inRanges [(0x2D31, 0x2D65), (0x2D6F, 0x2D6F)] c.toNat

/-- The end of a ligature. -/
inductive Ending where
  /-- An Arabic Alef. -/
  | alef
  /-- A Hebrew Lamed, and whether a joiner is before it. -/
  | lamed (joined : Bool)
  /-- A Buginese Ya, and whether a joiner is before it. -/
  | ya (joined : Bool)
  /-- A Buginese I, a joiner and a Ya. -/
  | vowelYa
  /-- A Khmer letter that can be written below another one. -/
  | subscriptLetter
  /-- A Tifinagh consonant, and whether a joiner is before it. -/
  | consonant (joined : Bool)
  /-- The joiner of Tifinagh consonants, and a consonant. -/
  | linkedConsonant
  /-- The second tone letter of a pair in Lisu. -/
  | toneLetter
  /-- An Old Turkic I, and whether a joiner is before it. -/
  | orkhonI (joined : Bool)
  /-- A Kirat Rai E. -/
  | vowelE
  /-- A Kirat Rai AI. -/
  | vowelAi
  deriving DecidableEq, Repr

namespace Ending

/-- The ending that a character makes by itself. -/
def ofChar? (c : Char) : Option Ending :=
  let n := c.toNat
  if isAlef c then some alef
  else if n = 0x5DC then some (lamed false)
  else if n = 0x1A10 then some (ya false)
  else if isSubscriptLetter c then some subscriptLetter
  else if isConsonant c then some (consonant false)
  else if n = 0xA4FC ∨ n = 0xA4FD then some toneLetter
  else if n = 0x10C03 then some (orkhonI false)
  else if n = 0x16D67 then some vowelE
  else if n = 0x16D68 then some vowelAi
  else none

/-- An ending with a joiner before it. -/
def join : Ending → Ending
  | lamed _ => lamed true
  | ya _ => ya true
  | consonant _ => consonant true
  | orkhonI _ => orkhonI true
  | e => e

/-- How many places the letter before an ending adds, and the ending that it leaves, if it
belongs to the ligature. What it adds is negative when the ending took more than its share. -/
def letter? (e : Ending) (c : Char) : Option (Int × Option Ending) :=
  let n := c.toNat
  match e with
  | alef => if isLam c then some (0, none) else none
  | lamed true => if n = 0x5D0 then some (0, none) else none
  | ya true => if n = 0x1A17 then some (0, some vowelYa) else none
  | vowelYa => if n = 0x1A15 then some (0, none) else none
  | subscriptLetter => if n = 0x17D2 then some (-1, none) else none
  | consonant joined =>
    if n = 0x2D7F then some (1, some linkedConsonant)
    else if joined ∧ isConsonant c then some (0, none)
    else none
  | linkedConsonant => if isConsonant c then some (-1, none) else none
  | toneLetter => if 0xA4F8 ≤ n ∧ n ≤ 0xA4FB then some (0, none) else none
  | orkhonI true => if n = 0x10C32 then some (0, none) else none
  | vowelE =>
    if n = 0x16D63 ∨ n = 0x16D69 then some (0, none)
    else if n = 0x16D67 then some (0, some vowelAi)
    else if n = 0x16D68 then some (1, some vowelE)
    else none
  | vowelAi => if n = 0x16D63 then some (0, none) else none
  | lamed false | ya false | orkhonI false => none

/-- How many places the character before an ending adds, and the ending that it leaves, if the
ligature may go on. Invisible marks and joiners change nothing, and an Arabic Alef passes over
all marks, but not over joiners. -/
def before? (e : Ending) (c : Char) : Option (Int × Option Ending) :=
  match e with
  | alef => if isTransparent c then some (0, some alef) else e.letter? c
  | _ =>
    if c = joiner then some (0, some e.join)
    else if isInvisibleMark c then some (0, some e)
    else e.letter? c

end Ending

end PagedReports.Text
