import PagedReports.Text.Width.Ligature
import PagedReports.Text.Width.Picture

/-!
# Display width

How many places a text takes in a row of equally wide places. It is measured from its end: what a
character adds depends on what stands after it. Letters of a ligature share a place, a line's end
of two characters takes one, a picture that several characters make together takes two, and a
selector after a character asks for it as a picture or as a plain sign.
-/

namespace PagedReports.Text

/-- How a character is asked for by the selector after it. -/
inductive Style where
  /-- As a plain sign. -/
  | sign
  /-- As a picture. -/
  | picture
  /-- As a wide quotation mark. -/
  | broad
  deriving DecidableEq, Repr

/-- The style that a character selects. -/
def Style.ofSelector? (c : Char) : Option Style :=
  if c.toNat = 0xFE0E then some sign
  else if c.toNat = 0xFE0F then some picture
  else if c.toNat = 0xFE01 then some broad
  else none

/-- The tags that end the name of a flag, as far as they have been seen. -/
inductive FlagTags where
  /-- So many letters. -/
  | letters (n : Nat)
  /-- So many digits, and maybe letters after them. -/
  | digits (n : Nat)
  deriving DecidableEq, Repr

namespace FlagTags

/-- The tags with one more before them, if a name can have it there. -/
def before? (t : FlagTags) (c : Char) : Option FlagTags :=
  match t with
  | letters n =>
    if isLetterTag c ∧ n < 6 then some (letters (n + 1))
    else if isDigitTag c ∧ n ≤ 4 then some (digits 1)
    else none
  | digits n => if isDigitTag c ∧ n < 3 then some (digits (n + 1)) else none

/-- Whether the tags are the whole name of a flag. -/
def isName : FlagTags → Bool
  | letters n => 3 ≤ n
  | digits n => n == 3

end FlagTags

/-- What stands after a character, as far as its width depends on it. -/
inductive Following where
  /-- Nothing that matters. -/
  | plain
  /-- The second half of a line's end. -/
  | lineEnd
  /-- The end of a ligature. -/
  | ligature (e : Ending)
  /-- A picture. -/
  | picture
  /-- The tone of a picture. -/
  | tone
  /-- So many letters for flags. -/
  | flagLetters (n : Nat)
  /-- A joiner and a picture. -/
  | joined
  /-- The frame of a key, a joiner and a picture. -/
  | joinedFrame
  /-- So many letters for flags, a joiner and a picture. -/
  | joinedLetters (n : Nat)
  /-- The tags of a flag, a joiner and a picture. -/
  | joinedTags (t : FlagTags)
  deriving DecidableEq, Repr

/-- What stands after a character: at once a selector, if there is one, and then what is kept of
the rest. -/
structure Context where
  /-- The style that is selected. -/
  style : Option Style
  /-- What stands after the selector. -/
  following : Following
  deriving DecidableEq, Repr

namespace Following

/-- What a character leaves to the one before it, if nothing after it matters. -/
def ofChar (c : Char) : Following :=
  if c = '\n' then lineEnd
  else if isTone c then tone
  else if isFlagLetter c then flagLetters 1
  else if isPicture c then picture
  else
    match Ending.ofChar? c with
    | some e => ligature e
    | none => plain

/-- What the ligature leaves after a character that belongs to it. -/
def ofEnding : Option Ending → Following
  | some e => ligature e
  | none => plain

/-- How many places a character adds, and what it leaves to the one before it, if it belongs
together with what stands after it. -/
def before? (f : Following) (c : Char) : Option (Int × Following) :=
  match f with
  | plain | joinedFrame => none
  | lineEnd => if c = '\r' then some (0, plain) else none
  | ligature e => (e.before? c).map fun p => (p.1, ofEnding p.2)
  | picture => if c = joiner then some (0, joined) else none
  | tone =>
    if c = joiner then some (0, joined) else if isBearer c then some (0, picture) else none
  | flagLetters n =>
    if isFlagLetter c then some (1, flagLetters (n + 1))
    else if c = joiner ∧ 2 ≤ n then some (0, joined)
    else none
  | joined =>
    if isPicture c then some (0, picture)
    else if isTone c then some (0, tone)
    else if isFlagLetter c then some (1, joinedLetters 1)
    else if c.toNat = 0x20E3 then some (0, joinedFrame)
    else if c.toNat = 0xE007F then some (0, joinedTags (.letters 0))
    else none
  | joinedLetters n =>
    if isFlagLetter c then some (if n % 2 = 1 then -1 else 3, joinedLetters (n + 1))
    else if c = joiner ∧ 2 ≤ n then some (0, joined)
    else none
  | joinedTags t =>
    if c.toNat = 0x1F3F4 ∧ t.isName then some (0, picture)
    else (t.before? c).map fun t => (0, joinedTags t)

end Following

namespace Context

/-- The context that a selector makes. Ligatures go on across it, and a picture that is asked for
may belong together with a joined one. -/
def select (s : Style) (f : Following) : Context :=
  ⟨some s,
    match f with
    | .ligature e => .ligature e
    | .joined => if s = .picture then .joined else .plain
    | .joinedFrame => if s = .picture then .joinedFrame else .plain
    | _ => .plain⟩

/-- What stands after a character for which the selector, if there is one, means nothing. -/
def withoutStyle (ctx : Context) : Following :=
  match ctx.style, ctx.following with
  | none, f => f
  | some _, .ligature e => .ligature e
  | some _, _ => .plain

/-- How many places a character takes in the style that is asked for, and what it leaves to the
one before it, if it has that style. -/
def styled? (ctx : Context) (c : Char) : Option (Int × Following) :=
  match ctx.style with
  | some .picture =>
    if isDouble c then
      some (if ctx.following = .joined ∨ ctx.following = .joinedFrame then 0 else 2, .picture)
    else none
  | some .sign => if isNarrowSign c then some (1, .plain) else none
  | some .broad =>
    if inRanges [(0x2018, 0x2019), (0x201C, 0x201D)] c.toNat then some (2, .plain) else none
  | none => none

/-- How many places a character adds, and the context that it makes for the one before it. -/
def before (ctx : Context) (c : Char) : Int × Context :=
  match ctx.styled? c with
  | some p => (p.1, ⟨none, p.2⟩)
  | none =>
    match Style.ofSelector? c with
    | some s => (0, select s ctx.withoutStyle)
    | none =>
      let p := (ctx.withoutStyle.before? c).getD (charWidth c, Following.ofChar c)
      (p.1, ⟨none, p.2⟩)

end Context

/-- How many places characters take, and the context that they make for a character before
them. -/
def measure : List Char → Int × Context
  | [] => (0, ⟨none, .plain⟩)
  | c :: rest =>
    let after := measure rest
    let here := after.2.before c
    (here.1 + after.1, here.2)

/-- How many places a text takes. -/
def width (s : String) : Nat := (measure s.toList).1.toNat

end PagedReports.Text
