import PagedReports.Text.Numeral

/-!
# Reading documents

`Tree.read?` reads JSON. Numbers and texts stay as they are written until someone asks what they
stand for: a number may be too large and a text may name half a character, which is a mistake
only where that number or text is wanted. Nothing but blanks may stand around a document.
-/

namespace PagedReports.Json

/-- A piece of a written text. -/
inductive Piece where
  /-- A character. -/
  | char (c : Char)
  /-- A number of sixteen bits: a character, or one half of a pair that makes a character. -/
  | unit (n : Nat)
  deriving DecidableEq, Repr

/-- A document as it is written. -/
inductive Tree where
  /-- Nothing. -/
  | null
  /-- True or false. -/
  | bool (b : Bool)
  /-- A number, as written. -/
  | number (written : List Char)
  /-- A text, as written. -/
  | string (pieces : List Piece)
  /-- A list. -/
  | array (items : List Tree)
  /-- Named entries. -/
  | object (entries : List (List Piece × Tree))

/-! ### Texts -/

/-- The value of a hexadecimal digit. -/
def hexValue? (c : Char) : Option Nat :=
  let n := c.toNat
  if 48 ≤ n ∧ n ≤ 57 then some (n - 48)
  else if 65 ≤ n ∧ n ≤ 70 then some (n - 55)
  else if 97 ≤ n ∧ n ≤ 102 then some (n - 87)
  else none

/-- The number of four hexadecimal digits. -/
def hexUnit? (a b c d : Char) : Option Nat :=
  match hexValue? a, hexValue? b, hexValue? c, hexValue? d with
  | some a, some b, some c, some d => some (((a * 16 + b) * 16 + c) * 16 + d)
  | _, _, _, _ => none

/-- The character that a letter after a backslash stands for. -/
def escaped? : Char → Option Char
  | '"' => some '"'
  | '\\' => some '\\'
  | '/' => some '/'
  | 'b' => some (Char.ofNat 8)
  | 'f' => some (Char.ofNat 12)
  | 'n' => some '\n'
  | 'r' => some '\r'
  | 't' => some '\t'
  | _ => none

/-- Puts a piece before what has been read. -/
def withPiece (p : Piece) (r : List Piece × List Char) : List Piece × List Char :=
  (p :: r.1, r.2)

/-- Reads a text up to its closing quote. -/
def readPieces? : List Char → Option (List Piece × List Char)
  | [] => none
  | '"' :: rest => some ([], rest)
  | '\\' :: 'u' :: a :: b :: c :: d :: rest =>
    match hexUnit? a b c d with
    | some n => (readPieces? rest).map (withPiece (.unit n))
    | none => none
  | '\\' :: e :: rest =>
    match escaped? e with
    | some c => (readPieces? rest).map (withPiece (.char c))
    | none => none
  | c :: rest => if c.toNat < 32 then none else (readPieces? rest).map (withPiece (.char c))

/-- The first half of a pair. -/
def isHighHalf (n : Nat) : Bool := 0xD800 ≤ n && n < 0xDC00

/-- The second half of a pair. -/
def isLowHalf (n : Nat) : Bool := 0xDC00 ≤ n && n < 0xE000

/-- The characters of a written text; none if half a pair stands alone. -/
def characters? : List Piece → Option (List Char)
  | [] => some []
  | .char c :: rest => (characters? rest).map (c :: ·)
  | .unit h :: rest =>
    if isHighHalf h || isLowHalf h then
      match rest with
      | .unit l :: rest =>
        if isHighHalf h && isLowHalf l then
          (characters? rest).map
            (Char.ofNat (0x10000 + (h - 0xD800) * 1024 + (l - 0xDC00)) :: ·)
        else none
      | _ => none
    else (characters? rest).map (Char.ofNat h :: ·)

/-! ### Numbers -/

/-- Reads the digits at the start; there must be one. -/
def readDigits? (cs : List Char) : Option (List Char × List Char) :=
  match cs.takeWhile Char.isDigit with
  | [] => none
  | ds => some (ds, cs.dropWhile Char.isDigit)

/-- Reads a whole number; a zero has no further digits. -/
def readWhole? : List Char → Option (List Char × List Char)
  | '0' :: rest => some (['0'], rest)
  | cs => readDigits? cs

/-- Reads a point and digits, if a point comes. -/
def readFraction? : List Char → Option (List Char × List Char)
  | '.' :: rest => (readDigits? rest).map fun r => ('.' :: r.1, r.2)
  | cs => some ([], cs)

/-- Reads the sign and the digits of an exponent. -/
def readPower? : List Char → Option (List Char × List Char)
  | '+' :: rest => (readDigits? rest).map fun r => ('+' :: r.1, r.2)
  | '-' :: rest => (readDigits? rest).map fun r => ('-' :: r.1, r.2)
  | cs => readDigits? cs

/-- Reads an exponent, if one comes. -/
def readExponent? : List Char → Option (List Char × List Char)
  | 'e' :: rest => (readPower? rest).map fun r => ('e' :: r.1, r.2)
  | 'E' :: rest => (readPower? rest).map fun r => ('E' :: r.1, r.2)
  | cs => some ([], cs)

/-- Reads a number without a sign. -/
def readMagnitude? (cs : List Char) : Option (List Char × List Char) :=
  match readWhole? cs with
  | none => none
  | some (whole, cs) =>
    match readFraction? cs with
    | none => none
    | some (fraction, cs) =>
      (readExponent? cs).map fun r => (whole ++ fraction ++ r.1, r.2)

/-- Reads a number. -/
def readNumber? : List Char → Option (List Char × List Char)
  | '-' :: rest => (readMagnitude? rest).map fun r => ('-' :: r.1, r.2)
  | cs => readMagnitude? cs

/-! ### Documents -/

/-- A blank between the pieces of a document. -/
def isSpace (c : Char) : Bool := c == ' ' || c == '\n' || c == '\t' || c == '\r'

/-- The text without the blanks at its start. -/
def skip (cs : List Char) : List Char := cs.dropWhile isSpace

mutual

/-- Reads a document. The number bounds the depth of the recursion. -/
def readTree? : Nat → List Char → Option (Tree × List Char)
  | 0, _ => none
  | n + 1, cs =>
    match skip cs with
    | 'n' :: 'u' :: 'l' :: 'l' :: rest => some (.null, rest)
    | 't' :: 'r' :: 'u' :: 'e' :: rest => some (.bool true, rest)
    | 'f' :: 'a' :: 'l' :: 's' :: 'e' :: rest => some (.bool false, rest)
    | '"' :: rest => (readPieces? rest).map fun r => (.string r.1, r.2)
    | '[' :: rest =>
      match skip rest with
      | ']' :: rest => some (.array [], rest)
      | rest => (readItems? n rest).map fun r => (.array r.1, r.2)
    | '\x7b' :: rest =>
      match skip rest with
      | '\x7d' :: rest => some (.object [], rest)
      | rest => (readEntries? n rest).map fun r => (.object r.1, r.2)
    | cs => (readNumber? cs).map fun r => (.number r.1, r.2)

/-- Reads the items of a list, at least one, and its closing bracket. -/
def readItems? : Nat → List Char → Option (List Tree × List Char)
  | 0, _ => none
  | n + 1, cs =>
    match readTree? n cs with
    | none => none
    | some (item, cs) =>
      match skip cs with
      | ',' :: rest => (readItems? n rest).map fun r => (item :: r.1, r.2)
      | ']' :: rest => some ([item], rest)
      | _ => none

/-- Reads the entries of an object, at least one, and its closing brace. -/
def readEntries? : Nat → List Char → Option (List (List Piece × Tree) × List Char)
  | 0, _ => none
  | n + 1, cs =>
    match skip cs with
    | '"' :: rest =>
      match readPieces? rest with
      | none => none
      | some (key, cs) =>
        match skip cs with
        | ':' :: rest =>
          match readTree? n rest with
          | none => none
          | some (item, cs) =>
            match skip cs with
            | ',' :: rest => (readEntries? n rest).map fun r => ((key, item) :: r.1, r.2)
            | '\x7d' :: rest => some ([(key, item)], rest)
            | _ => none
        | _ => none
    | _ => none

end

/-- Reads a document. -/
def Tree.read? (s : String) : Option Tree :=
  match readTree? (2 * s.length + 2) s.toList with
  | some (t, rest) => if (skip rest).isEmpty then some t else none
  | none => none

/-! ### What a document stands for -/

namespace Tree

/-- The text that a document is. -/
def text? : Tree → Option String
  | string pieces => (characters? pieces).map String.ofList
  | _ => none

/-- The text that a document is, or nothing for the empty document. -/
def optionalText? : Tree → Option (Option String)
  | null => some none
  | t => t.text?.map some

/-- The unsigned 64-bit number that a document is. -/
def word? : Tree → Option UInt64
  | number written => (Text.digitsValue? written).bind Text.unsigned?
  | _ => none

/-- The entries with their names; none if a name cannot be read. -/
def named? (entries : List (List Piece × Tree)) : Option (List (String × Tree)) :=
  entries.mapM fun e => (characters? e.1).map fun cs => (String.ofList cs, e.2)

/-- The only entry with a name, if there is one; nothing at all if there are several. -/
def single? (entries : List (String × Tree)) (name : String) : Option (Option Tree) :=
  match entries.filter fun e => e.1 = name with
  | [] => some none
  | [e] => some (some e.2)
  | _ => none

/-- The fields of a record: an object in which no field stands twice and other names do not
count, or a list of the fields in order, of which the last ones may be missing. -/
def fields? (names : List String) : Tree → Option (List (Option Tree))
  | object entries => (named? entries).bind fun es => names.mapM (single? es)
  | array items =>
    if items.length ≤ names.length then
      some (items.map some ++ List.replicate (names.length - items.length) none)
    else none
  | _ => none

end Tree

/-- A field that must be there. -/
def required {α : Type} (read : Tree → Option α) : Option Tree → Option α
  | some t => read t
  | none => none

/-- A field with a value for when it is not there. -/
def withDefault {α : Type} (read : Tree → Option α) (default : α) : Option Tree → Option α
  | some t => read t
  | none => some default

end PagedReports.Json
