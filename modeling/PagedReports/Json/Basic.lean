import PagedReports.Text.Numeral

/-!
# Documents

JSON documents and their written form over several lines: two spaces for each level, one entry
to a line. Texts keep all characters but quotes, backslashes and control characters.
-/

namespace PagedReports.Json

/-- A document. -/
inductive Value where
  /-- Nothing. -/
  | null
  /-- True or false. -/
  | bool (b : Bool)
  /-- An unsigned number. -/
  | number (n : Nat)
  /-- A text. -/
  | string (s : String)
  /-- A list. -/
  | array (items : List Value)
  /-- Named entries. -/
  | object (entries : List (String × Value))

/-- The lower-case hexadecimal digit of a number below sixteen. -/
def hexDigit (n : Nat) : Char := if n < 10 then Char.ofNat (48 + n) else Char.ofNat (87 + n)

/-- The written form of a character of a text. -/
def escapeChar (c : Char) : List Char :=
  if c = '"' then ['\\', '"']
  else if c = '\\' then ['\\', '\\']
  else if c = '\n' then ['\\', 'n']
  else if c = '\r' then ['\\', 'r']
  else if c = '\t' then ['\\', 't']
  else if c.toNat = 8 then ['\\', 'b']
  else if c.toNat = 12 then ['\\', 'f']
  else if c.toNat < 32 then
    ['\\', 'u', '0', '0', hexDigit (c.toNat / 16), hexDigit (c.toNat % 16)]
  else [c]

/-- The written form of a text. -/
def quote (s : String) : String := String.ofList ('"' :: (s.toList.flatMap escapeChar ++ ['"']))

/-- The start of a line at a level. -/
def indent (level : Nat) : String := String.ofList ('\n' :: List.replicate (2 * level) ' ')

mutual

/-- The written form of a document at a level. -/
def Value.write (level : Nat) : Value → String
  | .null => "null"
  | .bool b => if b then "true" else "false"
  | .number n => Nat.repr n
  | .string s => quote s
  | .array [] => "[]"
  | .array (v :: rest) =>
    "[" ++ indent (level + 1) ++ v.write (level + 1) ++ writeItems level rest ++ indent level ++ "]"
  | .object [] => "\x7b\x7d"
  | .object ((key, v) :: rest) =>
    "\x7b" ++ indent (level + 1) ++ quote key ++ ": " ++ v.write (level + 1) ++
      writeEntries level rest ++ indent level ++ "\x7d"

/-- The items of a list after the first one. -/
def writeItems (level : Nat) : List Value → String
  | [] => ""
  | v :: rest => "," ++ indent (level + 1) ++ v.write (level + 1) ++ writeItems level rest

/-- The entries of an object after the first one. -/
def writeEntries (level : Nat) : List (String × Value) → String
  | [] => ""
  | (key, v) :: rest =>
    "," ++ indent (level + 1) ++ quote key ++ ": " ++ v.write (level + 1) ++
      writeEntries level rest

end

/-- The written form of a document. -/
def Value.pretty (v : Value) : String := v.write 0

/-- Puts an entry before the first one with a later name, in place of one with the same name. -/
def insertEntry (key : String) (v : Value) : List (String × Value) → List (String × Value)
  | [] => [(key, v)]
  | (k, w) :: rest =>
    if key < k then (key, v) :: (k, w) :: rest
    else if key = k then (key, v) :: rest
    else (k, w) :: insertEntry key v rest

/-- An object whose entries stand in the order of their names; the last one with a name counts. -/
def Value.sorted (entries : List (String × Value)) : Value :=
  .object (entries.foldl (fun acc e => insertEntry e.1 e.2 acc) [])

/-- A text, or nothing. -/
def Value.optional (s : Option String) : Value := (s.map Value.string).getD .null

end PagedReports.Json
