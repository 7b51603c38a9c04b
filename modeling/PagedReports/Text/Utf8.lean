/-!
# UTF-8

Texts as byte sequences. Reading never fails: a maximal piece of a sequence that no character
has becomes one replacement character.
-/

namespace PagedReports.Text.Utf8

/-- The bytes of one character. -/
def encodeChar (c : Char) : List UInt8 :=
  let n := c.toNat
  if n < 0x80 then [UInt8.ofNat n]
  else if n < 0x800 then [UInt8.ofNat (0xC0 + n / 64), UInt8.ofNat (0x80 + n % 64)]
  else if n < 0x10000 then
    [UInt8.ofNat (0xE0 + n / 4096), UInt8.ofNat (0x80 + n / 64 % 64), UInt8.ofNat (0x80 + n % 64)]
  else
    [UInt8.ofNat (0xF0 + n / 262144), UInt8.ofNat (0x80 + n / 4096 % 64),
      UInt8.ofNat (0x80 + n / 64 % 64), UInt8.ofNat (0x80 + n % 64)]

/-- The bytes of a text. -/
def encode (s : String) : List UInt8 := s.toList.flatMap encodeChar

/-- Stands for bytes that are no character. -/
def replacement : Char := '\uFFFD'

/-- A byte that continues a character. -/
def isContinuation (b : UInt8) : Bool := 0x80 ≤ b.toNat && b.toNat ≤ 0xBF

/-- Which second bytes may follow the first byte of a three-byte character. -/
def isSecondOfThree (lead b : Nat) : Bool :=
  (if lead = 0xE0 then 0xA0 else 0x80) ≤ b && b ≤ (if lead = 0xED then 0x9F else 0xBF)

/-- Which second bytes may follow the first byte of a four-byte character. -/
def isSecondOfFour (lead b : Nat) : Bool :=
  (if lead = 0xF0 then 0x90 else 0x80) ≤ b && b ≤ (if lead = 0xF4 then 0x8F else 0xBF)

/-- The character that starts with the byte `lead`, and how many bytes after it it takes. -/
def first (lead : UInt8) (rest : List UInt8) : Char × Nat :=
  let l := lead.toNat
  if l < 0x80 then (Char.ofNat l, 0)
  else if 0xC2 ≤ l && l ≤ 0xDF then
    match rest with
    | b :: _ =>
      if isContinuation b then (Char.ofNat ((l - 0xC0) * 64 + (b.toNat - 0x80)), 1)
      else (replacement, 0)
    | [] => (replacement, 0)
  else if 0xE0 ≤ l && l ≤ 0xEF then
    match rest with
    | b :: rest =>
      if isSecondOfThree l b.toNat then
        match rest with
        | c :: _ =>
          if isContinuation c then
            (Char.ofNat ((l - 0xE0) * 4096 + (b.toNat - 0x80) * 64 + (c.toNat - 0x80)), 2)
          else (replacement, 1)
        | [] => (replacement, 1)
      else (replacement, 0)
    | [] => (replacement, 0)
  else if 0xF0 ≤ l && l ≤ 0xF4 then
    match rest with
    | b :: rest =>
      if isSecondOfFour l b.toNat then
        match rest with
        | c :: rest =>
          if isContinuation c then
            match rest with
            | d :: _ =>
              if isContinuation d then
                (Char.ofNat ((l - 0xF0) * 262144 + (b.toNat - 0x80) * 4096 +
                  (c.toNat - 0x80) * 64 + (d.toNat - 0x80)), 3)
              else (replacement, 2)
            | [] => (replacement, 2)
          else (replacement, 1)
        | [] => (replacement, 1)
      else (replacement, 0)
    | [] => (replacement, 0)
  else (replacement, 0)

/-- The characters of a byte sequence. -/
def decodeChars : List UInt8 → List Char
  | [] => []
  | lead :: rest => (first lead rest).1 :: decodeChars (rest.drop (first lead rest).2)
  termination_by bytes => bytes.length
  decreasing_by simp only [List.length_drop, List.length_cons]; omega

/-- The text of a byte sequence. -/
def decode (bytes : List UInt8) : String := String.ofList (decodeChars bytes)

end PagedReports.Text.Utf8
