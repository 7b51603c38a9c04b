import PagedReports.Calendar.Moment

/-!
# Date patterns

A pattern is text in which a percent sign starts a directive: `%Y` stands for the year, `%d` for
the day of the month, and so on. A flag after the percent sign says how a single number is
padded. `Pattern.parse?` reads a pattern and refuses one with an unknown directive;
`Pattern.write` writes a moment of universal time.
-/

namespace PagedReports.Calendar

/-- How a number is filled up to its width. -/
inductive Padding where
  /-- Not at all. -/
  | none
  /-- With zeros. -/
  | zero
  /-- With spaces. -/
  | space
  deriving DecidableEq, Repr

/-- A number of a moment. -/
inductive Field where
  /-- The year. -/
  | year
  /-- The hundreds of the year. -/
  | century
  /-- The year without its hundreds. -/
  | yearOfCentury
  /-- The year that the week belongs to. -/
  | weekYear
  /-- That year without its hundreds. -/
  | weekYearOfCentury
  /-- The quarter of the year. -/
  | quarter
  /-- The month. -/
  | month
  /-- The day of the month. -/
  | day
  /-- The week of the year, from its first Sunday on. -/
  | sundayWeek
  /-- The week of the year, from its first Monday on. -/
  | mondayWeek
  /-- The week of the year that the week belongs to. -/
  | week
  /-- The day of the week, Sunday being zero. -/
  | weekdayFromSunday
  /-- The day of the week, Monday being one. -/
  | weekdayFromMonday
  /-- The day of the year. -/
  | dayOfYear
  /-- The hour of the day. -/
  | hour
  /-- The hour of the half day. -/
  | halfHour
  /-- The minute. -/
  | minute
  /-- The second. -/
  | second
  /-- The nanoseconds of the second, which are always zero. -/
  | nanosecond
  /-- Seconds since the start of 1970. -/
  | epoch
  deriving DecidableEq, Repr

/-- A part of a pattern. -/
inductive Item where
  /-- Text that stands for itself. -/
  | literal (s : String)
  /-- A number, and how it is padded. -/
  | number (f : Field) (p : Padding)
  /-- The first three letters of the month's name. -/
  | shortMonth
  /-- The month's name. -/
  | longMonth
  /-- The first three letters of the weekday's name. -/
  | shortWeekday
  /-- The weekday's name. -/
  | longWeekday
  /-- The half of the day in small letters. -/
  | lowerHalf
  /-- The half of the day in capitals. -/
  | upperHalf
  /-- Date, time and zone in one word. -/
  | stamp
  deriving DecidableEq, Repr

/-- A pattern that has been read. -/
abbrev Pattern := List Item

namespace Pattern

/-! ### Reading -/

/-- A number padded with zeros. -/
def zeros (f : Field) : Item := .number f .zero

/-- The number that a letter stands for, with the padding it has without a flag. -/
def numberOf? : Char → Option Item
  | 'C' => some (zeros .century)
  | 'G' => some (zeros .weekYear)
  | 'H' => some (zeros .hour)
  | 'I' => some (zeros .halfHour)
  | 'M' => some (zeros .minute)
  | 'S' => some (zeros .second)
  | 'U' => some (zeros .sundayWeek)
  | 'V' => some (zeros .week)
  | 'W' => some (zeros .mondayWeek)
  | 'Y' => some (zeros .year)
  | 'd' => some (zeros .day)
  | 'e' => some (.number .day .space)
  | 'f' => some (zeros .nanosecond)
  | 'g' => some (zeros .weekYearOfCentury)
  | 'j' => some (zeros .dayOfYear)
  | 'k' => some (.number .hour .space)
  | 'l' => some (.number .halfHour .space)
  | 'm' => some (zeros .month)
  | 'q' => some (.number .quarter .none)
  | 's' => some (.number .epoch .none)
  | 'u' => some (.number .weekdayFromMonday .none)
  | 'w' => some (.number .weekdayFromSunday .none)
  | 'y' => some (zeros .yearOfCentury)
  | _ => none

/-- Month, day and year between slashes. -/
def slashDate : Pattern :=
  [zeros .month, .literal "/", zeros .day, .literal "/", zeros .yearOfCentury]

/-- Hour and minute. -/
def hourMinute : Pattern := [zeros .hour, .literal ":", zeros .minute]

/-- Hour, minute and second. -/
def clock : Pattern := hourMinute ++ [.literal ":", zeros .second]

/-- The items that a letter stands for. -/
def itemsOf? (c : Char) : Option Pattern :=
  match numberOf? c with
  | some item => some [item]
  | none =>
    match c with
    | 'A' => some [.longWeekday]
    | 'B' => some [.longMonth]
    | 'D' | 'x' => some slashDate
    | 'F' => some [zeros .year, .literal "-", zeros .month, .literal "-", zeros .day]
    | 'P' => some [.lowerHalf]
    | 'R' => some hourMinute
    | 'T' | 'X' => some clock
    | 'Z' => some [.literal "UTC"]
    | 'a' => some [.shortWeekday]
    | 'b' | 'h' => some [.shortMonth]
    | 'c' =>
      some ([.shortWeekday, .literal " ", .shortMonth, .literal " ", .number .day .space,
        .literal " "] ++ clock ++ [.literal " ", zeros .year])
    | 'n' => some [.literal "\n"]
    | 'p' => some [.upperHalf]
    | 'r' =>
      some [zeros .halfHour, .literal ":", zeros .minute, .literal ":", zeros .second,
        .literal " ", .upperHalf]
    | 't' => some [.literal "\t"]
    | 'v' =>
      some [.number .day .space, .literal "-", .shortMonth, .literal "-", zeros .year]
    | 'z' => some [.literal "+0000"]
    | '+' => some [.stamp]
    | '%' => some [.literal "%"]
    | _ => none

/-- A single number with another padding; nothing else takes a flag. -/
def padded? (c : Char) (p : Padding) : Option Pattern :=
  match numberOf? c with
  | some (.number f _) => some [.number f p]
  | _ => none

/-- The items of the directive at the start of the text after a percent sign, and how many
characters it takes. -/
def directive? : List Char → Option (Pattern × Nat)
  | '-' :: c :: _ => (padded? c .none).map (·, 2)
  | '0' :: c :: _ => (padded? c .zero).map (·, 2)
  | '_' :: c :: _ => (padded? c .space).map (·, 2)
  | ':' :: ':' :: ':' :: 'z' :: _ => some ([.literal "+00"], 4)
  | ':' :: ':' :: 'z' :: _ => some ([.literal "+00:00:00"], 3)
  | ':' :: 'z' :: _ => some ([.literal "+00:00"], 2)
  | '.' :: 'f' :: _ => some ([], 2)
  | '.' :: '3' :: 'f' :: _ => some ([.literal ".000"], 3)
  | '.' :: '6' :: 'f' :: _ => some ([.literal ".000000"], 3)
  | '.' :: '9' :: 'f' :: _ => some ([.literal ".000000000"], 3)
  | '3' :: 'f' :: _ => some ([.literal "000"], 2)
  | '6' :: 'f' :: _ => some ([.literal "000000"], 2)
  | '9' :: 'f' :: _ => some ([.literal "000000000"], 2)
  | c :: _ => (itemsOf? c).map (·, 1)
  | [] => none

/-- Reads the characters of a pattern. -/
def parseChars? : List Char → Option Pattern
  | [] => some []
  | c :: rest =>
    if c = '%' then
      match directive? rest with
      | none => none
      | some (items, n) => (parseChars? (rest.drop n)).map (items ++ ·)
    else (parseChars? rest).map (.literal (String.singleton c) :: ·)
  termination_by cs => cs.length
  decreasing_by all_goals simp only [List.length_drop, List.length_cons]; omega

/-- Reads a pattern; there is none if a directive is unknown or unfinished. -/
def parse? (s : String) : Option Pattern := parseChars? s.toList

/-! ### Writing -/

/-- A number that is filled up to a width. -/
def fill (width : Nat) (p : Padding) (digits : String) : String :=
  match p with
  | .none => digits
  | .zero => String.ofList (List.replicate (width - digits.length) '0') ++ digits
  | .space => String.ofList (List.replicate (width - digits.length) ' ') ++ digits

/-- A number of two digits. The first one is a byte counted up from the digit zero, whatever
the number is. -/
def twoDigits (n : Nat) (p : Padding) : String :=
  let tens := n % 256 / 10
  let ones := String.singleton (Char.ofNat (48 + n % 256 % 10))
  match tens, p with
  | 0, .none => ones
  | 0, .space => " " ++ ones
  | _, _ => String.singleton (Char.ofNat (48 + tens)) ++ ones

/-- A year has four digits, or a plus sign before more of them. -/
def yearText (year : Nat) : String :=
  if year < 10000 then fill 4 .zero (Nat.repr year) else "+" ++ Nat.repr year

/-- The English names of the months. -/
def monthNames : List String :=
  ["January", "February", "March", "April", "May", "June", "July", "August", "September",
    "October", "November", "December"]

/-- The English names of the days of the week, from Monday. -/
def weekdayNames : List String :=
  ["Monday", "Tuesday", "Wednesday", "Thursday", "Friday", "Saturday", "Sunday"]

/-- The name of a month, from one. -/
def monthName (month : Nat) : String := monthNames.getD (month - 1) ""

/-- The name of a day of the week, from Monday as zero. -/
def weekdayName (weekday : Nat) : String := weekdayNames.getD weekday ""

/-- The first three letters of a name. -/
def short (name : String) : String := String.ofList (name.toList.take 3)

/-- The written form of a number of a moment. -/
def writeField (m : Moment) (p : Padding) : Field → String
  | .year => yearText m.date.year
  | .century => twoDigits (m.date.year / 100) p
  | .yearOfCentury => twoDigits (m.date.year % 100) p
  | .weekYear => yearText m.date.isoWeek.1
  | .weekYearOfCentury => twoDigits (m.date.isoWeek.1 % 100) p
  | .quarter => Nat.repr m.date.quarter
  | .month => twoDigits m.date.month p
  | .day => twoDigits m.date.day p
  | .sundayWeek => twoDigits (m.date.weekFrom 6) p
  | .mondayWeek => twoDigits (m.date.weekFrom 0) p
  | .week => twoDigits m.date.isoWeek.2 p
  | .weekdayFromSunday => Nat.repr ((m.date.weekday + 1) % 7)
  | .weekdayFromMonday => Nat.repr (m.date.weekday + 1)
  | .dayOfYear => fill 3 p (Nat.repr m.date.dayOfYear)
  | .hour => twoDigits m.hour p
  | .halfHour => twoDigits m.halfHour p
  | .minute => twoDigits m.minute p
  | .second => twoDigits m.second p
  | .nanosecond => fill 9 p "0"
  | .epoch => fill 9 p (Nat.repr m.epoch)

/-- The written form of a part of a pattern. -/
def writeItem (m : Moment) : Item → String
  | .literal s => s
  | .number f p => writeField m p f
  | .shortMonth => short (monthName m.date.month)
  | .longMonth => monthName m.date.month
  | .shortWeekday => short (weekdayName m.date.weekday)
  | .longWeekday => weekdayName m.date.weekday
  | .lowerHalf => if m.hour < 12 then "am" else "pm"
  | .upperHalf => if m.hour < 12 then "AM" else "PM"
  | .stamp =>
    yearText m.date.year ++ "-" ++ twoDigits m.date.month .zero ++ "-" ++
      twoDigits m.date.day .zero ++ "T" ++ twoDigits m.hour .zero ++ ":" ++
      twoDigits m.minute .zero ++ ":" ++ twoDigits m.second .zero ++ "+00:00"

/-- The written form of a moment. -/
def write (pattern : Pattern) (m : Moment) : String :=
  String.join (pattern.map (writeItem m))

end Pattern

/-- What a date cell says about a count of seconds: a dash when it names no moment, and
nothing when the pattern cannot be read. -/
def dateText? (pattern : String) (seconds : Int64) : Option String :=
  match Moment.ofSeconds? seconds with
  | none => some "-"
  | some m => (Pattern.parse? pattern).map (·.write m)

end PagedReports.Calendar
