import RedisKeeper.Json.Reading
import RedisKeeper.Text.Blank

/-
Moments in UTC, as object metadata carries them.

A moment is read from a date and a time with its distance from UTC, in a lenient
form of RFC 3339: there may be white space between the parts, and zeros in front
of a number may be left out.  It is written in UTC to the second, so a moment
that was read with a fraction or another distance is written differently.
-/
namespace RedisKeeper

structure Timestamp where
  /-- The seconds since the start of 1970 in UTC. -/
  seconds : Int
  /-- Whether the moment lies in a leap second that follows this second. -/
  leap : Bool
deriving DecidableEq, Inhabited

namespace Timestamp

/-- The days from the start of 1970 to a date.  Years are counted from March, so
that a leap day comes last, and in cycles of 400 years of 146097 days. -/
def daysOfDate (year : Int) (month day : Nat) : Int :=
  let y := if month ≤ 2 then year - 1 else year
  let cycle := y.fdiv 400
  let yearOfCycle := (y - cycle * 400).toNat
  let monthFromMarch := (month + 9) % 12
  let dayOfYear := (153 * monthFromMarch + 2) / 5 + day - 1
  let dayOfCycle := yearOfCycle * 365 + yearOfCycle / 4 - yearOfCycle / 100 + dayOfYear
  cycle * 146097 + dayOfCycle - 719468

/-- Year, month and day of a count of days since the start of 1970. -/
def dateOfDays (days : Int) : Int × Nat × Nat :=
  let shifted := days + 719468
  let cycle := shifted.fdiv 146097
  let dayOfCycle := (shifted - cycle * 146097).toNat
  let yearOfCycle :=
    (dayOfCycle - dayOfCycle / 1460 + dayOfCycle / 36524 - dayOfCycle / 146096) / 365
  let dayOfYear := dayOfCycle - (365 * yearOfCycle + yearOfCycle / 4 - yearOfCycle / 100)
  let monthFromMarch := (5 * dayOfYear + 2) / 153
  let day := dayOfYear - (153 * monthFromMarch + 2) / 5 + 1
  let month := if monthFromMarch < 10 then monthFromMarch + 3 else monthFromMarch - 9
  let year : Int := yearOfCycle + cycle * 400
  (if month ≤ 2 then year + 1 else year, month, day)

def isLeapYear (year : Int) : Bool :=
  year % 4 = 0 && (year % 100 ≠ 0 || year % 400 = 0)

def daysInMonth (year : Int) (month : Nat) : Nat :=
  if month = 2 then (if isLeapYear year then 29 else 28)
  else if month = 4 ∨ month = 6 ∨ month = 9 ∨ month = 11 then 30
  else 31

/-- The years of the calendar that is kept. -/
def isKeptYear (year : Int) : Bool := -262143 ≤ year && year ≤ 262142

/-! ## Reading -/

/-- Why a text is not a moment. -/
inductive Misread where
  | tooShort
  | tooLong
  | invalid
  /-- A number is too large, or there is no such day. -/
  | outOfRange
  /-- The moment in UTC lies outside of the calendar. -/
  | impossible
deriving DecidableEq, Inhabited

def Misread.text : Misread → String
  | tooShort => "premature end of input"
  | tooLong => "trailing input"
  | invalid => "input contains invalid characters"
  | outOfRange => "input is out of range"
  | impossible => "no possible date and time matching input"

def skipBlank (s : List Char) : List Char := s.dropWhile Text.isBlank

/-- The digits at the start of a text, at least one and at most `width`. -/
def digitsUpTo (width : Nat) (s : List Char) : Except Misread (Nat × List Char) :=
  match (s.take width).takeWhile Char.isDigit, s with
  | [], [] => .error .tooShort
  | [], _ => .error .invalid
  | digits, s => .ok (Json.Reading.digitsValue digits, s.drop digits.length)

/-- A number of one or two digits in a range. -/
def shortNat (least greatest : Nat) (s : List Char) : Except Misread (Nat × List Char) := do
  let (n, rest) ← digitsUpTo 2 (skipBlank s)
  if least ≤ n ∧ n ≤ greatest then return (n, rest) else throw .outOfRange

/-- A year of up to four digits, or of any number of digits behind a sign. -/
def yearPart (s : List Char) : Except Misread (Int × List Char) := do
  let (year, rest) : Int × List Char ← match skipBlank s with
    | '-' :: rest => do
      let (n, rest) ← digitsUpTo rest.length rest
      pure (-n, rest)
    | '+' :: rest => do
      let (n, rest) ← digitsUpTo rest.length rest
      pure (n, rest)
    | s => do
      let (n, rest) ← digitsUpTo 4 s
      pure (n, rest)
  if -0x80000000 ≤ year ∧ year ≤ 0x7fffffff then return (year, rest) else throw .outOfRange

/-- The text behind a mark at its start. -/
def behind (mark : Char) (s : List Char) : Except Misread (List Char) :=
  match skipBlank s with
  | c :: rest => if c = mark then .ok rest else .error .invalid
  | [] => .error .tooShort

/-- The text behind what stands between a date and a time. -/
def behindDate : List Char → Except Misread (List Char)
  | c :: rest => if c = 'T' ∨ c = 't' ∨ c = ' ' then .ok rest else .error .invalid
  | [] => .error .tooShort

/-- The text behind a fraction of a second, if there is one. -/
def behindFraction (s : List Char) : Except Misread (List Char) :=
  match s with
  | '.' :: rest => do
    let (_, rest) ← digitsUpTo rest.length rest
    return rest
  | s => .ok s

/-- Two digits at the start of a text. -/
def twoDigits : List Char → Except Misread (Nat × List Char)
  | a :: b :: rest =>
    if a.isDigit && b.isDigit then .ok (Json.Reading.digitsValue [a, b], rest)
    else .error .invalid
  | [c] => if c.utf8Size = 1 then .error .tooShort else .error .invalid
  | [] => .error .tooShort

/-- A distance from UTC in seconds, given in hours and minutes. -/
def hoursAndMinutes (s : List Char) : Except Misread (Nat × List Char) := do
  let (hours, rest) ← twoDigits s
  let (minutes, rest) ← twoDigits (rest.dropWhile fun c => c = ':' || Text.isBlank c)
  if 59 < minutes then throw .outOfRange else return (hours * 3600 + minutes * 60, rest)

/-- The seconds by which a time is ahead of UTC. -/
def offsetPart (s : List Char) : Except Misread (Int × List Char) :=
  if (s.take 3).map Char.toUpper = ['U', 'T', 'C'] then .ok (0, s.drop 3)
  else
    match s with
    | [] => .error .tooShort
    | c :: rest =>
      if c = 'Z' ∨ c = 'z' then .ok (0, rest)
      else do
        if c ≠ '+' ∧ c ≠ '-' ∧ c ≠ '−' then throw .invalid
        let (seconds, rest) ← hoursAndMinutes rest
        return (if c = '+' then seconds else -seconds, rest)

/-- The moment of a date and a time of so many seconds, in a zone that is ahead of UTC. -/
def ofParts (year : Int) (month day seconds : Nat) (leap : Bool) (offset : Int) :
    Except Misread Timestamp := do
  if daysInMonth year month < day ∨ !isKeptYear year ∨ 86400 ≤ offset.natAbs then
    throw .outOfRange
  let seconds := daysOfDate year month day * 86400 + seconds - offset
  if isKeptYear (dateOfDays (seconds.fdiv 86400)).1 then return ⟨seconds, leap⟩
  else throw .impossible

def read (text : String) : Except Misread Timestamp := do
  let (year, rest) ← yearPart text.toList
  let (month, rest) ← shortNat 1 12 (← behind '-' rest)
  let (day, rest) ← shortNat 1 31 (← behind '-' rest)
  let (hour, rest) ← shortNat 0 23 (← behindDate rest)
  let (minute, rest) ← shortNat 0 59 (← behind ':' rest)
  let (second, rest) ← shortNat 0 60 (← behind ':' rest)
  let (offset, rest) ← offsetPart (skipBlank (← behindFraction rest))
  if !(skipBlank rest).isEmpty then throw .tooLong
  ofParts year month day (hour * 3600 + minute * 60 + min second 59) (second = 60) offset

/-! ## Writing -/

/-- A number with zeros in front up to a width. -/
def padded (width n : Nat) : List Char :=
  let digits := Nat.toDigits 10 n
  List.replicate (width - digits.length) '0' ++ digits

/-- A year, with a sign if it does not lie between 0 and 9999. -/
def yearText (year : Int) : List Char :=
  if year < 0 then '-' :: padded 4 year.natAbs
  else if year ≤ 9999 then padded 4 year.natAbs
  else '+' :: padded 4 year.natAbs

def text (t : Timestamp) : String :=
  let days := t.seconds.fdiv 86400
  let inDay := (t.seconds - days * 86400).toNat
  let (year, month, day) := dateOfDays days
  let second := inDay % 60 + (if t.leap then 1 else 0)
  String.ofList <|
    yearText year ++ '-' :: padded 2 month ++ '-' :: padded 2 day ++
    'T' :: padded 2 (inDay / 3600) ++ ':' :: padded 2 (inDay / 60 % 60) ++
    ':' :: padded 2 second ++ ['Z']

end Timestamp
end RedisKeeper
