import BrokerRollout.Text.Digits
import BrokerRollout.Text.Space

/-!
# Time stamps

A time stamp is a date, a time and an offset from universal time, such as
`2024-02-29T12:00:00.5+01:00`. White space may come before each part, and a blank may stand in for
the `T`.
-/

namespace BrokerRollout.Kube.Timestamp

/-- What is wrong with a time stamp. -/
inductive Fault where
  | tooShort
  | tooLong
  | invalid
  | outOfRange
  /-- Its moment lies beyond all days of universal time. -/
  | impossible
deriving DecidableEq

def Fault.message : Fault → String
  | .tooShort => "premature end of input"
  | .tooLong => "trailing input"
  | .invalid => "input contains invalid characters"
  | .outOfRange => "input is out of range"
  | .impossible => "no possible date and time matching input"

/-- Something that reads on from a place in a time stamp. -/
abbrev Reader := StateT (List Char) (Except Fault)

/-! ### Parts -/

def skipSpace : Reader Unit := modify (List.dropWhile Text.isSpace)

/-- A number of at most `width` digits. -/
def number (width : Nat) : Reader Nat := do
  let cs ← get
  let digits := (cs.take width).takeWhile Char.isDigit
  if cs.isEmpty then throw .tooShort
  else if digits.isEmpty then throw .invalid
  else
    set (cs.drop digits.length)
    let n := Text.decimalNumber digits
    if Int64.maxValue.toInt < n then throw .outOfRange else return n

/-- A number of one or two digits in a range. -/
def part (low high : Nat) : Reader Nat := do
  skipSpace
  let n ← number 2
  if low ≤ n ∧ n ≤ high then return n else throw .outOfRange

/-- A mark between two parts. -/
def mark (c : Char) : Reader Unit := do
  skipSpace
  match ← get with
  | [] => throw .tooShort
  | d :: rest => if d = c then set rest else throw .invalid

/-- A year of at most four digits, or of any number of digits after a sign. -/
def signedYear : Reader Int := do
  skipSpace
  match ← get with
  | '-' :: rest =>
    set rest
    return -(← number rest.length : Nat)
  | '+' :: rest =>
    set rest
    number rest.length
  | _ => number 4

/-- A year of 32 bits. -/
def year : Reader Int := do
  let n ← signedYear
  if Int32.minValue.toInt ≤ n ∧ n ≤ Int32.maxValue.toInt then return n else throw .outOfRange

/-- Two digits, as part of an offset. -/
def pair : Reader Nat := do
  let cs ← get
  if (String.ofList cs).utf8ByteSize < 2 then throw .tooShort
  else
    match cs with
    | a :: b :: rest =>
      if a.isDigit && b.isDigit then
        set rest
        return Text.decimalNumber [a, b]
      else throw .invalid
    | _ => throw .invalid

/-- A sign, and whether it is a minus. -/
def sign : Reader Bool := do
  match ← get with
  | [] => throw .tooShort
  | c :: rest =>
    if c ∈ ['+', '-', '\u2212'] then
      set rest
      return c ≠ '+'
    else throw .invalid

/-- The seconds of an offset: hours and minutes after a sign. -/
def offset : Reader Int := do
  let negative ← sign
  let hours ← pair
  modify (List.dropWhile fun c => c = ':' || Text.isSpace c)
  let minutes ← pair
  if 59 < minutes then throw .outOfRange
  else
    let seconds : Int := hours * 3600 + minutes * 60
    return if negative then -seconds else seconds

/-- The seconds of an offset, which `Z` and `UTC` say to be none. -/
def zone : Reader Int := do
  match ← get with
  | 'Z' :: rest | 'z' :: rest => set rest; return 0
  | cs =>
    if (cs.take 3).map Char.toLower = ['u', 't', 'c'] then
      set (cs.drop 3)
      return 0
    else offset

/-- The part of a second after a point, if there is one. -/
def skipFraction : Reader Unit := do
  if let '.' :: rest := ← get then
    set rest
    let _ ← number 9
    modify (List.dropWhile Char.isDigit)

/-! ### Whole time stamps -/

/-- A time stamp as it is written; a minute may have a second of number 60. -/
structure Written where
  year : Int
  month : Nat
  day : Nat
  hour : Nat
  minute : Nat
  second : Nat
  /-- Seconds ahead of universal time. -/
  offset : Int

/-- The mark between the date and the time. -/
def skipSeparator : Reader Unit := do
  match ← get with
  | [] => throw .tooShort
  | c :: rest => if c ∈ ['T', 't', ' '] then set rest else throw .invalid

def written : Reader Written := do
  let year ← year
  mark '-'
  let month ← part 1 12
  mark '-'
  let day ← part 1 31
  skipSeparator
  let hour ← part 0 23
  mark ':'
  let minute ← part 0 59
  mark ':'
  let second ← part 0 60
  skipFraction
  skipSpace
  let offset ← zone
  skipSpace
  if (← get).isEmpty then return { year, month, day, hour, minute, second, offset }
  else throw .tooLong

def isLeapYear (year : Int) : Bool :=
  year % 4 = 0 && (year % 100 ≠ 0 || year % 400 = 0)

def daysOf (year : Int) (month : Nat) : Nat :=
  if month = 2 then if isLeapYear year then 29 else 28
  else if month ∈ [4, 6, 9, 11] then 30
  else 31

/-- The years that there are. -/
def firstYear : Int := -262143

def lastYear : Int := 262142

/-- Seconds in a day. -/
def perDay : Int := 86400

/-- What is wrong with the date, the offset or the moment that they make. -/
def Written.fault? (w : Written) : Option Fault :=
  let seconds : Int := w.hour * 3600 + w.minute * 60 + min w.second 59
  let universal := seconds - w.offset
  if w.year < firstYear ∨ lastYear < w.year ∨ daysOf w.year w.month < w.day then some .outOfRange
  else if w.offset ≤ -perDay ∨ perDay ≤ w.offset then some .outOfRange
  else if universal < 0 ∧ w.year = firstYear ∧ w.month = 1 ∧ w.day = 1 then some .impossible
  else if perDay ≤ universal ∧ w.year = lastYear ∧ w.month = 12 ∧ w.day = 31 then
    some .impossible
  else none

/-- The days from 1970 to a day; a year is counted from March, so that a leap day is its last. -/
def dayNumber (year : Int) (month day : Nat) : Int :=
  let year := if month ≤ 2 then year - 1 else year
  let month := (month + 9) % 12
  365 * year + year / 4 - year / 100 + year / 400 + ((153 * month + 2) / 5 + day - 1 : Nat) - 719468

/-- The moment of a time stamp in seconds since 1970, without the part of a second. -/
def Written.moment (w : Written) : Int :=
  dayNumber w.year w.month w.day * perDay + w.hour * 3600 + w.minute * 60 + min w.second 59
    - w.offset

/-- The time stamp that a text is. -/
def parse (text : String) : Except Fault Written :=
  match written.run text.toList with
  | .error fault => .error fault
  | .ok (w, _) =>
    match w.fault? with
    | some fault => .error fault
    | none => .ok w

/-- What is wrong with a text as a time stamp. -/
def fault? (text : String) : Option Fault :=
  match parse text with
  | .error fault => some fault
  | .ok _ => none

end BrokerRollout.Kube.Timestamp
