import BrokerRollout.Text.Digits
import BrokerRollout.Toml.Draft

/-!
# TOML scalars

Strings in their four forms, integers, floating point numbers, dates and times. Each reader takes
the characters at hand and gives back what it read with the characters after it.
-/

namespace BrokerRollout.Toml

/-! ### Blanks and lines -/

def isBlank (c : Char) : Bool := c = ' ' || c = '\t'

def skipBlank (cs : List Char) : List Char := cs.dropWhile isBlank

/-- The rest after a line break, if there is one. -/
def newline? : List Char → Option (List Char)
  | '\n' :: rest => some rest
  | '\r' :: '\n' :: rest => some rest
  | _ => none

/-- Characters that stand for themselves in comments and strings. -/
def isPlain (c : Char) : Bool := c = '\t' || (0x20 ≤ c.toNat && c.toNat ≠ 0x7f)

/-- The rest after a comment, if there is one; the line break still follows. -/
def skipComment : List Char → List Char
  | '#' :: rest => rest.dropWhile isPlain
  | rest => rest

/-- The rest after blanks, a comment, and the line break or end of the document. -/
def endOfLine? (cs : List Char) : Option (List Char) :=
  match skipComment (skipBlank cs) with
  | [] => some []
  | rest => newline? rest

/-! ### Strings -/

/-- The character of a number in hexadecimal digits. -/
def escapedNumber? (digits : List Char) : Option Char := do
  let n ← Text.hexNumber? digits
  if n.isValidChar then some (Char.ofNat n) else none

/-- The character after a backslash, with the characters after it. -/
def escaped : List Char → Option (Char × List Char)
  | 'b' :: rest => some ('\x08', rest)
  | 't' :: rest => some ('\t', rest)
  | 'n' :: rest => some ('\n', rest)
  | 'f' :: rest => some ('\x0c', rest)
  | 'r' :: rest => some ('\r', rest)
  | '\x22' :: rest => some ('\x22', rest)
  | '\\' :: rest => some ('\\', rest)
  | 'u' :: a :: b :: c :: d :: rest => (escapedNumber? [a, b, c, d]).map (·, rest)
  | 'U' :: a :: b :: c :: d :: e :: f :: g :: h :: rest =>
    (escapedNumber? [a, b, c, d, e, f, g, h]).map (·, rest)
  | _ => none

/-- The rest of a string on one line; `read` holds its characters so far, the last first. -/
def basicRest (bound : Nat) (read : List Char) (cs : List Char) : Option (String × List Char) :=
  match bound with
  | 0 => none
  | bound + 1 =>
    match cs with
    | '\x22' :: rest => some (String.ofList read.reverse, rest)
    | '\\' :: rest =>
      match escaped rest with
      | some (c, rest) => basicRest bound (c :: read) rest
      | none => none
    | c :: rest => if isPlain c then basicRest bound (c :: read) rest else none
    | [] => none

/-- The rest of a string that is taken literally. -/
def literalRest (read : List Char) : List Char → Option (String × List Char)
  | '\x27' :: rest => some (String.ofList read.reverse, rest)
  | c :: rest => if isPlain c then literalRest (c :: read) rest else none
  | [] => none

/-- The rest after a line break that a backslash hides, with all blanks and line breaks after
it. -/
def hiddenBreak? (cs : List Char) : Option (List Char) :=
  match newline? (skipBlank cs) with
  | some rest => some (blankLines (rest.length + 1) rest)
  | none => none
where
  blankLines : Nat → List Char → List Char
    | 0, cs => cs
    | bound + 1, cs =>
      match newline? (skipBlank cs) with
      | some rest => blankLines bound rest
      | none => skipBlank cs

/-- The rest of a string of several lines between triple quotes. Up to two quotes may stand inside
it, also right before its end. -/
def linesRest (quote : Char) (bound : Nat) (read cs : List Char) :
    Option (String × List Char) :=
  match bound with
  | 0 => none
  | bound + 1 =>
    match cs with
    | [] => none
    | c :: rest =>
      if c = quote then
        let quotes := (c :: rest).takeWhile (· = quote)
        let after := (c :: rest).dropWhile (· = quote)
        if quotes.length < 3 then linesRest quote bound (quotes ++ read) after
        else if quotes.length ≤ 5 then
          some (String.ofList ((quotes.drop 3) ++ read).reverse, after)
        else none
      else if c = '\\' && quote = '\x22' then
        match hiddenBreak? rest with
        | some rest => linesRest quote bound read rest
        | none =>
          match escaped rest with
          | some (e, rest) => linesRest quote bound (e :: read) rest
          | none => none
      else
        match newline? (c :: rest) with
        | some rest => linesRest quote bound ('\n' :: read) rest
        | none => if isPlain c then linesRest quote bound (c :: read) rest else none

/-- The rest after a first line break, which does not belong to a string of several lines. -/
def afterFirstBreak (cs : List Char) : List Char := (newline? cs).getD cs

/-- A string in one of its four forms. -/
def string (cs : List Char) : Option (String × List Char) :=
  match cs with
  | '\x22' :: '\x22' :: '\x22' :: rest =>
    linesRest '\x22' (rest.length + 1) [] (afterFirstBreak rest)
  | '\x27' :: '\x27' :: '\x27' :: rest =>
    linesRest '\x27' (rest.length + 1) [] (afterFirstBreak rest)
  | '\x22' :: rest => basicRest (rest.length + 1) [] rest
  | '\x27' :: rest => literalRest [] rest
  | _ => none

/-! ### Numbers -/

/-- Digits with single underscores between them; `digit` says which characters are digits. -/
def digits (digit : Char → Bool) (cs : List Char) : Option (List Char × List Char) :=
  match cs with
  | c :: rest => if digit c then go [c] rest else none
  | [] => none
where
  go (read : List Char) : List Char → Option (List Char × List Char)
    | '_' :: d :: rest => if digit d then go (d :: read) rest else none
    | d :: rest =>
      if digit d then go (d :: read) rest
      else if d = '_' then none
      else some (read.reverse, d :: rest)
    | [] => some (read.reverse, [])

/-- The digits of a whole number, which start with zero only if that is all. -/
def wholeDigits : List Char → Option (List Char × List Char)
  | '0' :: rest => some (['0'], rest)
  | cs => digits Char.isDigit cs

/-- An optional sign. -/
def sign : List Char → Bool × List Char
  | '-' :: rest => (true, rest)
  | '+' :: rest => (false, rest)
  | rest => (false, rest)

def integerInRange? (n : Int) : Option Value :=
  if Int64.minValue.toInt ≤ n ∧ n ≤ Int64.maxValue.toInt then some (.integer n) else none

def isHexDigit (c : Char) : Bool := (Text.hexDigit? c).isSome

def isOctalDigit (c : Char) : Bool := '0' ≤ c && c ≤ '7'

def isBinaryDigit (c : Char) : Bool := c = '0' || c = '1'

/-- The number that digits of a base stand for. -/
def numberIn (base : Nat) (digits : List Char) : Nat :=
  digits.foldl (fun n c => n * base + (Text.hexDigit? c).getD 0) 0

/-- An integer in another base than ten. -/
def basedInteger (base : Nat) (digit : Char → Bool) (cs : List Char) :
    Option (Value × List Char) := do
  let (ds, rest) ← digits digit cs
  return (← integerInRange? (numberIn base ds), rest)

/-- The exponent of a floating point number. -/
def exponent (cs : List Char) : Option (Int × List Char) := do
  let (negative, rest) := sign cs
  let (ds, rest) ← digits Char.isDigit rest
  let n : Int := numberIn 10 ds
  return (if negative then -n else n, rest)

/-- A value out of range is an error above, and an infinity below. -/
def floatInRange? : Binary64 → Option Value
  | .infinity false => none
  | x => some (.float x)

/-- A number in base ten. -/
def decimal (cs : List Char) : Option (Value × List Char) := do
  let (negative, rest) := sign cs
  let (whole, rest) ← wholeDigits rest
  match rest with
  | '.' :: rest =>
    let (places, rest) ← digits Char.isDigit rest
    let (power, rest) ← match rest with
      | e :: after => if e = 'e' || e = 'E' then exponent after else some (0, e :: after)
      | [] => some (0, [])
    let x := Binary64.ofDecimal negative (numberIn 10 (whole ++ places)) (power - places.length)
    return (← floatInRange? x, rest)
  | e :: after =>
    if e = 'e' || e = 'E' then
      let (power, rest) ← exponent after
      return (← floatInRange? (.ofDecimal negative (numberIn 10 whole) power), rest)
    else
      let n : Int := numberIn 10 whole
      return (← integerInRange? (if negative then -n else n), rest)
  | [] =>
    let n : Int := numberIn 10 whole
    return (← integerInRange? (if negative then -n else n), [])

/-- A number, an infinity or no number. -/
def number (cs : List Char) : Option (Value × List Char) :=
  match cs with
  | '0' :: 'x' :: rest => basedInteger 16 isHexDigit rest
  | '0' :: 'o' :: rest => basedInteger 8 isOctalDigit rest
  | '0' :: 'b' :: rest => basedInteger 2 isBinaryDigit rest
  | _ =>
    let (negative, rest) := sign cs
    match rest with
    | 'i' :: 'n' :: 'f' :: rest => some (.float (.infinity negative), rest)
    | 'n' :: 'a' :: 'n' :: rest => some (.float .nan, rest)
    | _ => decimal cs

/-! ### Dates and times -/

/-- A number of exactly `count` digits, at most `limit`. -/
def fixed (count low limit : Nat) (cs : List Char) : Option (Nat × List Char) :=
  let ds := cs.take count
  let n := Text.decimalNumber ds
  if ds.length = count && ds.all Char.isDigit && low ≤ n && n ≤ limit then
    some (n, cs.drop count)
  else none

/-- A character that has to be there. -/
def expect (c : Char) : List Char → Option (List Char)
  | d :: rest => if c = d then some rest else none
  | [] => none

def isLeapYear (year : Nat) : Bool :=
  year % 4 = 0 && (year % 100 ≠ 0 || year % 400 = 0)

def daysInMonth (year month : Nat) : Nat :=
  if month = 2 then if isLeapYear year then 29 else 28
  else if month = 4 || month = 6 || month = 9 || month = 11 then 30
  else 31

/-- The rest after a date. -/
def date? (cs : List Char) : Option (List Char) := do
  let (year, rest) ← fixed 4 0 9999 cs
  let (month, rest) ← fixed 2 1 12 (← expect '-' rest)
  let (_, rest) ← fixed 2 1 (daysInMonth year month) (← expect '-' rest)
  return rest

/-- The rest after a time of day, which may have a fraction of a second. -/
def time? (cs : List Char) : Option (List Char) := do
  let (_, rest) ← fixed 2 0 23 cs
  let (_, rest) ← fixed 2 0 59 (← expect ':' rest)
  let (_, rest) ← fixed 2 0 60 (← expect ':' rest)
  match rest with
  | '.' :: d :: after =>
    if d.isDigit then some (after.dropWhile Char.isDigit) else some ('.' :: d :: after)
  | rest => some rest

/-- The rest after an offset from universal time, if there is one. -/
def skipOffset (cs : List Char) : Option (List Char) :=
  match cs with
  | c :: rest =>
    if c = 'Z' || c = 'z' then some rest
    else if c = '+' || c = '-' then do
      let (_, rest) ← fixed 2 0 23 rest
      let (_, rest) ← fixed 2 0 59 (← expect ':' rest)
      return rest
    else some (c :: rest)
  | [] => some []

/-- The rest after a date, with or without a time of day. -/
def dateTime? (cs : List Char) : Option (List Char) := do
  let rest ← date? cs
  match rest with
  | c :: after =>
    if c = 'T' || c = 't' then skipOffset (← time? after)
    else if c = ' ' && (after.head?.map Char.isDigit).getD false then
      skipOffset (← time? after)
    else some rest
  | [] => some []

/-- Whether the characters start like a date. -/
def startsDate (cs : List Char) : Bool :=
  (fixed 4 0 9999 cs).isSome && (cs.drop 4).head? = some '-'

/-- Whether the characters start like a time of day. -/
def startsTime (cs : List Char) : Bool :=
  (fixed 2 0 99 cs).isSome && (cs.drop 2).head? = some ':'

/-- A date, a time or a number. -/
def numeric (cs : List Char) : Option (Value × List Char) :=
  let moment (rest : List Char) : Value × List Char :=
    (.moment (String.ofList (cs.take (cs.length - rest.length))), rest)
  if startsDate cs then (dateTime? cs).map moment
  else if startsTime cs then (time? cs).map moment
  else number cs

end BrokerRollout.Toml
