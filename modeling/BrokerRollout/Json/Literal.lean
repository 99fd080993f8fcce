import BrokerRollout.Json.Cursor
import BrokerRollout.Text.Digits
import BrokerRollout.Text.Utf8

/-!
# JSON values without parts

Words, strings and numbers. A number is an integer where it is written as one and fits into 64
bits; the digits of others count as far as they fit, and the rest only by their number.
-/

namespace BrokerRollout.Json.Reader

/-- The rest of a word. -/
def word : List Char → Reader Unit
  | [] => return ()
  | expected :: rest => do
    match ← next with
    | none => fail .endBeforeValue
    | some c => if c = expected then word rest else fail .wordExpected

/-! ### Strings -/

/-- The character after a backslash that stands for one other character. -/
def shortEscape? : Char → Option Char
  | '\x22' => some '\x22'
  | '\\' => some '\\'
  | '/' => some '/'
  | 'b' => some '\x08'
  | 'f' => some '\x0c'
  | 'n' => some '\n'
  | 'r' => some '\r'
  | 't' => some '\t'
  | _ => none

/-- The number of four hexadecimal digits. -/
def codeUnit : Reader Nat := do
  let digits := ((← get).rest.take 4).map Cursor.char
  modify (Cursor.skip 4)
  if digits.length < 4 then fail .endInString
  else
    match Text.hexNumber? digits with
    | some n => return n
    | none => fail .invalidEscape

def isHighSurrogate (unit : Nat) : Bool := 0xd800 ≤ unit && unit < 0xdc00

def isLowSurrogate (unit : Nat) : Bool := 0xdc00 ≤ unit && unit < 0xe000

/-- The second half of a surrogate pair, an escape of its own. -/
def secondHalf : Reader Nat := do
  match ← next with
  | none => fail .endInString
  | some '\\' =>
    match ← next with
    | none => fail .endInString
    | some 'u' =>
      let low ← codeUnit
      if isLowSurrogate low then return low else fail .loneSurrogate
    | some _ => fail .halfPair
  | some _ => fail .halfPair

/-- What an escape stands for; its backslash has been read. -/
def escaped : Reader Char := do
  match ← next with
  | none => fail .endInString
  | some 'u' =>
    let unit ← codeUnit
    if isLowSurrogate unit then fail .loneSurrogate
    else if isHighSurrogate unit then
      let low ← secondHalf
      return Char.ofNat (0x10000 + (unit - 0xd800) * 0x400 + (low - 0xdc00))
    else return Char.ofNat unit
  | some c =>
    match shortEscape? c with
    | some c => return c
    | none => fail .invalidEscape

/-- The rest of a string after its opening quote. `read` holds its bytes so far, the last one
first. -/
def stringRest : Nat → List UInt8 → Reader String
  | 0, _ => fail .endInString
  | bound + 1, read => do
    match ← next with
    | none => fail .endInString
    | some '\x22' =>
      match Text.ofUtf8 read.reverse with
      | .ok text => return text
      | .error _ => fail .invalidCodePoint
    | some '\\' =>
      let c ← escaped
      stringRest bound ((Text.utf8 (String.singleton c)).reverse ++ read)
    | some c =>
      if c.toNat < 0x20 then fail .controlCharacter
      else stringRest bound (c.toNat.toUInt8 :: read)

/-- The string that starts with the quote that comes next. -/
def string : Reader String := do
  step
  stringRest (← bound) []

/-! ### Numbers -/

/-- A significand of 64 bits with as many further digits as fit into it, and those that do not. -/
def absorb (significand : Nat) : List Char → Nat × List Char
  | [] => (significand, [])
  | d :: rest =>
    let n := significand * 10 + Text.decimalNumber [d]
    if UInt64.size ≤ n then (significand, d :: rest) else absorb n rest

/-- An integer of 64 bits; zero with a sign and what does not fit are real. -/
def integer (negative : Bool) (significand : Nat) : Number :=
  if negative then
    if significand = 0 ∨ -(significand : Int) < Int64.minValue.toInt then
      .real (.ofDecimal true significand 0)
    else .integer (-significand)
  else .integer significand

def real (negative : Bool) (significand : Nat) (power : Int) : Reader Number := do
  match Binary64.ofParts? significand power with
  | some x => return .real (if negative then x.negated else x)
  | none => fail .numberOutOfRange

/-- An exponent of which `power` has been read; nothing as soon as it does not fit into 32 bits. -/
def exponentRest : Nat → Nat → Reader (Option Nat)
  | 0, power => return power
  | bound + 1, power => do
    match ← peek with
    | none => return power
    | some c =>
      if c.isDigit then
        step
        let power := power * 10 + Text.decimalNumber [c]
        if Int32.maxValue.toInt < power then return none else exponentRest bound power
      else return power

/-- A number from the letter before its exponent on. -/
def scaled (negative : Bool) (significand : Nat) (power : Int) : Reader Number := do
  step
  let sign ← peek
  if sign = some '-' ∨ sign = some '+' then step
  match ← next with
  | none => fail .endBeforeValue
  | some c =>
    if c.isDigit then
      match ← exponentRest (← bound) (Text.decimalNumber [c]) with
      | some n => real negative significand (if sign = some '-' then power - n else power + n)
      | none =>
        if significand ≠ 0 ∧ sign ≠ some '-' then fail .numberOutOfRange
        else
          let _ ← digits
          real negative 0 0
    else fail .invalidNumber

/-- A number from its point on. -/
def withPlaces (negative : Bool) (significand : Nat) (power : Int) : Reader Number := do
  step
  let places ← digits
  match places, ← peek with
  | [], none => fail .endBeforeValue
  | [], some _ => failAhead .invalidNumber
  | places, after =>
    let (significand, left) := absorb significand places
    let power := power - (places.length - left.length : Nat)
    if after = some 'e' ∨ after = some 'E' then scaled negative significand power
    else real negative significand power

/-- A number after its sign. -/
def number (negative : Bool) : Reader Number := do
  match ← next with
  | none => fail .endBeforeValue
  | some first =>
    if !first.isDigit then fail .invalidNumber
    else if first = '0' ∧ (← peek).any Char.isDigit then failAhead .invalidNumber
    else
      let (significand, left) := absorb 0 (first :: (← digits))
      match ← peek with
      | some '.' => withPlaces negative significand left.length
      | some 'e' | some 'E' => scaled negative significand left.length
      | _ =>
        if left.isEmpty then return integer negative significand
        else real negative significand left.length

/-! ### All of them -/

/-- The value without parts that comes next; nothing if a list or an object does. -/
def literal? : Reader (Option Json) := do
  match ← peekSolid with
  | none => failAhead .endBeforeValue
  | some '[' | some '\x7b' => return none
  | some '\x22' => return some (.string (← string))
  | some 'n' => step; word ['u', 'l', 'l']; return some .null
  | some 't' => step; word ['r', 'u', 'e']; return some (.bool true)
  | some 'f' => step; word ['a', 'l', 's', 'e']; return some (.bool false)
  | some '-' => step; return some (.number (← number true))
  | some c =>
    if c.isDigit then return some (.number (← number false)) else failAhead .valueExpected

end BrokerRollout.Json.Reader
