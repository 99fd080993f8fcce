import BrokerRollout.Json.Literal

/-!
# Passing over JSON values

A value that nobody asks for is passed over and not looked into: its strings may hold half
surrogate pairs or bytes that are no text, its numbers may have any size, and it may nest to any
depth.
-/

namespace BrokerRollout.Json.Reader

/-! ### Strings and numbers -/

/-- Passes over an escape whose backslash has been read. -/
def skipEscape : Reader Unit := do
  match ← next with
  | none => fail .endInString
  | some 'u' => let _ ← codeUnit
  | some c => if (shortEscape? c).isNone then fail .invalidEscape

/-- Passes over the rest of a string. -/
def skipStringRest : Nat → Reader Unit
  | 0 => fail .endInString
  | bound + 1 => do
    match ← peek with
    | none => fail .endInString
    | some '\x22' => step
    | some '\\' => step; skipEscape; skipStringRest bound
    | some c =>
      if c.toNat < 0x20 then fail .controlCharacter
      else
        step
        skipStringRest bound

def skipString : Reader Unit := do
  step
  skipStringRest (← bound)

/-- Passes over an exponent, if one comes next. -/
def skipExponent : Reader Unit := do
  let mark ← peek
  if mark = some 'e' ∨ mark = some 'E' then
    step
    let sign ← peek
    if sign = some '+' ∨ sign = some '-' then step
    if (← next).any Char.isDigit then
      let _ ← digits
    else fail .invalidNumber

/-- Passes over a number after its sign. -/
def skipNumber : Reader Unit := do
  let first ← next
  if !first.any Char.isDigit then fail .invalidNumber
  if first = some '0' then
    if (← peek).any Char.isDigit then failAhead .invalidNumber
  else
    let _ ← digits
  if (← peek) = some '.' then
    step
    if (← digits).isEmpty then failAhead .invalidNumber
  skipExponent

/-! ### Values -/

/-- Passes over a key and the colon after it. -/
def skipKey : Reader Unit := do
  match ← peekSolid with
  | none => failAhead .endInObject
  | some '\x22' =>
    skipString
    match ← peekSolid with
    | none => failAhead .endInObject
    | some ':' => step
    | some _ => failAhead .colonExpected
  | some _ => failAhead .keyNotString

/-- A collection that has been opened and not yet closed. -/
inductive Open where
  | list
  | object
deriving DecidableEq

def Open.closing : Open → Char
  | .list => ']'
  | .object => '\x7d'

def Open.cutShort : Open → Reason
  | .list => .endInList
  | .object => .endInObject

def Open.endExpected : Open → Reason
  | .list => .commaOrBracketExpected
  | .object => .commaOrBraceExpected

/-- Passes over the key of an item, if it needs one. -/
def skipItemKey : Open → Reader Unit
  | .list => return ()
  | .object => skipKey

/-- Where a value is being passed over. -/
inductive Stop where
  /-- Before an item. -/
  | item
  /-- Behind the bracket or brace that opens a collection. -/
  | opened
  /-- Behind an item. -/
  | after
deriving DecidableEq

/-- Passes over what is left of a value inside some open collections, the innermost first. -/
def skipRest : Nat → Stop → List Open → Reader Unit
  | 0, _, _ => fail .endBeforeValue
  | bound + 1, .item, around => do
    match ← peekSolid with
    | some '[' => step; skipRest bound .opened (.list :: around)
    | some '\x7b' => step; skipRest bound .opened (.object :: around)
    | some '\x22' => skipString; skipRest bound .after around
    | some '-' => step; skipNumber; skipRest bound .after around
    | some c =>
      if c.isDigit then skipNumber
      else
        let _ ← literal?
      skipRest bound .after around
    | none => failAhead .endBeforeValue
  | _ + 1, _, [] => return ()
  | bound + 1, stop, innermost :: around => do
    match ← peekSolid with
    | none => failAhead innermost.cutShort
    | some c =>
      if c = innermost.closing then
        step
        skipRest bound .after around
      else if stop = .opened then
        skipItemKey innermost
        skipRest bound .item (innermost :: around)
      else if c = ',' then
        step
        skipItemKey innermost
        skipRest bound .item (innermost :: around)
      else failAhead innermost.endExpected

/-- Passes over a value. -/
def skipValue : Reader Unit := do
  -- every byte takes at most two steps
  skipRest (2 * (← bound)) .item []

end BrokerRollout.Json.Reader
