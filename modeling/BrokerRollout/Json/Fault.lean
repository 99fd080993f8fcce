import BrokerRollout.Json

/-!
# Faults of JSON documents

A document is at fault where its text is no JSON, or where its value is not of the shape that is
wanted. A fault has a place: a line, counted from one, and a column, which is the number of bytes
of that line up to the place.
-/

namespace BrokerRollout.Json

/-- Why a document is refused. -/
inductive Reason where
  /-- The text ends inside a list, an object, a string or before a value. -/
  | endInList
  | endInObject
  | endInString
  | endBeforeValue
  | colonExpected
  | commaOrBracketExpected
  | commaOrBraceExpected
  /-- One of the words `null`, `true` and `false` is spelled wrong. -/
  | wordExpected
  | valueExpected
  | invalidEscape
  | invalidNumber
  | numberOutOfRange
  | invalidCodePoint
  | controlCharacter
  | keyNotString
  | loneSurrogate
  /-- The second half of a surrogate pair does not follow. -/
  | halfPair
  | trailingComma
  | trailingCharacters
  | tooDeep
  /-- A value of another type than the one that is wanted. -/
  | unfit (found expected : String)
  /-- A value of the right type that is not wanted all the same. -/
  | unwanted (found expected : String)
  | unknownWord (word : String) (known : List String)
  | repeatedField (name : String)
  | missingField (name : String)
  /-- A string that does not pass a check of its own. -/
  | unsound (text : String)
deriving DecidableEq

/-- A word between grave accents. -/
def marked (word : String) : String := "\x60" ++ word ++ "\x60"

def Reason.message : Reason → String
  | .endInList => "EOF while parsing a list"
  | .endInObject => "EOF while parsing an object"
  | .endInString => "EOF while parsing a string"
  | .endBeforeValue => "EOF while parsing a value"
  | .colonExpected => "expected " ++ marked ":"
  | .commaOrBracketExpected => "expected " ++ marked "," ++ " or " ++ marked "]"
  | .commaOrBraceExpected => "expected " ++ marked "," ++ " or " ++ marked "\x7d"
  | .wordExpected => "expected ident"
  | .valueExpected => "expected value"
  | .invalidEscape => "invalid escape"
  | .invalidNumber => "invalid number"
  | .numberOutOfRange => "number out of range"
  | .invalidCodePoint => "invalid unicode code point"
  | .controlCharacter =>
    "control character (\\u0000-\\u001F) found while parsing a string"
  | .keyNotString => "key must be a string"
  | .loneSurrogate => "lone leading surrogate in hex escape"
  | .halfPair => "unexpected end of hex escape"
  | .trailingComma => "trailing comma"
  | .trailingCharacters => "trailing characters"
  | .tooDeep => "recursion limit exceeded"
  | .unfit found expected => "invalid type: " ++ found ++ ", expected " ++ expected
  | .unwanted found expected => "invalid value: " ++ found ++ ", expected " ++ expected
  | .unknownWord word known =>
    "unknown variant " ++ marked word ++ ", expected " ++ " or ".intercalate (known.map marked)
  | .repeatedField name => "duplicate field " ++ marked name
  | .missingField name => "missing field " ++ marked name
  | .unsound text => text

/-- A reason to refuse a document, and the place of it. -/
structure Fault where
  reason : Reason
  line : Nat
  column : Nat
deriving DecidableEq

def Fault.message (f : Fault) : String :=
  s!"{f.reason.message} at line {f.line} column {f.column}"

end BrokerRollout.Json
