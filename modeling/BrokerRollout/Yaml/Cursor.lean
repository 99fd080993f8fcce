/-!
# Places in a YAML text

A cursor stands between two characters. It knows the characters after it and its place: how many
characters are before it, in which line it is and in which column. Layout is a matter of columns,
and a key without a mark must not reach over its line.
-/

namespace BrokerRollout.Yaml

/-! ### Characters -/

def isBlank (c : Char) : Bool := c = ' ' || c = '\t'

/-- The characters that end a line; a carriage return and a line feed end one together. -/
def isBreak (c : Char) : Bool :=
  c = '\n' || c = '\r' || c = '\x85' || c = '\u2028' || c = '\u2029'

/-- The characters of anchors, handles and directives. -/
def isWordChar (c : Char) : Bool := c.isAlphanum || c = '-' || c = '_'

/-- Brackets, braces and commas, which give flow collections their structure. -/
def isFlowMark (c : Char) : Bool := c ∈ [',', '[', ']', '\x7b', '\x7d']

/-- Whether a text may have the character at all, even in a comment. -/
def isAllowed (c : Char) : Bool :=
  c = '\t' || c = '\n' || c = '\r' || c = '\x85' || (' ' ≤ c && c ≤ '~')
    || ('\xa0' ≤ c && c ≤ '\ufffd') || 0x10000 ≤ c.toNat

/-- Whether a word ends here: the text is over, or goes on with a blank or a break. -/
def startsGap : List Char → Bool
  | [] => true
  | c :: _ => isBlank c || isBreak c

/-! ### Cursors -/

structure Cursor where
  rest : List Char
  /-- The length of the text. -/
  size : Nat
  index : Nat := 0
  line : Nat := 0
  column : Nat := 0

namespace Cursor

def ofText (text : String) : Cursor where
  rest := text.toList
  size := text.length

/-- The number of characters after the cursor, which bounds the steps to the end of the text. -/
def left (p : Cursor) : Nat := p.size - p.index

/-- Whether the next character is one of a kind. -/
def sees (kind : Char → Bool) (p : Cursor) : Bool := p.rest.head?.any kind

/-- Behind `n` further characters of the line. -/
def skip (n : Nat) (p : Cursor) : Cursor :=
  { p with rest := p.rest.drop n, index := p.index + n, column := p.column + n }

/-- Behind the characters of a kind that come next, none of them a break. -/
def skipWhile (kind : Char → Bool) (p : Cursor) : Cursor :=
  p.skip (p.rest.takeWhile kind).length

/-- Behind a comment, if one starts here. -/
def skipComment (p : Cursor) : Cursor :=
  if p.sees (· = '#') then p.skipWhile fun c => !isBreak c else p

/-- The break that comes next, as the character it is read as, and the start of the next line. -/
def lineBreak? (p : Cursor) : Option (Char × Cursor) :=
  match p.rest with
  | '\r' :: '\n' :: rest => some ('\n', next 2 rest)
  | c :: rest =>
    if c = '\u2028' || c = '\u2029' then some (c, next 1 rest)
    else if isBreak c then some ('\n', next 1 rest)
    else none
  | [] => none
where
  next (length : Nat) (rest : List Char) : Cursor :=
    { rest, size := p.size, index := p.index + length, line := p.line + 1, column := 0 }

/-- The start of the next line, if nothing but blanks and a comment is left of this one. -/
def endLine? (p : Cursor) : Option Cursor :=
  let p := (p.skipWhile isBlank).skipComment
  match p.lineBreak? with
  | some (_, next) => some next
  | none => if p.rest.isEmpty then some p else none

/-- Whether the line starts with a mark between documents, as a word. -/
def atDocumentMark (p : Cursor) : Bool :=
  p.column = 0 && (['-', '-', '-'].isPrefixOf p.rest || ['.', '.', '.'].isPrefixOf p.rest)
    && startsGap (p.rest.drop 3)

end Cursor

end BrokerRollout.Yaml
