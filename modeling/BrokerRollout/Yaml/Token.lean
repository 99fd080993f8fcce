import BrokerRollout.Yaml.Block
import BrokerRollout.Yaml.Inline
import BrokerRollout.Yaml.Mark

/-!
# YAML tokens

The tokens of a text are its scalars and marks, and the starts and ends of block collections, which
no mark of the text stands for: they follow from columns. A key may have no mark either; it is known
for a key only when its colon comes, so the place where it started is remembered, and its tokens are
put in there.
-/

namespace BrokerRollout.Yaml

inductive Token where
  | directive (d : Directive)
  | documentStart
  | documentEnd
  /-- A block collection starts, whose items have dashes. -/
  | blockList
  /-- A block collection starts, whose entries have keys. -/
  | blockTable
  | blockEnd
  | openBracket
  | closeBracket
  | openBrace
  | closeBrace
  | comma
  | dash
  | key
  | colon
  | alias (name : String)
  | anchor (name : String)
  | tag (name : TagName)
  | scalar (isPlain : Bool) (text : String)
deriving DecidableEq

/-- No document nests its collections deeper than this. -/
def maxDepth : Nat := 128

/-- A place where a key without a mark may have started. -/
structure KeyPlace where
  /-- The number of tokens before it. -/
  before : Nat
  index : Nat
  line : Nat
  column : Nat
  /-- Nothing but a key can stand there. -/
  required : Bool

/-- The state between two tokens. -/
structure Layout where
  /-- The tokens so far, the last one first. -/
  tokens : List Token := []
  /-- The number of tokens so far. -/
  count : Nat := 0
  /-- The columns of the open block collections, the innermost first. -/
  columns : List Nat := []
  /-- The place where a key may have started, for each open flow collection and for the block
  collection around them, the innermost first. -/
  places : List (Option KeyPlace) := [none]
  /-- A key without a mark may start here. -/
  keyAllowed : Bool := true

namespace Layout

def inFlow (s : Layout) : Bool := 1 < s.places.length

/-- The least column of what belongs to the innermost block collection. -/
def margin (s : Layout) : Nat :=
  match s.columns with
  | [] => 0
  | column :: _ => column + 1

def add (token : Token) (s : Layout) : Layout :=
  { s with tokens := token :: s.tokens, count := s.count + 1 }

/-- Puts in a token behind the first `before` tokens. -/
def insert (before : Nat) (token : Token) (s : Layout) : Layout :=
  let (later, earlier) := s.tokens.splitAt (s.count - before)
  { s with tokens := later ++ token :: earlier, count := s.count + 1 }

/-! ### Block collections -/

/-- Opens a block collection in a column that lies further to the right, behind the first `before`
tokens. -/
def openBlock (token : Token) (column before : Nat) (s : Layout) : Layout :=
  if !s.inFlow && s.margin ≤ column then
    { s.insert before token with columns := column :: s.columns }
  else s

/-- Closes the innermost block collections that do not `keep` their column. -/
def closeBlocks (keep : Nat → Bool) (s : Layout) : Layout :=
  if s.inFlow then s
  else
    let closed := (s.columns.takeWhile fun column => !keep column).length
    { s with
      tokens := List.replicate closed .blockEnd ++ s.tokens
      count := s.count + closed
      columns := s.columns.drop closed }

/-! ### Keys without marks -/

/-- No key has started here, unless one had to. -/
def forgetKey (s : Layout) : Option Layout :=
  match s.places with
  | some place :: rest => if place.required then none else some { s with places := none :: rest }
  | _ => some s

/-- Remembers that a key may start here. -/
def saveKey (p : Cursor) (s : Layout) : Option Layout := do
  if s.keyAllowed then
    let required := !s.inFlow && s.columns.head? = some p.column
    let place := { before := s.count, index := p.index, line := p.line, column := p.column,
                   required }
    let s ← s.forgetKey
    some { s with places := some place :: s.places.tail }
  else some s

/-- Forgets the keys that would reach over their line or be too long. -/
def dropStale (p : Cursor) (s : Layout) : Option Layout := do
  let places ← s.places.mapM fun
    | none => some none
    | some place =>
      if place.line < p.line || place.index + 1024 < p.index then
        if place.required then none else some none
      else some (some place)
  some { s with places }

/-! ### Tokens -/

/-- A token of one character. -/
def mark (token : Token) (keyAllowed : Bool) (p : Cursor) (s : Layout) : Layout × Cursor :=
  ({ s.add token with keyAllowed }, p.skip 1)

/-- A mark between documents, or a directive, ends all block collections. -/
def outermost (s : Layout) : Option Layout :=
  ((s.closeBlocks fun _ => false).forgetKey).map fun s => { s with keyAllowed := false }

def openFlow (token : Token) (p : Cursor) (s : Layout) : Option (Layout × Cursor) :=
  if maxDepth < s.places.length then none
  else (s.saveKey p).map fun s => ({ s with places := none :: s.places }.mark token true p)

def closeFlow (token : Token) (p : Cursor) (s : Layout) : Option (Layout × Cursor) :=
  s.forgetKey.map fun s =>
    (if s.inFlow then { s with places := s.places.tail } else s).mark token false p

def comma (p : Cursor) (s : Layout) : Option (Layout × Cursor) :=
  s.forgetKey.map (·.mark .comma true p)

/-- A dash; it opens a list in its column if there is none. -/
def dash (p : Cursor) (s : Layout) : Option (Layout × Cursor) :=
  if !s.inFlow && !s.keyAllowed then none
  else (s.openBlock .blockList p.column s.count).forgetKey.map (·.mark .dash true p)

/-- The mark of a key; it opens a table in its column if there is none. -/
def key (p : Cursor) (s : Layout) : Option (Layout × Cursor) :=
  if !s.inFlow && !s.keyAllowed then none
  else
    (s.openBlock .blockTable p.column s.count).forgetKey.map (·.mark .key (!s.inFlow) p)

/-- The colon after a key. If the key has no mark, it gets one where it started. -/
def colon (p : Cursor) (s : Layout) : Option (Layout × Cursor) :=
  match s.places with
  | some place :: rest =>
    let s := (s.insert place.before .key).openBlock .blockTable place.column place.before
    some ({ s with places := none :: rest }.mark .colon false p)
  | _ =>
    if !s.inFlow && !s.keyAllowed then none
    else some ((s.openBlock .blockTable p.column s.count).mark .colon (!s.inFlow) p)

/-- A token that may start a key, and after which none may start. -/
def word (s : Layout) (p : Cursor) (read : Option (Token × Cursor)) :
    Option (Layout × Cursor) := do
  let s ← s.saveKey p
  let (token, after) ← read
  some ({ s.add token with keyAllowed := false }, after)

/-- Plain text. After a break, a key may start again. -/
def plain (p : Cursor) (s : Layout) : Option (Layout × Cursor) := do
  let s ← s.saveKey p
  let (text, broken, after) ← p.plain s.inFlow s.margin
  some ({ s.add (.scalar true text) with keyAllowed := broken }, after)

/-- A block of text, after which a key may start. -/
def block (folded : Bool) (p : Cursor) (s : Layout) : Option (Layout × Cursor) := do
  let s ← s.forgetKey
  let (text, after) ← p.block folded s.margin
  some ({ s.add (.scalar false text) with keyAllowed := true }, after)

/-- The characters that plain text does not start with, except some of them before a word. -/
def isIndicator (c : Char) : Bool :=
  isFlowMark c
    || c ∈ ['-', '?', ':', '#', '&', '*', '!', '|', '>', '\x27', '\x22', '%', '@', '\x60']

/-- Whether plain text starts with a character that `rest` comes after. -/
def startsPlain (inFlow : Bool) (c : Char) (rest : List Char) : Bool :=
  !(isBlank c || isIndicator c) || (c = '-' && !rest.head?.any isBlank)
    || (!inFlow && (c = '?' || c = ':') && !startsGap rest)

/-- The token that starts with a character here, and `rest` after it. -/
def token (c : Char) (rest : List Char) (p : Cursor) (s : Layout) : Option (Layout × Cursor) :=
  if p.column = 0 && c = '%' then do
    let s ← s.outermost
    let (d, p) ← p.directive
    some (s.add (.directive d), p)
  else if p.atDocumentMark then
    s.outermost.map fun s =>
      (s.add (if c = '-' then .documentStart else .documentEnd), p.skip 3)
  else if c = '[' then s.openFlow .openBracket p
  else if c = '\x7b' then s.openFlow .openBrace p
  else if c = ']' then s.closeFlow .closeBracket p
  else if c = '\x7d' then s.closeFlow .closeBrace p
  else if c = ',' then s.comma p
  else if c = '-' && startsGap rest then s.dash p
  else if c = '?' && (s.inFlow || startsGap rest) then s.key p
  else if c = ':' && (s.inFlow || startsGap rest) then s.colon p
  else if c = '*' then s.word p (p.anchorName.map fun (name, p) => (.alias name, p))
  else if c = '&' then s.word p (p.anchorName.map fun (name, p) => (.anchor name, p))
  else if c = '!' then s.word p ((p.tag s.inFlow).map fun (name, p) => (.tag name, p))
  else if c = '|' && !s.inFlow then s.block false p
  else if c = '>' && !s.inFlow then s.block true p
  else if c = '\x22' || c = '\x27' then
    s.word p ((p.quoted c).map fun (text, p) => (.scalar false text, p))
  else if startsPlain s.inFlow c rest then s.plain p
  else none

/-- Skips blanks, comments and breaks up to the next token, and tells whether a key may start there.
Tabs do not indent; a line may start with a mark of byte order. -/
def skipGap (inFlow : Bool) : Nat → Bool → Cursor → Bool × Cursor
  | 0, keyAllowed, p => (keyAllowed, p)
  | bound + 1, keyAllowed, p =>
    let p := if p.column = 0 && p.sees (· = '\ufeff') then p.skip 1 else p
    let p := p.skipWhile fun c => c = ' ' || (c = '\t' && (inFlow || !keyAllowed))
    let p := p.skipComment
    match p.lineBreak? with
    | some (_, p) => skipGap inFlow bound (keyAllowed || !inFlow) p
    | none => (keyAllowed, p)

/-- The tokens up to the end of the text. -/
def run : Nat → Layout → Cursor → Option (List Token)
  | 0, _, _ => none
  | bound + 1, s, p =>
    let (keyAllowed, p) := skipGap s.inFlow (p.left + 1) s.keyAllowed p
    match { s with keyAllowed }.dropStale p with
    | none => none
    | some s =>
      let s := s.closeBlocks (· ≤ p.column)
      match p.rest with
      | [] => s.outermost.map fun s => s.tokens.reverse
      | c :: rest =>
        match s.token c rest p with
        | some (s, p) => run bound s p
        | none => none

end Layout

/-- The tokens of a text that has no forbidden characters and no misplaced marks. -/
def tokens? (text : String) : Option (List Token) :=
  let p := Cursor.ofText text
  if p.rest.all isAllowed then Layout.run (p.left + 1) {} p else none

end BrokerRollout.Yaml
