import BrokerRollout.Yaml.Cursor

/-!
# Blocks of text

A block is a run of lines that are indented by the same number of spaces. Its lines are kept as they
are, or folded: a single break between two lines that start with no blank is read as a blank. Marks
on the line before the block say what becomes of the breaks at its end, and may give the
indentation; otherwise that is the widest of the lines before the first one with text, and of that
line itself.
-/

namespace BrokerRollout.Yaml

/-- What becomes of the breaks at the end of a block: all are dropped, the first is kept, or all
are. -/
inductive Chomp where
  | strip
  | clip
  | keep

/-- The marks of a block. -/
structure BlockMarks where
  chomp : Chomp := .clip
  /-- By how much the block is indented, if that is given. -/
  indent : Option Nat := none

namespace Cursor

def chomp? : Char → Option Chomp
  | '-' => some .strip
  | '+' => some .keep
  | _ => none

/-- The marks after a block's first one, in either order. -/
def blockMarks (p : Cursor) : Option (BlockMarks × Cursor) :=
  match p.rest with
  | [] => some ({}, p)
  | c :: rest =>
    match chomp? c with
    | some chomp =>
      match rest with
      | d :: _ =>
        if d.isDigit then withIndent { chomp } d (p.skip 2) else some ({ chomp }, p.skip 1)
      | [] => some ({ chomp }, p.skip 1)
    | none =>
      if c.isDigit then
        match rest.head?.bind chomp? with
        | some chomp => withIndent { chomp } c (p.skip 2)
        | none => withIndent {} c (p.skip 1)
      else some ({}, p)
where
  withIndent (marks : BlockMarks) (digit : Char) (p : Cursor) : Option (BlockMarks × Cursor) :=
    if digit = '0' then none
    else some ({ marks with indent := some (digit.toNat - '0'.toNat) }, p)

/-- The breaks of empty lines, the first column of the line after them, and the widest column that
was reached by spaces. Without a known indentation, spaces are skipped however many there are. -/
def blockGap (indent : Option Nat) :
    Nat → List Char → Nat → Cursor → Option (List Char × Nat × Cursor)
  | 0, _, _, _ => none
  | bound + 1, read, widest, p =>
    let spaces := (p.rest.takeWhile (· = ' ')).length
    let p := p.skip (match indent with
      | none => spaces
      | some n => min spaces (n - p.column))
    let widest := max widest p.column
    if p.sees (· = '\t') && indent.all (p.column < ·) then none
    else
      match p.lineBreak? with
      | some (c, p) => blockGap indent bound (c :: read) widest p
      | none => some (read.reverse, widest, p)

/-- What lines before a line of a block add to its text: the break that ends the line before, and
those of the empty lines. -/
def joint (folded : Bool) (flush : Bool) (first later : List Char) : List Char :=
  if folded && flush && first = ['\n'] then if later.isEmpty then [' '] else later
  else first ++ later

/-- The lines of a block. `read` is the text so far, the last characters first, without the breaks
`first` and `later` after it; `flush` says that the line before starts with no blank. -/
def blockLines (folded : Bool) (indent : Nat) :
    Nat → List Char → Bool → List Char → List Char → Cursor →
      Option (List Char × List Char × List Char × Cursor)
  | 0, _, _, _, _, _ => none
  | bound + 1, read, flush, first, later, p =>
    if p.column ≠ indent || p.rest.isEmpty then some (read.reverse, first, later, p)
    else
      let flushHere := !p.sees isBlank
      let line := p.rest.takeWhile fun c => !isBreak c
      let read :=
        line.reverse ++ ((joint folded (flush && flushHere) first later).reverse ++ read)
      let p := p.skip line.length
      let (first, p) := match p.lineBreak? with
        | some (c, p) => ([c], p)
        | none => ([], p)
      match blockGap (some indent) (p.left + 1) [] 0 p with
      | none => none
      | some (later, _, p) => blockLines folded indent bound read flushHere first later p

/-- A block of text that starts with a mark here. `margin` is the least column of what belongs to
the collection around it. -/
def block (folded : Bool) (margin : Nat) (p : Cursor) : Option (String × Cursor) := do
  let (marks, p) ← (p.skip 1).blockMarks
  let p ← p.endLine?
  let given := marks.indent.map fun n => n + (margin - 1)
  let (empty, widest, p) ← blockGap given (p.left + 1) [] 0 p
  let indent := given.getD (max widest (max margin 1))
  let (text, first, later, p) ←
    blockLines folded indent (p.left + 1) [] true [] empty p
  let ending := match marks.chomp with
    | .strip => []
    | .clip => first
    | .keep => first ++ later
  return (String.ofList (text ++ ending), p)

end Cursor

end BrokerRollout.Yaml
