import BrokerRollout.Text.Digits
import BrokerRollout.Yaml.Cursor

/-!
# Plain and quoted text

Text may go on over several lines, plainly or between quotes. A single break between two words is
read as a blank, and of several breaks the first one is dropped. Plain text ends where structure
begins: at a key's colon, a comment, a document mark, a mark of the flow collection around it, or a
line that is indented too little.
-/

namespace BrokerRollout.Yaml

/-! ### Gaps between words -/

/-- What stands between two words: blanks of one line, or breaks with only blanks among them. The
first of the breaks may be missing, if it was escaped. -/
inductive Gap where
  | blanks (text : List Char)
  | breaks (first : Option Char) (later : List Char)

namespace Gap

def isBroken : Gap → Bool
  | blanks _ => false
  | breaks _ _ => true

/-- What the gap is read as. -/
def text : Gap → List Char
  | blanks text => text
  | breaks none later => later
  | breaks (some '\n') [] => [' ']
  | breaks (some '\n') later => later
  | breaks (some first) later => first :: later

end Gap

namespace Cursor

/-- The breaks of empty lines, up to the first character of a line that is not empty. To the left of
`margin`, lines are indented by spaces alone. -/
def emptyLines (margin : Nat) : Nat → List Char → Cursor → Option (List Char × Cursor)
  | 0, _, _ => none
  | bound + 1, read, p =>
    let p := p.skipWhile (· = ' ')
    if p.sees (· = '\t') && p.column < margin then none
    else
      let p := p.skipWhile isBlank
      match p.lineBreak? with
      | some (c, p) => emptyLines margin bound (c :: read) p
      | none => some (read.reverse, p)

/-- The rest of a gap after its first break. -/
def brokenGap (margin : Nat) (first : Option Char) (p : Cursor) : Option (Gap × Cursor) :=
  match emptyLines margin (p.left + 1) [] p with
  | some (later, p) => some (.breaks first later, p)
  | none => none

/-- The gap that starts here. -/
def gap (margin : Nat) (p : Cursor) : Option (Gap × Cursor) :=
  let blanks := p.rest.takeWhile isBlank
  let p := p.skip blanks.length
  match p.lineBreak? with
  | none => some (.blanks blanks, p)
  | some (first, p) => brokenGap margin (some first) p

/-! ### Plain text -/

/-- How many characters a word of plain text has. In a flow collection, no colon stands directly in
front of a mark. -/
def plainWord (inFlow : Bool) (count : Nat) : List Char → Option Nat
  | [] => some count
  | c :: rest =>
    if isBlank c || isBreak c then some count
    else if inFlow && c = ':' && rest.head?.any (fun d => d = '?' || isFlowMark d) then none
    else if (c = ':' && startsGap rest) || (inFlow && isFlowMark c) then some count
    else plainWord inFlow (count + 1) rest

/-- The words of plain text after `before`; the last characters come first in `read`. Tells whether
a line was broken at the end, too. -/
def plainWords (inFlow : Bool) (margin : Nat) :
    Nat → List Char → Gap → Cursor → Option (String × Bool × Cursor)
  | 0, _, _, _ => none
  | bound + 1, read, before, p =>
    let done := some (String.ofList read.reverse, before.isBroken, p)
    if p.atDocumentMark || p.sees (· = '#') then done
    else
      match plainWord inFlow 0 p.rest with
      | none => none
      | some 0 => done
      | some count =>
        let read := (p.rest.take count).reverse ++ (before.text.reverse ++ read)
        let p := p.skip count
        if p.sees fun c => isBlank c || isBreak c then
          match p.gap margin with
          | none => none
          | some (after, p) =>
            if !inFlow && p.column < margin then
              some (String.ofList read.reverse, after.isBroken, p)
            else plainWords inFlow margin bound read after p
        else some (String.ofList read.reverse, false, p)

/-- Plain text, and whether lines were broken after it. -/
def plain (inFlow : Bool) (margin : Nat) (p : Cursor) : Option (String × Bool × Cursor) :=
  plainWords inFlow margin (p.left + 1) [] (.blanks []) p

/-! ### Quoted text -/

/-- The characters that a letter stands for after a backslash. -/
def shortEscapes : List (Char × Char) := [
  ('0', '\x00'), ('a', '\x07'), ('b', '\x08'), ('t', '\t'), ('\t', '\t'), ('n', '\n'),
  ('v', '\x0b'), ('f', '\x0c'), ('r', '\r'), ('e', '\x1b'), (' ', ' '), ('\x22', '\x22'),
  ('/', '/'), ('\\', '\\'), ('N', '\x85'), ('_', '\xa0'), ('L', '\u2028'), ('P', '\u2029')]

/-- The character of an escape, and how many characters the escape has after its backslash. -/
def escape? : List Char → Option (Char × Nat)
  | 'x' :: rest => code 2 rest
  | 'u' :: rest => code 4 rest
  | 'U' :: rest => code 8 rest
  | c :: _ => (shortEscapes.lookup c).map (·, 1)
  | [] => none
where
  code (length : Nat) (rest : List Char) : Option (Char × Nat) :=
    let digits := rest.take length
    match Text.hexNumber? digits with
    | some n =>
      if digits.length = length && n.isValidChar then some (Char.ofNat n, length + 1) else none
    | none => none

/-- The rest of a text after its opening quote. A single quote is written twice inside single
quotes; a backslash escapes a character or a break inside double quotes. -/
def quotedRest (quote : Char) : Nat → List Char → Cursor → Option (String × Cursor)
  | 0, _, _ => none
  | bound + 1, read, p =>
    match p.rest with
    | [] => none
    | c :: rest =>
      if isBlank c || isBreak c then
        match p.gap 0 with
        | some (gap, p) =>
          if p.atDocumentMark then none
          else quotedRest quote bound (gap.text.reverse ++ read) p
        | none => none
      else if quote = '\x27' && c = '\x27' && rest.head? = some '\x27' then
        quotedRest quote bound (c :: read) (p.skip 2)
      else if c = quote then some (String.ofList read.reverse, p.skip 1)
      else if quote = '\x22' && c = '\\' then
        match (p.skip 1).lineBreak? with
        | some (_, p) =>
          match brokenGap 0 none p with
          | some (gap, p) =>
            if p.atDocumentMark then none
            else quotedRest quote bound (gap.text.reverse ++ read) p
          | none => none
        | none =>
          match escape? rest with
          | some (e, length) => quotedRest quote bound (e :: read) (p.skip (1 + length))
          | none => none
      else quotedRest quote bound (c :: read) (p.skip 1)

/-- The text between the quote here and the one that closes it. -/
def quoted (quote : Char) (p : Cursor) : Option (String × Cursor) :=
  quotedRest quote p.left [] (p.skip 1)

end Cursor

end BrokerRollout.Yaml
