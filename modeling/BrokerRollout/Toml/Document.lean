import BrokerRollout.Toml.Scalar

/-!
# TOML documents

A document is a sequence of lines: assignments, headers and blank ones. It is read line by line into
a draft of its table, and refused as soon as a line is no TOML or does not fit what came before.
-/

namespace BrokerRollout.Toml

/-- Arrays and inline tables may be nested less deep than this, and keys have fewer parts. -/
def depthLimit : Nat := 80

/-! ### Keys -/

def isBareKey (c : Char) : Bool :=
  c.isAlphanum || c = '_' || c = '-'

/-- One part of a key, with or without quotes. -/
def keyPart (cs : List Char) : Option (String × List Char) :=
  match cs with
  | '\x22' :: rest => basicRest (rest.length + 1) [] rest
  | '\x27' :: rest => literalRest [] rest
  | _ =>
    let part := cs.takeWhile isBareKey
    if part.isEmpty then none else some (String.ofList part, cs.dropWhile isBareKey)

/-- The parts of a key, with dots and blanks between them. -/
def keyParts (bound : Nat) (cs : List Char) : Option (List String × List Char) :=
  match bound with
  | 0 => none
  | bound + 1 =>
    match keyPart (skipBlank cs) with
    | none => none
    | some (part, rest) =>
      match skipBlank rest with
      | '.' :: rest => (keyParts bound rest).map fun (parts, rest) => (part :: parts, rest)
      | rest => some ([part], rest)

/-- A key: the tables it leads through and its last part. -/
def key (cs : List Char) : Option ((List String × String) × List Char) := do
  let (parts, rest) ← keyParts (cs.length + 1) cs
  let last ← parts.getLast?
  if parts.length < depthLimit then some ((parts.dropLast, last), rest) else none

/-! ### Values -/

/-- The rest after blanks, comments and line breaks. -/
def skipLines (bound : Nat) (cs : List Char) : List Char :=
  match bound with
  | 0 => cs
  | bound + 1 =>
    match newline? (skipComment (skipBlank cs)) with
    | some rest => skipLines bound rest
    | none => skipBlank cs

def skipAllLines (cs : List Char) : List Char := skipLines (cs.length + 1) cs

def word (text : String) (v : Value) (cs : List Char) : Option (Value × List Char) :=
  if text.toList.isPrefixOf cs then some (v, cs.drop text.length) else none

mutual

/-- A value inside `depth` arrays and inline tables. -/
def value (bound depth : Nat) (cs : List Char) : Option (Value × List Char) :=
  match bound with
  | 0 => none
  | bound + 1 =>
    match cs with
    | [] => none
    | c :: rest =>
      if c = '\x22' || c = '\x27' then (string cs).map fun (s, rest) => (.string s, rest)
      else if c = '[' then
        if depthLimit ≤ depth + 1 then none
        else (items bound (depth + 1) [] rest).map fun (vs, rest) => (.array vs, rest)
      else if c = '\x7b' then
        if depthLimit ≤ depth + 1 then none
        else
          match skipBlank rest with
          | '\x7d' :: rest => some (.table [], rest)
          | rest => (pairs bound (depth + 1) [] rest).map fun (d, rest) =>
            (.table (finishedEntries d), rest)
      else if c = 't' then word "true" (.boolean true) cs
      else if c = 'f' then word "false" (.boolean false) cs
      else if c = 'i' then word "inf" (.float (.infinity false)) cs
      else if c = 'n' then word "nan" (.float .nan) cs
      else if c = '+' || c = '-' || c.isDigit then numeric cs
      else none

/-- The items of an array up to its end; the last may be followed by a comma. -/
def items (bound depth : Nat) (read : List Value) (cs : List Char) :
    Option (List Value × List Char) :=
  match bound with
  | 0 => none
  | bound + 1 =>
    match skipAllLines cs with
    | ']' :: rest => some (read.reverse, rest)
    | cs =>
      match value bound depth cs with
      | none => none
      | some (v, rest) =>
        match skipAllLines rest with
        | ',' :: rest => items bound depth (v :: read) rest
        | ']' :: rest => some ((v :: read).reverse, rest)
        | _ => none

/-- The assignments of an inline table up to its end. -/
def pairs (bound depth : Nat) (draft : Draft) (cs : List Char) : Option (Draft × List Char) :=
  match bound with
  | 0 => none
  | bound + 1 =>
    match key cs with
    | some ((path, last), '=' :: rest) =>
      match value bound depth (skipBlank rest) with
      | none => none
      | some (v, rest) =>
        match draft.assign path last v with
        | none => none
        | some draft =>
          match skipBlank rest with
          | ',' :: rest => pairs bound depth draft rest
          | '\x7d' :: rest => some (draft, rest)
          | _ => none
    | _ => none

end

/-! ### Lines -/

/-- A document that is being read: its table so far, and the header that the next line is under. -/
structure Reading where
  draft : Draft := []
  header : List String := []

/-- A header, whose first bracket is read. -/
def header (r : Reading) (cs : List Char) : Option (Reading × List Char) :=
  match cs with
  | '[' :: rest => do
    let ((path, last), rest) ← key rest
    let rest ← expect ']' (← expect ']' rest)
    return ({ draft := ← r.draft.openArray path last, header := path ++ [last] },
      ← endOfLine? rest)
  | _ => do
    let ((path, last), rest) ← key cs
    let rest ← expect ']' rest
    return ({ draft := ← r.draft.openTable path last, header := path ++ [last] },
      ← endOfLine? rest)

/-- An assignment to a key of the table that the reading is in. -/
def assignment (r : Reading) (cs : List Char) : Option (Reading × List Char) := do
  let ((path, last), rest) ← key cs
  let rest ← expect '=' rest
  let (v, rest) ← value (rest.length + 1) 0 (skipBlank rest)
  return ({ r with draft := ← r.draft.assignIn r.header path last v }, ← endOfLine? rest)

/-- The lines of a document. -/
def lines (bound : Nat) (r : Reading) (cs : List Char) : Option Reading :=
  match bound with
  | 0 => none
  | bound + 1 =>
    match skipBlank cs with
    | [] => some r
    | '[' :: rest =>
      match header r rest with
      | some (r, rest) => lines bound r rest
      | none => none
    | c :: rest =>
      if c = '#' || c = '\n' || c = '\r' then
        match endOfLine? (c :: rest) with
        | some rest => lines bound r rest
        | none => none
      else
        match assignment r (c :: rest) with
        | some (r, rest) => lines bound r rest
        | none => none

/-- The table of a document, which may start with a byte order mark. -/
def parse? (text : String) : Option (List (String × Value)) :=
  let cs := match text.toList with
    | '\ufeff' :: rest => rest
    | cs => cs
  (lines (cs.length + 2) {} cs).map fun r => finishedEntries r.draft

end BrokerRollout.Toml
