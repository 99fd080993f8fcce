import BrokerRollout.Text.Digits
import BrokerRollout.Text.Utf8
import BrokerRollout.Yaml.Cursor

/-!
# Anchors, tags and directives

A node may carry a name for later reference and a tag for its type. A tag is written in full between
angle brackets, or as a handle and a suffix; directives in front of a document say what its handles
stand for and which version of the language it is written in. Octets of a tag may be written in
hexadecimal after a percent sign, so that a tag is a sequence of bytes, up to the first zero.
-/

namespace BrokerRollout.Yaml

/-- A tag as written. Without a handle it is complete. -/
structure TagName where
  handle : String
  suffix : List UInt8
deriving DecidableEq

inductive Directive where
  | version (major minor : Nat)
  /-- What a handle stands for. -/
  | handle (name : String) (stem : List UInt8)
deriving DecidableEq

namespace Cursor

/-- The name of an anchor or alias after its sign. -/
def anchorName (p : Cursor) : Option (String × Cursor) :=
  let p := p.skip 1
  let name := p.rest.takeWhile isWordChar
  let p := p.skip name.length
  let ends := startsGap p.rest || p.sees (· ∈ ['?', ':', ',', ']', '\x7d', '%', '@', '\x60'])
  if name.isEmpty || !ends then none else some (String.ofList name, p)

/-! ### Tags -/

/-- The octet after a percent sign. -/
def octet (p : Cursor) : Option (UInt8 × Cursor) :=
  match p.rest with
  | '%' :: a :: b :: _ => (Text.hexNumber? [a, b]).map fun n => (n.toUInt8, p.skip 3)
  | _ => none

/-- Octets that continue a character. -/
def laterOctets : Nat → Cursor → Option (List UInt8 × Cursor)
  | 0, p => some ([], p)
  | count + 1, p =>
    match p.octet with
    | some (b, p) =>
      if b.toNat / 64 = 2 then
        (laterOctets count p).map fun (later, p) => (b :: later, p)
      else none
    | none => none

/-- How many octets follow the first one of a character. -/
def octetsAfter? (first : UInt8) : Option Nat :=
  if first < 0x80 then some 0
  else if 0xc0 ≤ first && first < 0xe0 then some 1
  else if 0xe0 ≤ first && first < 0xf0 then some 2
  else if 0xf0 ≤ first && first < 0xf8 then some 3
  else none

/-- The octets of one character. -/
def octets (p : Cursor) : Option (List UInt8 × Cursor) :=
  match p.octet with
  | none => none
  | some (first, p) =>
    match octetsAfter? first with
    | none => none
    | some count => (laterOctets count p).map fun (later, p) => (first :: later, p)

/-- The characters of a tag. Marks of flow collections are left to tags in angle brackets and to
directives. -/
def isTagChar (full : Bool) (c : Char) : Bool :=
  isWordChar c
    || c ∈ [';', '/', '?', ':', '@', '&', '=', '+', '$', '.', '%', '!', '~', '*', '\x27', '(', ')']
    || (full && c ∈ [',', '[', ']'])

/-- The bytes of a tag; the last ones come first in `read`. -/
def tagBytes (full : Bool) : Nat → List UInt8 → Cursor → Option (List UInt8 × Cursor)
  | 0, _, _ => none
  | bound + 1, read, p =>
    match p.rest with
    | '%' :: _ =>
      match p.octets with
      | some (bytes, p) => tagBytes full bound (bytes.reverse ++ read) p
      | none => none
    | c :: _ =>
      if isTagChar full c then tagBytes full bound (c.toNat.toUInt8 :: read) (p.skip 1)
      else some (read.reverse.takeWhile (· ≠ 0), p)
    | [] => some (read.reverse.takeWhile (· ≠ 0), p)

/-- A tag's text, which is not empty. -/
def tagText (full : Bool) (p : Cursor) : Option (List UInt8 × Cursor) :=
  if p.sees (isTagChar full) then tagBytes full (p.left + 1) [] p else none

/-- What stands between exclamation marks at the start of a tag, and whether the second one is
there. -/
def handleName (p : Cursor) : List Char × Bool :=
  let name := (p.rest.drop 1).takeWhile isWordChar
  (name, (p.rest.drop (1 + name.length)).head? = some '!')

/-- A tag that ends where the text goes on after a gap, or after a comma in a flow collection. -/
def tag (inFlow : Bool) (p : Cursor) : Option (TagName × Cursor) := do
  let (name, p) ← if p.rest.drop 1 |>.head? |>.any (· = '<') then full else short
  if startsGap p.rest || (inFlow && p.sees (· = ',')) then some (name, p) else none
where
  full : Option (TagName × Cursor) := do
    let (suffix, p) ← (p.skip 2).tagText true
    if p.sees (· = '>') then some ({ handle := "", suffix }, p.skip 1) else none
  short : Option (TagName × Cursor) :=
    match p.handleName with
    | (name, true) =>
      ((p.skip (name.length + 2)).tagText false).map fun (suffix, p) =>
        ({ handle := String.ofList ('!' :: name ++ ['!']), suffix }, p)
    | (_, false) =>
      let p := p.skip 1
      (p.tagBytes false (p.left + 1) []).map fun (suffix, p) =>
        if suffix.isEmpty then ({ handle := "", suffix := Text.utf8 "!" }, p)
        else ({ handle := "!", suffix }, p)

/-! ### Directives -/

/-- A number of a version, of at most nine digits. -/
def versionNumber (p : Cursor) : Option (Nat × Cursor) :=
  let digits := p.rest.takeWhile Char.isDigit
  if digits.isEmpty || 9 < digits.length then none
  else some (Text.decimalNumber digits, p.skip digits.length)

def versionDirective (p : Cursor) : Option (Directive × Cursor) := do
  let (major, p) ← (p.skipWhile isBlank).versionNumber
  if p.sees (· = '.') then
    let (minor, p) ← (p.skip 1).versionNumber
    some (.version major minor, p)
  else none

def handleDirective (p : Cursor) : Option (Directive × Cursor) := do
  let p := p.skipWhile isBlank
  if !p.sees (· = '!') then none
  let (name, closed) := p.handleName
  if !closed && !name.isEmpty then none
  let handle := if closed then '!' :: name ++ ['!'] else ['!']
  let p := p.skip handle.length
  if !p.sees isBlank then none
  let (stem, p) ← (p.skipWhile isBlank).tagText true
  if startsGap p.rest then some (.handle (String.ofList handle) stem, p) else none

/-- The directive after a percent sign, with the rest of its line. -/
def directive (p : Cursor) : Option (Directive × Cursor) := do
  let p := p.skip 1
  let name := p.rest.takeWhile isWordChar
  let p := p.skip name.length
  if !startsGap p.rest then none
  let (d, p) ←
    if name = ['Y', 'A', 'M', 'L'] then p.versionDirective
    else if name = ['T', 'A', 'G'] then p.handleDirective
    else none
  some (d, ← p.endLine?)

end Cursor

end BrokerRollout.Yaml
