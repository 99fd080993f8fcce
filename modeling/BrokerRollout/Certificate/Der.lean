/-!
# Tagged values in bytes

A value in bytes is a tag, a length and so many bytes of content. A length below 128 is one byte; a
longer one is a count of bytes and the length in these, which are as few as possible.
-/

namespace BrokerRollout.Certificate

/-- A tag and the bytes that it is for. -/
structure Der where
  tag : UInt8
  content : List UInt8
deriving DecidableEq

namespace Der

def sequence : UInt8 := 0x30

def integer : UInt8 := 0x02

def bitString : UInt8 := 0x03

def octetString : UInt8 := 0x04

def objectId : UInt8 := 0x06

def boolean : UInt8 := 0x01

/-- The tag of the part of some number that is given by that number alone. -/
def part (number : UInt8) : UInt8 := 0xa0 + number

/-- A number, the highest byte first. -/
def number (bytes : List UInt8) : Nat := bytes.foldl (fun n b => n * 256 + b.toNat) 0

/-- A length, and the bytes after it. -/
def length? : List UInt8 → Option (Nat × List UInt8)
  | [] => none
  | first :: rest =>
    let count := first.toNat - 0x80
    if first < 0x80 then some (first.toNat, rest)
    else if count = 0 || 4 < count || rest.length < count then none
    else
      let n := number (rest.take count)
      if n < max 128 (Nat.pow 256 (count - 1)) then none else some (n, rest.drop count)

/-- The value at the start of the bytes, and the bytes after it. -/
def value? : List UInt8 → Option (Der × List UInt8)
  | [] => none
  | tag :: rest =>
    match length? rest with
    | some (n, rest) =>
      if tag.toNat % 32 = 31 || rest.length < n then none
      else some ({ tag, content := rest.take n }, rest.drop n)
    | none => none

/-- The content of the value with a certain tag at the start of the bytes, and the bytes after
it. -/
def expect (tag : UInt8) (bytes : List UInt8) : Option (List UInt8 × List UInt8) :=
  match value? bytes with
  | some (v, rest) => if v.tag = tag then some (v.content, rest) else none
  | none => none

/-- The content of the value with a certain tag that the bytes are. -/
def only (tag : UInt8) (bytes : List UInt8) : Option (List UInt8) :=
  match expect tag bytes with
  | some (content, []) => some content
  | _ => none

/-- The contents of all values in the bytes, each of which has a certain tag. -/
def all (tag : UInt8) : Nat → List UInt8 → Option (List (List UInt8))
  | _, [] => some []
  | 0, _ => none
  | bound + 1, bytes =>
    match expect tag bytes with
    | some (content, rest) => (all tag bound rest).map (content :: ·)
    | none => none

end Der

end BrokerRollout.Certificate
