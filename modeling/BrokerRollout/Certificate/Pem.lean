import BrokerRollout.Text.Base64
import BrokerRollout.Text.Utf8

/-!
# Labelled blocks of bytes

A file of certificates and keys is a sequence of blocks in base64, each between a line that begins
it and one that ends it, which name what the block holds. A block may have headers, up to an empty
line. What stands between blocks does not matter.
-/

namespace BrokerRollout.Certificate

structure Pem where
  label : String
  content : List UInt8
deriving DecidableEq

namespace Pem

/-- The bytes before a mark and those after it. A mark that is begun in vain does not overlap with
one that is there. `left` is what is still missing of the mark; the last bytes come first in
`read`. -/
def splitMark (mark : List UInt8) (read left : List UInt8) :
    List UInt8 → Option (List UInt8 × List UInt8)
  | [] => none
  | b :: rest =>
    match left with
    | [last] =>
      if b = last then some ((read.drop (mark.length - 1)).reverse, rest)
      else splitMark mark (b :: read) mark rest
    | next :: left =>
      splitMark mark (b :: read) (if b = next then left else mark) rest
    | [] => none

/-- The bytes before a mark, and those after it. -/
def splitAt? (mark : String) (bytes : List UInt8) : Option (List UInt8 × List UInt8) :=
  let mark := Text.utf8 mark
  splitMark mark [] mark bytes

def isBlank (b : UInt8) : Bool := b = 0x20 || b = 0x09 || b = 0x0a || b = 0x0d

/-- A block before it is decoded. -/
structure Raw where
  opening : List UInt8
  body : List UInt8
  closing : List UInt8

/-- The next block, and what follows it. -/
def raw? (bytes : List UInt8) : Option (Raw × List UInt8) := do
  let (_, rest) ← splitAt? "-----BEGIN " bytes
  let (opening, rest) ← splitAt? "-----" rest
  let (body, rest) ← splitAt? "-----END " (rest.dropWhile isBlank)
  let (closing, rest) ← splitAt? "-----" rest
  return ({ opening, body, closing }, rest.dropWhile isBlank)

/-- All blocks that are complete. -/
def raws : Nat → List UInt8 → List Raw
  | 0, _ => []
  | bound + 1, bytes =>
    match raw? bytes with
    | some (block, rest) => block :: raws bound rest
    | none => []

def text? (bytes : List UInt8) : Option String := (Text.ofUtf8 bytes).toOption

/-- The headers of a body, and its data. -/
def headers (body : List UInt8) : List UInt8 × List UInt8 :=
  ((splitAt? "\n\n" body).or (splitAt? "\r\n\r\n" body)).getD ([], body)

/-- A line without blanks at its end. -/
def trimmed (line : String) : List Char :=
  (line.toList.reverse.dropWhile Char.isWhitespace).reverse

/-- The block that is written down as both its lines say. -/
def ofRaw? (block : Raw) : Option Pem := do
  let label ← text? block.opening
  let closing ← text? block.closing
  let (headers, data) := headers block.body
  let data ← text? data
  let headers ← text? headers
  let content ← Text.ofBase64? ((data.splitOn "\n").flatMap trimmed)
  let named := headers.isEmpty || (headers.splitOn "\n").all fun line => line.contains ':'
  if label.isEmpty || label ≠ closing || !named then none else some { label, content }

/-- The blocks of a file, if all of them are well-formed. -/
def ofBytes? (bytes : List UInt8) : Option (List Pem) :=
  (raws (bytes.length + 1) bytes).mapM ofRaw?

end Pem

end BrokerRollout.Certificate
