import BrokerRollout.Http
import BrokerRollout.Http.Uri
import BrokerRollout.Text.Digits

/-!
# Targets of requests

A request goes to a path with a query behind it. The two are one text on the way, so a path that
holds a question mark or a number sign is cut there: what follows the question mark belongs to the
query, and what follows the number sign, the query included, is dropped.
-/

namespace BrokerRollout.Http

/-! ### Forms -/

namespace Form

/-- The bytes that stand for themselves in the text of a form. -/
def isPlain (b : UInt8) : Bool :=
  (0x30 ≤ b && b ≤ 0x39) || (0x41 ≤ b && b ≤ 0x5a) || (0x61 ≤ b && b ≤ 0x7a)
    || b ∈ [0x2a, 0x2d, 0x2e, 0x5f]

/-- The length of a text inside a form: a blank takes one byte, and others that do not stand for
themselves take three. -/
def encodedSize (text : String) : Nat :=
  ((Text.utf8 text).map fun b => if isPlain b || b = 0x20 then 1 else 3).foldr (· + ·) 0

/-- The length of the pairs of a form, each with the mark before it. -/
def size (pairs : List (String × String)) : Nat :=
  (pairs.map fun (name, value) => encodedSize name + encodedSize value + 2).foldr (· + ·) 0

/-- The bytes that a part of a form stands for. -/
def decodeBytes : List UInt8 → List UInt8
  | [] => []
  | [b] => [plain b]
  | [b, c] => [plain b, plain c]
  | b :: c :: d :: rest =>
    match b, Text.hexNumber? [Char.ofNat c.toNat, Char.ofNat d.toNat] with
    | 0x25, some n => n.toUInt8 :: decodeBytes rest
    | _, _ => plain b :: decodeBytes (c :: d :: rest)
where
  plain (b : UInt8) : UInt8 := if b = 0x2b then 0x20 else b

def decode (part : List Char) : String :=
  Text.lossy (decodeBytes (Text.utf8 (String.ofList part)))

/-- The name and the value in a part of a form. -/
def pair (part : List Char) : String × String :=
  let name := part.takeWhile (· ≠ '=')
  (decode name, decode (part.drop (name.length + 1)))

/-- The pairs of a form. -/
def pairs (form : List Char) : List (String × String) :=
  (((String.ofList form).splitOn "&").filter (· ≠ "")).map fun part => pair part.toList

end Form

/-! ### Requests -/

/-- Why there is no request for a target. -/
inductive TargetFault where
  | tooLong
  | invalidChar
deriving DecidableEq

def TargetFault.message : TargetFault → String
  | .tooLong => "uri too long"
  | .invalidChar => "invalid uri character"

/-- The request to a place, with a query unless there is to be none, not even an empty one. -/
def Request.to? (method : Method) (place : String) (query : Option (List (String × String)))
    (body : Option Json) : Except TargetFault Request :=
  let querySize := match query with
    | some pairs => Form.size pairs + 1
    | none => 0
  if Uri.maxLength < place.utf8ByteSize + querySize then .error .tooLong
  else
    let path := place.toList.takeWhile fun c => !(c = '?' || c = '#')
    if !path.all Uri.isPathChar then .error .invalidChar
    else
      let request (query : List (String × String)) : Request :=
        { method, path := String.ofList path, query, body }
      match place.toList.drop path.length with
      | [] => .ok (request (query.getD []))
      | mark :: rest =>
        let form := rest.takeWhile (· ≠ '#')
        if mark = '#' then .ok (request [])
        else if !form.all Uri.isQueryChar then .error .invalidChar
        else if form.length < rest.length then .ok (request (Form.pairs form))
        else
          match query with
          | none => .ok (request (Form.pairs form))
          | some pairs => .ok (request (Form.pairs (form ++ ['?']) ++ pairs))

end BrokerRollout.Http
