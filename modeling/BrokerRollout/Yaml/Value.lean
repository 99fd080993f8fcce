import BrokerRollout.Binary64
import BrokerRollout.Text.Digits
import BrokerRollout.Text.Utf8

/-!
# YAML values

A value is a scalar, a list or a table, and may be marked by a tag of the document's own. Plain text
may stand for nothing, for a truth value or for a number; all other text stands for itself. A tag of
the common kind says what a scalar has to be. Tables may have any values as keys, but no two keys
that are the same.
-/

namespace BrokerRollout.Yaml

inductive Value where
  | null
  | boolean (value : Bool)
  | integer (value : Int)
  | real (value : Binary64)
  | string (text : String)
  | list (items : List Value)
  | table (entries : List (Value × Value))
  | tagged (tag : String) (value : Value)

namespace Value

/-! ### Sameness -/

/-- Real numbers of one value; those that are no numbers are the same, too. -/
def sameReal : Binary64 → Binary64 → Bool
  | .finite _ 0 _, .finite _ 0 _ => true
  | x, y => x = y

mutual

/-- Values that cannot be told apart as keys: the order of a table's entries does not count. -/
def same : Value → Value → Bool
  | null, null => true
  | boolean a, boolean b => a = b
  | integer m, integer n => m = n
  | real x, real y => sameReal x y
  | string s, string t => s = t
  | list xs, list ys => sameItems xs ys
  | table xs, table ys => xs.length = ys.length && sameEntries xs ys
  | tagged s x, tagged t y => s = t && same x y
  | _, _ => false

def sameItems : List Value → List Value → Bool
  | [], [] => true
  | x :: xs, y :: ys => same x y && sameItems xs ys
  | _, _ => false

/-- Whether all of the first entries are among the second ones. -/
def sameEntries : List (Value × Value) → List (Value × Value) → Bool
  | [], _ => true
  | (key, value) :: rest, ys =>
    ys.any (fun y => same key y.1 && same value y.2) && sameEntries rest ys

end

/-! ### What plain text stands for -/

/-- The text without a sign at its start, and whether that sign is a minus. -/
def signed : List Char → Bool × List Char
  | '-' :: rest => (true, rest)
  | '+' :: rest => (false, rest)
  | text => (false, text)

/-- Zeros in front of other digits are no number. -/
def hasLeadingZero (text : List Char) : Bool :=
  match (signed text).2 with
  | '0' :: rest => !rest.isEmpty && rest.all Char.isDigit
  | _ => false

/-- The number that digits of some base stand for, if there are any. -/
def digits? (base : Nat) (text : List Char) : Option Nat :=
  if text.isEmpty then none
  else
    text.foldlM (fun n c =>
      (Text.hexDigit? c).bind fun d => if d < base then some (n * base + d) else none) 0

/-- The number without a sign, in base ten, sixteen, eight or two. -/
def natural? : List Char → Option Nat
  | '0' :: 'x' :: rest => digits? 16 rest
  | '0' :: 'o' :: rest => digits? 8 rest
  | '0' :: 'b' :: rest => digits? 2 rest
  | text => digits? 10 text

/-- The whole number that a text stands for. -/
def whole? (text : List Char) : Option Int :=
  if hasLeadingZero text then none
  else
    let (negative, rest) := signed text
    (natural? rest).map fun n => if negative then -n else n

/-- Whether a number fits into so many bits, with a sign if it is negative. -/
def fits (bits : Nat) (n : Int) : Bool :=
  if 0 ≤ n then n < Nat.pow 2 bits else -(Nat.pow 2 (bits - 1) : Int) ≤ n

/-- A whole number as a value. One of more than 64 bits is refused, unless it has more than 128:
then it is no whole number, for which there is `otherwise`. -/
def ofWhole (n : Option Int) (otherwise : Option Value) : Option Value :=
  match n with
  | none => otherwise
  | some n =>
    if fits 64 n then some (integer n) else if fits 128 n then none else otherwise

/-- The exponent after `e`, or zero if there is none. -/
def exponent? : List Char → Option Int
  | [] => some 0
  | e :: rest =>
    let (negative, digits) := signed rest
    if (e = 'e' || e = 'E') && !digits.isEmpty && digits.all Char.isDigit then
      let n : Int := Text.decimalNumber digits
      some (if negative then -n else n)
    else none

/-- The real number that a text stands for, if it is not too large. -/
def real? (text : List Char) : Option Binary64 :=
  let (negative, rest) := signed text
  if rest ∈ [".inf", ".Inf", ".INF"].map String.toList then some (.infinity negative)
  else if text ∈ [".nan", ".NaN", ".NAN"].map String.toList then some .nan
  else
    let before := rest.takeWhile Char.isDigit
    let rest := rest.dropWhile Char.isDigit
    let (places, rest) := match rest with
      | '.' :: rest => (rest.takeWhile Char.isDigit, rest.dropWhile Char.isDigit)
      | rest => ([], rest)
    if (before ++ places).isEmpty then none
    else
      match exponent? rest with
      | none => none
      | some power =>
        let digits := Text.decimalNumber (before ++ places)
        match Binary64.ofDecimal negative digits (power - places.length) with
        | .infinity _ => none
        | x => some x

def isNullWord (text : String) : Bool := text ∈ ["~", "null", "Null", "NULL"]

def boolean? (text : String) : Option Bool :=
  if text ∈ ["true", "True", "TRUE"] then some true
  else if text ∈ ["false", "False", "FALSE"] then some false
  else none

/-- The value that plain text stands for. -/
def ofPlain (text : String) : Option Value :=
  let cs := text.toList
  let other := if hasLeadingZero cs then none else real? cs
  if text.isEmpty || isNullWord text then some null
  else
    match boolean? text with
    | some b => some (boolean b)
    | none => ofWhole (whole? cs) (some ((other.map real).getD (string text)))

/-! ### Tags -/

/-- The name of a tag of the document's own. -/
def ownTag? (tag : List UInt8) : Option String :=
  match tag with
  | 0x21 :: rest =>
    match Text.ofUtf8 (if rest.isEmpty then tag else rest) with
    | .error _ => none
    | .ok name =>
      if 1 < name.length && name.startsWith "!" then some (name.drop 1).copy else some name
  | _ => none

def commonTag (name : String) : List UInt8 := Text.utf8 ("tag:yaml.org,2002:" ++ name)

/-- The value of a scalar. -/
def ofScalar (tag : Option (List UInt8)) (isPlain : Bool) (text : String) : Option Value :=
  let untagged := if isPlain then ofPlain text else some (string text)
  match tag with
  | none => untagged
  | some tag =>
    match ownTag? tag with
    | some name => untagged.map (tagged name)
    | none =>
      if tag = commonTag "bool" then (boolean? text).map boolean
      else if tag = commonTag "int" then ofWhole (whole? text.toList) none
      else if tag = commonTag "float" then (real? text.toList).map real
      else if tag = commonTag "null" then if isNullWord text then some null else none
      else if tag.head? = some 0x21 then untagged
      else some (string text)

/-- A collection under its tag, if that is the document's own. -/
def ofCollection (tag : Option (List UInt8)) (v : Value) : Value :=
  match tag.bind ownTag? with
  | some name => tagged name v
  | none => v

end Value

end BrokerRollout.Yaml
