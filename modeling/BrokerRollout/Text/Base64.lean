/-!
# Base64

Three bytes are written as four characters of an alphabet of sixty-four. Where the last characters
stand for one or two bytes, equals signs fill them up to four, and the bits they do not need are
zero; so there is one way to write any bytes.
-/

namespace BrokerRollout.Text

/-- The six bits that a character stands for. -/
def sixBits? (c : Char) : Option Nat :=
  if c.isUpper then some (c.toNat - 'A'.toNat)
  else if c.isLower then some (c.toNat - 'a'.toNat + 26)
  else if c.isDigit then some (c.toNat - '0'.toNat + 52)
  else if c = '+' then some 62
  else if c = '/' then some 63
  else none

/-- The number that four characters stand for. -/
def fourSixths? (a b c d : Char) : Option Nat := do
  return (((← sixBits? a) * 64 + (← sixBits? b)) * 64 + (← sixBits? c)) * 64 + (← sixBits? d)

/-- The bytes that a text stands for. -/
def ofBase64? : List Char → Option (List UInt8)
  | [] => some []
  | [a, b, '=', '='] => do
    let n ← fourSixths? a b 'A' 'A'
    if n % 65536 = 0 then some [(n / 65536).toUInt8] else none
  | [a, b, c, '='] => do
    let n ← fourSixths? a b c 'A'
    if n % 256 = 0 then some [(n / 65536).toUInt8, (n / 256).toUInt8] else none
  | a :: b :: c :: d :: rest => do
    let n ← fourSixths? a b c d
    let later ← ofBase64? rest
    return (n / 65536).toUInt8 :: (n / 256).toUInt8 :: n.toUInt8 :: later
  | _ => none

end BrokerRollout.Text
