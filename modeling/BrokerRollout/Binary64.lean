/-!
# Binary floating point of 64 bits

A finite value is a mantissa times a power of two. A decimal number is read as the value nearest to
it, the even mantissa on a tie, and a value is shown with the fewest decimal digits that read back
as the same value. All of it is exact arithmetic on natural numbers.
-/

namespace BrokerRollout

/-- A binary floating point value: `mantissa * 2 ^ exponent` with a sign, an infinity or no
number. -/
inductive Binary64 where
  | finite (negative : Bool) (mantissa : Nat) (exponent : Int)
  | infinity (negative : Bool)
  | nan
deriving DecidableEq

namespace Binary64

/-- The exponent of the smallest values. -/
def minExponent : Int := -1074

/-- The exponent of the largest values. -/
def maxExponent : Int := 971

/-- Mantissas are below this. -/
def mantissaLimit : Nat := Nat.pow 2 53

/-- `num / den` to the nearest natural number, the even one on a tie. -/
def roundDiv (num den : Nat) : Nat :=
  let whole := num / den
  let twice := 2 * (num % den)
  if twice < den then whole
  else if den < twice then whole + 1
  else whole + whole % 2

/-- `num / den * 2 ^ (-exponent)` as a fraction. -/
def scaled (num den : Nat) (exponent : Int) : Nat × Nat :=
  if exponent < 0 then (num * Nat.pow 2 (-exponent).toNat, den)
  else (num, den * Nat.pow 2 exponent.toNat)

/-- The value nearest to the positive fraction `num / den`. -/
def ofFraction (negative : Bool) (num den : Nat) : Binary64 :=
  let low : Int := max minExponent ((num.log2 : Int) - den.log2 - 53)
  let (n, d) := scaled num den low
  let exponent := if d * mantissaLimit ≤ n then low + 1 else low
  let (n, d) := scaled num den exponent
  let mantissa := roundDiv n d
  let (mantissa, exponent) :=
    if mantissa = mantissaLimit then (mantissa / 2, exponent + 1) else (mantissa, exponent)
  if maxExponent < exponent then .infinity negative else .finite negative mantissa exponent

/-- The value nearest to `digits * 10 ^ power`. -/
def ofDecimal (negative : Bool) (digits : Nat) (power : Int) : Binary64 :=
  let size : Int := (Nat.toDigits 10 digits).length
  if digits = 0 ∨ size + power < -400 then .finite negative 0 0
  else if 400 < size + power then .infinity negative
  else if power < 0 then ofFraction negative digits (Nat.pow 10 (-power).toNat)
  else ofFraction negative (digits * Nat.pow 10 power.toNat) 1

/-- The value nearest to `num / den * 2 ^ exponent`. -/
def ofRatio (num den : Nat) (exponent : Int) : Binary64 :=
  if num = 0 then .finite false 0 0
  else
    let (n, d) := scaled num den (-exponent)
    ofFraction false n d

/-- The value nearest to `x * 10 ^ power`, where the power of ten is rounded first. -/
def timesTenTo (power : Nat) : Binary64 → Binary64
  | .finite _ m e =>
    match ofDecimal false 1 power with
    | .finite _ p q => ofRatio (m * p) 1 (e + q)
    | x => x
  | x => x

/-- The value nearest to `x / 10 ^ power`, where the power of ten is rounded first. -/
def overTenTo (power : Nat) : Binary64 → Binary64
  | .finite _ m e =>
    match ofDecimal false 1 power with
    | .finite _ p q => ofRatio m p (e - q)
    | _ => .finite false 0 0
  | x => x

/-- The largest power of ten that has a value. -/
def maxTenPower : Nat := 308

/-- `significand * 10 ^ power` for a significand of 64 bits, rounded before and after the power of
ten is taken into account: quick to compute, but not always the nearest value. Numbers beyond all
finite values have none. -/
def ofParts? (significand : Nat) (power : Int) : Option Binary64 :=
  let x := ofDecimal false significand 0
  if 0 ≤ power then
    if significand = 0 then some x
    else if maxTenPower < power then none
    else
      match x.timesTenTo power.toNat with
      | .infinity _ => none
      | y => some y
  else
    let down := (-power).toNat
    if down ≤ maxTenPower then some (x.overTenTo down)
    else if down ≤ 2 * maxTenPower then
      some ((x.overTenTo maxTenPower).overTenTo (down - maxTenPower))
    else some (.finite false 0 0)

def negated : Binary64 → Binary64
  | .finite negative m e => .finite (!negative) m e
  | .infinity negative => .infinity (!negative)
  | .nan => .nan

/-- A positive decimal number, `digits * 10 ^ power`. -/
structure Decimal where
  digits : Nat
  power : Int
deriving DecidableEq

/-- Which of two decimal numbers stands for a value that is just as far from both. -/
inductive Tie where
  /-- The one whose last digit is even. -/
  | even
  /-- The larger one. -/
  | up
deriving DecidableEq

/-- Whether a value between the multiples `n` and `n + 1` goes to the lower one, by how far it is
from each. -/
def Tie.takesLower (tie : Tie) (n below above : Nat) : Bool :=
  below < above || (below = above && tie = .even && n % 2 = 0)

/-- The numbers nearest to `mantissa * 2 ^ exponent` among the multiples of `10 ^ power`, as far as
they lie where all numbers are read as that value, the nearer one first. -/
def onGrid (tie : Tie) (mantissa : Nat) (exponent : Int) (power : Int) : List Nat :=
  -- all numbers below are multiples of `unit = 2 ^ (exponent - 2)`, over a common denominator
  let unit : Int := exponent - 2
  let up := if unit < 0 then 1 else Nat.pow 2 unit.toNat
  let down := if unit < 0 then Nat.pow 2 (-unit).toNat else 1
  let stepUp := if power < 0 then 1 else Nat.pow 10 power.toNat
  let stepDown := if power < 0 then Nat.pow 10 (-power).toNat else 1
  let value := 4 * mantissa * up * stepDown
  let step := stepUp * down
  let narrow := mantissa = mantissaLimit / 2 ∧ minExponent < exponent
  let lower := value - (if narrow then 1 else 2) * up * stepDown
  let upper := value + 2 * up * stepDown
  let reads (n : Nat) : Bool :=
    if mantissa % 2 = 0 then decide (lower ≤ n * step ∧ n * step ≤ upper)
    else decide (lower < n * step ∧ n * step < upper)
  let below := value / step
  let ordered := if tie.takesLower below (value - below * step) ((below + 1) * step - value) then
    [below, below + 1] else [below + 1, below]
  ordered.filter fun n => decide (0 < n) && reads n

/-- The place of the leading decimal digit of `mantissa * 2 ^ exponent`: the value is below ten
to the power of it. -/
def leadingPlace (mantissa : Nat) (exponent : Int) : Int :=
  if exponent < 0 then
    let den := Nat.pow 2 (-exponent).toNat
    if den ≤ mantissa then (Nat.toDigits 10 (mantissa / den)).length
    else 1 - ((Nat.toDigits 10 (den / mantissa)).length : Int)
  else (Nat.toDigits 10 (mantissa * Nat.pow 2 exponent.toNat)).length

/-- The shortest decimal number among `count` grids, from the coarsest, that reads back. -/
def searchGrids (tie : Tie) (mantissa : Nat) (exponent power : Int) : Nat → Decimal
  | 0 => ⟨mantissa, exponent⟩
  | count + 1 =>
    match onGrid tie mantissa exponent power with
    | n :: _ => ⟨n, power⟩
    | [] => searchGrids tie mantissa exponent (power - 1) count

/-- The decimal number of fewest digits that reads back as `mantissa * 2 ^ exponent`. -/
def shortest (tie : Tie) (mantissa : Nat) (exponent : Int) : Decimal :=
  let d := searchGrids tie mantissa exponent (leadingPlace mantissa exponent) 20
  let digits := Nat.toDigits 10 d.digits
  let zeros := (digits.reverse.takeWhile (· == '0')).length
  ⟨d.digits / Nat.pow 10 zeros, d.power + zeros⟩

/-- The digits of a decimal number written out with a point, `.0` where it is whole. -/
def Decimal.positional (d : Decimal) : String :=
  let digits := Nat.toDigits 10 d.digits
  if 0 ≤ d.power then
    String.ofList (digits ++ List.replicate d.power.toNat '0') ++ ".0"
  else
    let places := (-d.power).toNat
    let padded := digits.leftpad (places + 1) '0'
    String.ofList (padded.take (padded.length - places)) ++ "." ++
      String.ofList (padded.drop (padded.length - places))

/-- The digits of a decimal number with one before the point, and a power of ten. -/
def Decimal.scientific (d : Decimal) : String :=
  let digits := Nat.toDigits 10 d.digits
  let power := d.power + digits.length - 1
  let mantissa := match digits with
    | [] => ""
    | [c] => String.ofList [c]
    | c :: rest => String.ofList (c :: '.' :: rest)
  mantissa ++ "e" ++ toString power

/-- Positional text, always with a point: the form in which settings are quoted. -/
def positional : Binary64 → String
  | .finite negative 0 _ => if negative then "-0.0" else "0.0"
  | .finite negative mantissa exponent =>
    (if negative then "-" else "") ++ (shortest .up mantissa exponent).positional
  | .infinity negative => if negative then "-inf" else "inf"
  | .nan => "NaN"

/-- The text of a number in a JSON document: positional from `10 ^ -5` up to `10 ^ 16`. -/
def json : Binary64 → String
  | .finite negative 0 _ => if negative then "-0.0" else "0.0"
  | .finite negative mantissa exponent =>
    let d := shortest .even mantissa exponent
    let place := d.power + (Nat.toDigits 10 d.digits).length
    (if negative then "-" else "") ++
      (if -5 < place ∧ place ≤ 16 then d.positional else d.scientific)
  | .infinity _ => "null"
  | .nan => "null"

end Binary64

end BrokerRollout
