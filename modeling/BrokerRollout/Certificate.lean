import BrokerRollout.Certificate.Der
import BrokerRollout.Certificate.Pem

/-!
# Certificates

What makes bytes a certificate that others can be checked against: the outline of its parts, and no
extension that is critical and not understood. Signatures are not checked here; a certificate that
is trusted needs none.
-/

namespace BrokerRollout.Certificate

open Der

/-! ### Extensions -/

structure Extension where
  id : List UInt8
  isCritical : Bool
  value : List UInt8
deriving DecidableEq

/-- Whether an extension is critical, which it is not by default, and the bytes after that. -/
def critical? (bytes : List UInt8) : Option (Bool × List UInt8) :=
  if bytes.head? = some boolean then
    match expect boolean bytes with
    | some ([0xff], rest) => some (true, rest)
    | some ([0x00], rest) => some (false, rest)
    | _ => none
  else some (false, bytes)

def extension? (bytes : List UInt8) : Option Extension := do
  let (id, rest) ← expect objectId bytes
  let (isCritical, rest) ← critical? rest
  return { id, isCritical, value := ← only octetString rest }

/-- The number of an extension of the common kind. -/
def Extension.number? (e : Extension) : Option UInt8 :=
  match e.id with
  | [0x55, 0x1d, n] => some n
  | _ => none

/-- The use of the key. -/
def keyUsage : UInt8 := 15

/-- The extensions that are understood: the use of the key, other names of the subject, basic
constraints, constraints of names, where revocations are listed, and further uses of the key. -/
def understood : List UInt8 := [keyUsage, 17, 19, 30, 31, 37]

/-- Whether an extension may be there. -/
def Extension.isAllowed (e : Extension) : Bool :=
  match e.number? with
  | some n =>
    if n ∈ understood then n = keyUsage || (only sequence e.value).isSome else !e.isCritical
  | none => !e.isCritical

/-- The extensions at the end of a certificate, none of them understood and there twice. -/
def hasExtensions (bytes : List UInt8) : Bool :=
  let listed := do
    let content ← only sequence (← only (part 3) bytes)
    (← all sequence content.length content).mapM extension?
  match listed with
  | none => false
  | some es =>
    let numbers := (es.filterMap Extension.number?).filter (· ∈ understood)
    es.all Extension.isAllowed && numbers.all fun n => (numbers.filter (· = n)).length ≤ 1

/-! ### Certificates -/

/-- The rest after values with certain tags. -/
def skip (tags : List UInt8) (bytes : List UInt8) : Option (List UInt8) :=
  tags.foldlM (fun bytes tag => (expect tag bytes).map (·.2)) bytes

/-- The parts after the version: the number, the kind of the signature, who issued the certificate,
when it is valid, whom it is for and their key. -/
def parts : List UInt8 := [integer, sequence, sequence, sequence, sequence, sequence]

/-- Whether the signed part of a certificate is of the third version, for the given kind of
signature. -/
def isThirdVersion (signed algorithm : List UInt8) : Bool :=
  match expect (part 0) signed with
  | some (version, rest) =>
    let sameAlgorithm := (skip [integer] rest).bind (expect sequence) |>.map (·.1)
    match skip parts rest with
    | some extensions =>
      only integer version = some [2] && sameAlgorithm = some algorithm
        && (extensions.isEmpty || hasExtensions extensions)
    | none => false
  | none => false

/-- Whether bytes are a certificate that can be trusted: one of the third version, or of the first
one, which has no extensions. -/
def isAnchor (bytes : List UInt8) : Bool :=
  let outline := do
    let content ← only sequence bytes
    let (signed, rest) ← expect sequence content
    let (algorithm, rest) ← expect sequence rest
    return (signed, algorithm, ← only bitString rest)
  match outline with
  | some (signed, algorithm, signature) =>
    (signature.head? = some 0 && isThirdVersion signed algorithm)
      || (expect (part 0) signed).isNone && skip parts signed = some []
  | none => false

end BrokerRollout.Certificate
