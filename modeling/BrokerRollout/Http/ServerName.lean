import BrokerRollout.Text.Digits

/-!
# Names of servers

The name that a certificate is checked for is the name of a host or an address in numbers. A host
name is a sequence of labels between points, of letters, digits, hyphens and underscores; no label
ends in a hyphen or starts with one, and the last one is not a number. A point may end it.
-/

namespace BrokerRollout.Http

/-! ### Host names -/

def isLabel (label : List Char) : Bool :=
  !label.isEmpty && label.length ≤ 63
    && label.all (fun c => c.isAlphanum || c = '-' || c = '_')
    && label.head? ≠ some '-' && label.getLast? ≠ some '-'

def isHostName (name : String) : Bool :=
  let labels := (name.splitOn ".").map String.toList
  let labels := if labels.getLast? = some [] then labels.dropLast else labels
  name.utf8ByteSize ≤ 253 && !labels.isEmpty && labels.all isLabel
    && !(labels.getLast?.any fun label => label.all Char.isDigit)

/-! ### Addresses in numbers -/

/-- A number up to 255 in base ten, without zeros in front. -/
def isOctet (text : List Char) : Bool :=
  !text.isEmpty && text.length ≤ 3 && text.all Char.isDigit
    && (text.length = 1 || text.head? ≠ some '0') && Text.decimalNumber text ≤ 255

/-- Four numbers between points. -/
def isIpv4 (text : String) : Bool :=
  let octets := text.splitOn "."
  octets.length = 4 && octets.all fun octet => isOctet octet.toList

/-- How many groups of sixteen bits a text has between colons, if it is made of them; the last two
may be written as four numbers. -/
def groups? (text : String) (mayEndInOctets : Bool) : Option Nat :=
  let isGroup (group : String) : Bool :=
    !group.isEmpty && group.length ≤ 4 && group.toList.all fun c => (Text.hexDigit? c).isSome
  if text.isEmpty then some 0
  else
    let parts := text.splitOn ":"
    match parts.getLast? with
    | some last =>
      if mayEndInOctets && isIpv4 last && parts.dropLast.all isGroup then some (parts.length + 1)
      else if parts.all isGroup then some parts.length
      else none
    | none => none

/-- Eight groups of sixteen bits, or fewer around a double colon. -/
def isIpv6 (text : String) : Bool :=
  match text.splitOn "::" with
  | [all] => groups? all true = some 8
  | [before, after] =>
    match groups? before false, groups? after true with
    | some m, some n => m + n ≤ 7
    | _, _ => false
  | _ => false

/-- What a certificate can be checked for. -/
def isServerName (name : String) : Bool := isHostName name || isIpv4 name || isIpv6 name

end BrokerRollout.Http
