import BrokerRollout.Binary64
import BrokerRollout.Text.Quoted

/-!
# JSON values

Manifests, API objects and statuses are JSON. A number is an integer of 64 bits or a binary
floating point value. Objects keep their members as written; a later member hides an earlier one of
the same name.
-/

namespace BrokerRollout

inductive Json.Number where
  | integer (value : Int)
  | real (value : Binary64)
deriving DecidableEq

inductive Json where
  | null
  | bool (value : Bool)
  | number (value : Json.Number)
  | string (value : String)
  | array (items : List Json)
  | object (members : List (String × Json))

namespace Json

instance : Coe String Json := ⟨.string⟩
instance : Coe Bool Json := ⟨.bool⟩

def ofNat (n : Nat) : Json := .number (.integer n)

/-- A list of texts. -/
def strings (texts : List String) : Json := .array (texts.map .string)

/-- A text that may be missing. -/
def optional : Option String → Json
  | some text => .string text
  | none => .null

/-! ### Looking into a value -/

/-- The member of that name, the last if there are several. -/
def member? (name : String) : Json → Option Json
  | .object members => (members.reverse.find? (·.1 == name)).map (·.2)
  | _ => none

/-- The value reached through members of nested objects. -/
def path? : List String → Json → Option Json
  | [], value => some value
  | name :: rest, value => (value.member? name).bind (path? rest)

def string? : Json → Option String
  | .string text => some text
  | _ => none

def integer? : Json → Option Int
  | .number (.integer n) => some n
  | _ => none

def nat? : Json → Option Nat
  | .number (.integer (.ofNat n)) => some n
  | _ => none

def bool? : Json → Option Bool
  | .bool b => some b
  | _ => none

def array? : Json → Option (List Json)
  | .array items => some items
  | _ => none

/-- The text of a member, the empty one if there is none. -/
def textAt (name : String) (value : Json) : String :=
  ((value.member? name).bind string?).getD ""

/-- What the value is, as a decoder that wanted something else names it. -/
def description : Json → String
  | .null => "null"
  | .bool true => "boolean `true`"
  | .bool false => "boolean `false`"
  | .number (.integer n) => "integer `" ++ toString n ++ "`"
  | .number (.real x) => "floating point `" ++ x.json ++ "`"
  | .string text => "string " ++ Text.quote text
  | .array _ => "sequence"
  | .object _ => "map"

/-! ### Text -/

def hexDigits (width n : Nat) : List Char := (Nat.toDigits 16 n).leftpad width '0'

/-- How a character is written inside a JSON string. -/
def escape (c : Char) : List Char :=
  if c = '\x22' then ['\\', '\x22']
  else if c = '\\' then ['\\', '\\']
  else if c = '\n' then ['\\', 'n']
  else if c = '\r' then ['\\', 'r']
  else if c = '\t' then ['\\', 't']
  else if c = '\x08' then ['\\', 'b']
  else if c = '\x0c' then ['\\', 'f']
  else if c.toNat < 0x20 then ['\\', 'u'] ++ hexDigits 4 c.toNat
  else [c]

def quoted (text : String) : String :=
  String.ofList ('\x22' :: text.toList.flatMap escape ++ ['\x22'])

mutual

/-- The value without any blanks. -/
def compact : Json → String
  | .null => "null"
  | .bool true => "true"
  | .bool false => "false"
  | .number (.integer n) => toString n
  | .number (.real x) => x.json
  | .string text => quoted text
  | .array items => "[" ++ ",".intercalate (compactItems items) ++ "]"
  | .object members => "\x7b" ++ ",".intercalate (compactMembers members) ++ "\x7d"

def compactItems : List Json → List String
  | [] => []
  | item :: rest => item.compact :: compactItems rest

def compactMembers : List (String × Json) → List String
  | [] => []
  | (name, value) :: rest => (quoted name ++ ":" ++ value.compact) :: compactMembers rest

end

/-- `members` with one more, in the order of names; it takes the place of one of its name. -/
def insertMember (name : String) (value : Json) :
    List (String × Json) → List (String × Json)
  | [] => [(name, value)]
  | (other, old) :: rest =>
    if name < other then (name, value) :: (other, old) :: rest
    else if name = other then (name, value) :: rest
    else (other, old) :: insertMember name value rest

mutual

/-- The value with every object's members in the order of their names, hidden ones left out. -/
def sorted : Json → Json
  | .array items => .array (sortedItems items)
  | .object members => .object (sortedMembers [] members)
  | value => value

def sortedItems : List Json → List Json
  | [] => []
  | item :: rest => item.sorted :: sortedItems rest

def sortedMembers (done : List (String × Json)) : List (String × Json) → List (String × Json)
  | [] => done
  | (name, value) :: rest => sortedMembers (insertMember name value.sorted done) rest

end

end Json

end BrokerRollout
