import BrokerRollout.Json.Skip

/-!
# Shapes of JSON documents

A shape says what a document has to look like. Reading a document by a shape gives its value, or
the first fault: of its text, or of a value that is not of the shape. Values nest up to
`Shape.maxDepth`. A value that is given up for a reason of its own, such as a repeated field, is
left before the place of the fault is taken.
-/

namespace BrokerRollout.Json

/-- Whether a field has to be there. -/
inductive Presence where
  | required
  /-- The field may be missing, but it is not null. -/
  | missable
  /-- The field may be missing, and null says the same. -/
  | optional
  /-- The field may be missing, and is nothing but one text. -/
  | only (text : String)

/-- A field of a record, with a shape of some kind. -/
structure Field (α : Type) where
  name : String
  shape : α
  presence : Presence

/-- What a record makes of a list in its place. -/
inductive ListRule where
  /-- It is refused where it starts. -/
  | refused
  /-- It is refused inside its brackets. -/
  | entered
  /-- It holds the fields in order. -/
  | fields

/-- How strict a record is. -/
structure RecordRules where
  onList : ListRule
  /-- A field that is repeated is a fault; else the last one counts. -/
  once : Bool := true
  /-- Members that are no fields are read; else they are passed over. -/
  keepsOthers : Bool := false

/-- What a value has to look like. -/
inductive Shape where
  | anything
  | text
  | boolean
  /-- An integer of a range, with a name for it. -/
  | integer (low high : Int) (name : String)
  /-- A text that passes a check, which else says what is wrong. -/
  | checked (expected : String) (fault? : String → Option String)
  /-- One of a few words. -/
  | choice (words : List String)
  | list (item : Shape)
  | map (item : Shape)
  | record (expected : String) (rules : RecordRules) (fields : List (Field Shape))

namespace Shape

/-- What is wanted, as a fault names it. -/
def expected : Shape → String
  | .anything => "any value"
  | .text => "a string"
  | .boolean => "a boolean"
  | .integer _ _ name => name
  | .checked expected _ => expected
  | .choice _ => "variant identifier"
  | .list _ => "a sequence"
  | .map _ => "a map"
  | .record expected .. => expected

/-- Why a value without parts is not of the shape. -/
def objection? : Shape → Json → Option Reason
  | .anything, _ => none
  | .text, .string _ => none
  | .boolean, .bool _ => none
  | .integer low high name, .number (.integer n) =>
    if low ≤ n ∧ n ≤ high then none
    else some (.unwanted (Json.number (.integer n)).description name)
  | .checked _ fault?, .string s => (fault? s).map .unsound
  | .choice words, .string word => if word ∈ words then none else some (.unknownWord word words)
  | shape, value => some (.unfit value.description shape.expected)

end Shape

namespace Reader

/-! ### Values without parts -/

/-- The value without parts that comes next, if it is of the shape; nothing if a list or an object
comes next. -/
def literalOf (shape : Shape) : Reader (Option Json) := do
  match ← literal? with
  | none => return none
  | some value =>
    match shape.objection? value with
    | none => return some value
    | some reason => fail reason

/-- Refuses the list or the object that comes next. -/
def refuseCollection (expected : String) : Reader Json := do
  if (← peek) = some '[' then fail (.unfit "sequence" expected) else fail (.unfit "map" expected)

/-- Refuses what comes next. -/
def refuse (expected : String) : Reader Json := do
  match ← literal? with
  | some value => fail (.unfit value.description expected)
  | none => refuseCollection expected

/-- Null if it comes next, else what `value` reads. -/
def orNull (value : Reader Json) : Reader Json := do
  if (← peekSolid) = some 'n' then
    step
    word ['u', 'l', 'l']
    return .null
  else value

/-! ### Collections -/

/-- Whether another item of a list comes next; `first` if none has been read. -/
def hasItem (first : Bool) : Reader Bool := do
  match ← peekSolid with
  | none => failAhead .endInList
  | some ']' => return false
  | some c =>
    if first then return true
    else if c = ',' then
      step
      match ← peekSolid with
      | none => failAhead .endBeforeValue
      | some ']' => failAhead .trailingComma
      | some _ => return true
    else failAhead .commaOrBracketExpected

/-- Whether another key of an object comes next; `first` if none has been read. -/
def hasKey (first : Bool) : Reader Bool := do
  match ← peekSolid with
  | none => failAhead .endInObject
  | some '\x7d' => return false
  | some c =>
    if first then
      if c = '\x22' then return true else failAhead .keyNotString
    else if c = ',' then
      step
      match ← peekSolid with
      | none => failAhead .endBeforeValue
      | some '\x22' => return true
      | some '\x7d' => failAhead .trailingComma
      | some _ => failAhead .keyNotString
    else failAhead .commaOrBraceExpected

def colon : Reader Unit := do
  match ← peekSolid with
  | none => failAhead .endInObject
  | some ':' => step
  | some _ => failAhead .colonExpected

/-- The end of a list, where it has to be. -/
def closeList : Reader Unit := do
  match ← peekSolid with
  | none => failAhead .endInList
  | some ']' => step
  | some ',' =>
    step
    if (← peekSolid) = some ']' then failAhead .trailingComma else failAhead .trailingCharacters
  | some _ => failAhead .trailingCharacters

/-- One of a few words: a string, or the only key of an object whose value is null. -/
def choice (words : List String) : Reader Json := do
  match ← peekSolid with
  | none => failAhead .endBeforeValue
  | some '\x22' => chosen
  | some '\x7b' =>
    step
    let word ← chosen
    colon
    let _ ← orNull (refuse "unit")
    match ← peekSolid with
    | none => fail .endInObject
    | some '\x7d' => step; return word
    | some _ => fail .valueExpected
  | some _ => failAhead .valueExpected
where
  chosen : Reader Json := do
    match ← literalOf (.choice words) with
    | some word => return word
    | none => refuseCollection (Shape.choice words).expected

/-- Members of an object, or a reason to give it up. -/
abbrev Members := Except Reason (List (String × Json))

variable (child : Shape → Reader Json)

/-- The items of a list up to its end; `read` holds those so far, the last one first. -/
def items (item : Shape) : Nat → Bool → List Json → Reader (List Json)
  | 0, _, _ => fail .endInList
  | bound + 1, first, read => do
    if ← hasItem first then
      let value ← child item
      items item bound false (value :: read)
    else return read.reverse

/-- The value of a field, or a reason to give up its record. -/
def fieldValue (f : Field Shape) : Reader (Except Reason Json) := do
  match f.presence with
  | .optional => return .ok (← orNull (child f.shape))
  | .only text =>
    let value ← child .text
    if value.string? = some text then return .ok value
    else return .error (.unwanted value.description text)
  | _ => return .ok (← child f.shape)

/-- What comes after a key: the value of a field, nothing for a member that is passed over, or a
reason to give up the record. -/
def member (rules : RecordRules) (fields : List (Field Shape)) (read : List (String × Json))
    (name : String) : Reader (Except Reason (Option Json)) := do
  match fields.find? (·.name == name) with
  | some f =>
    if rules.once && read.any (·.1 == name) then return .error (.repeatedField name)
    else
      colon
      return (← fieldValue child f).map some
  | none =>
    colon
    if rules.keepsOthers then return .ok (some (← child .anything))
    else
      skipValue
      return .ok none

/-- The members of an object up to its end; `read` holds those so far, the last one first. -/
def members (rules : RecordRules) (fields : List (Field Shape)) :
    Nat → Bool → List (String × Json) → Reader Members
  | 0, _, _ => fail .endInObject
  | bound + 1, first, read => do
    if ← hasKey first then
      let name ← string
      match ← member child rules fields read name with
      | .error reason => return .error reason
      | .ok none => members rules fields bound false read
      | .ok (some value) => members rules fields bound false ((name, value) :: read)
    else
      let absent := fields.find? fun f =>
        f.presence matches .required && !read.any (·.1 == f.name)
      match absent with
      | some f => return .error (.missingField f.name)
      | none => return .ok read.reverse

/-- The fields of a record whose values are listed in order. -/
def fieldsInOrder : List (Field Shape) → Bool → List (String × Json) → Reader Members
  | [], _, read => return .ok read.reverse
  | f :: fields, first, read => do
    if ← hasItem first then
      match ← fieldValue child f with
      | .error reason => return .error reason
      | .ok value => fieldsInOrder fields false ((f.name, value) :: read)
    else if f.presence matches .required then return .error (.missingField f.name)
    else fieldsInOrder fields first read

/-- The object around members that come next, or the fault of giving it up. -/
def object (content : Reader Members) : Reader Json := do
  step
  match ← content with
  | .ok members => step; return .object members
  | .error reason => modify Cursor.leaveObject; fail reason

/-- The record whose fields are listed next, or the fault of giving it up. -/
def listed (content : Reader Members) : Reader Json := do
  step
  match ← content with
  | .ok members => closeList; return .object members
  | .error reason => modify Cursor.leaveList; fail reason

/-- A list, by what is wanted. -/
def listFor : Shape → Reader Json
  | .anything => plain .anything
  | .list item => plain item
  | .record expected rules fields =>
    match rules.onList with
    | .refused => fail (.unfit "sequence" expected)
    | .entered => listed (return .error (.unfit "sequence" expected))
    | .fields => listed (fieldsInOrder child fields true [])
  | shape => fail (.unfit "sequence" shape.expected)
where
  plain (item : Shape) : Reader Json := do
    step
    let values ← items child item (← bound) true []
    step
    return .array values

/-- An object, by what is wanted. -/
def objectFor : Shape → Reader Json
  | .anything => uniform .anything
  | .map item => uniform item
  | .record _ rules fields => do object (members child rules fields (← bound) true [])
  | shape => fail (.unfit "map" shape.expected)
where
  uniform (item : Shape) : Reader Json := do
    step
    let values ← entries item (← bound) true []
    step
    return .object values
  entries (item : Shape) : Nat → Bool → List (String × Json) → Reader (List (String × Json))
    | 0, _, _ => fail .endInObject
    | bound + 1, first, read => do
      if ← hasKey first then
        let name ← string
        colon
        let value ← child item
        entries item bound false ((name, value) :: read)
      else return read.reverse

end Reader

/-! ### Documents -/

namespace Shape

/-- The depth to which values nest. -/
def maxDepth : Nat := 127

/-- Reads a value whose parts are read by `child?`; at the greatest depth it has none. -/
def readWith (child? : Option (Shape → Reader Json)) : Shape → Reader Json
  | .choice words => Reader.choice words
  | shape => do
    match ← Reader.literalOf shape, child? with
    | some value, _ => return value
    | none, none => Reader.failAhead .tooDeep
    | none, some child =>
      if (← Reader.peek) = some '[' then Reader.listFor child shape
      else Reader.objectFor child shape

/-- Reads a value that nests no deeper than `depth`. -/
def reader : Nat → Shape → Reader Json
  | 0 => readWith none
  | depth + 1 => readWith (some (reader depth))

/-- The value of a whole document of the shape. -/
def read (shape : Shape) (bytes : List UInt8) : Except Fault Json :=
  let document : Reader Json := do
    let value ← shape.reader maxDepth
    match ← Reader.peekSolid with
    | none => return value
    | some _ => Reader.failAhead .trailingCharacters
  document.run' (.ofBytes bytes)

end Shape

/-- The value that the whole text stands for. -/
def parse? (text : String) : Option Json := (Shape.anything.read (Text.utf8 text)).toOption

end BrokerRollout.Json
