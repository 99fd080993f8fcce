import BrokerRollout.Binary64
import BrokerRollout.Text.Quoted

/-!
# TOML tables and how they grow

A TOML document fills a table bit by bit: by keys, by dotted keys that open tables on their way, and
by headers. A draft keeps track of how each table came about, because that decides who may still
add to it: dotted keys only extend tables that dotted keys opened, and a header defines a table
once.
-/

namespace BrokerRollout.Toml

/-- A finished value. Entries of a table are in the order in which they were begun. -/
inductive Value where
  | string (text : String)
  | integer (value : Int)
  | float (value : Binary64)
  | boolean (value : Bool)
  /-- A date, a time or both, as written. -/
  | moment (text : String)
  | array (items : List Value)
  | table (entries : List (String × Value))

namespace Value

/-- The name of the value's type. -/
def typeName : Value → String
  | .string _ => "string"
  | .integer _ => "integer"
  | .float _ => "float"
  | .boolean _ => "boolean"
  | .moment _ => "datetime"
  | .array _ => "array"
  | .table _ => "table"

/-- What the value is, as a reader of settings that wanted something else names it. -/
def description : Value → String
  | .string text => "string " ++ Text.quote text
  | .integer n => "integer `" ++ toString n ++ "`"
  | .float x => "floating point `" ++ x.positional ++ "`"
  | .boolean true => "boolean `true`"
  | .boolean false => "boolean `false`"
  | .array _ => "sequence"
  | .moment _ | .table _ => "map"

end Value

/-- How a table came about: by its own header, on the way to another header's table, or on the way
of a dotted key. -/
inductive Origin where
  | header
  | implied
  | dotted
deriving DecidableEq

/-- An entry of a table that is still growing. -/
inductive Node where
  | value (v : Value)
  | table (origin : Origin) (entries : List (String × Node))
  | tables (items : List (List (String × Node)))

/-- The entries of a table that is still growing. -/
abbrev Draft := List (String × Node)

namespace Draft

def find? (d : Draft) (key : String) : Option Node := (List.find? (·.1 == key) d).map (·.2)

/-- The draft with another node for a key that it has. -/
def replace (d : Draft) (key : String) (node : Node) : Draft :=
  d.map fun (k, n) => if k == key then (k, node) else (k, n)

def remove (d : Draft) (key : String) : Draft := d.filter fun (k, _) => !(k == key)

/-- Changes the table at the end of a path, which has the origin `own` where the path is empty.
Tables that are missing on the way are opened, `dotted` or implied, and the way through an array
of tables leads into its last one. -/
def update (dotted : Bool) (change : Origin → Draft → Option Draft) (own : Origin) :
    List String → Draft → Option Draft
  | [], d => change own d
  | key :: path, d =>
    match d.find? key with
    | none => do
      let origin := if dotted then Origin.dotted else .implied
      let inner ← update dotted change origin path []
      return d ++ [(key, .table origin inner)]
    | some (.value _) => none
    | some (.table origin inner) =>
      if dotted && origin == .header then none
      else do
        let inner ← update dotted change origin path inner
        return d.replace key (.table origin inner)
    | some (.tables items) =>
      match items.getLast? with
      | none => none
      | some last => do
        let last ← update dotted change .header path last
        return d.replace key (.tables (items.dropLast ++ [last]))

/-- Gives a new key its value. The tables on the way of a dotted key are its own. -/
def assign (path : List String) (key : String) (v : Value) (d : Draft) : Option Draft :=
  let put (origin : Origin) (d : Draft) : Option Draft :=
    if !path.isEmpty && origin != .dotted then none
    else if (d.find? key).isSome then none
    else some (d ++ [(key, .value v)])
  update true put .header path d

/-- Opens the table of a header. -/
def openTable (path : List String) (key : String) (d : Draft) : Option Draft :=
  let put (_ : Origin) (d : Draft) : Option Draft :=
    match d.find? key with
    | none => some (d ++ [(key, .table .header [])])
    | some (.table .implied inner) => some (d.remove key ++ [(key, .table .header inner)])
    | some _ => none
  update false put .header path d

/-- Adds a table to the array of a header. -/
def openArray (path : List String) (key : String) (d : Draft) : Option Draft :=
  let put (_ : Origin) (d : Draft) : Option Draft :=
    match d.find? key with
    | none => some (d ++ [(key, .tables [[]])])
    | some (.tables items) => some (d.replace key (.tables (items ++ [[]])))
    | some _ => none
  update false put .header path d

/-- Assigns to a key of the table that the last header opened. -/
def assignIn (header path : List String) (key : String) (v : Value) (d : Draft) : Option Draft :=
  update false (fun _ inner => assign path key v inner) .header header d

end Draft

mutual

/-- The value of a node that grows no more. -/
def Node.finished : Node → Value
  | .value v => v
  | .table _ entries => .table (finishedEntries entries)
  | .tables items => .array (finishedTables items)

def finishedEntries : List (String × Node) → List (String × Value)
  | [] => []
  | (key, node) :: rest => (key, node.finished) :: finishedEntries rest

def finishedTables : List (List (String × Node)) → List Value
  | [] => []
  | entries :: rest => .table (finishedEntries entries) :: finishedTables rest

end

end BrokerRollout.Toml
