import BrokerRollout.Yaml.Event
import BrokerRollout.Yaml.Value

/-!
# YAML documents

The value of a document is read off its events. An alias stands for the node that its number leads
to. A number is given to each anchor in turn: how many names there are before it, which leaves the
names of a document that uses no name twice with numbers of their own. Each use of an alias counts,
and so does each level of collections inside others, so that a small document has no huge value.
-/

namespace BrokerRollout.Yaml

/-! ### Numbers of anchors -/

namespace Event

/-- The names seen so far, with their numbers. -/
abbrev Names := List (String × Nat)

/-- The number for an anchor that comes now, and the names after it. -/
def number (names : Names) : Option String → Option Nat × Names
  | none => (none, names)
  | some name =>
    (some names.length, (name, names.length) :: names.filter (·.1 ≠ name))

/-- The events with numbers for names; no alias stands before its anchor. The last event comes first
in `read`. -/
def numbered (read : List (Event Nat)) (names : Names) :
    List (Event String) → Option (List (Event Nat))
  | [] => some read.reverse
  | .alias name :: rest =>
    match names.lookup name with
    | some n => numbered (.alias n :: read) names rest
    | none => none
  | .scalar anchor tag isPlain text :: rest =>
    let (anchor, names) := number names anchor
    numbered (.scalar anchor tag isPlain text :: read) names rest
  | .listStart anchor tag :: rest =>
    let (anchor, names) := number names anchor
    numbered (.listStart anchor tag :: read) names rest
  | .tableStart anchor tag :: rest =>
    let (anchor, names) := number names anchor
    numbered (.tableStart anchor tag :: read) names rest
  | .listEnd :: rest => numbered (.listEnd :: read) names rest
  | .tableEnd :: rest => numbered (.tableEnd :: read) names rest

def anchor? : Event Nat → Option Nat
  | .scalar anchor .. => anchor
  | .listStart anchor _ => anchor
  | .tableStart anchor _ => anchor
  | _ => none

/-- Where the node of each number starts: the events from there on. Of several nodes with one
number, the last one comes first. -/
def nodes (found : List (Nat × List (Event Nat))) :
    List (Event Nat) → List (Nat × List (Event Nat))
  | [] => found
  | e :: rest =>
    nodes (match e.anchor? with
      | some n => (n, e :: rest) :: found
      | none => found) rest

end Event

/-! ### Reading -/

/-- What is left to read: events, and how many more aliases may be followed. -/
structure Reading where
  events : List (Event Nat)
  aliases : Nat

namespace Value

/-- The items of a list up to its end; `bound` is at least the number of events. -/
def items (item : Reading → Option (Value × Reading)) :
    Nat → List Value → Reading → Option (List Value × Reading)
  | 0, _, _ => none
  | bound + 1, read, r =>
    match r.events with
    | .listEnd :: rest => some (read.reverse, { r with events := rest })
    | _ =>
      match item r with
      | some (v, r) => items item bound (v :: read) r
      | none => none

/-- The entries of a table up to its end. -/
def entries (item : Reading → Option (Value × Reading)) :
    Nat → List (Value × Value) → Reading → Option (List (Value × Value) × Reading)
  | 0, _, _ => none
  | bound + 1, read, r =>
    match r.events with
    | .tableEnd :: rest => some (read.reverse, { r with events := rest })
    | _ =>
      match item r with
      | none => none
      | some (key, r) =>
        if read.any fun entry => same entry.1 key then none
        else
          match item r with
          | some (v, r) => entries item bound ((key, v) :: read) r
          | none => none

/-- The node at the start of the events, which is no alias. -/
def placed (item : Option (Reading → Option (Value × Reading))) (bound : Nat) (r : Reading) :
    Option (Value × Reading) :=
  match r.events, item with
  | .scalar _ tag isPlain text :: rest, _ =>
    (ofScalar tag isPlain text).map (·, { r with events := rest })
  | .listStart _ tag :: rest, some item =>
    (items item bound [] { r with events := rest }).map fun (vs, r) =>
      (ofCollection tag (list vs), r)
  | .tableStart _ tag :: rest, some item =>
    (entries item bound [] { r with events := rest }).map fun (vs, r) =>
      (ofCollection tag (table vs), r)
  | _, _ => none

/-- The node at the start of the events, whose collections nest no deeper than `depth`. -/
def node (found : List (Nat × List (Event Nat))) (bound depth : Nat) (r : Reading) :
    Option (Value × Reading) :=
  let item := match depth with
    | 0 => none
    | depth + 1 => some (node found bound depth)
  match r.events with
  | .alias n :: rest =>
    match r.aliases, found.lookup n with
    | aliases + 1, some target =>
      (placed item bound { events := target, aliases }).map fun (v, r) =>
        (v, { r with events := rest })
    | _, _ => none
  | _ => placed item bound r

/-- The value of a document's events. -/
def ofEvents? (events : List (Event String)) : Option Value :=
  match Event.numbered [] [] events with
  | none => none
  | some events =>
    (node (Event.nodes [] events) (events.length + 1) maxDepth
      { events, aliases := 100 * events.length }).map (·.1)

end Value

/-- The values of a text's documents. A text without any is one document without a value. -/
def documents? (text : String) : Option (List Value) :=
  match (tokens? text).bind Event.documents? with
  | none => none
  | some [] => some [.null]
  | some parts => parts.mapM Value.ofEvents?

end BrokerRollout.Yaml
