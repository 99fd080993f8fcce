import BrokerRollout.Yaml.Token

/-!
# YAML events

A document is a tree of scalars, lists and tables. Its events are the scalars, and the starts and
ends of the collections, in the order of the text; the items of a table are its keys and values in
turn. A node whose text is left out is an empty plain scalar.
-/

namespace BrokerRollout.Yaml

/-- An event. The names of anchors are of some type `ν`. -/
inductive Event (ν : Type) where
  | alias (name : ν)
  | scalar (anchor : Option ν) (tag : Option (List UInt8)) (isPlain : Bool) (text : String)
  | listStart (anchor : Option ν) (tag : Option (List UInt8))
  | listEnd
  | tableStart (anchor : Option ν) (tag : Option (List UInt8))
  | tableEnd

namespace Event

/-- The events read so far, the last one first, and the tokens after them. -/
abbrev Parse := Option (List (Event String) × List Token)

/-- The empty scalar of a node that is left out. -/
def missing : Event String := .scalar none none true ""

/-! ### Properties of nodes -/

/-- What handles stand for. -/
abbrev Handles := List (String × List UInt8)

/-- The handles that need no directive. -/
def commonHandles : Handles := [("!", Text.utf8 "!"), ("!!", Text.utf8 "tag:yaml.org,2002:")]

/-- The tag that a name stands for, if its handle is known. -/
def tag? (handles : Handles) (name : TagName) : Option (List UInt8) :=
  if name.handle.isEmpty then some name.suffix
  else (handles.lookup name.handle).map (· ++ name.suffix)

/-- The anchor and the tag in front of a node, in either order. -/
structure Properties where
  anchor : Option String := none
  tag : Option (List UInt8) := none

def properties (handles : Handles) : List Token → Option (Properties × List Token)
  | .anchor name :: .tag t :: ts =>
    (tag? handles t).map fun tag => ({ anchor := name, tag }, ts)
  | .tag t :: .anchor name :: ts =>
    (tag? handles t).map fun tag => ({ anchor := name, tag }, ts)
  | .anchor name :: ts => some ({ anchor := name }, ts)
  | .tag t :: ts => (tag? handles t).map fun tag => ({ tag }, ts)
  | ts => some ({}, ts)

/-! ### Collections

Each of the following reads on after the start of a collection; `child` reads a node of it, which
may be a block collection if the first argument says so, and a list without indentation if the
second one does. `bound` is more than the number of tokens. -/

variable (child : Bool → Bool → List (Event String) → List Token → Parse)

/-- A node, unless one of the tokens follows that can only come after it. -/
def nodeUnless (follows : Token → Bool) (block loose : Bool) (out : List (Event String))
    (ts : List Token) : Parse :=
  match ts with
  | t :: _ => if follows t then some (missing :: out, ts) else child block loose out ts
  | [] => child block loose out ts

/-- The items of a list in a block of its own. -/
def blockItems : Nat → List (Event String) → List Token → Parse
  | 0, _, _ => none
  | bound + 1, out, ts =>
    match ts with
    | .dash :: ts =>
      match nodeUnless child (· ∈ [.dash, .blockEnd]) true false out ts with
      | some (out, ts) => blockItems bound out ts
      | none => none
    | .blockEnd :: ts => some (.listEnd :: out, ts)
    | _ => none

/-- The items of a list whose dashes stand in the column of the keys around it. -/
def looseItems : Nat → List (Event String) → List Token → Parse
  | 0, _, _ => none
  | bound + 1, out, ts =>
    match ts with
    | .dash :: ts =>
      match nodeUnless child (· ∈ [.dash, .key, .colon, .blockEnd]) true false out ts with
      | some (out, ts) => looseItems bound out ts
      | none => none
    | ts => some (.listEnd :: out, ts)

/-- The value after a key in a block. -/
def blockValue (out : List (Event String)) (ts : List Token) : Parse :=
  match ts with
  | .colon :: ts => nodeUnless child (· ∈ [.key, .colon, .blockEnd]) true true out ts
  | ts => some (missing :: out, ts)

/-- The entries of a table in a block of its own. -/
def blockEntries : Nat → List (Event String) → List Token → Parse
  | 0, _, _ => none
  | bound + 1, out, ts =>
    match ts with
    | .key :: ts =>
      match nodeUnless child (· ∈ [.key, .colon, .blockEnd]) true true out ts with
      | none => none
      | some (out, ts) =>
        match blockValue child out ts with
        | some (out, ts) => blockEntries bound out ts
        | none => none
    | .blockEnd :: ts => some (.tableEnd :: out, ts)
    | _ => none

/-- The value after a key in brackets or braces, which `closing` ends. -/
def flowValue (closing : Token) (out : List (Event String)) (ts : List Token) : Parse :=
  match ts with
  | .colon :: ts => nodeUnless child (· ∈ [.comma, closing]) false false out ts
  | ts => some (missing :: out, ts)

/-- A table of one entry inside brackets. Where its key is left out, the token after the key's mark
is dropped. -/
def soleEntry (out : List (Event String)) (ts : List Token) : Parse :=
  let out := .tableStart none none :: out
  let key := match ts with
    | t :: rest =>
      if t ∈ [.colon, .comma, .closeBracket] then some (missing :: out, rest)
      else child false false out ts
    | [] => none
  match key with
  | none => none
  | some (out, ts) =>
    match flowValue child .closeBracket out ts with
    | some (out, ts) => some (.tableEnd :: out, ts)
    | none => none

/-- The items between brackets. -/
def flowItems : Nat → Bool → List (Event String) → List Token → Parse
  | 0, _, _, _ => none
  | bound + 1, first, out, ts =>
    match ts, first with
    | .closeBracket :: ts, _ => some (.listEnd :: out, ts)
    | .comma :: .closeBracket :: ts, false => some (.listEnd :: out, ts)
    | .comma :: ts, false => item bound ts out
    | ts, true => item bound ts out
    | _, false => none
where
  item (bound : Nat) (ts : List Token) (out : List (Event String)) : Parse :=
    let read := match ts with
      | .key :: ts => soleEntry child out ts
      | ts => child false false out ts
    match read with
    | some (out, ts) => flowItems bound false out ts
    | none => none

/-- The entries between braces. -/
def flowEntries : Nat → Bool → List (Event String) → List Token → Parse
  | 0, _, _, _ => none
  | bound + 1, first, out, ts =>
    match ts, first with
    | .closeBrace :: ts, _ => some (.tableEnd :: out, ts)
    | .comma :: .closeBrace :: ts, false => some (.tableEnd :: out, ts)
    | .comma :: ts, false => entry bound ts out
    | ts, true => entry bound ts out
    | _, false => none
where
  entry (bound : Nat) (ts : List Token) (out : List (Event String)) : Parse :=
    let read := match ts with
      | .key :: ts =>
        match nodeUnless child (· ∈ [.colon, .comma, .closeBrace]) false false out ts with
        | some (out, ts) => flowValue child .closeBrace out ts
        | none => none
      | ts =>
        match child false false out ts with
        | some (out, ts) => some (missing :: out, ts)
        | none => none
    match read with
    | some (out, ts) => flowEntries bound false out ts
    | none => none

/-! ### Nodes -/

/-- A node whose collections nest no deeper than `depth`. -/
def node (handles : Handles) (bound : Nat) :
    Nat → Bool → Bool → List (Event String) → List Token → Parse
  | depth, block, loose, out, ts =>
    match ts with
    | .alias name :: ts => some (.alias name :: out, ts)
    | ts =>
      match properties handles ts with
      | none => none
      | some ({ anchor, tag }, ts) =>
        match depth, ts with
        | depth + 1, .openBracket :: ts =>
          flowItems (node handles bound depth) bound true (.listStart anchor tag :: out) ts
        | depth + 1, .openBrace :: ts =>
          flowEntries (node handles bound depth) bound true (.tableStart anchor tag :: out) ts
        | depth + 1, .dash :: ts' =>
          if loose then
            looseItems (node handles bound depth) bound (.listStart anchor tag :: out) ts
          else empty anchor tag out (.dash :: ts')
        | depth + 1, .blockList :: ts =>
          if block then
            blockItems (node handles bound depth) bound (.listStart anchor tag :: out) ts
          else empty anchor tag out (.blockList :: ts)
        | depth + 1, .blockTable :: ts =>
          if block then
            blockEntries (node handles bound depth) bound (.tableStart anchor tag :: out) ts
          else empty anchor tag out (.blockTable :: ts)
        | _, .scalar isPlain text :: ts =>
          -- a lone exclamation mark is no tag for a scalar
          let tag := if tag = some (Text.utf8 "!") then none else tag
          some (.scalar anchor tag isPlain text :: out, ts)
        | _, ts => empty anchor tag out ts
where
  /-- A node of which only the properties are there. -/
  empty (anchor : Option String) (tag : Option (List UInt8)) (out : List (Event String))
      (ts : List Token) : Parse :=
    if anchor.isSome || tag.isSome then some (.scalar anchor tag true "" :: out, ts) else none

/-! ### Documents -/

/-- The handles that the directives of a document define, and the tokens after them. A document has
at most one version, which is 1.1 or 1.2, and no handle twice. -/
def directives : Bool → Handles → List Token → Option (Handles × List Token)
  | versioned, handles, .directive (.version major minor) :: ts =>
    if !versioned && major = 1 && (minor = 1 || minor = 2) then directives true handles ts else none
  | versioned, handles, .directive (.handle name stem) :: ts =>
    if (handles.lookup name).isSome then none
    else directives versioned (handles ++ [(name, stem)]) ts
  | _, handles, ts => some (handles ++ commonHandles, ts)

/-- Whether the token cannot belong to a document that has started. -/
def endsDocument : Token → Bool
  | .directive _ | .documentStart | .documentEnd => true
  | _ => false

/-- The events of a document with certain handles, and the tokens after it. -/
def document (handles : Handles) (ts : List Token) : Parse :=
  let bound := ts.length + 1
  match ts with
  | [] => some ([missing], [])
  | t :: _ =>
    if endsDocument t then some ([missing], ts)
    else node handles bound maxDepth true false [] ts

/-- The documents after the first one, each of them after its mark. -/
def laterDocuments : Nat → List (List (Event String)) → List Token →
    Option (List (List (Event String)))
  | 0, _, _ => none
  | bound + 1, read, ts =>
    match ts.dropWhile (· = .documentEnd) with
    | [] => some read.reverse
    | ts =>
      match directives false [] ts with
      | some (handles, .documentStart :: ts) =>
        match document handles ts with
        | some (events, ts) => laterDocuments bound (events.reverse :: read) ts
        | none => none
      | _ => none

/-- The events of each document of a text. The first one needs no mark. -/
def documents? (ts : List Token) : Option (List (List (Event String))) :=
  let bound := ts.length + 1
  match ts with
  | [] => some []
  | .directive _ :: _ | .documentStart :: _ => laterDocuments bound [] ts
  | ts =>
    match node commonHandles bound maxDepth true false [] ts with
    | some (events, ts) => laterDocuments bound [events.reverse] ts
    | none => none

end Event

end BrokerRollout.Yaml
