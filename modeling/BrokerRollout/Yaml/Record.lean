import BrokerRollout.Yaml.Value

/-!
# Records in YAML

A record is read from a table by the names of its fields. Nothing reads as a table or list without
entries. Tags do not matter, except that a tagged null is not a missing value. A field that is known
stands there once; fields that are not known are passed over.
-/

namespace BrokerRollout.Yaml.Value

def untagged : Value → Value
  | tagged _ v => untagged v
  | v => v

def text? (v : Value) : Option String :=
  match v.untagged with
  | string text => some text
  | _ => none

def flag? (v : Value) : Option Bool :=
  match v.untagged with
  | boolean b => some b
  | _ => none

/-- A value that may be missing. -/
def optional? {α : Type} (read : Value → Option α) : Value → Option (Option α)
  | null => some none
  | v => (read v).map some

def list? {α : Type} (read : Value → Option α) (v : Value) : Option (List α) :=
  match v.untagged with
  | null => some []
  | list items => items.mapM read
  | _ => none

/-- The fields of a record: all keys are texts. -/
def fields? (v : Value) : Option (List (String × Value)) :=
  match v.untagged with
  | null => some []
  | table entries => entries.mapM fun (key, value) => key.text?.map (·, value)
  | _ => none

/-- A table of texts, in which later entries count. -/
def texts? (v : Value) : Option (List (String × String)) := do
  let fields ← v.fields?
  let entries ← fields.mapM fun (key, value) => value.text?.map (key, ·)
  return entries.reverse

/-- One of the words that an enumeration has, as a text or as a tag of nothing. -/
def word? (words : List String) : Value → Option String
  | string word => if word ∈ words then some word else none
  | tagged word null => if word ∈ words then some word else none
  | _ => none

mutual

/-- Whether the value could be JSON: without tags, and with texts for all keys. -/
def isJson : Value → Bool
  | tagged _ _ => false
  | list items => isJsonItems items
  | table entries => isJsonEntries entries
  | _ => true

def isJsonItems : List Value → Bool
  | [] => true
  | v :: rest => isJson v && isJsonItems rest

def isJsonEntries : List (Value × Value) → Bool
  | [] => true
  | (key, v) :: rest => key.text?.isSome && isJson v && isJsonEntries rest

end

/-! ### Fields -/

/-- A field that has to be there. -/
def required {α : Type} (name : String) (read : Value → Option α) (fields : List (String × Value)) :
    Option α :=
  match fields.filter (·.1 = name) with
  | [(_, v)] => read v
  | _ => none

/-- A field that may be missing, which then has a default. -/
def defaulted {α : Type} (name : String) (default : α) (read : Value → Option α)
    (fields : List (String × Value)) : Option α :=
  if fields.any (·.1 = name) then required name read fields else some default

/-- A field that may be missing or null. -/
def field {α : Type} (name : String) (read : Value → Option α) (fields : List (String × Value)) :
    Option (Option α) :=
  defaulted name none (optional? read) fields

end BrokerRollout.Yaml.Value
