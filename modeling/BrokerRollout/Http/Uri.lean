/-!
# Addresses of servers

An address is a scheme and an authority with a path behind them, or an authority alone, or a path
alone. Which characters may stand where follows what servers accept in practice: a path may hold
braces and quotes, and characters beyond ASCII.
-/

namespace BrokerRollout.Http

/-- An address without its fragment. The path includes the query. -/
structure Uri where
  scheme : Option String := none
  authority : String := ""
  path : String := ""
deriving DecidableEq

namespace Uri

/-- An address has at most so many bytes. -/
def maxLength : Nat := 65534

/-- A scheme has at most so many characters. -/
def maxScheme : Nat := 64

/-! ### Scheme -/

def isSchemeChar (c : Char) : Bool := c.isAlphanum || c ∈ ['+', '-', '.', '~']

/-- The text before the first `://`, if that is there and the text could be a scheme, and the text
after it. -/
def splitScheme? (text : List Char) : Option (List Char × List Char) :=
  let scheme := text.takeWhile isSchemeChar
  match text.drop scheme.length with
  | ':' :: '/' :: '/' :: rest => if text.length ≤ 3 then none else some (scheme, rest)
  | _ => none

/-! ### Authority -/

/-- What has been seen of an authority. -/
structure Authority where
  /-- Colons that belong to no user and no bracketed host. -/
  colons : Nat := 0
  opened : Bool := false
  closed : Bool := false
  /-- A percent sign that belongs to no user and no bracketed host. -/
  percent : Bool := false
  /-- The last character was an at sign. -/
  endsAt : Bool := false

/-- The characters that may stand in an address without being encoded. -/
def isUriChar (c : Char) : Bool :=
  c.isAlphanum || c ∈ ['!', '$', '&', '\x27', '(', ')', '*', '+', ',', '-', '.', ';', '=', '_', '~']

namespace Authority

/-- Reads a further character. -/
def step (a : Authority) (c : Char) : Option Authority :=
  let a' := { a with endsAt := false }
  if c = ':' then if 8 ≤ a.colons then none else some { a' with colons := a.colons + 1 }
  else if c = '[' then if a.percent || a.opened then none else some { a' with opened := true }
  else if c = ']' then
    if !a.opened || a.closed then none
    else some { a' with closed := true, colons := 0, percent := false }
  else if c = '@' then some { a with endsAt := true, colons := 0, percent := false }
  else if c = '%' then some { a' with percent := true }
  else if isUriChar c then some a'
  else none

/-- Whether an authority may end here. -/
def isComplete (a : Authority) : Bool :=
  a.opened = a.closed && a.colons ≤ 1 && !a.endsAt && !a.percent

end Authority

/-- The authority at the start of a text, and the text after it. -/
def splitAuthority? (text : List Char) : Option (List Char × List Char) :=
  let authority := text.takeWhile fun c => !(c = '/' || c = '?' || c = '#')
  match authority.foldlM Authority.step {} with
  | some a => if a.isComplete then some (authority, text.drop authority.length) else none
  | none => none

/-! ### Path -/

/-- The characters of a query, where the first question mark has been. -/
def isQueryChar (c : Char) : Bool :=
  c = '!' || ('$' ≤ c && c ≤ ';') || c = '=' || '?' ≤ c

def isPathChar (c : Char) : Bool :=
  c = '\x22' || c = '\x7b' || c = '\x7d' || (isQueryChar c && c ≠ '?' && c ≠ '\x60')

/-- The path and the query of a text that is nothing else, without a fragment. -/
def path? (text : List Char) : Option (List Char) :=
  let text := text.takeWhile (· ≠ '#')
  let path := text.takeWhile (· ≠ '?')
  if path.all isPathChar && (text.drop path.length).all isQueryChar then some text else none

/-! ### Addresses -/

def ofPath? (text : List Char) : Option Uri :=
  (path? text).map fun path => { path := String.ofList path }

def ofAuthority? (text : List Char) : Option Uri :=
  match splitAuthority? text with
  | some (authority, []) => some { authority := String.ofList authority }
  | _ => none

/-- The address that a text is. -/
def parse? (text : String) : Option Uri :=
  if maxLength < text.utf8ByteSize then none
  else
    match text.toList with
    | [] => none
    | ['*'] => some { path := "*" }
    | '/' :: rest => ofPath? ('/' :: rest)
    | cs =>
      match splitScheme? cs with
      | none => ofAuthority? cs
      | some (scheme, rest) =>
        if maxScheme < scheme.length then none
        else
          match splitAuthority? rest with
          | none | some ([], _) => none
          | some (authority, rest) =>
            (path? rest).map fun path =>
              { scheme := some (String.ofList scheme)
                authority := String.ofList authority
                path := String.ofList path }

end Uri

end BrokerRollout.Http
