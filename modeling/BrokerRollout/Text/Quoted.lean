import BrokerRollout.Text.Unseen

/-!
# Quoted text

Text between double quotes, as diagnostics show it. The quote, the backslash and the usual control
characters get a short escape, other characters that cannot be seen on their own get their number,
and all else, the single quote included, stands for itself.
-/

namespace BrokerRollout.Text

/-- The code point of `c` as an escape, in lower-case hexadecimal. -/
def numberEscape (c : Char) : List Char :=
  ['\\', 'u', '\x7b'] ++ Nat.toDigits 16 c.toNat ++ ['\x7d']

/-- How `c` is written between double quotes. -/
def escape (c : Char) : List Char :=
  if c = '\x22' then ['\\', '\x22']
  else if c = '\\' then ['\\', '\\']
  else if c = '\n' then ['\\', 'n']
  else if c = '\t' then ['\\', 't']
  else if c = '\r' then ['\\', 'r']
  else if c = '\x00' then ['\\', '0']
  else if isGlyphless c || isExtending c then numberEscape c
  else [c]

/-- `s` between double quotes. -/
def quote (s : String) : String :=
  String.ofList ('\x22' :: s.toList.flatMap escape ++ ['\x22'])

/-- Quoted texts between brackets. -/
def quoteAll (texts : List String) : String :=
  "[" ++ ", ".intercalate (texts.map quote) ++ "]"

/-- `Some(…)` or `None`, by a text for the value. -/
def optional (text : Option String) : String :=
  match text with
  | some t => "Some(" ++ t ++ ")"
  | none => "None"

/-- A record's name and its fields between braces. -/
def record (name : String) (fields : List (String × String)) : String :=
  name ++ " \x7b " ++ ", ".intercalate (fields.map fun (field, text) => field ++ ": " ++ text)
    ++ " \x7d"

end BrokerRollout.Text
