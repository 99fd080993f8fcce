import BrokerRollout.Json.Fault

/-!
# Places in a JSON document

A cursor stands between two bytes of a document. A reader takes what comes next at the cursor and
moves it on, or finds a fault. Some faults are where the cursor stands, others behind the byte that
comes next, at which the reader only looked.
-/

namespace BrokerRollout.Json

structure Cursor where
  rest : List UInt8
  /-- The length of the document, which bounds the steps to its end. -/
  size : Nat
  line : Nat := 1
  column : Nat := 0

namespace Cursor

def ofBytes (bytes : List UInt8) : Cursor where
  rest := bytes
  size := bytes.length

/-- The character whose number a byte is. -/
def char (b : UInt8) : Char := Char.ofNat b.toNat

/-- The byte that comes next. -/
def head? (c : Cursor) : Option Char := c.rest.head?.map char

/-- Behind the byte that comes next, if there is one. -/
def next (c : Cursor) : Cursor :=
  match c.rest with
  | [] => c
  | b :: rest =>
    if b = 0x0a then { c with rest, line := c.line + 1, column := 0 }
    else { c with rest, column := c.column + 1 }

/-- Behind the next `n` bytes, or at the end if there are fewer. -/
def skip (n : Nat) (c : Cursor) : Cursor := n.repeat next c

/-- The longest run of characters of a kind that comes next. -/
def run (kind : Char → Bool) (c : Cursor) : List Char :=
  (c.rest.takeWhile fun b => kind (char b)).map char

/-- The fault at the cursor. -/
def fault (reason : Reason) (c : Cursor) : Fault := ⟨reason, c.line, c.column⟩

def isBlank (ch : Char) : Bool := ch = ' ' || ch = '\n' || ch = '\t' || ch = '\r'

def skipBlank (c : Cursor) : Cursor := c.skip (c.run isBlank).length

/-- Where the cursor comes to when an object is given up: behind its end if that is next. -/
def leaveObject (c : Cursor) : Cursor :=
  let c := c.skipBlank
  if c.head? = some '\x7d' then c.next else c

/-- Where the cursor comes to when a list is given up: behind its end if that is next, or before
what follows a comma. -/
def leaveList (c : Cursor) : Cursor :=
  let c := c.skipBlank
  match c.head? with
  | some ']' => c.next
  | some ',' => c.next.skipBlank
  | _ => c

end Cursor

/-- Something that reads on from a cursor. -/
abbrev Reader := StateT Cursor (Except Fault)

namespace Reader

variable {α : Type}

/-- The fault is where the cursor stands. -/
def fail (reason : Reason) : Reader α := fun c => .error (c.fault reason)

/-- The fault is behind the byte that comes next. -/
def failAhead (reason : Reason) : Reader α := fun c => .error (c.next.fault reason)

def peek : Reader (Option Char) := return (← get).head?

def step : Reader Unit := modify Cursor.next

/-- The byte that comes next, and the cursor behind it. -/
def next : Reader (Option Char) := do
  let c ← peek
  step
  return c

/-- The first byte that is not blank. -/
def peekSolid : Reader (Option Char) := do
  modify Cursor.skipBlank
  peek

/-- More than the number of bytes that can still be read. -/
def bound : Reader Nat := return (← get).size + 1

/-- The digits that come next. -/
def digits : Reader (List Char) := do
  let ds := (← get).run Char.isDigit
  modify (Cursor.skip ds.length)
  return ds

end Reader

end BrokerRollout.Json
