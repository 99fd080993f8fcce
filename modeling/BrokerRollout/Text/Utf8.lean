/-!
# UTF-8 in raw bytes

A byte sequence is cut into characters and maximal invalid stretches: a stretch is the longest
beginning of some character's encoding that is followed by something else, or one byte that begins
no encoding. Lossy text has one replacement character for each stretch.
-/

namespace BrokerRollout.Text

/-- A piece of a byte sequence: an encoded character or a stretch that encodes none. -/
inductive Piece where
  | char (c : Char)
  | invalid (bytes : List UInt8)
deriving DecidableEq

namespace Piece

/-- What a lead byte announces: how many bytes follow it, and the range of the first of them. -/
def announced (lead : UInt8) : Option (Nat × UInt8 × UInt8) :=
  if lead < 0x80 then some (0, 0x80, 0xbf)
  else if lead < 0xc2 then none
  else if lead < 0xe0 then some (1, 0x80, 0xbf)
  else if lead = 0xe0 then some (2, 0xa0, 0xbf)
  else if lead = 0xed then some (2, 0x80, 0x9f)
  else if lead < 0xf0 then some (2, 0x80, 0xbf)
  else if lead = 0xf0 then some (3, 0x90, 0xbf)
  else if lead < 0xf4 then some (3, 0x80, 0xbf)
  else if lead = 0xf4 then some (3, 0x80, 0x8f)
  else none

/-- The longest run of at most `count` continuation bytes at the start of the bytes, the first of
them between `low` and `high`. -/
def continuation (count : Nat) (low high : UInt8) : List UInt8 → List UInt8
  | [] => []
  | b :: rest =>
    match count with
    | 0 => []
    | count + 1 =>
      if low ≤ b ∧ b ≤ high then b :: continuation count 0x80 0xbf rest else []

/-- The code point that a lead byte and its continuation bytes encode. -/
def codePoint (lead : UInt8) (rest : List UInt8) : Nat :=
  let bits := match rest.length with
    | 0 => lead.toNat
    | 1 => lead.toNat % 32
    | 2 => lead.toNat % 16
    | _ => lead.toNat % 8
  rest.foldl (fun n b => n * 64 + b.toNat % 64) bits

/-- The piece that starts with a byte, and the bytes after it that belong to the piece. -/
def first (lead : UInt8) (rest : List UInt8) : Piece × List UInt8 :=
  match announced lead with
  | none => (.invalid [lead], [])
  | some (count, low, high) =>
    let tail := continuation count low high rest
    if tail.length = count then (.char (Char.ofNat (codePoint lead tail)), tail)
    else (.invalid (lead :: tail), tail)

end Piece

/-- The pieces of a byte sequence, in order. -/
def pieces : List UInt8 → List Piece
  | [] => []
  | lead :: rest =>
    let (piece, used) := Piece.first lead rest
    piece :: pieces (rest.drop used.length)
termination_by bytes => bytes.length
decreasing_by simp only [List.length_drop, List.length_cons]; omega

/-- The encoded character, if the piece is one. -/
def Piece.char? : Piece → Option Char
  | .char c => some c
  | .invalid _ => none

/-- The text of the bytes, with U+FFFD for each invalid stretch. -/
def lossy (bytes : List UInt8) : String :=
  String.ofList ((pieces bytes).map fun piece => piece.char?.getD '\ufffd')

/-- The UTF-8 encoding of a text. -/
def utf8 (s : String) : List UInt8 := s.toUTF8.data.toList

/-- What is wrong with bytes that hold more than encoded characters: a stretch of some length at
some offset, or a last character that is cut short. -/
inductive Fault where
  | stretch (offset length : Nat)
  | incomplete (offset : Nat)
deriving DecidableEq

def Fault.message : Fault → String
  | .stretch offset length =>
    s!"invalid utf-8 sequence of {length} bytes from index {offset}"
  | .incomplete offset => s!"incomplete utf-8 byte sequence from index {offset}"

/-- The first fault among pieces that start at `offset`. -/
def firstFault? (offset : Nat) : List Piece → Option Fault
  | [] => none
  | .char c :: rest => firstFault? (offset + c.utf8Size) rest
  | .invalid bytes :: rest =>
    if rest.isEmpty && (bytes.head?.bind Piece.announced).isSome then some (.incomplete offset)
    else some (.stretch offset bytes.length)

/-- The text of the bytes, or their first fault. -/
def ofUtf8 (bytes : List UInt8) : Except Fault String :=
  match firstFault? 0 (pieces bytes) with
  | some fault => .error fault
  | none => .ok (lossy bytes)

/-- `part` occurs in `whole` as an unbroken stretch. -/
def occursIn {α : Type} [BEq α] (part : List α) : List α → Bool
  | [] => part.isEmpty
  | c :: rest => part.isPrefixOf (c :: rest) || occursIn part rest

theorem occursIn_iff {α : Type} [BEq α] [LawfulBEq α] {part whole : List α} :
    occursIn part whole = true ↔ part <:+: whole := by
  induction whole with
  | nil => rw [occursIn, List.isEmpty_iff, List.infix_nil]
  | cons c rest ih =>
    rw [occursIn, Bool.or_eq_true, ih, List.isPrefixOf_iff_prefix, List.infix_cons_iff]

end BrokerRollout.Text
