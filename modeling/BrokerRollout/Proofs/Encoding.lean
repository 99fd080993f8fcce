import BrokerRollout.Text.Utf8

/-!
# Text and its encoding

The pieces of a text's encoding are its characters (`pieces_utf8`), so that the encoding reads back
as the text (`ofUtf8_utf8`).
-/

namespace BrokerRollout.Text

namespace Piece

/-! ### Lead bytes -/

section Lead

variable {lead : UInt8}

theorem announced_one (high : lead.toNat < 0x80) : announced lead = some (0, 0x80, 0xbf) := by
  simp only [announced, UInt8.lt_iff_toNat_lt, UInt8.toNat_ofNat]
  rw [if_pos high]

theorem announced_two (low : 0xc2 ≤ lead.toNat) (high : lead.toNat < 0xe0) :
    announced lead = some (1, 0x80, 0xbf) := by
  simp only [announced, UInt8.lt_iff_toNat_lt, UInt8.toNat_ofNat]
  rw [if_neg (by omega), if_neg (by omega), if_pos high]

theorem announced_three (low : 0xe0 ≤ lead.toNat) (high : lead.toNat < 0xf0) :
    announced lead = some (2, if lead.toNat = 0xe0 then 0xa0 else 0x80,
      if lead.toNat = 0xed then 0x9f else 0xbf) := by
  simp only [announced, UInt8.lt_iff_toNat_lt, ← UInt8.toNat_inj, UInt8.toNat_ofNat]
  rw [if_neg (by omega), if_neg (by omega), if_neg (by omega)]
  split
  · next first => rw [if_neg (by omega)]
  split <;> rfl

theorem announced_four (low : 0xf0 ≤ lead.toNat) (high : lead.toNat ≤ 0xf4) :
    announced lead = some (3, if lead.toNat = 0xf0 then 0x90 else 0x80,
      if lead.toNat = 0xf4 then 0x8f else 0xbf) := by
  simp only [announced, UInt8.lt_iff_toNat_lt, ← UInt8.toNat_inj, UInt8.toNat_ofNat]
  rw [if_neg (by omega), if_neg (by omega), if_neg (by omega), if_neg (by omega), if_neg (by omega),
    if_neg (by omega)]
  split
  · next first => rw [if_neg (by omega)]
  split
  · next middle => rw [if_neg (by omega)]
  rw [if_pos (by omega), if_pos (by omega)]

end Lead

/-! ### Continuation bytes -/

/-- The continuation byte that holds the last six bits of a number. -/
def trailing (n : Nat) : UInt8 := .ofNat (n % 64 + 0x80)

theorem trailing_toNat (n : Nat) : (trailing n).toNat = n % 64 + 0x80 := by
  rw [trailing, UInt8.toNat_ofNat']
  omega

theorem continuation_zero (low high : UInt8) (bytes : List UInt8) :
    continuation 0 low high bytes = [] := by
  cases bytes <;> rfl

theorem continuation_trailing {count n : Nat} {low high : UInt8} (rest : List UInt8)
    (above : low.toNat ≤ n % 64 + 0x80) (below : n % 64 + 0x80 ≤ high.toNat) :
    continuation (count + 1) low high (trailing n :: rest) =
      trailing n :: continuation count 0x80 0xbf rest := by
  rw [← trailing_toNat] at above below
  exact if_pos ⟨UInt8.le_iff_toNat_le.2 above, UInt8.le_iff_toNat_le.2 below⟩

/-- Only the first of them can be out of range. -/
theorem continuation_all {n : Nat} (ns : List Nat) {low high : UInt8} (rest : List UInt8)
    (above : low.toNat ≤ n % 64 + 0x80) (below : n % 64 + 0x80 ≤ high.toNat) :
    continuation (ns.length + 1) low high (trailing n :: (ns.map trailing ++ rest)) =
      trailing n :: ns.map trailing := by
  rw [continuation_trailing _ above below]
  refine congrArg _ ?_
  clear above below
  induction ns with
  | nil => exact continuation_zero ..
  | cons m ns ih =>
    rw [List.length_cons, List.map_cons, List.cons_append, continuation_trailing, ih]
    · exact Nat.le_add_left ..
    · exact Nat.add_le_add_right (Nat.le_of_lt_succ (Nat.mod_lt m (by decide))) _

end Piece

open Piece

/-- A lead byte and the bytes that it announces are one piece. -/
theorem pieces_lead {c : Char} {lead low high : UInt8} (tail rest : List UInt8)
    (announces : announced lead = some (tail.length, low, high))
    (continues : continuation tail.length low high (tail ++ rest) = tail)
    (point : codePoint lead tail = c.val.toNat) :
    pieces (lead :: (tail ++ rest)) = .char c :: pieces rest := by
  have same : Char.ofNat (codePoint lead tail) = c := point ▸ Char.ofNat_toNat c
  rw [pieces, Piece.first, announces]
  simp only [continues, same, if_pos, List.drop_left]

/-- A character's encoding is one piece. Each case is one length of encodings; the restrictions on
second bytes keep out what a shorter encoding has and what is no character. -/
theorem pieces_encoded (c : Char) (rest : List UInt8) :
    pieces (String.utf8EncodeChar c ++ rest) = .char c :: pieces rest := by
  have valid : c.val.toNat < 0xd800 ∨ 0xdfff < c.val.toNat ∧ c.val.toNat < 0x110000 := c.valid
  have lead {n : Nat} (small : n < 256) : (UInt8.ofNat n).toNat = n :=
    UInt8.toNat_ofNat_of_lt' small
  unfold String.utf8EncodeChar
  extract_lets v
  have same : c.val.toNat = v := rfl
  rw [same] at valid
  split
  case isTrue one =>
    have first := lead (n := v) (by omega)
    exact pieces_lead [] rest (announced_one (by omega)) (continuation_zero ..) first
  split
  case isTrue two =>
    have first := lead (n := v / 64 % 32 + 0xc0) (by omega)
    refine pieces_lead [trailing v] rest (announced_two (by omega) (by omega)) ?_ ?_
    · refine continuation_all [] rest ?_ ?_ <;> simp only [UInt8.toNat_ofNat] <;> omega
    · simp only [codePoint, List.length_cons, List.length_nil, List.foldl_cons, List.foldl_nil,
        first, trailing_toNat, same]
      omega
  split
  case isTrue three =>
    have first := lead (n := v / 4096 % 16 + 0xe0) (by omega)
    refine pieces_lead [trailing (v / 64), trailing v] rest
      (announced_three (by omega) (by omega)) ?_ ?_
    · rw [first]
      refine continuation_all [v] rest ?_ ?_ <;> split <;> simp only [UInt8.toNat_ofNat] <;> omega
    · simp only [codePoint, List.length_cons, List.length_nil, List.foldl_cons, List.foldl_nil,
        first, trailing_toNat, same]
      omega
  have first := lead (n := v / 262144 % 8 + 0xf0) (by omega)
  refine pieces_lead [trailing (v / 4096), trailing (v / 64), trailing v] rest
    (announced_four (by omega) (by omega)) ?_ ?_
  · rw [first]
    refine continuation_all [v / 64, v] rest ?_ ?_ <;> split <;> simp only [UInt8.toNat_ofNat] <;>
      omega
  · simp only [codePoint, List.length_cons, List.length_nil, List.foldl_cons, List.foldl_nil,
      first, trailing_toNat, same]
    omega

/-- Only characters of ASCII are encoded by bytes of ASCII. -/
theorem mem_utf8EncodeChar {c : Char} {b : UInt8} (member : b ∈ String.utf8EncodeChar c) :
    (c.toNat < 0x80 ∧ b = c.toNat.toUInt8) ∨ 0x80 ≤ b.toNat := by
  have high {n : Nat} (above : 0x80 ≤ n) (small : n < 256) : 0x80 ≤ (UInt8.ofNat n).toNat := by
    rwa [UInt8.toNat_ofNat_of_lt' small]
  unfold String.utf8EncodeChar at member
  extract_lets v at member
  split at member
  · next one => exact .inl ⟨Nat.lt_succ_of_le one, List.mem_singleton.1 member⟩
  refine .inr ?_
  split at member
  · simp only [List.mem_cons, List.not_mem_nil, or_false] at member
    rcases member with rfl | rfl <;> exact high (by omega) (by omega)
  split at member
  · simp only [List.mem_cons, List.not_mem_nil, or_false] at member
    rcases member with rfl | rfl | rfl <;> exact high (by omega) (by omega)
  · simp only [List.mem_cons, List.not_mem_nil, or_false] at member
    rcases member with rfl | rfl | rfl | rfl <;> exact high (by omega) (by omega)

/-! ### Whole texts -/

/-- The encoding of characters in a row. -/
def encoded (cs : List Char) : List UInt8 := cs.flatMap String.utf8EncodeChar

theorem encoded_cons (c : Char) (cs : List Char) :
    encoded (c :: cs) = String.utf8EncodeChar c ++ encoded cs := List.flatMap_cons ..

theorem encoded_append (cs ds : List Char) : encoded (cs ++ ds) = encoded cs ++ encoded ds :=
  List.flatMap_append ..

/-- The byte that a character of ASCII is encoded by. -/
def byte (c : Char) : UInt8 := c.toNat.toUInt8

theorem encoded_ascii {cs : List Char} (ascii : ∀ c ∈ cs, c.toNat < 0x80) :
    encoded cs = cs.map byte := by
  induction cs with
  | nil => rfl
  | cons c cs ih =>
    obtain ⟨here, ascii⟩ := List.forall_mem_cons.1 ascii
    have single : String.utf8EncodeChar c = [byte c] := if_pos (Nat.le_of_lt_succ here)
    rw [encoded_cons, single, ih ascii]
    rfl

theorem utf8_eq (s : String) : utf8 s = encoded s.toList := by
  rw [utf8, String.toUTF8_eq_toByteArray, ← String.utf8Encode_toList, List.utf8Encode,
    List.toList_data_toByteArray]
  rfl

theorem utf8_ofList (cs : List Char) : utf8 (.ofList cs) = encoded cs := by
  rw [utf8_eq, String.toList_ofList]

theorem utf8_append (s t : String) : utf8 (s ++ t) = utf8 s ++ utf8 t := by
  rw [utf8_eq, String.toList_append, encoded_append, ← utf8_eq, ← utf8_eq]

theorem length_utf8 (s : String) : (utf8 s).length = s.utf8ByteSize := by
  rw [utf8, Array.length_toList]
  rfl

theorem pieces_utf8 (s : String) : pieces (utf8 s) = s.toList.map .char := by
  rw [utf8_eq]
  induction s.toList with
  | nil => rw [encoded, List.flatMap_nil, pieces, List.map_nil]
  | cons c cs ih => rw [encoded_cons, pieces_encoded, ih, List.map_cons]

theorem firstFault?_chars (offset : Nat) (cs : List Char) :
    firstFault? offset (cs.map .char) = none := by
  induction cs generalizing offset with
  | nil => rfl
  | cons c cs ih => exact ih _

/-- The encoding of a text reads back as the text. -/
theorem ofUtf8_utf8 (s : String) : ofUtf8 (utf8 s) = .ok s := by
  rw [ofUtf8, lossy, pieces_utf8, firstFault?_chars, List.map_map]
  exact congrArg Except.ok ((congrArg String.ofList (List.map_id _)).trans String.ofList_toList)

end BrokerRollout.Text
