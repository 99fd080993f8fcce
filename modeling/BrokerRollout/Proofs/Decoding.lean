import BrokerRollout.Proofs.Encoding

/-!
# Lossy text and its bytes

Bytes are those of their pieces in a row (`flatMap_bytes_pieces`), and they can be cut in front of
any byte that continues no character: both parts keep their pieces (`pieces_append`). Main
statement: a text without replacement characters occurs in lossy text just where its encoding
occurs in the bytes (`infix_lossy_iff`).
-/

namespace BrokerRollout.Text

namespace Piece

/-! ### Continuation bytes -/

theorem continuation_spends (count : Nat) (low high : UInt8) (bytes : List UInt8) :
    continuation count low high bytes <+: bytes := by
  induction bytes generalizing count low high with
  | nil => simp only [continuation, List.nil_prefix]
  | cons b rest ih =>
    cases count with
    | zero => exact List.nil_prefix
    | succ count =>
      rw [continuation]
      split
      · exact (List.prefix_cons_inj b).2 (ih count 0x80 0xbf)
      · exact List.nil_prefix

/-- A run that is as long as it may be, byte by byte. -/
theorem continuation_full {count : Nat} {low high : UInt8} {bytes : List UInt8}
    (full : (continuation (count + 1) low high bytes).length = count + 1) :
    ∃ b rest, low.toNat ≤ b.toNat ∧ b.toNat ≤ high.toNat ∧
      continuation (count + 1) low high bytes = b :: continuation count 0x80 0xbf rest ∧
      (continuation count 0x80 0xbf rest).length = count := by
  cases bytes with
  | nil => cases full
  | cons b rest =>
    by_cases inside : low ≤ b ∧ b ≤ high
    · have here : continuation (count + 1) low high (b :: rest) =
          b :: continuation count 0x80 0xbf rest := if_pos inside
      rw [here] at full
      refine ⟨b, rest, ?_, ?_, here, Nat.succ.inj full⟩
      · exact UInt8.le_iff_toNat_le.1 inside.1
      · exact UInt8.le_iff_toNat_le.1 inside.2
    · rw [show continuation (count + 1) low high (b :: rest) = [] from if_neg inside] at full
      cases full

/-- No character goes on with this byte. -/
def Leads (b : UInt8) : Prop := b.toNat < 0x80 ∨ 0xbf < b.toNat

/-- Nor does a run of continuation bytes. -/
theorem continuation_append {low high : UInt8} (above : 0x80 ≤ low.toNat)
    (below : high.toNat ≤ 0xbf) {later : List UInt8} (cut : ∀ b ∈ later.head?, Leads b)
    (count : Nat) (bytes : List UInt8) :
    continuation count low high (bytes ++ later) = continuation count low high bytes := by
  induction bytes generalizing count low high with
  | nil =>
    cases later with
    | nil => rfl
    | cons b later =>
      have leads : b.toNat < 0x80 ∨ 0xbf < b.toNat := cut b rfl
      cases count with
      | zero => rfl
      | succ count =>
        refine if_neg fun inside => ?_
        have least := UInt8.le_iff_toNat_le.1 inside.1
        have most := UInt8.le_iff_toNat_le.1 inside.2
        omega
  | cons b bytes ih =>
    cases count with
    | zero => rfl
    | succ count =>
      rw [List.cons_append, continuation, continuation, ih (by decide) (by decide)]

/-! ### The bytes of pieces -/

theorem announced_range {lead low high : UInt8} {count : Nat}
    (announces : announced lead = some (count, low, high)) :
    0x80 ≤ low.toNat ∧ high.toNat ≤ 0xbf := by
  unfold announced at announces
  repeat' split at announces
  all_goals cases announces
  all_goals decide

theorem val_ofNat {n : Nat} (valid : n.isValidChar) : (Char.ofNat n).val.toNat = n := by
  rw [Char.ofNat, dif_pos valid]
  rfl

section Encoded

variable {n : Nat}

theorem encodeChar_one (high : n < 0x80) : String.utf8EncodeChar (.ofNat n) = [.ofNat n] := by
  unfold String.utf8EncodeChar
  rw [val_ofNat (.inl (by omega))]
  exact if_pos (by omega)

theorem encodeChar_two (low : 0x80 ≤ n) (high : n < 0x800) :
    String.utf8EncodeChar (.ofNat n) = [.ofNat (n / 64 % 32 + 0xc0), trailing n] := by
  unfold String.utf8EncodeChar
  rw [val_ofNat (.inl (by omega))]
  exact (if_neg (by omega)).trans (if_pos (by omega))

theorem encodeChar_three (low : 0x800 ≤ n) (high : n < 0x10000) (valid : n.isValidChar) :
    String.utf8EncodeChar (.ofNat n) =
      [.ofNat (n / 4096 % 16 + 0xe0), trailing (n / 64), trailing n] := by
  unfold String.utf8EncodeChar
  rw [val_ofNat valid]
  exact (if_neg (by omega)).trans ((if_neg (by omega)).trans (if_pos (by omega)))

theorem encodeChar_four (low : 0x10000 ≤ n) (high : n < 0x110000) :
    String.utf8EncodeChar (.ofNat n) =
      [.ofNat (n / 262144 % 8 + 0xf0), trailing (n / 4096), trailing (n / 64), trailing n] := by
  unfold String.utf8EncodeChar
  rw [val_ofNat (.inr (by omega))]
  exact (if_neg (by omega)).trans ((if_neg (by omega)).trans (if_neg (by omega)))

end Encoded

theorem ofNat_eq {b : UInt8} {n : Nat} (same : n = b.toNat) : UInt8.ofNat n = b := by
  rw [same, UInt8.ofNat_toNat]

theorem trailing_eq {b : UInt8} {n : Nat} (above : 0x80 ≤ b.toNat) (below : b.toNat ≤ 0xbf)
    (same : n % 64 = b.toNat % 64) : trailing n = b :=
  ofNat_eq (by omega)

section CodePoint

variable {lead b b' b'' : UInt8}

theorem encodeChar_codePoint_two (low : 0xc2 ≤ lead.toNat) (high : lead.toNat < 0xe0)
    (above : 0x80 ≤ b.toNat) (below : b.toNat ≤ 0xbf) :
    String.utf8EncodeChar (.ofNat (codePoint lead [b])) = [lead, b] := by
  rw [show codePoint lead [b] = lead.toNat % 32 * 64 + b.toNat % 64 from rfl,
    encodeChar_two (by omega) (by omega), ofNat_eq (b := lead) (by omega),
    trailing_eq above below (by omega)]

theorem encodeChar_codePoint_three (low : 0xe0 ≤ lead.toNat) (high : lead.toNat < 0xf0)
    (above : 0x80 ≤ b.toNat ∧ (lead.toNat = 0xe0 → 0xa0 ≤ b.toNat))
    (below : b.toNat ≤ 0xbf ∧ (lead.toNat = 0xed → b.toNat ≤ 0x9f))
    (above' : 0x80 ≤ b'.toNat) (below' : b'.toNat ≤ 0xbf) :
    String.utf8EncodeChar (.ofNat (codePoint lead [b, b'])) = [lead, b, b'] := by
  rw [show codePoint lead [b, b'] =
      (lead.toNat % 16 * 64 + b.toNat % 64) * 64 + b'.toNat % 64 from rfl,
    encodeChar_three (by omega) (by omega) (by unfold Nat.isValidChar; omega),
    ofNat_eq (b := lead) (by omega), trailing_eq above.1 below.1 (by omega),
    trailing_eq above' below' (by omega)]

theorem encodeChar_codePoint_four (low : 0xf0 ≤ lead.toNat) (high : lead.toNat ≤ 0xf4)
    (above : 0x80 ≤ b.toNat ∧ (lead.toNat = 0xf0 → 0x90 ≤ b.toNat))
    (below : b.toNat ≤ 0xbf ∧ (lead.toNat = 0xf4 → b.toNat ≤ 0x8f))
    (above' : 0x80 ≤ b'.toNat) (below' : b'.toNat ≤ 0xbf)
    (above'' : 0x80 ≤ b''.toNat) (below'' : b''.toNat ≤ 0xbf) :
    String.utf8EncodeChar (.ofNat (codePoint lead [b, b', b''])) = [lead, b, b', b''] := by
  rw [show codePoint lead [b, b', b''] = ((lead.toNat % 8 * 64 + b.toNat % 64) * 64 +
      b'.toNat % 64) * 64 + b''.toNat % 64 from rfl,
    encodeChar_four (by omega) (by omega), ofNat_eq (b := lead) (by omega),
    trailing_eq above.1 below.1 (by omega), trailing_eq above' below' (by omega),
    trailing_eq above'' below'' (by omega)]

end CodePoint

theorem announced_none {lead : UInt8}
    (stray : 0x80 ≤ lead.toNat ∧ lead.toNat < 0xc2 ∨ 0xf4 < lead.toNat) :
    announced lead = none := by
  simp only [announced, UInt8.lt_iff_toNat_lt, ← UInt8.toNat_inj, UInt8.toNat_ofNat]
  rcases stray with ⟨low, high⟩ | beyond
  · rw [if_neg (by omega), if_pos high]
  · repeat rw [if_neg (by omega)]

/-- A character that is read off bytes is encoded by them. -/
theorem encodeChar_codePoint {lead low high : UInt8} {count : Nat} {bytes : List UInt8}
    (announces : announced lead = some (count, low, high))
    (full : (continuation count low high bytes).length = count) :
    String.utf8EncodeChar (.ofNat (codePoint lead (continuation count low high bytes))) =
      lead :: continuation count low high bytes := by
  by_cases one : lead.toNat < 0x80
  · rw [announced_one one] at announces
    cases announces
    rw [continuation_zero, show codePoint lead [] = lead.toNat from rfl, encodeChar_one one,
      UInt8.ofNat_toNat]
  by_cases stray : lead.toNat < 0xc2 ∨ 0xf4 < lead.toNat
  · rw [announced_none (by omega)] at announces
    cases announces
  by_cases two : lead.toNat < 0xe0
  · rw [announced_two (by omega) two] at announces
    cases announces
    obtain ⟨b, rest, above, below, run, -⟩ := continuation_full full
    rw [run, continuation_zero]
    exact encodeChar_codePoint_two (by omega) two above below
  by_cases three : lead.toNat < 0xf0
  · rw [announced_three (by omega) three] at announces
    cases announces
    obtain ⟨b, rest, above, below, run, full⟩ := continuation_full full
    obtain ⟨b', rest', above', below', run', -⟩ := continuation_full full
    rw [run, run', continuation_zero]
    refine encodeChar_codePoint_three (by omega) three ?_ ?_ above' below'
    · split at above <;> simp only [UInt8.toNat_ofNat] at above <;> omega
    · split at below <;> simp only [UInt8.toNat_ofNat] at below <;> omega
  · rw [announced_four (by omega) (by omega)] at announces
    cases announces
    obtain ⟨b, rest, above, below, run, full⟩ := continuation_full full
    obtain ⟨b', rest', above', below', run', full⟩ := continuation_full full
    obtain ⟨b'', rest'', above'', below'', run'', -⟩ := continuation_full full
    rw [run, run', run'', continuation_zero]
    refine encodeChar_codePoint_four (by omega) (by omega) ?_ ?_ above' below' above'' below''
    · split at above <;> simp only [UInt8.toNat_ofNat] at above <;> omega
    · split at below <;> simp only [UInt8.toNat_ofNat] at below <;> omega

/-- The bytes of a piece. -/
def bytes : Piece → List UInt8
  | char c => String.utf8EncodeChar c
  | invalid bytes => bytes

theorem first_spends (lead : UInt8) (rest : List UInt8) : (first lead rest).2 <+: rest := by
  unfold first
  split
  · exact List.nil_prefix
  · dsimp only
    split <;> exact continuation_spends ..

theorem bytes_first (lead : UInt8) (rest : List UInt8) :
    (first lead rest).1.bytes = lead :: (first lead rest).2 := by
  unfold first
  split
  · rfl
  · next announces =>
    dsimp only
    split
    · next full => exact encodeChar_codePoint announces full
    · rfl

theorem first_append {later : List UInt8} (cut : ∀ b ∈ later.head?, Leads b) (lead : UInt8)
    (rest : List UInt8) : first lead (rest ++ later) = first lead rest := by
  unfold first
  split
  · rfl
  · next announces =>
    obtain ⟨above, below⟩ := announced_range announces
    rw [continuation_append above below cut]

end Piece

open Piece

theorem pieces_cons (lead : UInt8) (rest : List UInt8) :
    pieces (lead :: rest) =
      (first lead rest).1 :: pieces (rest.drop (first lead rest).2.length) := by
  rw [pieces]

/-- No byte is lost: each belongs to the piece that it is in. -/
theorem flatMap_bytes_pieces (bytes : List UInt8) :
    (pieces bytes).flatMap Piece.bytes = bytes := by
  induction bytes using pieces.induct with
  | case1 => rw [pieces, List.flatMap_nil]
  | case2 lead rest piece used here ih =>
    have starts := bytes_first lead rest
    have follows := List.prefix_iff_eq_append.1 (first_spends lead rest)
    rw [here] at starts follows
    rw [pieces_cons, here, List.flatMap_cons, ih, starts, List.cons_append, follows]

/-- No piece reaches over a byte that continues no character. -/
theorem pieces_append {later : List UInt8} (cut : ∀ b ∈ later.head?, Leads b)
    (bytes : List UInt8) : pieces (bytes ++ later) = pieces bytes ++ pieces later := by
  induction bytes using pieces.induct with
  | case1 => rw [pieces, List.nil_append, List.nil_append]
  | case2 lead rest piece used here ih =>
    have within := (first_spends lead rest).length_le
    rw [here] at within
    rw [List.cons_append, pieces_cons, first_append cut, here, List.drop_append_of_le_length within,
      ih, pieces_cons, here, List.cons_append]

theorem pieces_encoded_append (cs : List Char) (rest : List UInt8) :
    pieces (encoded cs ++ rest) = cs.map .char ++ pieces rest := by
  induction cs with
  | nil => rfl
  | cons c cs ih => rw [encoded_cons, List.append_assoc, pieces_encoded, ih, List.map_cons,
      List.cons_append]

/-- A character's encoding begins with a byte that continues no other. -/
theorem encodeChar_leads (c : Char) :
    ∃ lead tail, String.utf8EncodeChar c = lead :: tail ∧ Leads lead := by
  have lead {n : Nat} (small : n < 256) (here : n < 0x80 ∨ 0xbf < n) : Leads (.ofNat n) := by
    rwa [Leads, UInt8.toNat_ofNat_of_lt' small]
  unfold String.utf8EncodeChar
  extract_lets v
  split
  · exact ⟨_, _, rfl, lead (by omega) (by omega)⟩
  split
  · exact ⟨_, _, rfl, lead (by omega) (by omega)⟩
  split
  · exact ⟨_, _, rfl, lead (by omega) (by omega)⟩
  · exact ⟨_, _, rfl, lead (by omega) (by omega)⟩

/-- What a piece is in lossy text. -/
def Piece.shown (piece : Piece) : Char := piece.char?.getD '\ufffd'

theorem toList_lossy (bytes : List UInt8) :
    (lossy bytes).toList = (pieces bytes).map Piece.shown :=
  String.toList_ofList

theorem map_shown_chars (cs : List Char) : (cs.map Piece.char).map Piece.shown = cs := by
  rw [List.map_map]
  exact List.map_id _

theorem lossy_utf8 (s : String) : lossy (utf8 s) = s := by
  rw [← String.toList_inj, toList_lossy, pieces_utf8, map_shown_chars]

/-- Only whole characters are shown as anything but a replacement character. -/
theorem eq_chars_of_shown {found : List Piece} (solid : '\ufffd' ∉ found.map Piece.shown) :
    found = (found.map Piece.shown).map .char := by
  induction found with
  | nil => rfl
  | cons piece found ih =>
    rw [List.map_cons, List.mem_cons, not_or] at solid
    rw [List.map_cons, List.map_cons, ← ih solid.2]
    cases piece with
    | char c => rfl
    | invalid bytes => exact absurd rfl solid.1

/-- The encoding of a text without replacement characters occurs in the bytes just where the text
occurs in the lossy text. -/
theorem infix_lossy_iff {part : List Char} (solid : '\ufffd' ∉ part) {bytes : List UInt8} :
    part <:+: (lossy bytes).toList ↔ encoded part <:+: bytes := by
  rw [toList_lossy]
  constructor
  · intro occurs
    obtain ⟨found, ⟨before, after, split⟩, rfl⟩ := List.infix_map_iff.1 occurs
    have whole := flatMap_bytes_pieces bytes
    rw [← split, List.flatMap_append, List.flatMap_append] at whole
    have same : encoded (found.map Piece.shown) = found.flatMap Piece.bytes :=
      calc encoded (found.map Piece.shown)
        _ = ((found.map Piece.shown).map .char).flatMap Piece.bytes :=
          (List.flatMap_map Piece.char Piece.bytes _).symm
        _ = found.flatMap Piece.bytes := by rw [← eq_chars_of_shown solid]
    rw [same]
    exact ⟨_, _, whole⟩
  · rintro ⟨before, after, rfl⟩
    cases part with
    | nil => exact List.nil_infix
    | cons c cs =>
      obtain ⟨lead, tail, starts, leads⟩ := encodeChar_leads c
      have cut : ∀ b ∈ (encoded (c :: cs) ++ after).head?, Leads b := by
        simpa [encoded_cons, starts] using leads
      rw [List.append_assoc, pieces_append cut, pieces_encoded_append, List.map_append,
        List.map_append, map_shown_chars]
      exact List.infix_append' _ _ _

end BrokerRollout.Text
