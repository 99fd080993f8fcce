import BrokerRollout.Json.Skip
import BrokerRollout.Proofs.Encoding

/-!
# Values without parts and their text

What is read from the text of a string or a natural number is that string or number
(`reads_string`, `reads_number`). All statements are of the form that a reader, at a place of a
document that goes on in some way, reads a value and stops where the document goes on in another.
-/

namespace BrokerRollout.Json

open Text (utf8 encoded byte)

/-! ### Readers that succeed -/

/-- Where a document of length `n` goes on with `before`, the reader comes to read `a` and stops
where it goes on with `after`. -/
def Reads {α : Type} (x : Reader α) (n : Nat) (before : List UInt8) (a : α) (after : List UInt8) :
    Prop :=
  ∀ c : Cursor, c.rest = before → c.size = n →
    ∃ c' : Cursor, x.run c = .ok (a, c') ∧ c'.rest = after ∧ c'.size = n

section

variable {α β : Type} {x : Reader α} {f : α → Reader β} {n : Nat} {s t u : List UInt8}
  {a : α} {b : β}

theorem reads_pure (a : α) (n : Nat) (s : List UInt8) : Reads (pure a) n s a s :=
  fun c rest size => ⟨c, rfl, rest, size⟩

theorem Reads.bind (first : Reads x n s a t) (next : Reads (f a) n t b u) :
    Reads (x >>= f) n s b u := by
  intro c rest size
  obtain ⟨mid, ran, rest, size⟩ := first c rest size
  obtain ⟨last, ends, rest, size⟩ := next mid rest size
  refine ⟨last, ?_, rest, size⟩
  rw [StateT.run_bind, ran]
  exact ends

theorem Reads.run' (h : Reads x s.length s a []) : x.run' (.ofBytes s) = .ok a := by
  obtain ⟨c, ran, -, -⟩ := h (.ofBytes s) rfl rfl
  exact congrArg (fun result => Prod.fst <$> result) ran

end

variable {n : Nat} {s rest : List UInt8} {c : Char} {cs : List Char}

namespace Cursor

theorem toNat_char (b : UInt8) : (char b).toNat = b.toNat := by
  have valid : b.toNat.isValidChar := .inl (Nat.lt_trans b.toNat_lt (by decide))
  rw [char, Char.ofNat, dif_pos valid]
  rfl

theorem char_byte (ascii : c.toNat < 0x80) : char (byte c) = c := by
  rw [char, byte, Nat.toUInt8, UInt8.toNat_ofNat_of_lt' (Nat.lt_trans ascii (by decide)),
    Char.ofNat_toNat]

theorem next_rest (c : Cursor) : c.next.rest = c.rest.tail ∧ c.next.size = c.size := by
  unfold next
  split
  · next none => simp [none]
  · next some =>
    rw [some]
    split <;> exact ⟨rfl, rfl⟩

theorem skip_rest (k : Nat) (c : Cursor) :
    (c.skip k).rest = c.rest.drop k ∧ (c.skip k).size = c.size := by
  induction k with
  | zero => exact ⟨rfl, rfl⟩
  | succ k ih =>
    obtain ⟨rest, size⟩ := (c.skip k).next_rest
    refine ⟨?_, size.trans ih.2⟩
    have last : (c.skip (k + 1)).rest = (c.skip k).rest.tail := rest
    rw [last, ih.1, List.tail_drop]

end Cursor

namespace Reader

/-- The document does not go on with a character of a kind. -/
def Past (kind : Char → Bool) (s : List UInt8) : Prop :=
  ∀ b ∈ s.head?, kind (Cursor.char b) = false

theorem past_nil (kind : Char → Bool) : Past kind [] := by
  rintro b ⟨⟩

theorem reads_skip (n k : Nat) (s : List UInt8) :
    Reads (modify (Cursor.skip k)) n s () (s.drop k) := by
  intro c rest size
  obtain ⟨rest', size'⟩ := c.skip_rest k
  exact ⟨c.skip k, rfl, rest'.trans (by rw [rest]), size'.trans size⟩

theorem run_past {kind : Char → Bool} {c : Cursor} (past : Past kind c.rest) : c.run kind = [] := by
  rw [Cursor.run]
  cases rest : c.rest with
  | nil => rfl
  | cons b bs =>
    rw [rest] at past
    rw [List.takeWhile_cons, past b rfl]
    rfl

theorem reads_peek (n : Nat) (s : List UInt8) : Reads peek n s (s.head?.map Cursor.char) s := by
  intro c rest size
  subst rest
  exact ⟨c, rfl, rfl, size⟩

theorem reads_step (n : Nat) (b : UInt8) (s : List UInt8) : Reads step n (b :: s) () s := by
  intro c rest size
  obtain ⟨rest', size'⟩ := c.next_rest
  exact ⟨c.next, rfl, rest'.trans (by rw [rest]; rfl), size'.trans size⟩

theorem reads_next (n : Nat) (b : UInt8) (s : List UInt8) :
    Reads next n (b :: s) (some (Cursor.char b)) s :=
  (reads_peek n _).bind ((reads_step n b s).bind (reads_pure _ _ _))

theorem reads_next_ascii (ascii : c.toNat < 0x80) (s : List UInt8) :
    Reads next n (byte c :: s) (some c) s := by
  have next := reads_next n (byte c) s
  rwa [Cursor.char_byte ascii] at next

theorem reads_bound (n : Nat) (s : List UInt8) : Reads bound n s (n + 1) s := by
  intro c rest size
  subst size
  exact ⟨c, rfl, rest, rfl⟩

theorem reads_peekSolid (solid : Past Cursor.isBlank s) :
    Reads peekSolid n s (s.head?.map Cursor.char) s := by
  have still : Reads (modify Cursor.skipBlank) n s () s := by
    intro c rest size
    have none := run_past (c := c) (by rw [rest]; exact solid)
    refine ⟨c, ?_, rest, size⟩
    show Except.ok ((), c.skip (c.run Cursor.isBlank).length) = _
    rw [none]
    rfl
  exact still.bind (reads_peek n s)

theorem toNat_lt_of_isDigit (digit : c.isDigit = true) : c.toNat < 0x80 := by
  simp only [Char.isDigit, Bool.and_eq_true, decide_eq_true_eq, UInt32.le_iff_toNat_le] at digit
  exact Nat.lt_of_le_of_lt digit.2 (by decide)

theorem reads_peekSolid_ascii (ascii : c.toNat < 0x80) (solid : Cursor.isBlank c = false)
    (s : List UInt8) : Reads peekSolid n (byte c :: s) (some c) (byte c :: s) := by
  have past : Past Cursor.isBlank (byte c :: s) := by
    rintro b ⟨⟩
    rwa [Cursor.char_byte ascii]
  have peeks := reads_peekSolid (n := n) past
  rwa [List.head?_cons, Option.map_some, Cursor.char_byte ascii] at peeks

theorem reads_digits {ds : List Char} (digital : ∀ d ∈ ds, d.isDigit = true)
    (past : Past Char.isDigit rest) : Reads digits n (ds.map byte ++ rest) ds rest := by
  have back (d : Char) (member : d ∈ ds) : Cursor.char (byte d) = d :=
    Cursor.char_byte (toNat_lt_of_isDigit (digital d member))
  have taken (c : Cursor) (here : c.rest = ds.map byte ++ rest) : c.run Char.isDigit = ds := by
    have none : rest.takeWhile (fun b => (Cursor.char b).isDigit) = [] := by
      cases rest with
      | nil => rfl
      | cons b bs =>
        rw [List.takeWhile_cons, past b rfl]
        rfl
    have all : ∀ b ∈ ds.map byte, (Cursor.char b).isDigit = true := by
      intro b member
      obtain ⟨d, listed, rfl⟩ := List.mem_map.1 member
      rw [back d listed]
      exact digital d listed
    rw [Cursor.run, here, List.takeWhile_append_of_pos all, none, List.append_nil, List.map_map]
    exact (List.map_congr_left back).trans (List.map_id _)
  intro c here size
  obtain ⟨c', skips, rest', size'⟩ := reads_skip n ds.length _ c here size
  refine ⟨c', ?_, ?_, size'⟩
  · show (do modify (Cursor.skip (c.run Char.isDigit).length); return c.run Char.isDigit :
      Reader (List Char)).run c = _
    rw [taken c here, StateT.run_bind, skips]
    rfl
  · rw [rest', List.drop_left' (List.length_map _)]

theorem reads_word (cs : List Char) (ascii : ∀ c ∈ cs, c.toNat < 0x80) :
    Reads (word cs) n (cs.map byte ++ rest) () rest := by
  induction cs with
  | nil => exact reads_pure _ _ _
  | cons c cs ih =>
    obtain ⟨here, ascii⟩ := List.forall_mem_cons.1 ascii
    refine (reads_next_ascii here _).bind ?_
    dsimp only
    rw [if_pos rfl]
    exact ih ascii

/-! ### Strings -/

variable {read : List UInt8} {text : String} {k : Nat}

/-- A byte that stands for itself in a string. -/
structure Plain (b : UInt8) : Prop where
  above : 0x20 ≤ b.toNat
  noQuote : Cursor.char b ≠ '\x22'
  noBackslash : Cursor.char b ≠ '\\'

theorem reads_plain {b : UInt8} (plain : Plain b)
    (later : Reads (stringRest k (b :: read)) n s text rest) :
    Reads (stringRest (k + 1) read) n (b :: s) text rest := by
  have back : (Cursor.char b).toNat.toUInt8 = b := by
    rw [Cursor.toNat_char]
    exact UInt8.ofNat_toNat
  have above : ¬(Cursor.char b).toNat < 0x20 := by
    rw [Cursor.toNat_char]
    exact Nat.not_lt.2 plain.above
  refine (reads_next n b s).bind ?_
  split
  · next none => cases none
  · next quote => exact absurd (Option.some.inj quote) plain.noQuote
  · next backslash => exact absurd (Option.some.inj backslash) plain.noBackslash
  · next other =>
    cases other
    rw [if_neg above, back]
    exact later

theorem reads_plains {bs : List UInt8} (plain : ∀ b ∈ bs, Plain b)
    (later : Reads (stringRest k (bs.reverse ++ read)) n s text rest) :
    Reads (stringRest (k + bs.length) read) n (bs ++ s) text rest := by
  induction bs generalizing read with
  | nil => exact later
  | cons b bs ih =>
    obtain ⟨first, plain⟩ := List.forall_mem_cons.1 plain
    refine reads_plain first (ih plain ?_)
    rwa [List.reverse_cons, List.append_assoc] at later

theorem plain_of_mem_encode {b : UInt8} (above : 0x20 ≤ c.toNat) (noQuote : c ≠ '\x22')
    (noBackslash : c ≠ '\\') (member : b ∈ String.utf8EncodeChar c) : Plain b := by
  rcases Text.mem_utf8EncodeChar member with ⟨ascii, rfl⟩ | high
  · have same : Cursor.char c.toNat.toUInt8 = c := Cursor.char_byte ascii
    refine ⟨?_, by rwa [same], by rwa [same]⟩
    rw [← Cursor.toNat_char, same]
    exact above
  · refine ⟨by omega, fun same => ?_, fun same => ?_⟩
    all_goals
      have value := Cursor.toNat_char b
      rw [same] at value
      have small : b.toNat < 0x80 := value ▸ by decide
      omega

/-- What comes after a backslash stands for a character. -/
theorem reads_shortEscape {x : Char} (ascii : x.toNat < 0x80) (unit : x ≠ 'u')
    (short : shortEscape? x = some c) (n : Nat) (rest : List UInt8) :
    Reads escaped n (byte x :: rest) c rest := by
  refine (reads_next_ascii ascii _).bind ?_
  split
  · next none => cases none
  · next other => exact absurd (Option.some.inj other) unit
  · next other =>
    cases other
    rw [short]
    exact reads_pure _ _ _

theorem reads_codeUnit {ds : List Char} {v : Nat} (four : ds.length = 4)
    (ascii : ∀ d ∈ ds, d.toNat < 0x80) (value : Text.hexNumber? ds = some v) :
    Reads codeUnit n (ds.map byte ++ rest) v rest := by
  have four' : (ds.map byte).length = 4 := (List.length_map _).trans four
  have back : (ds.map byte).map Cursor.char = ds := by
    rw [List.map_map]
    exact (List.map_congr_left fun d member => Cursor.char_byte (ascii d member)).trans
      (List.map_id _)
  intro c here size
  have taken : (c.rest.take 4).map Cursor.char = ds := by
    rw [here, List.take_left' four', back]
  obtain ⟨c', skips, rest', size'⟩ := reads_skip n 4 _ c here size
  refine ⟨c', ?_, by rw [rest', List.drop_left' four'], size'⟩
  rw [codeUnit, StateT.run_bind, StateT.run_get, pure_bind]
  dsimp only
  rw [taken, if_neg (by omega), value, StateT.run_bind, skips]
  rfl

theorem hexDigits_ascii {v : Nat} (control : v < 0x20) : ∀ d ∈ hexDigits 4 v, d.toNat < 0x80 := by
  have all : ∀ v < 0x20, (hexDigits 4 v).all (fun d => d.toNat < 0x80) = true := by decide
  exact fun d member => of_decide_eq_true (List.all_eq_true.1 (all v control) d member)

theorem reads_unicodeEscape (control : c.toNat < 0x20) (n : Nat) (rest : List UInt8) :
    Reads escaped n (('u' :: hexDigits 4 c.toNat).map byte ++ rest) c rest := by
  have digits : ∀ v < 0x20, (hexDigits 4 v).length = 4 ∧
      Text.hexNumber? (hexDigits 4 v) = some v ∧ isLowSurrogate v = false ∧
      isHighSurrogate v = false := by decide
  obtain ⟨four, value, low, high⟩ := digits _ control
  refine (reads_next_ascii (by decide) _).bind ?_
  refine (reads_codeUnit four (hexDigits_ascii control) value).bind ?_
  rw [low, high, Char.ofNat_toNat]
  exact reads_pure _ _ _

/-- A character is written in a string as it is, or as a backslash with what stands for it. -/
theorem escape_cases (c : Char) :
    (escape c = [c] ∧ ∀ b ∈ String.utf8EncodeChar c, Plain b) ∨
      ∃ code, escape c = '\\' :: code ∧ (∀ d ∈ code, d.toNat < 0x80) ∧
        ∀ n rest, Reads escaped n (code.map byte ++ rest) c rest := by
  have short (x : Char) (ascii : x.toNat < 0x80) (unit : x ≠ 'u')
      (stands : shortEscape? x = some c) : ∃ code, ['\\', x] = '\\' :: code ∧
        (∀ d ∈ code, d.toNat < 0x80) ∧ ∀ n rest, Reads escaped n (code.map byte ++ rest) c rest :=
    ⟨[x], rfl, by simpa using ascii, fun n rest => reads_shortEscape ascii unit stands n rest⟩
  unfold escape
  -- The cases are the tests of `escape`, one after the other.
  split
  · next same => exact .inr (short _ (by decide) (by decide) (by rw [same]; rfl))
  next noQuote =>
  split
  · next same => exact .inr (short _ (by decide) (by decide) (by rw [same]; rfl))
  next noBackslash =>
  split
  · next same => exact .inr (short _ (by decide) (by decide) (by rw [same]; rfl))
  split
  · next same => exact .inr (short _ (by decide) (by decide) (by rw [same]; rfl))
  split
  · next same => exact .inr (short _ (by decide) (by decide) (by rw [same]; rfl))
  split
  · next same => exact .inr (short _ (by decide) (by decide) (by rw [same]; rfl))
  split
  · next same => exact .inr (short _ (by decide) (by decide) (by rw [same]; rfl))
  split
  · next control =>
    have ascii : ∀ d ∈ 'u' :: hexDigits 4 c.toNat, d.toNat < 0x80 :=
      List.forall_mem_cons.2 ⟨by decide, hexDigits_ascii control⟩
    exact .inr ⟨'u' :: hexDigits 4 c.toNat, rfl, ascii, reads_unicodeEscape control⟩
  · next above =>
    exact .inl ⟨rfl, fun b member =>
      plain_of_mem_encode (Nat.not_lt.1 above) noQuote noBackslash member⟩

/-- The characters that are left of a string, and the quote after them. `read` holds the encoding
of those before. -/
theorem reads_stringRest (bounded : (encoded (cs.flatMap escape)).length < k)
    (whole : read.reverse ++ encoded cs = utf8 text) :
    Reads (stringRest k read) n (encoded (cs.flatMap escape) ++ byte '\x22' :: rest) text rest := by
  -- A character moves from those that are left to those that were read, and the bound goes down by
  -- at least what it takes in the text.
  induction cs generalizing k read with
  | nil =>
    obtain ⟨k, rfl⟩ : ∃ k', k = k' + 1 := ⟨k - 1, by omega⟩
    have all : read.reverse = utf8 text := (List.append_nil _).symm.trans whole
    refine (reads_next_ascii (by decide) _).bind ?_
    rw [all, Text.ofUtf8_utf8]
    exact reads_pure _ _ _
  | cons c cs ih =>
    rw [Text.encoded_cons] at whole
    rw [List.flatMap_cons, Text.encoded_append, List.length_append] at bounded
    rw [List.flatMap_cons, Text.encoded_append, List.append_assoc]
    rcases escape_cases c with ⟨same, plain⟩ | ⟨code, same, ascii, stands⟩
    · have single : encoded [c] = String.utf8EncodeChar c := by
        rw [Text.encoded_cons]
        exact List.append_nil _
      rw [same, single] at bounded ⊢
      obtain ⟨k, rfl⟩ : ∃ k', k = k' + (String.utf8EncodeChar c).length :=
        ⟨k - (String.utf8EncodeChar c).length, by omega⟩
      refine reads_plains plain (ih (by omega) ?_)
      rw [List.reverse_append, List.reverse_reverse, List.append_assoc]
      exact whole
    · have written : encoded ('\\' :: code) = byte '\\' :: code.map byte :=
        Text.encoded_ascii (List.forall_mem_cons.2 ⟨by decide, ascii⟩)
      rw [same, written] at bounded ⊢
      rw [List.length_cons] at bounded
      obtain ⟨k, rfl⟩ : ∃ k', k = k' + 1 := ⟨k - 1, by omega⟩
      refine (reads_next_ascii (by decide) _).bind ?_
      refine (stands n _).bind (ih (by omega) ?_)
      have single : utf8 (String.singleton c) = String.utf8EncodeChar c := by
        rw [Text.utf8_eq, String.toList_singleton, Text.encoded_cons]
        exact List.append_nil _
      rw [List.reverse_append, List.reverse_reverse, List.append_assoc, single]
      exact whole

theorem utf8_quoted (text : String) : utf8 (quoted text) =
    byte '\x22' :: (encoded (text.toList.flatMap escape) ++ [byte '\x22']) := by
  rw [quoted, Text.utf8_ofList, List.cons_append, Text.encoded_cons, Text.encoded_append]
  rfl

theorem reads_string (bounded : (utf8 (quoted text)).length ≤ n) :
    Reads string n (utf8 (quoted text) ++ rest) text rest := by
  rw [utf8_quoted, List.length_cons, List.length_append] at bounded
  rw [utf8_quoted, List.cons_append, List.append_assoc]
  refine (reads_step _ _ _).bind ((reads_bound _ _).bind (reads_stringRest (by omega) ?_))
  exact (Text.utf8_eq text).symm

/-! ### Natural numbers -/

theorem toDigits_head {m : Nat} (pos : 0 < m) :
    ∃ d ds, Nat.toDigits 10 m = d :: ds ∧ d ≠ '0' := by
  induction m using Nat.strongRecOn with
  | ind m ih =>
    rcases Nat.lt_or_ge m 10 with small | large
    · refine ⟨m.digitChar, [], Nat.toDigits_of_lt_base small, ?_⟩
      rw [Ne, Nat.digitChar_eq_zero]
      exact Nat.ne_of_gt pos
    · obtain ⟨d, ds, same, nonzero⟩ := ih (m / 10) (by omega) (by omega)
      refine ⟨d, ds ++ [(m % 10).digitChar], ?_, nonzero⟩
      rw [Nat.toDigits_of_base_le (by decide) large, same]
      rfl

/-- The digits of a number, and what follows them unless the number is zero. -/
theorem toDigits_eq_cons (m : Nat) :
    ∃ d ds, Nat.toDigits 10 m = d :: ds ∧ (d = '0' → ds = []) := by
  rcases Nat.eq_zero_or_pos m with rfl | pos
  · exact ⟨'0', [], Nat.toDigits_zero 10, fun _ => rfl⟩
  · obtain ⟨d, ds, same, nonzero⟩ := toDigits_head pos
    exact ⟨d, ds, same, fun zero => absurd zero nonzero⟩

/-- Digits are all absorbed if their number fits. -/
theorem absorb_all {ds : List Char} {v : Nat} (fits : Nat.ofDigitChars 10 ds v < UInt64.size) :
    absorb v ds = (Nat.ofDigitChars 10 ds v, []) := by
  induction ds generalizing v with
  | nil => rw [Nat.ofDigitChars_nil, absorb]
  | cons d ds ih =>
    rw [Nat.ofDigitChars_cons] at fits ⊢
    have next : v * 10 + Text.decimalNumber [d] = 10 * v + (d.toNat - '0'.toNat) := by
      simp [Text.decimalNumber, Nat.mul_comm]
    -- What is absorbed so far is no larger than the whole, which fits.
    have below : 10 * v + (d.toNat - '0'.toNat) < UInt64.size := by
      refine Nat.lt_of_le_of_lt ?_ fits
      rw [Nat.ofDigitChars_eq_ofDigitChars_zero]
      exact Nat.le_trans (Nat.le_mul_of_pos_left _ (Nat.pow_pos (by decide))) (Nat.le_add_right ..)
    rw [absorb, next, if_neg (Nat.not_le.2 below), ih fits]

/-- A number goes on with digits, a point or an exponent. -/
def isNumeric (c : Char) : Bool := c.isDigit || c = '.' || c = 'e' || c = 'E'

theorem Past.mono {kind kind' : Char → Bool} (past : Past kind s)
    (less : ∀ c, kind' c = true → kind c = true) : Past kind' s := by
  intro b member
  cases same : kind' (Cursor.char b) with
  | false => rfl
  | true => exact absurd ((past b member).symm.trans (less _ same)) nofun

theorem utf8_nat (m : Nat) : utf8 (toString m) = (Nat.toDigits 10 m).map byte := by
  rw [Text.utf8_eq]
  have same : (toString m).toList = Nat.toDigits 10 m := Nat.toList_repr
  rw [same]
  exact Text.encoded_ascii fun d member =>
    toNat_lt_of_isDigit (Nat.isDigit_of_mem_toDigits (by decide) (by decide) member)

theorem reads_number {m : Nat} (fits : m < UInt64.size) (past : Past isNumeric rest) :
    Reads (number false) n (utf8 (toString m) ++ rest) (.integer m) rest := by
  have digital : ∀ d ∈ Nat.toDigits 10 m, d.isDigit = true := fun d member =>
    Nat.isDigit_of_mem_toDigits (by decide) (by decide) member
  obtain ⟨d, ds, same, alone⟩ := toDigits_eq_cons m
  have value : absorb 0 (d :: ds) = (m, []) := by
    have all := Nat.ofDigitChars_ten_toDigits (n := m)
    rw [same] at all
    rw [absorb_all (all.symm ▸ fits), all]
  have noDigit : Past Char.isDigit rest := past.mono fun c digit => by simp [isNumeric, digit]
  rw [utf8_nat, same, List.map_cons, List.cons_append]
  rw [same] at digital
  obtain ⟨first, digital⟩ := List.forall_mem_cons.1 digital
  refine (reads_next_ascii (toNat_lt_of_isDigit first) _).bind ?_
  dsimp only
  rw [if_neg (by simp [first])]
  -- A zero that comes first is the only digit, and no other digit follows the number.
  have single : ¬(d = '0' ∧ ((ds.map byte ++ rest).head?.map Cursor.char).any Char.isDigit) := by
    rintro ⟨zero, more⟩
    rw [alone zero, Option.any_map, Option.any_eq_true] at more
    obtain ⟨b, member, digit⟩ := more
    exact absurd ((noDigit b member).symm.trans digit) nofun
  refine (reads_peek _ _).bind ?_
  rw [if_neg single]
  refine (reads_digits digital noDigit).bind ?_
  rw [value]
  refine (reads_peek _ _).bind ?_
  have ends (c : Char) (here : rest.head?.map Cursor.char = some c) : isNumeric c = false := by
    obtain ⟨b, member, rfl⟩ := Option.map_eq_some_iff.1 here
    exact past b member
  dsimp only
  split
  · next here => exact absurd (ends _ here) (by decide)
  · next here => exact absurd (ends _ here) (by decide)
  · next here => exact absurd (ends _ here) (by decide)
  · exact reads_pure _ _ _

/-! ### Any of them -/

theorem reads_literal_null : Reads literal? n (utf8 "null" ++ rest) (some .null) rest := by
  rw [Text.utf8_eq]
  refine (reads_peekSolid_ascii (c := 'n') (by decide) rfl _).bind ?_
  exact (reads_step _ _ _).bind ((reads_word ['u', 'l', 'l'] (by simp)).bind
    (reads_pure _ _ _))

theorem reads_literal_true : Reads literal? n (utf8 "true" ++ rest) (some (.bool true)) rest := by
  rw [Text.utf8_eq]
  refine (reads_peekSolid_ascii (c := 't') (by decide) rfl _).bind ?_
  exact (reads_step _ _ _).bind ((reads_word ['r', 'u', 'e'] (by simp)).bind
    (reads_pure _ _ _))

theorem reads_literal_false :
    Reads literal? n (utf8 "false" ++ rest) (some (.bool false)) rest := by
  rw [Text.utf8_eq]
  refine (reads_peekSolid_ascii (c := 'f') (by decide) rfl _).bind ?_
  exact (reads_step _ _ _).bind ((reads_word ['a', 'l', 's', 'e'] (by simp)).bind
    (reads_pure _ _ _))

theorem reads_literal_string (bounded : (utf8 (quoted text)).length ≤ n) :
    Reads literal? n (utf8 (quoted text) ++ rest) (some (.string text)) rest := by
  have starts := utf8_quoted text
  have peeks : Reads peekSolid n (utf8 (quoted text) ++ rest) (some '\x22')
      (utf8 (quoted text) ++ rest) := by
    rw [starts]
    exact reads_peekSolid_ascii (by decide) rfl _
  exact peeks.bind ((reads_string bounded).bind (reads_pure _ _ _))

theorem not_isBlank_of_isDigit (digit : c.isDigit = true) : Cursor.isBlank c = false := by
  cases blank : Cursor.isBlank c with
  | false => rfl
  | true =>
    simp only [Cursor.isBlank, Bool.or_eq_true, decide_eq_true_eq] at blank
    rcases blank with ((rfl | rfl) | rfl) | rfl <;> cases digit

theorem utf8_nat_starts (m : Nat) :
    ∃ d t, utf8 (toString m) = byte d :: t ∧ d.isDigit = true := by
  obtain ⟨d, ds, same, -⟩ := toDigits_eq_cons m
  refine ⟨d, ds.map byte, by rw [utf8_nat, same]; rfl, ?_⟩
  exact Nat.isDigit_of_mem_toDigits (by decide) (by decide) (same ▸ List.mem_cons_self)

theorem reads_literal_nat {m : Nat} (fits : m < UInt64.size) (past : Past isNumeric rest) :
    Reads literal? n (utf8 (toString m) ++ rest) (some (.ofNat m)) rest := by
  obtain ⟨d, t, starts, digit⟩ := utf8_nat_starts m
  have peeks : Reads peekSolid n (utf8 (toString m) ++ rest) (some d)
      (utf8 (toString m) ++ rest) := by
    rw [starts]
    exact reads_peekSolid_ascii (toNat_lt_of_isDigit digit) (not_isBlank_of_isDigit digit) _
  refine peeks.bind ?_
  have other {c : Char} (same : some d = some c) : c.isDigit = true := Option.some.inj same ▸ digit
  split
  · next none => cases none
  · next here => cases other here
  · next here => cases other here
  · next here => cases other here
  · next here => cases other here
  · next here => cases other here
  · next here => cases other here
  · next here => cases other here
  · next here =>
    rw [if_pos (other here)]
    exact (reads_number fits past).bind (reads_pure _ _ _)

/-- A list or an object has parts, and is left to others. -/
theorem reads_literal_none (opening : c = '[' ∨ c = '\x7b') :
    Reads literal? n (byte c :: rest) none (byte c :: rest) := by
  rcases opening with rfl | rfl
  · exact (reads_peekSolid_ascii (by decide) rfl _).bind (reads_pure _ _ _)
  · exact (reads_peekSolid_ascii (by decide) rfl _).bind (reads_pure _ _ _)

end Reader

end BrokerRollout.Json
