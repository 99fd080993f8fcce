import BrokerRollout.Json.Shape
import BrokerRollout.Proofs.JsonText

/-!
# Documents and their text

What is read by a shape from the text of a value is that value, if the value is of the shape
(`Shape.read_compact`). The proof follows the value: lists and objects are read part by part, and
their parts by the statement for one level less.
-/

namespace BrokerRollout.Json

open Text (utf8 byte)

variable {n : Nat} {rest s : List UInt8}

/-! ### Values of a shape -/

/-- The value is of the shape and nests no deeper than that; its numbers are natural ones of 64
bits. Shapes that no manifest needs are left out. -/
inductive Admits : Nat → Shape → Json → Prop where
  | null {depth : Nat} : Admits depth .anything .null
  | bool {depth : Nat} {b : Bool} : Admits depth .anything (.bool b)
  | nat {depth m : Nat} (fits : m < UInt64.size) : Admits depth .anything (.ofNat m)
  | string {depth : Nat} {text : String} : Admits depth .anything (.string text)
  | text {depth : Nat} {text : String} : Admits depth .text (.string text)
  | array {depth : Nat} {items : List Json} (each : ∀ x ∈ items, Admits depth .anything x) :
      Admits (depth + 1) .anything (.array items)
  | object {depth : Nat} {members : List (String × Json)}
      (each : ∀ m ∈ members, Admits depth .anything m.2) :
      Admits (depth + 1) .anything (.object members)
  | record {depth : Nat} {expected : String} {rules : RecordRules} {fields : List (Field Shape)}
      {members : List (String × Json)}
      (own : ∀ m ∈ members, ∀ f, fields.find? (·.name == m.1) = some f → Admits depth f.shape m.2)
      (other : ∀ m ∈ members, fields.find? (·.name == m.1) = none → Admits depth .anything m.2)
      (kept : ∀ m ∈ members, fields.find? (·.name == m.1) = none → rules.keepsOthers = true)
      (distinct : (members.map Prod.fst).Nodup)
      (free : ∀ f ∈ fields, f.presence = .missable ∨ f.presence = .optional) :
      Admits (depth + 1) (.record expected rules fields) (.object members)

namespace Admits

variable {depth : Nat}

theorem noMembers : Admits (depth + 1) .anything (.object []) :=
  .object fun _ member => nomatch member

theorem member {name : String} {x : Json} {members : List (String × Json)}
    (value : Admits depth .anything x) (others : Admits (depth + 1) .anything (.object members)) :
    Admits (depth + 1) .anything (.object ((name, x) :: members)) := by
  cases others with
  | object each => exact .object (List.forall_mem_cons.2 ⟨value, each⟩)

section Record

variable {expected name : String} {rules : RecordRules} {fields : List (Field Shape)} {x : Json}
  {members : List (String × Json)}

theorem noFields (free : ∀ f ∈ fields, f.presence = .missable ∨ f.presence = .optional) :
    Admits (depth + 1) (.record expected rules fields) (.object []) :=
  .record (fun _ m => nomatch m) (fun _ m => nomatch m) (fun _ m => nomatch m) List.nodup_nil free

theorem field {f : Field Shape} (found : fields.find? (·.name == name) = some f)
    (value : Admits depth f.shape x) (new : name ∉ members.map Prod.fst)
    (others : Admits (depth + 1) (.record expected rules fields) (.object members)) :
    Admits (depth + 1) (.record expected rules fields) (.object ((name, x) :: members)) := by
  cases others with
  | record own other kept distinct free =>
    refine .record (List.forall_mem_cons.2 ⟨fun g here => ?_, own⟩)
      (List.forall_mem_cons.2 ⟨fun none => ?_, other⟩)
      (List.forall_mem_cons.2 ⟨fun none => ?_, kept⟩) (List.nodup_cons.2 ⟨new, distinct⟩) free
    · exact Option.some.inj (found.symm.trans here) ▸ value
    · cases found.symm.trans none
    · cases found.symm.trans none

theorem extra (missing : fields.find? (·.name == name) = none) (keeps : rules.keepsOthers = true)
    (value : Admits depth .anything x) (new : name ∉ members.map Prod.fst)
    (others : Admits (depth + 1) (.record expected rules fields) (.object members)) :
    Admits (depth + 1) (.record expected rules fields) (.object ((name, x) :: members)) := by
  cases others with
  | record own other kept distinct free =>
    refine .record (List.forall_mem_cons.2 ⟨fun f here => ?_, own⟩)
      (List.forall_mem_cons.2 ⟨fun _ => value, other⟩)
      (List.forall_mem_cons.2 ⟨fun _ => keeps, kept⟩) (List.nodup_cons.2 ⟨new, distinct⟩) free
    cases missing.symm.trans here

end Record

theorem arrayMap {α : Type} {f : α → Json} (each : ∀ a, Admits depth .anything (f a))
    (items : List α) : Admits (depth + 1) .anything (.array (items.map f)) := by
  refine .array fun x listed => ?_
  obtain ⟨a, -, rfl⟩ := List.mem_map.1 listed
  exact each a

end Admits

/-! ### Rows -/

/-- What ends a value: a comma, the end of its list or object, or that of the document. -/
def isClosing (c : Char) : Bool := c = ',' || c = ']' || c = '\x7d'

/-- A value ends here. -/
def Closed (s : List UInt8) : Prop := Reader.Past (fun c => !isClosing c) s

theorem closed_cons {c : Char} (ascii : c.toNat < 0x80) (closing : isClosing c = true)
    (s : List UInt8) : Closed (byte c :: s) := by
  rintro b ⟨⟩
  show (!isClosing (Cursor.char (byte c))) = false
  rw [Cursor.char_byte ascii, closing]
  rfl

theorem Closed.past (h : Closed s) : Reader.Past Reader.isNumeric s := by
  refine h.mono fun c numeric => ?_
  cases closing : isClosing c with
  | false => rfl
  | true =>
    simp only [isClosing, Bool.or_eq_true, decide_eq_true_eq] at closing
    rcases closing with (rfl | rfl) | rfl <;> cases numeric

/-- The comma before an item that is not the first. -/
def comma (first : Bool) : List UInt8 := if first then [] else [byte ',']

/-- The encoding of texts with commas between them, and one before them if others came first. -/
def row (first : Bool) : List String → List UInt8
  | [] => []
  | text :: texts => comma first ++ (utf8 text ++ row false texts)

theorem utf8_intercalate (texts : List String) : utf8 (",".intercalate texts) = row true texts := by
  cases texts with
  | nil => rfl
  | cons text texts =>
    show _ = utf8 text ++ row false texts
    induction texts generalizing text with
    | nil => rw [String.intercalate_singleton, row, List.append_nil]
    | cons next texts ih =>
      rw [String.intercalate_cons_cons, Text.utf8_append, Text.utf8_append, ih, List.append_assoc]
      rfl

theorem closed_row {c : Char} (ascii : c.toNat < 0x80) (closing : isClosing c = true)
    (texts : List String) (s : List UInt8) : Closed (row false texts ++ byte c :: s) := by
  cases texts with
  | nil => exact closed_cons ascii closing s
  | cons text texts => exact closed_cons (c := ',') (by decide) rfl _

theorem length_le_row (first : Bool) {text : String} {texts : List String}
    (member : text ∈ texts) : (utf8 text).length ≤ (row first texts).length := by
  induction texts generalizing first with
  | nil => cases member
  | cons other texts ih =>
    rw [row, List.length_append, List.length_append]
    rcases List.mem_cons.1 member with rfl | later
    · omega
    · have := ih false later
      omega

theorem row_length (first : Bool) (texts : List String) :
    texts.length ≤ (row first texts).length + 1 := by
  have commas : ∀ texts : List String, texts.length ≤ (row false texts).length := by
    intro texts
    induction texts with
    | nil => exact Nat.zero_le _
    | cons text texts ih =>
      have one : (comma false).length = 1 := rfl
      simp only [row, List.length_append, List.length_cons, one]
      omega
  cases texts with
  | nil => exact Nat.zero_le _
  | cons text texts =>
    have := commas texts
    simp only [row, List.length_append, List.length_cons]
    omega

theorem compactItems_eq (items : List Json) : compactItems items = items.map compact := by
  induction items with
  | nil => rw [compactItems, List.map_nil]
  | cons item items ih => rw [compactItems, ih, List.map_cons]

/-- The text of a member. -/
def memberText (m : String × Json) : String := quoted m.1 ++ ":" ++ m.2.compact

theorem compactMembers_eq (members : List (String × Json)) :
    compactMembers members = members.map memberText := by
  induction members with
  | nil => rw [compactMembers, List.map_nil]
  | cons m members ih => rw [compactMembers, ih, List.map_cons]; rfl

theorem utf8_array (items : List Json) :
    utf8 (compact (.array items)) = byte '[' :: (row true (items.map compact) ++ [byte ']']) := by
  rw [compact, Text.utf8_append, Text.utf8_append, utf8_intercalate, compactItems_eq]
  rfl

theorem utf8_object (members : List (String × Json)) : utf8 (compact (.object members)) =
    byte '\x7b' :: (row true (members.map memberText) ++ [byte '\x7d']) := by
  rw [compact, Text.utf8_append, Text.utf8_append, utf8_intercalate, compactMembers_eq]
  rfl

theorem utf8_memberText (m : String × Json) :
    utf8 (memberText m) = utf8 (quoted m.1) ++ byte ':' :: utf8 m.2.compact := by
  rw [memberText, Text.utf8_append, Text.utf8_append, List.append_assoc]
  rfl

/-! ### Between items -/

namespace Reader

theorem reads_hasItem {c : Char} (ascii : c.toNat < 0x80) (solid : Cursor.isBlank c = false)
    (item : c ≠ ']') (first : Bool) (s : List UInt8) :
    Reads (hasItem first) n (comma first ++ byte c :: s) true (byte c :: s) := by
  have peeks := reads_peekSolid_ascii (n := n) ascii solid s
  cases first with
  | true =>
    refine peeks.bind ?_
    split
    · next none => cases none
    · next bracket => exact absurd (Option.some.inj bracket) item
    · exact reads_pure _ _ _
  | false =>
    refine (reads_peekSolid_ascii (c := ',') (by decide) rfl _).bind ?_
    refine (reads_step _ _ _).bind (peeks.bind ?_)
    split
    · next none => cases none
    · next bracket => exact absurd (Option.some.inj bracket) item
    · exact reads_pure _ _ _

theorem reads_hasItem_end (first : Bool) (s : List UInt8) :
    Reads (hasItem first) n (byte ']' :: s) false (byte ']' :: s) :=
  (reads_peekSolid_ascii (by decide) rfl s).bind (reads_pure _ _ _)

theorem reads_hasKey (first : Bool) (s : List UInt8) :
    Reads (hasKey first) n (comma first ++ byte '\x22' :: s) true (byte '\x22' :: s) := by
  cases first with
  | true => exact (reads_peekSolid_ascii (by decide) rfl s).bind (reads_pure _ _ _)
  | false =>
    refine (reads_peekSolid_ascii (c := ',') (by decide) rfl _).bind ?_
    exact (reads_step _ _ _).bind
      ((reads_peekSolid_ascii (by decide) rfl s).bind (reads_pure _ _ _))

theorem reads_hasKey_quoted (first : Bool) (name : String) (s : List UInt8) :
    Reads (hasKey first) n (comma first ++ (utf8 (quoted name) ++ s)) true
      (utf8 (quoted name) ++ s) := by
  rw [utf8_quoted]
  exact reads_hasKey first _

theorem reads_hasKey_end (first : Bool) (s : List UInt8) :
    Reads (hasKey first) n (byte '\x7d' :: s) false (byte '\x7d' :: s) :=
  (reads_peekSolid_ascii (by decide) rfl s).bind (reads_pure _ _ _)

theorem reads_colon (s : List UInt8) : Reads colon n (byte ':' :: s) () s :=
  (reads_peekSolid_ascii (by decide) rfl s).bind (reads_step _ _ _)

end Reader

/-- The text of the value starts with no blank and no closing bracket, and with the letter of null
only if the value is null. -/
def Starts (x : Json) : Prop :=
  ∃ c t, utf8 x.compact = byte c :: t ∧ c.toNat < 0x80 ∧ Cursor.isBlank c = false ∧ c ≠ ']' ∧
    (c = 'n' → x = .null)

theorem compact_starts {depth : Nat} {shape : Shape} {x : Json} (h : Admits depth shape x) :
    Starts x := by
  have quote (text : String) : Starts (.string text) :=
    ⟨'\x22', _, Reader.utf8_quoted text, by decide, rfl, by decide, nofun⟩
  have brace (members : List (String × Json)) : Starts (.object members) :=
    ⟨'\x7b', _, utf8_object members, by decide, rfl, by decide, nofun⟩
  cases h with
  | null => exact ⟨'n', _, Text.utf8_eq _, by decide, rfl, by decide, fun _ => rfl⟩
  | @bool _ b =>
    cases b with
    | false => exact ⟨'f', _, Text.utf8_eq _, by decide, rfl, by decide, nofun⟩
    | true => exact ⟨'t', _, Text.utf8_eq _, by decide, rfl, by decide, nofun⟩
  | @nat _ m =>
    obtain ⟨d, t, starts, digit⟩ := Reader.utf8_nat_starts m
    refine ⟨d, t, starts, Reader.toNat_lt_of_isDigit digit, Reader.not_isBlank_of_isDigit digit, ?_⟩
    constructor
    · rintro rfl
      cases digit
    · rintro rfl
      cases digit
  | string => exact quote _
  | text => exact quote _
  | @array _ items => exact ⟨'[', _, utf8_array items, by decide, rfl, by decide, nofun⟩
  | object => exact brace _
  | record => exact brace _

/-! ### Lists and objects -/

namespace Reader

variable {child : Shape → Reader Json} {shape : Shape} {depth k : Nat} {first : Bool}

/-- The reader reads the value from its text, wherever that stands in a document of length `n`. -/
def ReadsBack (child : Shape → Reader Json) (n : Nat) (shape : Shape) (x : Json) : Prop :=
  ∀ rest, Closed rest → Reads (child shape) n (utf8 x.compact ++ rest) x rest

theorem reads_items (rest : List UInt8) (k : Nat) (first : Bool) (read : List Json)
    {xs : List Json}
    (admits : ∀ x ∈ xs, Admits depth shape x) (each : ∀ x ∈ xs, ReadsBack child n shape x)
    (bounded : xs.length < k) :
    Reads (items child shape k first read) n
      (row first (xs.map compact) ++ byte ']' :: rest) (read.reverse ++ xs) (byte ']' :: rest) := by
  induction xs generalizing k first read with
  | nil =>
    cases k with
    | zero => cases bounded
    | succ k =>
      refine (reads_hasItem_end first rest).bind ?_
      rw [List.append_nil]
      exact reads_pure _ _ _
  | cons x xs ih =>
    cases k with
    | zero => cases bounded
    | succ k =>
      obtain ⟨shaped, admits⟩ := List.forall_mem_cons.1 admits
      obtain ⟨here, each⟩ := List.forall_mem_cons.1 each
      have later := ih k false (x :: read) admits each (Nat.lt_of_succ_lt_succ bounded)
      rw [List.reverse_cons, List.append_assoc] at later
      rw [List.map_cons, row, List.append_assoc, List.append_assoc]
      obtain ⟨c, t, starts, ascii, solid, item, -⟩ := compact_starts shaped
      have has (s : List UInt8) :
          Reads (hasItem first) n (comma first ++ (utf8 x.compact ++ s)) true
            (utf8 x.compact ++ s) := by
        rw [starts, List.cons_append]
        exact reads_hasItem ascii solid item first _
      exact (has _).bind ((here _ (closed_row (by decide) rfl _ _)).bind later)

theorem reads_entries (rest : List UInt8) (k : Nat) (first : Bool) (read : List (String × Json))
    {ms : List (String × Json)} (each : ∀ m ∈ ms, ReadsBack child n shape m.2)
    (names : ∀ m ∈ ms, (utf8 (quoted m.1)).length ≤ n) (bounded : ms.length < k) :
    Reads (objectFor.entries child shape k first read) n
      (row first (ms.map memberText) ++ byte '\x7d' :: rest) (read.reverse ++ ms)
      (byte '\x7d' :: rest) := by
  induction ms generalizing k first read with
  | nil =>
    cases k with
    | zero => cases bounded
    | succ k =>
      refine (reads_hasKey_end first rest).bind ?_
      rw [List.append_nil]
      exact reads_pure _ _ _
  | cons m ms ih =>
    cases k with
    | zero => cases bounded
    | succ k =>
      obtain ⟨here, each⟩ := List.forall_mem_cons.1 each
      obtain ⟨name, names⟩ := List.forall_mem_cons.1 names
      have later := ih k false (m :: read) each names (Nat.lt_of_succ_lt_succ bounded)
      rw [List.reverse_cons, List.append_assoc] at later
      rw [List.map_cons, row, utf8_memberText, List.append_assoc, List.append_assoc,
        List.append_assoc]
      refine (reads_hasKey_quoted first m.1 _).bind ((reads_string name).bind ?_)
      exact (reads_colon _).bind ((here _ (closed_row (by decide) rfl _ _)).bind later)

/-! ### Records -/

theorem reads_orNull {x : Json} (shaped : Admits depth shape x) (here : ReadsBack child n shape x)
    (closed : Closed s) : Reads (orNull (child shape)) n (utf8 x.compact ++ s) x s := by
  obtain ⟨c, t, starts, ascii, solid, -, null⟩ := compact_starts shaped
  have peeks : Reads peekSolid n (utf8 x.compact ++ s) (some c) (utf8 x.compact ++ s) := by
    rw [starts, List.cons_append]
    exact reads_peekSolid_ascii ascii solid _
  refine peeks.bind ?_
  by_cases letter : c = 'n'
  · obtain rfl := null letter
    rw [letter, if_pos rfl, compact, Text.utf8_eq]
    exact (reads_step _ _ _).bind ((reads_word ['u', 'l', 'l'] (by simp)).bind
      (reads_pure _ _ _))
  · rw [if_neg (fun same => letter (Option.some.inj same))]
    exact here s closed

theorem reads_fieldValue {f : Field Shape} {x : Json}
    (free : f.presence = .missable ∨ f.presence = .optional) (shaped : Admits depth f.shape x)
    (here : ReadsBack child n f.shape x) (closed : Closed s) :
    Reads (fieldValue child f) n (utf8 x.compact ++ s) (.ok x) s := by
  unfold fieldValue
  rcases free with same | same <;> rw [same]
  · exact (here s closed).bind (reads_pure _ _ _)
  · exact (reads_orNull shaped here closed).bind (reads_pure _ _ _)

/-- The member is one that a record with these fields keeps, and its value can be read. -/
structure Kept (child : Shape → Reader Json) (n depth : Nat) (rules : RecordRules)
    (fields : List (Field Shape)) (m : String × Json) : Prop where
  name : (utf8 (quoted m.1)).length ≤ n
  own : ∀ f, fields.find? (·.name == m.1) = some f →
    Admits depth f.shape m.2 ∧ ReadsBack child n f.shape m.2
  other : fields.find? (·.name == m.1) = none →
    rules.keepsOthers = true ∧ ReadsBack child n .anything m.2

section

variable {rules : RecordRules} {fields : List (Field Shape)}

theorem reads_member {m : String × Json} {read : List (String × Json)}
    (free : ∀ f ∈ fields, f.presence = .missable ∨ f.presence = .optional)
    (kept : Kept child n depth rules fields m) (new : m.1 ∉ read.map Prod.fst) (closed : Closed s) :
    Reads (member child rules fields read m.1) n (byte ':' :: (utf8 m.2.compact ++ s))
      (.ok (some m.2)) s := by
  have unread : read.any (·.1 == m.1) = false := by
    refine List.any_eq_false.2 fun r member same => new ?_
    exact List.mem_map.2 ⟨r, member, beq_iff_eq.1 same⟩
  unfold member
  cases found : fields.find? (·.name == m.1) with
  | some f =>
    obtain ⟨shaped, here⟩ := kept.own f found
    have value := reads_fieldValue (free f (List.mem_of_find?_eq_some found)) shaped here closed
    dsimp only
    rw [unread, Bool.and_false, if_neg Bool.false_ne_true]
    exact (reads_colon _).bind (value.bind (reads_pure _ _ _))
  | none =>
    obtain ⟨keeps, here⟩ := kept.other found
    refine (reads_colon _).bind ?_
    rw [if_pos keeps]
    exact (here s closed).bind (reads_pure _ _ _)

theorem reads_members (rest : List UInt8) (k : Nat) (first : Bool) (read : List (String × Json))
    {ms : List (String × Json)}
    (free : ∀ f ∈ fields, f.presence = .missable ∨ f.presence = .optional)
    (kept : ∀ m ∈ ms, Kept child n depth rules fields m)
    (distinct : ((read ++ ms).map Prod.fst).Nodup) (bounded : ms.length < k) :
    Reads (members child rules fields k first read) n
      (row first (ms.map memberText) ++ byte '\x7d' :: rest) (.ok (read.reverse ++ ms))
      (byte '\x7d' :: rest) := by
  induction ms generalizing k first read with
  | nil =>
    cases k with
    | zero => cases bounded
    | succ k =>
      refine (reads_hasKey_end first rest).bind ?_
      rw [if_neg Bool.false_ne_true, List.append_nil]
      dsimp only
      split
      · next f absent =>
        -- No field is required, so none is missing.
        have missing := List.find?_some absent
        rcases free f (List.mem_of_find?_eq_some absent) with same | same <;>
          simp [same] at missing
      · exact reads_pure _ _ _
  | cons m ms ih =>
    cases k with
    | zero => cases bounded
    | succ k =>
      obtain ⟨here, kept⟩ := List.forall_mem_cons.1 kept
      -- Which names there are does not change when a member is read, only their order does.
      have moved : ((m :: read ++ ms).map Prod.fst).Nodup :=
        (List.perm_middle.map Prod.fst).nodup_iff.1 distinct
      have new : m.1 ∉ read.map Prod.fst := by
        intro old
        rw [List.cons_append, List.map_cons, List.map_append] at moved
        exact (List.nodup_cons.1 moved).1 (List.mem_append_left _ old)
      have later := ih k false (m :: read) kept moved (Nat.lt_of_succ_lt_succ bounded)
      rw [List.reverse_cons, List.append_assoc] at later
      rw [List.map_cons, row, utf8_memberText, List.append_assoc, List.append_assoc,
        List.append_assoc]
      refine (reads_hasKey_quoted first m.1 _).bind ((reads_string here.name).bind ?_)
      exact (reads_member free here new (closed_row (by decide) rfl _ _)).bind later

end

end Reader

/-! ### Documents -/

namespace Shape

open Reader

variable {shape : Shape} {depth : Nat}

theorem reads_scalar {x : Json} (shaped : ∀ words, shape ≠ .choice words)
    (reads : Reads literal? n s (some x) rest) (fits : shape.objection? x = none) (depth : Nat) :
    Reads (shape.reader depth) n s x rest := by
  have literal : Reads (literalOf shape) n s (some x) rest := by
    refine reads.bind ?_
    dsimp only
    rw [fits]
    exact reads_pure _ _ _
  -- No part of the value is read, so it makes no difference who would read parts.
  have either (child? : Option (Shape → Reader Json)) :
      Reads (readWith child? shape) n s x rest := by
    unfold readWith
    split
    · next words => exact absurd rfl (shaped words)
    · exact literal.bind (reads_pure _ _ _)
  cases depth with
  | zero => exact either none
  | succ depth => exact either (some (Shape.reader depth))

/-- A list is read by what is wanted, and an object too. -/
theorem reads_collection {c : Char} {x : Json} (shaped : ∀ words, shape ≠ .choice words)
    (opening : c = '[' ∨ c = '\x7b')
    (reads : Reads (if c = '[' then listFor (Shape.reader depth) shape
      else objectFor (Shape.reader depth) shape) n (byte c :: s) x rest) :
    Reads (shape.reader (depth + 1)) n (byte c :: s) x rest := by
  have ascii : c.toNat < 0x80 := by
    rcases opening with rfl | rfl <;> decide
  have literal : Reads (literalOf shape) n (byte c :: s) none (byte c :: s) :=
    (reads_literal_none opening).bind (reads_pure _ _ _)
  show Reads (readWith (some (Shape.reader depth)) shape) n (byte c :: s) x rest
  unfold readWith
  split
  · next words => exact absurd rfl (shaped words)
  · refine literal.bind ((reads_peek _ _).bind ?_)
    have head : (byte c :: s).head?.map Cursor.char = some c :=
      congrArg some (Cursor.char_byte ascii)
    rw [head]
    simpa only [Option.some.injEq] using reads

theorem reads_array {xs : List Json} (admits : ∀ x ∈ xs, Admits depth .anything x)
    (each : ∀ x ∈ xs, (utf8 x.compact).length ≤ n → ReadsBack (Shape.reader depth) n .anything x)
    (bounded : (utf8 (compact (.array xs))).length ≤ n) :
    ReadsBack (Shape.reader (depth + 1)) n .anything (.array xs) := by
  intro rest _
  rw [utf8_array, List.length_cons, List.length_append] at bounded
  have back : ∀ x ∈ xs, ReadsBack (Shape.reader depth) n .anything x := by
    intro x member
    have := length_le_row true (List.mem_map_of_mem (f := compact) member)
    exact each x member (by omega)
  have count := row_length true (xs.map compact)
  rw [List.length_map] at count
  have reads := reads_items rest (n + 1) true [] admits back (by omega)
  rw [utf8_array, List.cons_append, List.append_assoc]
  refine reads_collection nofun (.inl rfl) ?_
  rw [if_pos rfl]
  exact (reads_step _ _ _).bind ((reads_bound _ _).bind (reads.bind
    ((reads_step _ _ _).bind (reads_pure _ _ _))))

section

variable {ms : List (String × Json)}

/-- The names and the values of members are no longer than the object that they make up. -/
theorem length_le_object {m : String × Json} (member : m ∈ ms) :
    (utf8 (quoted m.1)).length ≤ (row true (ms.map memberText)).length ∧
      (utf8 m.2.compact).length ≤ (row true (ms.map memberText)).length := by
  have whole := length_le_row true (List.mem_map_of_mem (f := memberText) member)
  rw [utf8_memberText, List.length_append, List.length_cons] at whole
  constructor <;> omega

theorem reads_object
    (each : ∀ m ∈ ms, (utf8 m.2.compact).length ≤ n →
      ReadsBack (Shape.reader depth) n .anything m.2)
    (bounded : (utf8 (compact (.object ms))).length ≤ n) :
    ReadsBack (Shape.reader (depth + 1)) n .anything (.object ms) := by
  intro rest _
  rw [utf8_object, List.length_cons, List.length_append] at bounded
  have back : ∀ m ∈ ms, ReadsBack (Shape.reader depth) n .anything m.2 := by
    intro m member
    have := (length_le_object member).2
    exact each m member (by omega)
  have names : ∀ m ∈ ms, (utf8 (quoted m.1)).length ≤ n := by
    intro m member
    have := (length_le_object member).1
    omega
  have count := row_length true (ms.map memberText)
  rw [List.length_map] at count
  have reads := reads_entries rest (n + 1) true [] back names (by omega)
  rw [utf8_object, List.cons_append, List.append_assoc]
  refine reads_collection nofun (.inr rfl) ?_
  rw [if_neg (by decide)]
  exact (reads_step _ _ _).bind ((reads_bound _ _).bind (reads.bind
    ((reads_step _ _ _).bind (reads_pure _ _ _))))

theorem reads_record {expected : String} {rules : RecordRules} {fields : List (Field Shape)}
    (free : ∀ f ∈ fields, f.presence = .missable ∨ f.presence = .optional)
    (own : ∀ m ∈ ms, ∀ f, fields.find? (·.name == m.1) = some f → Admits depth f.shape m.2 ∧
      ((utf8 m.2.compact).length ≤ n → ReadsBack (Shape.reader depth) n f.shape m.2))
    (other : ∀ m ∈ ms, fields.find? (·.name == m.1) = none → rules.keepsOthers = true ∧
      ((utf8 m.2.compact).length ≤ n → ReadsBack (Shape.reader depth) n .anything m.2))
    (distinct : (ms.map Prod.fst).Nodup)
    (bounded : (utf8 (compact (.object ms))).length ≤ n) :
    ReadsBack (Shape.reader (depth + 1)) n (.record expected rules fields) (.object ms) := by
  intro rest _
  rw [utf8_object, List.length_cons, List.length_append] at bounded
  have kept : ∀ m ∈ ms, Kept (Shape.reader depth) n depth rules fields m := by
    intro m member
    obtain ⟨name, value⟩ := length_le_object member
    refine ⟨by omega, fun f found => ?_, fun none => ?_⟩
    · obtain ⟨shaped, here⟩ := own m member f found
      exact ⟨shaped, here (by omega)⟩
    · obtain ⟨keeps, here⟩ := other m member none
      exact ⟨keeps, here (by omega)⟩
  have count := row_length true (ms.map memberText)
  rw [List.length_map] at count
  have reads := reads_members rest (n + 1) true [] free kept distinct (by omega)
  rw [utf8_object, List.cons_append, List.append_assoc]
  refine reads_collection nofun (.inr rfl) ?_
  rw [if_neg (by decide)]
  exact (reads_bound _ _).bind ((reads_step _ _ _).bind (reads.bind
    ((reads_step _ _ _).bind (reads_pure _ _ _))))

end

/-- A value of a shape is read from its text, wherever that stands. -/
theorem reads_admitted {x : Json} (h : Admits depth shape x) (n : Nat)
    (bounded : (utf8 x.compact).length ≤ n) : ReadsBack (Shape.reader depth) n shape x := by
  -- Parts are shorter than the whole, so what bounds the whole bounds them.
  induction h with
  | null =>
    intro rest _
    rw [compact]
    exact reads_scalar (by nofun) reads_literal_null rfl _
  | @bool _ b =>
    intro rest _
    cases b <;> rw [compact]
    · exact reads_scalar (by nofun) reads_literal_false rfl _
    · exact reads_scalar (by nofun) reads_literal_true rfl _
  | @nat _ m fits =>
    intro rest closed
    exact reads_scalar (by nofun) (reads_literal_nat fits closed.past) rfl _
  | string =>
    rw [compact] at bounded
    intro rest _
    rw [compact]
    exact reads_scalar (by nofun) (reads_literal_string bounded) rfl _
  | text =>
    rw [compact] at bounded
    intro rest _
    rw [compact]
    exact reads_scalar (by nofun) (reads_literal_string bounded) rfl _
  | array each ih => exact reads_array each ih bounded
  | object each ih => exact reads_object ih bounded
  | record own other kept distinct free ihOwn ihOther =>
    refine reads_record free (fun m member f found => ?_) (fun m member none => ?_) distinct bounded
    · exact ⟨own m member f found, ihOwn m member f found⟩
    · exact ⟨kept m member none, ihOther m member none⟩

/-- The text of a value of a shape is read back as the value. -/
theorem read_compact {x : Json} (h : Admits maxDepth shape x) :
    shape.read (utf8 x.compact) = .ok x := by
  have value := reads_admitted h _ (Nat.le_refl _) [] (past_nil _)
  rw [List.append_nil] at value
  unfold read
  refine (value.bind ?_).run'
  refine (reads_peekSolid (past_nil _)).bind ?_
  exact reads_pure _ _ _

end Shape

end BrokerRollout.Json
