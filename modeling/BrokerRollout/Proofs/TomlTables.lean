import BrokerRollout.Toml.Document

/-!
# Tables of TOML documents

No table of a document has a key twice, however deep it lies and by whatever lines it came about:
every line that would give a key for the second time is refused. Main statement: `parse?_distinct`.
-/

namespace BrokerRollout.Toml

/-- No table in the value has a key twice. -/
inductive Value.Distinct : Value → Prop where
  | string (text : String) : Distinct (.string text)
  | integer (n : Int) : Distinct (.integer n)
  | float (x : Binary64) : Distinct (.float x)
  | boolean (b : Bool) : Distinct (.boolean b)
  | moment (text : String) : Distinct (.moment text)
  | array {items : List Value} (each : ∀ v ∈ items, v.Distinct) : Distinct (.array items)
  | table {entries : List (String × Value)} (keys : (entries.map Prod.fst).Nodup)
      (each : ∀ e ∈ entries, e.2.Distinct) : Distinct (.table entries)

theorem Value.Distinct.of_table {entries : List (String × Value)}
    (distinct : (Value.table entries).Distinct) :
    (entries.map Prod.fst).Nodup ∧ ∀ e ∈ entries, e.2.Distinct := by
  cases distinct with
  | table keys each => exact ⟨keys, each⟩

/-! ### Drafts -/

theorem finishedEntries_eq_map (d : Draft) :
    finishedEntries d = d.map fun e => (e.1, e.2.finished) := by
  induction d with
  | nil => rfl
  | cons e d ih => rw [finishedEntries, ih, List.map_cons]

theorem finishedTables_eq_map (items : List Draft) :
    finishedTables items = items.map fun d => .table (finishedEntries d) := by
  induction items with
  | nil => rfl
  | cons d items ih => rw [finishedTables, ih, List.map_cons]

namespace Draft

def Distinct (d : Draft) : Prop := (Value.table (finishedEntries d)).Distinct

variable {d d' : Draft} {key : String} {node : Node} {path : List String} {v : Value}

theorem distinct_iff :
    d.Distinct ↔ (d.map Prod.fst).Nodup ∧ ∀ e ∈ d, e.2.finished.Distinct := by
  have names : (finishedEntries d).map Prod.fst = d.map Prod.fst := by
    rw [finishedEntries_eq_map, List.map_map]
    rfl
  constructor
  · intro distinct
    obtain ⟨keys, each⟩ := distinct.of_table
    refine ⟨names ▸ keys, fun e member => ?_⟩
    rw [finishedEntries_eq_map] at each
    exact each _ (List.mem_map_of_mem member)
  · rintro ⟨keys, each⟩
    refine .table (names ▸ keys) fun e member => ?_
    rw [finishedEntries_eq_map] at member
    obtain ⟨e, there, rfl⟩ := List.mem_map.1 member
    exact each e there

theorem Distinct.empty : Distinct [] := distinct_iff.2 ⟨List.nodup_nil, nofun⟩

theorem mem_of_find? (found : d.find? key = some node) : (key, node) ∈ d := by
  unfold find? at found
  obtain ⟨⟨name, _⟩, first, rfl⟩ := Option.map_eq_some_iff.1 found
  have same : name = key := by simpa using List.find?_some first
  exact same ▸ List.mem_of_find?_eq_some first

theorem not_mem_of_find? (missing : d.find? key = none) : key ∉ d.map Prod.fst := by
  unfold find? at missing
  rw [Option.map_eq_none_iff, List.find?_eq_none] at missing
  intro member
  obtain ⟨e, there, rfl⟩ := List.mem_map.1 member
  exact missing e there (beq_self_eq_true _)

theorem Distinct.found (distinct : d.Distinct) (found : d.find? key = some node) :
    node.finished.Distinct :=
  (distinct_iff.1 distinct).2 _ (mem_of_find? found)

theorem Distinct.concat (distinct : d.Distinct) (missing : d.find? key = none)
    (new : node.finished.Distinct) : Distinct (d ++ [(key, node)]) := by
  obtain ⟨keys, each⟩ := distinct_iff.1 distinct
  refine distinct_iff.2 ⟨?_, ?_⟩
  · rw [List.map_append]
    refine List.nodup_append.2 ⟨keys, List.pairwise_singleton _ key, ?_⟩
    intro a there b other same
    obtain rfl := List.mem_singleton.1 other
    exact not_mem_of_find? missing (same ▸ there)
  · intro e member
    rcases List.mem_append.1 member with old | added
    · exact each e old
    · obtain rfl := List.mem_singleton.1 added
      exact new

theorem Distinct.replace (distinct : d.Distinct) (new : node.finished.Distinct) :
    (d.replace key node).Distinct := by
  obtain ⟨keys, each⟩ := distinct_iff.1 distinct
  have names : (d.replace key node).map Prod.fst = d.map Prod.fst := by
    unfold Draft.replace
    rw [List.map_map]
    apply List.map_congr_left
    intro e _
    dsimp only [Function.comp]
    split <;> rfl
  refine distinct_iff.2 ⟨names ▸ keys, ?_⟩
  intro e member
  obtain ⟨old, there, rfl⟩ := List.mem_map.1 member
  dsimp only
  split
  · exact new
  · exact each old there

theorem Distinct.remove (distinct : d.Distinct) (key : String) : (d.remove key).Distinct := by
  obtain ⟨keys, each⟩ := distinct_iff.1 distinct
  refine distinct_iff.2 ⟨?_, fun e member => each e (List.mem_filter.1 member).1⟩
  exact keys.sublist (List.filter_sublist.map Prod.fst)

theorem find?_remove (d : Draft) (key : String) : (d.remove key).find? key = none := by
  unfold find? remove
  rw [Option.map_eq_none_iff, List.find?_eq_none]
  rintro ⟨name, node⟩ member same
  have other := (List.mem_filter.1 member).2
  dsimp only at same other
  rw [same] at other
  cases other

/-- A change that keeps the keys of a table distinct keeps those of every table around it. -/
theorem Distinct.update {dotted : Bool} {change : Origin → Draft → Option Draft}
    (keeps : ∀ origin {d d'}, change origin d = some d' → d.Distinct → d'.Distinct) {own : Origin}
    (changed : update dotted change own path d = some d') (distinct : d.Distinct) :
    d'.Distinct := by
  -- Along the path a table is either new and empty, or one that an entry of `d` leads to.
  induction path generalizing own d d' with
  | nil => exact keeps own changed distinct
  | cons key path ih =>
    unfold Draft.update at changed
    split at changed
    case h_1 missing =>
      obtain ⟨inner, opened, added⟩ := Option.bind_eq_some_iff.1 changed
      obtain rfl := Option.some.inj added
      exact distinct.concat missing (ih opened .empty)
    case h_2 => cases changed
    case h_3 origin inner found =>
      split at changed
      · cases changed
      · obtain ⟨inner', opened, replaced⟩ := Option.bind_eq_some_iff.1 changed
        obtain rfl := Option.some.inj replaced
        exact distinct.replace (ih opened (distinct.found found))
    case h_4 items found =>
      split at changed
      · cases changed
      · next last ends =>
        obtain ⟨last', opened, replaced⟩ := Option.bind_eq_some_iff.1 changed
        obtain rfl := Option.some.inj replaced
        have old := distinct.found found
        unfold Node.finished at old
        rw [finishedTables_eq_map] at old
        cases old with
        | array each =>
          have table {item : Draft} (member : item ∈ items) : item.Distinct :=
            each _ (List.mem_map_of_mem member)
          have new : Distinct last' := ih opened (table (List.mem_of_getLast? ends))
          apply distinct.replace
          unfold Node.finished
          rw [finishedTables_eq_map]
          refine .array fun v member => ?_
          obtain ⟨item, there, rfl⟩ := List.mem_map.1 member
          rcases List.mem_append.1 there with before | added
          · exact table (List.dropLast_subset items before)
          · obtain rfl := List.mem_singleton.1 added
            exact new

theorem Distinct.assign (distinct : d.Distinct) (value : v.Distinct)
    (assigned : d.assign path key v = some d') : d'.Distinct := by
  refine Distinct.update ?_ assigned distinct
  intro origin d d' put distinct
  split at put
  · cases put
  · split at put
    · cases put
    · next missing =>
      obtain rfl := Option.some.inj put
      exact distinct.concat (by simpa using missing) value

theorem Distinct.assignIn {header : List String} (distinct : d.Distinct) (value : v.Distinct)
    (assigned : d.assignIn header path key v = some d') : d'.Distinct :=
  Distinct.update (fun _ _ _ put distinct => distinct.assign value put) assigned distinct

theorem Distinct.openTable (distinct : d.Distinct) (opened : d.openTable path key = some d') :
    d'.Distinct := by
  refine Distinct.update ?_ opened distinct
  intro origin d d' put distinct
  split at put
  case h_1 missing =>
    obtain rfl := Option.some.inj put
    exact distinct.concat missing Distinct.empty
  case h_2 inner found =>
    obtain rfl := Option.some.inj put
    have old : Distinct inner := distinct.found found
    exact (distinct.remove key).concat (find?_remove d key) old
  case h_3 => cases put

theorem Distinct.openArray (distinct : d.Distinct) (opened : d.openArray path key = some d') :
    d'.Distinct := by
  refine Distinct.update ?_ opened distinct
  intro origin d d' put distinct
  split at put
  case h_1 missing =>
    obtain rfl := Option.some.inj put
    apply distinct.concat missing
    refine .array fun v member => ?_
    obtain rfl := List.mem_singleton.1 member
    exact Distinct.empty
  case h_2 items found =>
    obtain rfl := Option.some.inj put
    apply distinct.replace
    have old := distinct.found found
    unfold Node.finished at old ⊢
    rw [finishedTables_eq_map] at old ⊢
    cases old with
    | array each =>
      rw [List.map_append]
      refine .array fun v member => ?_
      rcases List.mem_append.1 member with before | added
      · exact each v before
      · obtain rfl := List.mem_singleton.1 added
        exact Distinct.empty
  case h_3 => cases put

end Draft

/-! ### Values -/

section Values

variable {v : Value} {cs rest : List Char}

theorem Value.Distinct.of_integer {n : Int} {after : List Char}
    (read : (integerInRange? n >>= fun w => some (w, after)) = some (v, rest)) : v.Distinct := by
  obtain ⟨w, inside, same⟩ := Option.bind_eq_some_iff.1 read
  cases same
  unfold integerInRange? at inside
  split at inside
  · cases inside
    exact .integer n
  · cases inside

theorem Value.Distinct.of_float {x : Binary64} {after : List Char}
    (read : (floatInRange? x >>= fun w => some (w, after)) = some (v, rest)) : v.Distinct := by
  obtain ⟨w, inside, same⟩ := Option.bind_eq_some_iff.1 read
  cases same
  unfold floatInRange? at inside
  split at inside
  · cases inside
  · cases inside
    exact .float _

theorem Value.Distinct.of_basedInteger {base : Nat} {digit : Char → Bool}
    (read : basedInteger base digit cs = some (v, rest)) : v.Distinct := by
  obtain ⟨⟨ds, _⟩, -, read⟩ := Option.bind_eq_some_iff.1 read
  exact .of_integer read

theorem Value.Distinct.of_decimal (read : decimal cs = some (v, rest)) : v.Distinct := by
  obtain ⟨⟨whole, _⟩, -, read⟩ := Option.bind_eq_some_iff.1 read
  dsimp only at read
  split at read
  case h_1 =>
    obtain ⟨⟨places, _⟩, -, read⟩ := Option.bind_eq_some_iff.1 read
    dsimp only at read
    split at read
    · split at read
      · obtain ⟨⟨power, _⟩, -, read⟩ := Option.bind_eq_some_iff.1 read
        exact .of_float read
      · exact .of_float read
    · exact .of_float read
  case h_2 =>
    split at read
    · obtain ⟨⟨power, _⟩, -, read⟩ := Option.bind_eq_some_iff.1 read
      exact .of_float read
    · exact .of_integer read
  case h_3 => exact .of_integer read

theorem Value.Distinct.of_number (read : number cs = some (v, rest)) : v.Distinct := by
  unfold number at read
  split at read
  case h_1 => exact .of_basedInteger read
  case h_2 => exact .of_basedInteger read
  case h_3 => exact .of_basedInteger read
  case h_4 =>
    dsimp only at read
    split at read
    · cases read
      exact .float _
    · cases read
      exact .float _
    · exact .of_decimal read

theorem Value.Distinct.of_numeric (read : numeric cs = some (v, rest)) : v.Distinct := by
  unfold numeric at read
  dsimp only at read
  split at read
  · obtain ⟨after, -, same⟩ := Option.map_eq_some_iff.1 read
    cases same
    exact .moment _
  split at read
  · obtain ⟨after, -, same⟩ := Option.map_eq_some_iff.1 read
    cases same
    exact .moment _
  · exact .of_number read

theorem Value.Distinct.of_word {text : String} {w : Value} (plain : w.Distinct)
    (read : word text w cs = some (v, rest)) : v.Distinct := by
  unfold word at read
  split at read
  · cases read
    exact plain
  · cases read

/-- Values, the items of arrays and the assignments of inline tables, which are read with one bound
on their characters. -/
theorem value_items_pairs_distinct (bound : Nat) :
    (∀ {depth cs v rest}, value bound depth cs = some (v, rest) → v.Distinct) ∧
    (∀ {depth before cs vs rest}, items bound depth before cs = some (vs, rest) →
      (∀ v ∈ before, v.Distinct) → ∀ v ∈ vs, v.Distinct) ∧
    (∀ {depth draft cs draft' rest}, pairs bound depth draft cs = some (draft', rest) →
      draft.Distinct → draft'.Distinct) := by
  induction bound with
  | zero => exact ⟨nofun, nofun, nofun⟩
  | succ bound ih =>
    obtain ⟨values, itemss, pairss⟩ := ih
    refine ⟨?_, ?_, ?_⟩
    · intro depth cs v rest read
      unfold value at read
      split at read
      · cases read
      next c cs =>
      split at read
      · obtain ⟨_, -, same⟩ := Option.map_eq_some_iff.1 read
        cases same
        exact .string _
      split at read
      · split at read
        · cases read
        obtain ⟨⟨vs, _⟩, inside, same⟩ := Option.map_eq_some_iff.1 read
        cases same
        exact .array (itemss inside nofun)
      split at read
      · split at read
        · cases read
        split at read
        · cases read
          exact Draft.Distinct.empty
        obtain ⟨⟨d, _⟩, inside, same⟩ := Option.map_eq_some_iff.1 read
        cases same
        exact pairss inside Draft.Distinct.empty
      split at read
      · exact .of_word (.boolean true) read
      split at read
      · exact .of_word (.boolean false) read
      split at read
      · exact .of_word (.float _) read
      split at read
      · exact .of_word (.float _) read
      split at read
      · exact .of_numeric read
      · cases read
    · intro depth before cs vs rest read earlier
      unfold items at read
      split at read
      · cases read
        intro v member
        exact earlier v (List.mem_reverse.1 member)
      split at read
      · cases read
      next w after found =>
      have all : ∀ v ∈ w :: before, v.Distinct := List.forall_mem_cons.2 ⟨values found, earlier⟩
      split at read
      · exact itemss read all
      · cases read
        intro v member
        exact all v (List.mem_reverse.1 member)
      · cases read
    · intro depth draft cs draft' rest read distinct
      unfold pairs at read
      split at read
      case h_2 => cases read
      split at read
      · cases read
      next w after found =>
      split at read
      · cases read
      next assigned =>
      have grown := distinct.assign (values found) assigned
      split at read
      · exact pairss read grown
      · cases read
        exact grown
      · cases read

end Values

/-! ### Lines -/

theorem header_distinct {r r' : Reading} {cs rest : List Char} (distinct : r.draft.Distinct)
    (read : header r cs = some (r', rest)) : r'.draft.Distinct := by
  unfold header at read
  split at read
  all_goals
    obtain ⟨⟨⟨path, last⟩, _⟩, -, read⟩ := Option.bind_eq_some_iff.1 read
    dsimp only at read
  · obtain ⟨_, -, read⟩ := Option.bind_eq_some_iff.1 read
    obtain ⟨_, -, read⟩ := Option.bind_eq_some_iff.1 read
    obtain ⟨d, opened, read⟩ := Option.bind_eq_some_iff.1 read
    obtain ⟨_, -, read⟩ := Option.bind_eq_some_iff.1 read
    cases read
    exact distinct.openArray opened
  · obtain ⟨_, -, read⟩ := Option.bind_eq_some_iff.1 read
    obtain ⟨d, opened, read⟩ := Option.bind_eq_some_iff.1 read
    obtain ⟨_, -, read⟩ := Option.bind_eq_some_iff.1 read
    cases read
    exact distinct.openTable opened

theorem assignment_distinct {r r' : Reading} {cs rest : List Char} (distinct : r.draft.Distinct)
    (read : assignment r cs = some (r', rest)) : r'.draft.Distinct := by
  obtain ⟨⟨⟨path, last⟩, _⟩, -, read⟩ := Option.bind_eq_some_iff.1 read
  obtain ⟨_, -, read⟩ := Option.bind_eq_some_iff.1 read
  obtain ⟨⟨v, _⟩, given, read⟩ := Option.bind_eq_some_iff.1 read
  obtain ⟨d, assigned, read⟩ := Option.bind_eq_some_iff.1 read
  obtain ⟨_, -, read⟩ := Option.bind_eq_some_iff.1 read
  cases read
  exact distinct.assignIn ((value_items_pairs_distinct _).1 given) assigned

theorem lines_distinct {bound : Nat} {r r' : Reading} {cs : List Char}
    (distinct : r.draft.Distinct) (read : lines bound r cs = some r') : r'.draft.Distinct := by
  induction bound generalizing r cs with
  | zero => cases read
  | succ bound ih =>
    unfold lines at read
    split at read
    · cases read
      exact distinct
    · split at read
      · next opened => exact ih (header_distinct distinct opened) read
      · cases read
    · split at read
      · split at read
        · exact ih distinct read
        · cases read
      · split at read
        · next assigned => exact ih (assignment_distinct distinct assigned) read
        · cases read

/-- No table of a document has a key twice. -/
theorem parse?_distinct {text : String} {doc : List (String × Value)}
    (parsed : parse? text = some doc) : (Value.table doc).Distinct := by
  obtain ⟨r, read, rfl⟩ := Option.map_eq_some_iff.1 parsed
  exact lines_distinct Draft.Distinct.empty read

end BrokerRollout.Toml
