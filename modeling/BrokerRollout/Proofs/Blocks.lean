import BrokerRollout.Proofs.History

/-!
# Blocks of calls

A block is one call that is made again until its answer is accepted. Calls go through blocks in
order, to the end or up to the first block that fails (`Follows`). Main statements: how often each
block makes its call (`Follows.shape`), and that a call of a later block comes after the accepted
one of each earlier block (`Follows.accepted_before`).
-/

namespace BrokerRollout

/-- The same call again and again, at most `bound` times, until its answer is accepted. -/
structure Block where
  ask : Ask
  Accepts : Call → Prop
  bound : Nat

namespace Block

variable {k : Block} {calls : List Call}

/-- Calls of the block that were not accepted. -/
def Vain (k : Block) (calls : List Call) : Prop := ∀ c ∈ calls, c.ask = k.ask ∧ ¬k.Accepts c

/-- The last call is accepted, and it is the first that is. -/
inductive Passes (k : Block) : List Call → Prop where
  | intro {vain : List Call} {last : Call} (before : k.Vain vain) (asked : last.ask = k.ask)
      (accepted : k.Accepts last) (within : vain.length < k.bound) : Passes k (vain ++ [last])

/-- Some calls are made, and none is accepted. -/
structure Fails (k : Block) (calls : List Call) : Prop where
  nonempty : calls ≠ []
  vain : k.Vain calls
  within : calls.length ≤ k.bound

theorem Passes.first {c : Call} (asked : c.ask = k.ask) (accepted : k.Accepts c)
    (room : 0 < k.bound) : k.Passes [c] :=
  @Passes.intro k [] c (by simp [Vain]) asked accepted room

theorem Passes.asks (h : k.Passes calls) :
    calls.map Call.ask = List.replicate calls.length k.ask := by
  obtain ⟨before, asked, -, -⟩ := h
  refine List.map_eq_replicate_iff.2 fun c member => ?_
  rcases List.mem_append.1 member with member | member
  · exact (before c member).1
  · rwa [List.mem_singleton.1 member]

theorem Fails.asks (h : k.Fails calls) : calls.map Call.ask = List.replicate calls.length k.ask :=
  List.map_eq_replicate_iff.2 fun c member => (h.vain c member).1

theorem Passes.count (h : k.Passes calls) : 1 ≤ calls.length ∧ calls.length ≤ k.bound := by
  obtain ⟨-, -, -, within⟩ := h
  rw [List.length_append, List.length_singleton]
  omega

theorem Fails.count (h : k.Fails calls) : 1 ≤ calls.length ∧ calls.length ≤ k.bound :=
  ⟨List.length_pos_iff.2 h.nonempty, h.within⟩

end Block

/-! ### Blocks in order -/

/-- Calls that go through all the blocks. -/
inductive Through : List Block → List Call → Prop where
  | done : Through [] []
  | next {k : Block} {rest : List Block} {calls more : List Call} (here : k.Passes calls)
      (later : Through rest more) : Through (k :: rest) (calls ++ more)

/-- Calls that go through some of the blocks and end with one that fails. -/
inductive CutShort : List Block → List Call → Prop where
  | intro {done rest : List Block} {k : Block} {before last : List Call}
      (passed : Through done before) (failed : k.Fails last) :
      CutShort (done ++ k :: rest) (before ++ last)

/-- Calls that go through blocks to the end or up to the first that fails. -/
def Follows (blocks : List Block) (calls : List Call) : Prop :=
  Through blocks calls ∨ CutShort blocks calls

namespace Through

variable {blocks more : List Block} {calls : List Call}

theorem single {k : Block} (h : k.Passes calls) : Through [k] calls := by
  simpa using next h done

theorem append {others : List Call} (h : Through blocks calls) (later : Through more others) :
    Through (blocks ++ more) (calls ++ others) := by
  induction h with
  | done => exact later
  | next here _ ih =>
    rw [List.append_assoc]
    exact .next here ih

theorem split (h : Through (blocks ++ more) calls) :
    ∃ before after, calls = before ++ after ∧ Through blocks before ∧ Through more after := by
  induction blocks generalizing calls with
  | nil => exact ⟨[], calls, rfl, .done, h⟩
  | cons k rest ih =>
    cases h with
    | @next _ _ calls _ here later =>
      obtain ⟨before, after, rfl, first, second⟩ := ih later
      exact ⟨calls ++ before, after, (List.append_assoc ..).symm, .next here first, second⟩

theorem accepted (h : Through blocks calls) {k : Block} (member : k ∈ blocks) :
    ∃ c ∈ calls, k.Accepts c := by
  induction h with
  | done => cases member
  | next here _ ih =>
    rcases List.mem_cons.1 member with rfl | member
    · obtain ⟨-, -, accepted, -⟩ := here
      exact ⟨_, by simp, accepted⟩
    · obtain ⟨c, present, accepted⟩ := ih member
      exact ⟨c, List.mem_append_right _ present, accepted⟩

/-- The accepted call of a block comes after those of the blocks before, and the blocks after it go
on from there. -/
theorem accepted_at {k : Block} (h : Through (blocks ++ k :: more) calls) :
    ∃ before d after, calls = before ++ d :: after ∧ k.Accepts d ∧ Through more after ∧
      ∀ j ∈ blocks, ∃ e ∈ before, j.Accepts e := by
  obtain ⟨first, rest, rfl, passed, later⟩ := h.split
  obtain _ | ⟨@⟨vain, d, -, -, accepted, -⟩, after⟩ := later
  refine ⟨first ++ vain, d, _, by simp, accepted, after, fun j member => ?_⟩
  obtain ⟨e, present, holds⟩ := passed.accepted member
  exact ⟨e, List.mem_append_left _ present, holds⟩

theorem shape (h : Through blocks calls) :
    ∃ counts : List Nat, counts.length = blocks.length ∧
      (∀ x ∈ blocks.zip counts, 1 ≤ x.2 ∧ x.2 ≤ x.1.bound) ∧
      calls.map Call.ask = (blocks.zip counts).flatMap fun x => List.replicate x.2 x.1.ask := by
  induction h with
  | done => exact ⟨[], rfl, by simp, rfl⟩
  | @next k rest calls more here _ ih =>
    obtain ⟨counts, length, bounds, asks⟩ := ih
    refine ⟨calls.length :: counts, congrArg (· + 1) length, ?_, ?_⟩
    · exact List.forall_mem_cons.2 ⟨here.count, bounds⟩
    · rw [List.map_append, here.asks, asks]
      rfl

end Through

namespace Follows

variable {blocks : List Block} {calls : List Call}

theorem shape (h : Follows blocks calls) :
    ∃ counts : List Nat, counts.length ≤ blocks.length ∧
      (∀ x ∈ blocks.zip counts, 1 ≤ x.2 ∧ x.2 ≤ x.1.bound) ∧
      calls.map Call.ask = (blocks.zip counts).flatMap fun x => List.replicate x.2 x.1.ask := by
  rcases h with through | @⟨done, rest, k, before, last, passed, failed⟩
  · obtain ⟨counts, length, bounds, asks⟩ := through.shape
    exact ⟨counts, Nat.le_of_eq length, bounds, asks⟩
  · obtain ⟨counts, length, bounds, asks⟩ := passed.shape
    have zipped : (done ++ k :: rest).zip (counts ++ [last.length]) =
        done.zip counts ++ [(k, last.length)] := by
      rw [List.zip_append length.symm, List.zip_cons_cons, List.zip_nil_right]
    refine ⟨counts ++ [last.length], by simp [length], ?_, ?_⟩
    · rw [zipped, List.forall_mem_append]
      exact ⟨bounds, by simpa using failed.count⟩
    · rw [zipped, List.map_append, asks, failed.asks, List.flatMap_append]
      simp

theorem asks (h : Follows blocks calls) {c : Call} (member : c ∈ calls) :
    ∃ k ∈ blocks, c.ask = k.ask := by
  obtain ⟨counts, -, -, asks⟩ := h.shape
  have asked := List.mem_map_of_mem (f := Call.ask) member
  rw [asks, List.mem_flatMap] at asked
  obtain ⟨⟨k, count⟩, place, same⟩ := asked
  exact ⟨k, (List.of_mem_zip place).1, List.eq_of_mem_replicate same⟩

/-- Calls get through the blocks up to some point and follow the rest, or they end before it. -/
theorem split {early late : List Block} (h : Follows (early ++ late) calls) :
    (∃ before after, calls = before ++ after ∧ Through early before ∧ Follows late after) ∨
      Follows early calls := by
  rcases h with through | cut
  · obtain ⟨before, after, rfl, first, second⟩ := through.split
    exact .inl ⟨before, after, rfl, first, .inl second⟩
  generalize whole : early ++ late = blocks at cut
  obtain @⟨done, rest, k, before, last, passed, failed⟩ := cut
  rcases List.append_eq_append_iff.1 whole with ⟨more, rfl, rfl⟩ | ⟨more, rfl, rest⟩
  · obtain ⟨first, second, rfl, here, later⟩ := passed.split
    exact .inl ⟨first, second ++ last, List.append_assoc .., here, .inr (.intro later failed)⟩
  · cases more with
    | nil =>
      rw [List.append_nil]
      rw [List.nil_append] at rest
      exact .inl ⟨before, last, rfl, passed, .inr (rest ▸ .intro .done failed)⟩
    | cons _ more =>
      obtain ⟨rfl, -⟩ := List.cons.inj rest
      exact .inr (.inr (.intro passed failed))

/-- A call that neither `k` nor a block before it makes comes after the accepted call of `k`, and
that one after the accepted calls of the blocks before. -/
theorem accepted_before {early late : List Block} {k : Block} {before after : List Call} {c : Call}
    (h : Follows (early ++ k :: late) (before ++ c :: after))
    (other : ∀ j ∈ early ++ [k], c.ask ≠ j.ask) :
    ∃ first d second, before = first ++ d :: second ∧ k.Accepts d ∧
      ∀ j ∈ early, ∃ e ∈ first, j.Accepts e := by
  -- The call is not among those of the blocks up to `k`, so these are all before it.
  have foreign {calls : List Call} (h : Follows (early ++ [k]) calls) : c ∉ calls := by
    intro member
    obtain ⟨j, present, same⟩ := h.asks member
    exact other j present same
  rw [← List.singleton_append, ← List.append_assoc] at h
  rcases h.split with ⟨passed, rest, whole, through, -⟩ | short
  · obtain ⟨more, rfl⟩ := comes_before whole (foreign (.inl through))
    obtain ⟨first, d, second, rfl, accepted, -, passed⟩ := through.accepted_at
    exact ⟨first, d, second ++ more, by simp, accepted, passed⟩
  · exact absurd (by simp) (foreign short)

end Follows

end BrokerRollout
