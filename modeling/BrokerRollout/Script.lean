/-!
# Scripts

A script is a list of things to happen. Each use takes the next one, and the last stays for ever.
-/

namespace BrokerRollout

/-- What the next uses bring, in order. -/
structure Script (α : Type) where
  items : List α := []
deriving DecidableEq

namespace Script

variable {α : Type}

/-- What the next use brings; an empty script brings nothing. -/
def current? (s : Script α) : Option α := s.items.head?

/-- The script after one use. -/
def advance (s : Script α) : Script α :=
  match s.items with
  | _ :: next :: rest => ⟨next :: rest⟩
  | items => ⟨items⟩

/-- What use number `n`, counted from zero, brings. -/
def nth? (s : Script α) (n : Nat) : Option α := s.items[min n (s.items.length - 1)]?

theorem nth?_zero (s : Script α) : s.nth? 0 = s.current? := by
  simp [nth?, current?, List.head?_eq_getElem?]

theorem nth?_advance (s : Script α) (n : Nat) : s.advance.nth? n = s.nth? (n + 1) := by
  rcases s with ⟨_ | ⟨_, _ | ⟨_, _⟩⟩⟩ <;> simp [advance, nth?, Nat.succ_min_succ]

theorem exists_nth? {s : Script α} (some : s.items ≠ []) (n : Nat) :
    ∃ a, s.nth? n = Option.some a := by
  have positive := List.length_pos_iff.2 some
  have within : min n (s.items.length - 1) < s.items.length := by omega
  exact ⟨_, List.getElem?_eq_getElem within⟩

end Script

end BrokerRollout
