/-!
# Results that take time

A delayed result is there at once, or after waits. Two of them can be waited for together: time
passes for both of them alike, and whatever is due first happens first. Main statements: together
they bring what each of them brings (`Delayed.result_both`), as soon as the slower of them is there
(`Delayed.took_both`).
-/

namespace BrokerRollout

/-- A result with the waits before it. -/
inductive Delayed (α : Type) where
  | ready (result : α)
  | wait (span : Nat) (rest : Delayed α)

namespace Delayed

variable {α β γ : Type}

def result : Delayed α → α
  | ready a => a
  | wait _ rest => rest.result

/-- How long it takes until the result is there. -/
def took : Delayed α → Nat
  | ready _ => 0
  | wait span rest => span + rest.took

def map (f : α → β) : Delayed α → Delayed β
  | ready a => ready (f a)
  | wait span rest => wait span (rest.map f)

/-- What is left of the waits when `span` has passed. -/
def elapse (span : Nat) : Delayed α → Delayed α
  | ready a => ready a
  | wait other rest => if span ≤ other then wait (other - span) rest else elapse (span - other) rest

/-- Goes on with `y` while `span` passes, and then with what `resume` makes of the rest of `y`. -/
def meanwhile (resume : Delayed β → Delayed γ) (span : Nat) : Delayed β → Delayed γ
  | ready b => wait span (resume (ready b))
  | wait other y =>
    if span ≤ other then wait span (resume (wait (other - span) y))
    else wait other (meanwhile resume (span - other) y)

/-- Two results that are waited for together. -/
def both : Delayed α → Delayed β → Delayed (α × β)
  | ready a, y => y.map (Prod.mk a)
  | wait span x, y => meanwhile (both x) span y

@[simp] theorem result_map (f : α → β) (x : Delayed α) : (x.map f).result = f x.result := by
  induction x with
  | ready _ => rfl
  | wait _ _ ih => exact ih

@[simp] theorem took_map (f : α → β) (x : Delayed α) : (x.map f).took = x.took := by
  induction x with
  | ready _ => rfl
  | wait span _ ih => exact congrArg (span + ·) ih

@[simp] theorem result_elapse (span : Nat) (x : Delayed α) : (x.elapse span).result = x.result := by
  induction x generalizing span with
  | ready _ => rfl
  | wait other rest ih =>
    rw [elapse]
    split
    · rfl
    · exact ih (span - other)

@[simp] theorem took_elapse (span : Nat) (x : Delayed α) : (x.elapse span).took = x.took - span := by
  induction x generalizing span with
  | ready _ => exact (Nat.zero_sub span).symm
  | wait other rest ih =>
    rw [elapse]
    split
    · simp only [took]
      omega
    · simp only [took, ih]
      omega

theorem result_meanwhile {resume : Delayed β → Delayed γ} {f : β → γ}
    (resumes : ∀ y, (resume y).result = f y.result) (span : Nat) (y : Delayed β) :
    (meanwhile resume span y).result = f y.result := by
  induction y generalizing span with
  | ready b => exact resumes (ready b)
  | wait other y ih =>
    rw [meanwhile]
    split
    · exact resumes (wait (other - span) y)
    · exact ih (span - other)

theorem took_meanwhile {resume : Delayed β → Delayed γ} {left : Nat}
    (resumes : ∀ y, (resume y).took = max left y.took) (span : Nat) (y : Delayed β) :
    (meanwhile resume span y).took = max (span + left) y.took := by
  induction y generalizing span with
  | ready b =>
    simp only [meanwhile, took, resumes]
    omega
  | wait other y ih =>
    rw [meanwhile]
    split
    · simp only [took, resumes]
      omega
    · simp only [took, ih]
      omega

@[simp] theorem result_both (x : Delayed α) (y : Delayed β) :
    (both x y).result = (x.result, y.result) := by
  induction x generalizing y with
  | ready a => exact result_map (Prod.mk a) y
  | wait span x ih => exact result_meanwhile (f := Prod.mk x.result) ih span y

@[simp] theorem took_both (x : Delayed α) (y : Delayed β) :
    (both x y).took = max x.took y.took := by
  induction x generalizing y with
  | ready a => rw [both, took_map, took, Nat.zero_max]
  | wait span x ih => exact took_meanwhile ih span y

end Delayed

end BrokerRollout
