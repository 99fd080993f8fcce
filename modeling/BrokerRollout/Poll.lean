import BrokerRollout.Simulation
import BrokerRollout.Window

/-!
# Polling

A condition is sampled at `0, interval, 2 * interval, …`, counted from the first attempt, until it
holds or its window closes. A slow attempt delays the next one but adds none, and no attempt starts
once the timeout has passed. A window may have slots that no clock reaches, or more of them than are
counted: a poll that comes to one of these panics.
-/

namespace BrokerRollout

/-- A window closed without a successful attempt. -/
structure Exhausted (ε : Type) where
  /-- The error of the last attempt. -/
  lastError : ε
  attempts : Nat
  elapsed : Nat
deriving DecidableEq

/-- The message of an exhausted poll, by that of its last error. -/
def Exhausted.message {ε : Type} (text : ε → String) (e : Exhausted ε) : String :=
  "condition not met after " ++ toString e.attempts ++ " attempts in " ++ Time.text e.elapsed
    ++ ": " ++ text e.lastError

/-- An activity of a probe, which remembers something of type `π` between its attempts. -/
abbrev Probing (π σ : Type) := StateT π (Sim σ)

/-- How a poll ends. -/
abbrev Poll.Ending (ε α : Type) := Except Panic (Except (Exhausted ε) α)

namespace Poll

variable {π σ ε α : Type}

/-- A poll that began at `start` and has made `made` attempts, all of them in vain. -/
def resume (w : Window) (attempt : Probing π σ (Except ε α)) (start made : Nat) :
    Probing π σ (Ending ε α) := do
  match ← attempt with
  | .ok value => return .ok (.ok value)
  | .error lastError =>
    let elapsed := (← (Sim.now : Sim σ Nat)) - start
    match h : w.slot? (made + 1) with
    | some offset =>
      if elapsed < w.timeout.nanos then
        match Time.after? start offset.nanos with
        | some slot =>
          (Sim.sleepUntil slot : Sim σ Unit)
          if made + 1 < Window.maxCount then resume w attempt start (made + 1)
          else return .error .count
        | none => return .error .instant
      else return .ok (.error ⟨lastError, made + 1, elapsed⟩)
    | none => return .ok (.error ⟨lastError, made + 1, elapsed⟩)
termination_by w.slots - made
decreasing_by
  have := Window.le_slots_of_slot? h
  omega

/-- Samples a condition until it holds or the window closes. -/
def run (w : Window) (attempt : Probing π σ (Except ε α)) : Probing π σ (Ending ε α) := do
  resume w attempt (← (Sim.now : Sim σ Nat)) 0

end Poll

end BrokerRollout
