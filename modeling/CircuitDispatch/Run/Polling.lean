import CircuitDispatch.Dispatch.Error

/-!
# Polling

A poll asks once whether something is finished: it answers, is still waiting, or
fails, and in any case tells what becomes of the thing polled. `pollFor` polls a
bounded number of times and stops at the first poll that does not wait, so that
polling for `m` and then for `n` more is polling for `m + n` (`pollFor_add`).
-/

namespace CircuitDispatch

/-- How long to poll. -/
structure PollPolicy where
  /-- The pause between two polls in milliseconds. -/
  interval : Nat := 500
  /-- The polls before giving up. -/
  maxPolls : Nat := 600
  deriving DecidableEq, Repr, Inhabited

/-- The outcome of a poll, `none` while waiting, and the thing polled as it is afterwards. -/
abbrev Polled (ρ α : Type) := Except DispatchError (Option α) × ρ

variable {σ ρ α : Type}

/-- Polls up to a number of times, until one poll has an answer or fails. -/
def pollFor (poll : ρ → StateM σ (Polled ρ α)) : Nat → ρ → StateM σ (Polled ρ α)
  | 0, run => return (.ok none, run)
  | n + 1, run => do
    match ← poll run with
    | (.ok none, run) => pollFor poll n run
    | answer => return answer

/-- Waits for an answer, and gives up after a number of polls. -/
def waitFor (poll : ρ → StateM σ (Polled ρ α)) (polls : Nat) (run : ρ) :
    StateM σ (Except DispatchError α × ρ) := do
  match ← pollFor poll polls run with
  | (.ok (some answer), run) => return (.ok answer, run)
  | (.ok none, run) => return (.error (.pollTimeout polls), run)
  | (.error e, run) => return (.error e, run)

@[simp] theorem pollFor_zero (poll : ρ → StateM σ (Polled ρ α)) (run : ρ) :
    pollFor poll 0 run = pure (.ok none, run) := rfl

/-- Polling goes on where it stopped. -/
theorem pollFor_add (poll : ρ → StateM σ (Polled ρ α)) (m n : Nat) (run : ρ) :
    pollFor poll (m + n) run = (do
      match ← pollFor poll m run with
      | (.ok none, run) => pollFor poll n run
      | answer => return answer) := by
  induction m generalizing run with
  | zero => simp
  | succ m ih =>
    rw [Nat.succ_add]
    simp only [pollFor, bind_assoc]
    congr 1
    funext answer
    match answer with
    | (.ok none, run) => exact ih run
    | (.ok (some _), _) => rfl
    | (.error _, _) => rfl

end CircuitDispatch
