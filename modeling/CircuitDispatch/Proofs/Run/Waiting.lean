import CircuitDispatch.Proofs.Run.ProgramPolling

/-!
# Waiting

`PollsUpTo step n` lists what polling `n` times at most can do, if `step` lists what a single poll
can do. The polls follow each other, and the first one that does not wait is the last one. If `step`
says of every single poll what it can do, `PollsUpTo step n` says it of the polls in a row
(`Polls.pollFor`), and waiting answers with what the polls answer, or gives up (`Polls.waitFor`).

A run of a circuit is waited for with the steps of `CircuitRun.PollStep`, and a program with those
of `ProgramRun.OutcomeStep`, where the registers are made into the outcome (`polls_outcome`).
-/

namespace CircuitDispatch

variable {ρ α σ : Type}

/-- What polling up to a number of times can do. -/
inductive PollsUpTo (step : ρ → List Exchange → Except DispatchError (Option α) → ρ → Prop) :
    Nat → ρ → List Exchange → Except DispatchError (Option α) → ρ → Prop where
  | exhausted (run : ρ) : PollsUpTo step 0 run [] (.ok none) run
  | answered {n : Nat} {run after : ρ} {calls : List Exchange}
      {answer : Except DispatchError (Option α)} (first : step run calls answer after)
      (hanswer : answer ≠ .ok none) : PollsUpTo step (n + 1) run calls answer after
  | again {n : Nat} {run between after : ρ} {calls calls' : List Exchange}
      {answer : Except DispatchError (Option α)} (first : step run calls (.ok none) between)
      (others : PollsUpTo step n between calls' answer after) :
    PollsUpTo step (n + 1) run (calls ++ calls') answer after

/-- What waiting answers after polls that answer this. -/
def waitAnswer (polls : Nat) : Except DispatchError (Option α) → Except DispatchError α
  | .ok (some answer) => .ok answer
  | .ok none => .error (.pollTimeout polls)
  | .error e => .error e

theorem waitFor_eq (poll : ρ → StateM σ (Polled ρ α)) (polls : Nat) (run : ρ) :
    waitFor poll polls run = pollFor poll polls run >>= fun (answer, after) =>
      return (waitAnswer polls answer, after) := by
  rw [waitFor]
  refine congrArg _ (funext fun polled => ?_)
  rcases polled with ⟨answer, after⟩
  cases answer with
  | error e => rfl
  | ok found =>
    cases found with
    | none => rfl
    | some answer => rfl

variable {recording : ρ → StateM (σ × List Exchange) (Polled ρ α)}
  {plain : ρ → StateM σ (Polled ρ α)}
  {step : ρ → List Exchange → Except DispatchError (Option α) → ρ → Prop}

namespace Polls

/-- **Polls in a row.** -/
theorem pollFor (h : Polls recording plain step) (n : Nat) :
    Polls (pollFor recording n) (pollFor plain n) (PollsUpTo step n) := by
  induction n with
  | zero => exact fun run w => ⟨[], _, _, w, Records.pure _ w, .exhausted run⟩
  | succ n ih =>
    intro run w
    obtain ⟨calls, answer, between, w', hfirst, hstep⟩ := h run w
    by_cases hwaits : answer = .ok none
    · subst hwaits
      -- the others start from what the first poll leaves, in the world that it leaves
      obtain ⟨calls', answer, after, w'', hothers, hsteps⟩ := ih between w'
      exact ⟨calls ++ calls', answer, after, w'', hfirst.bind hothers, .again hstep hsteps⟩
    · -- results and errors both end the polling
      refine ⟨calls, answer, between, w', ?_, .answered hstep hwaits⟩
      match answer with
      | .ok none => exact absurd rfl hwaits
      | .ok (some _) => exact hfirst.bind_pure rfl rfl
      | .error _ => exact hfirst.bind_pure rfl rfl

/-- **Waiting** is polling, and giving up if every poll waits. -/
theorem waitFor (h : Polls recording plain step) (n : Nat) (run : ρ) (w : σ) :
    ∃ calls answer after w', Records (waitFor recording n run) (waitFor plain n run) w calls
        (waitAnswer n answer, after) w' ∧ PollsUpTo step n run calls answer after := by
  obtain ⟨calls, answer, after, w', hrecords, hsteps⟩ := h.pollFor n run w
  refine ⟨calls, answer, after, w', ?_, hsteps⟩
  rw [waitFor_eq, waitFor_eq]
  exact hrecords.bind_pure rfl rfl

end Polls

/-! ### Outcomes of programs -/

namespace ProgramRun

variable {M R : Type} [Measurement M R]

/-- What a poll for the outcome answers, if the poll for the registers answers this. -/
def outcomeOf (m : M) :
    Except DispatchError (Option (Registers R)) → Except DispatchError (Option (ProgramOutcome R))
  | .ok (some registers) => (outcome m registers).map some
  | .ok none => .ok none
  | .error e => .error e

/-- What one poll of a program for its outcome can do. -/
def OutcomeStep (program : ProgramRun M R) (calls : List Exchange)
    (answer : Except DispatchError (Option (ProgramOutcome R))) (after : ProgramRun M R) : Prop :=
  ∃ found, PollStep program calls found after ∧ answer = outcomeOf after.measurement found

/-- **One poll for the outcome.** -/
theorem polls_outcome (service : TaskService σ) :
    Polls (fun program : ProgramRun M R => program.poll service.recorded)
      (fun program => program.poll service) OutcomeStep := by
  intro program w
  obtain ⟨calls, found, after, w', hrecords, hstep⟩ := polls_program service program w
  refine ⟨calls, outcomeOf after.measurement found, after, w', ?_, found, hstep, rfl⟩
  match found with
  | .ok none => exact hrecords.bind_pure rfl rfl
  | .ok (some _) => exact hrecords.bind_pure rfl rfl
  | .error _ => exact hrecords.bind_pure rfl rfl

end ProgramRun

end CircuitDispatch
