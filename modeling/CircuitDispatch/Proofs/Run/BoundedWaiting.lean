import CircuitDispatch.Proofs.Run.Waiting

/-!
# Waiting as the polls tell it

What waiting comes to is read off the polls in a row: `afterPolls` is what a thing and the world
have become after so many of them, whatever they answered, and `answerAfter` what the next one
answers. `WaitsAsPolled` says that waiting makes these polls up to the first one that does not wait,
and no more than are granted; and that waiting again after a timeout goes on where it stopped.

It holds of whatever is waited for by `waitFor`, if no poll answers with a timeout by itself
(`waitsAsPolled`). The poll of a circuit never does (`CircuitRun.PollStep.answer_ne_pollTimeout`),
nor does that of a program (`ProgramRun.OutcomeStep.answer_ne_pollTimeout`). The main statement is
`wait_asPolled`.
-/

namespace CircuitDispatch

variable {M R ρ α σ : Type}

/-! ### Polls in a row -/

/-- A thing and the world after so many polls, whatever these answer. -/
def afterPolls (poll : ρ → StateM σ (Polled ρ α)) (run : ρ) (w : σ) : Nat → ρ × σ
  | 0 => (run, w)
  | n + 1 =>
    let (run, w) := afterPolls poll run w n
    let ((_, after), w) := (poll run).run w
    (after, w)

/-- What the poll answers that comes after so many others. -/
def answerAfter (poll : ρ → StateM σ (Polled ρ α)) (run : ρ) (w : σ) (n : Nat) :
    Except DispatchError (Option α) :=
  let (run, w) := afterPolls poll run w n
  ((poll run).run w).1.1

/-- The same answer, but for the number of polls in a timeout. -/
def recount (polls : Nat) : Except DispatchError α → Except DispatchError α
  | .error (.pollTimeout _) => .error (.pollTimeout polls)
  | answer => answer

/-- **Waiting is polling.** What becomes of a thing in a world if it is waited for, with a number of
polls that is granted. -/
structure WaitsAsPolled (poll : ρ → StateM σ (Polled ρ α))
    (wait : Nat → ρ → StateM σ (Except DispatchError α × ρ)) (run : ρ) (w : σ) : Prop where
  /-- The first poll that has an answer is the last one, and waiting answers the same. -/
  answered : ∀ {polls n : Nat} {answer : α}, n < polls →
    (∀ i < n, answerAfter poll run w i = .ok none) →
    answerAfter poll run w n = .ok (some answer) →
    (wait polls run).run w
      = ((.ok answer, (afterPolls poll run w (n + 1)).1), (afterPolls poll run w (n + 1)).2)
  /-- So is the first poll that fails. -/
  failed : ∀ {polls n : Nat} {e : DispatchError}, n < polls →
    (∀ i < n, answerAfter poll run w i = .ok none) → answerAfter poll run w n = .error e →
    (wait polls run).run w
      = ((.error e, (afterPolls poll run w (n + 1)).1), (afterPolls poll run w (n + 1)).2)
  /-- Waiting gives up exactly if all the polls that are granted still wait. -/
  timeout_iff : ∀ polls, ((wait polls run).run w).1.1 = .error (.pollTimeout polls) ↔
    ∀ i < polls, answerAfter poll run w i = .ok none
  /-- Thing and world are left as some of the polls leave them, of which all but the last one wait.
  There are no more than are granted. -/
  bounded : ∀ polls, ∃ n ≤ polls, (∀ i, i + 1 < n → answerAfter poll run w i = .ok none) ∧
    (((wait polls run).run w).1.2, ((wait polls run).run w).2) = afterPolls poll run w n
  /-- Without a poll nothing changes. -/
  unpolled : (wait 0 run).run w = ((.error (.pollTimeout 0), run), w)
  /-- Waiting again after a timeout comes to the same as waiting once for all the polls. -/
  resumed : ∀ polls more, ((wait polls run).run w).1.1 = .error (.pollTimeout polls) →
    let first := (wait polls run).run w
    let second := (wait more first.1.2).run first.2
    (wait (polls + more) run).run w
      = ((recount (polls + more) second.1.1, second.1.2), second.2)
  /-- More polls make no difference if fewer are enough. -/
  settled : ∀ polls more, ((wait polls run).run w).1.1 ≠ .error (.pollTimeout polls) →
    (wait (polls + more) run).run w = (wait polls run).run w

/-! ### Waiting for anything -/

section Polls

variable {poll : ρ → StateM σ (Polled ρ α)} {run : ρ} {w : σ} {polls more n : Nat}

theorem pollFor_one (poll : ρ → StateM σ (Polled ρ α)) (run : ρ) :
    pollFor poll 1 run = poll run := by
  rw [pollFor]
  conv_rhs => rw [← bind_pure (poll run)]
  refine congrArg _ (funext fun polled => ?_)
  rcases polled with ⟨answer, after⟩
  cases answer with
  | error e => rfl
  | ok found =>
    cases found with
    | none => rfl
    | some answer => rfl

/-- The poll after so many others. -/
theorem run_poll_afterPolls (poll : ρ → StateM σ (Polled ρ α)) (run : ρ) (w : σ) (n : Nat) :
    (poll (afterPolls poll run w n).1).run (afterPolls poll run w n).2
      = ((answerAfter poll run w n, (afterPolls poll run w (n + 1)).1),
        (afterPolls poll run w (n + 1)).2) := rfl

/-- After polls that wait, polling goes on. -/
theorem run_pollFor_add_of_waits
    (h : (pollFor poll polls run).run w = ((.ok none, (afterPolls poll run w polls).1),
      (afterPolls poll run w polls).2)) :
    (pollFor poll (polls + more) run).run w
      = (pollFor poll more (afterPolls poll run w polls).1).run
        (afterPolls poll run w polls).2 := by
  rw [pollFor_add, StateT.run_bind, h]
  rfl

/-- Polls that all wait are all made. -/
theorem run_pollFor_of_waits (h : ∀ i < n, answerAfter poll run w i = .ok none) :
    (pollFor poll n run).run w
      = ((.ok none, (afterPolls poll run w n).1), (afterPolls poll run w n).2) := by
  induction n with
  | zero => rfl
  | succ n ih =>
    have hn := ih fun i hi => h i (Nat.lt_succ_of_lt hi)
    rw [run_pollFor_add_of_waits hn, pollFor_one, run_poll_afterPolls, h n (Nat.lt_succ_self n)]

/-- Polling stops at the first poll that does not wait. -/
theorem run_pollFor_of_first (hn : n < polls)
    (hwaits : ∀ i < n, answerAfter poll run w i = .ok none)
    (hstops : answerAfter poll run w n ≠ .ok none) :
    (pollFor poll polls run).run w
      = ((answerAfter poll run w n, (afterPolls poll run w (n + 1)).1),
        (afterPolls poll run w (n + 1)).2) := by
  obtain ⟨more, rfl⟩ := Nat.exists_eq_add_of_lt hn
  have hfirst : (pollFor poll (n + 1) run).run w
      = ((answerAfter poll run w n, (afterPolls poll run w (n + 1)).1),
        (afterPolls poll run w (n + 1)).2) := by
    rw [run_pollFor_add_of_waits (run_pollFor_of_waits hwaits), pollFor_one, run_poll_afterPolls]
  rw [Nat.add_right_comm, pollFor_add, StateT.run_bind, hfirst]
  -- the polls that are left are not made
  cases hanswer : answerAfter poll run w n with
  | error e => rfl
  | ok found =>
    cases found with
    | none => exact absurd hanswer hstops
    | some answer => rfl

/-- Either all polls wait, or there is a first one that does not. -/
theorem waits_or_first (poll : ρ → StateM σ (Polled ρ α)) (run : ρ) (w : σ) (polls : Nat) :
    (∀ i < polls, answerAfter poll run w i = .ok none) ∨
      ∃ n < polls, (∀ i < n, answerAfter poll run w i = .ok none) ∧
        answerAfter poll run w n ≠ .ok none := by
  induction polls with
  | zero => exact .inl fun i hi => absurd hi (Nat.not_lt_zero i)
  | succ polls ih =>
    rcases ih with hall | ⟨n, hn, hfirst⟩
    · by_cases hlast : answerAfter poll run w polls = .ok none
      · exact .inl (Nat.forall_lt_succ_right.mpr ⟨hall, hlast⟩)
      · exact .inr ⟨polls, Nat.lt_succ_self polls, hall, hlast⟩
    · exact .inr ⟨n, Nat.lt_succ_of_lt hn, hfirst⟩

theorem run_waitFor {answer : Except DispatchError (Option α)} {after : ρ} {w' : σ}
    (h : (pollFor poll polls run).run w = ((answer, after), w')) :
    (waitFor poll polls run).run w = ((waitAnswer polls answer, after), w') := by
  rw [waitFor_eq, StateT.run_bind, h]
  rfl

theorem recount_waitAnswer {answer : Except DispatchError (Option α)}
    (h : ∀ m, answer ≠ .error (.pollTimeout m)) (polls more : Nat) :
    recount polls (waitAnswer more answer) = waitAnswer polls answer := by
  cases answer with
  | error e =>
    cases e with
    | pollTimeout m => exact absurd rfl (h m)
    | _ => rfl
  | ok found =>
    cases found with
    | none => rfl
    | some answer => rfl

theorem waitAnswer_eq_pollTimeout_iff {answer : Except DispatchError (Option α)}
    (h : ∀ m, answer ≠ .error (.pollTimeout m)) (polls : Nat) :
    waitAnswer polls answer = .error (.pollTimeout polls) ↔ answer = .ok none := by
  cases answer with
  | error e =>
    refine iff_of_false ?_ nofun
    rintro ⟨rfl⟩
    exact h polls rfl
  | ok found =>
    cases found with
    | none => exact iff_of_true rfl rfl
    | some answer => exact iff_of_false nofun nofun

/-- Polls in a row answer with a timeout no more than a single one does. -/
theorem pollFor_ne_pollTimeout (h : ∀ (run : ρ) (w : σ) m, ((poll run).run w).1.1
      ≠ .error (.pollTimeout m)) (polls : Nat) (run : ρ) (w : σ) (m : Nat) :
    ((pollFor poll polls run).run w).1.1 ≠ .error (.pollTimeout m) := by
  rcases waits_or_first poll run w polls with hwaits | ⟨n, hn, hwaits, hstops⟩
  · rw [run_pollFor_of_waits hwaits]
    exact nofun
  · rw [run_pollFor_of_first hn hwaits hstops]
    exact h _ _ m

/-- If all polls wait, all are made and waiting gives up. -/
theorem run_waitFor_of_waits (h : ∀ i < polls, answerAfter poll run w i = .ok none) :
    (waitFor poll polls run).run w
      = ((.error (.pollTimeout polls), (afterPolls poll run w polls).1),
        (afterPolls poll run w polls).2) :=
  run_waitFor (run_pollFor_of_waits h)

/-- Waiting ends with the first poll that does not wait. -/
theorem run_waitFor_of_first (hn : n < polls)
    (hwaits : ∀ i < n, answerAfter poll run w i = .ok none)
    (hstops : answerAfter poll run w n ≠ .ok none) :
    (waitFor poll polls run).run w
      = ((waitAnswer polls (answerAfter poll run w n), (afterPolls poll run w (n + 1)).1),
        (afterPolls poll run w (n + 1)).2) :=
  run_waitFor (run_pollFor_of_first hn hwaits hstops)

/-- Waiting gives up exactly if all the polls wait, unless the polls give up by themselves. -/
theorem waitFor_timeout_iff (h : ∀ n m, answerAfter poll run w n ≠ .error (.pollTimeout m)) :
    ((waitFor poll polls run).run w).1.1 = .error (.pollTimeout polls) ↔
      ∀ i < polls, answerAfter poll run w i = .ok none := by
  refine ⟨fun hgave => ?_, fun hwaits => by rw [run_waitFor_of_waits hwaits]⟩
  rcases waits_or_first poll run w polls with hwaits | ⟨n, hn, hwaits, hstops⟩
  · exact hwaits
  · rw [run_waitFor_of_first hn hwaits hstops, waitAnswer_eq_pollTimeout_iff (h n)] at hgave
    exact absurd hgave hstops

/-- Waiting goes on where it stopped. -/
theorem waitFor_resumed (h : ∀ (run : ρ) (w : σ) m, ((poll run).run w).1.1
      ≠ .error (.pollTimeout m)) (hwaits : ∀ i < polls, answerAfter poll run w i = .ok none) :
    let second := (waitFor poll more (afterPolls poll run w polls).1).run
      (afterPolls poll run w polls).2
    (waitFor poll (polls + more) run).run w
      = ((recount (polls + more) second.1.1, second.1.2), second.2) := by
  -- the polls of both rounds are those of the single one
  have hadd : (pollFor poll (polls + more) run).run w
      = (pollFor poll more (afterPolls poll run w polls).1).run (afterPolls poll run w polls).2 :=
    run_pollFor_add_of_waits (run_pollFor_of_waits hwaits)
  have hmore := pollFor_ne_pollTimeout h more (afterPolls poll run w polls).1
    (afterPolls poll run w polls).2
  rcases hsecond : (pollFor poll more (afterPolls poll run w polls).1).run
    (afterPolls poll run w polls).2 with ⟨⟨answer, after⟩, w'⟩
  rw [hsecond] at hadd hmore
  intro second
  have hwaited : second = ((waitAnswer more answer, after), w') := run_waitFor hsecond
  rw [run_waitFor hadd, hwaited, recount_waitAnswer hmore]

/-- After the first poll that does not wait, it makes no difference how many were granted. -/
theorem waitFor_settled (hn : n < polls) (hwaits : ∀ i < n, answerAfter poll run w i = .ok none)
    (hstops : answerAfter poll run w n ≠ .ok none) (more : Nat) :
    (waitFor poll (polls + more) run).run w = (waitFor poll polls run).run w := by
  rw [run_waitFor_of_first (Nat.lt_add_right more hn) hwaits hstops,
    run_waitFor_of_first hn hwaits hstops]
  rcases hlast : answerAfter poll run w n with e | found
  · rfl
  · cases found with
    | none => exact absurd hlast hstops
    | some answer => rfl

/-- **Waiting for anything** is polling, if the polls do not give up by themselves. -/
theorem waitsAsPolled (h : ∀ (run : ρ) (w : σ) m, ((poll run).run w).1.1
      ≠ .error (.pollTimeout m)) (run : ρ) (w : σ) :
    WaitsAsPolled poll (waitFor poll) run w := by
  have htimeout : ∀ polls, ((waitFor poll polls run).run w).1.1 = .error (.pollTimeout polls) ↔
      ∀ i < polls, answerAfter poll run w i = .ok none :=
    fun polls => waitFor_timeout_iff fun n => h _ _
  constructor
  case timeout_iff => exact htimeout
  case unpolled => rfl
  case answered =>
    intro polls n answer hn hwaits hanswer
    rw [run_waitFor_of_first hn hwaits (by rw [hanswer]; exact nofun), hanswer]
    rfl
  case failed =>
    intro polls n e hn hwaits hanswer
    rw [run_waitFor_of_first hn hwaits (by rw [hanswer]; exact nofun), hanswer]
    rfl
  case bounded =>
    intro polls
    rcases waits_or_first poll run w polls with hwaits | ⟨n, hn, hwaits, hstops⟩
    · exact ⟨polls, Nat.le_refl polls, fun i hi => hwaits i (Nat.lt_of_succ_lt hi),
        by rw [run_waitFor_of_waits hwaits]⟩
    · exact ⟨n + 1, hn, fun i hi => hwaits i (Nat.lt_of_succ_lt_succ hi),
        by rw [run_waitFor_of_first hn hwaits hstops]⟩
  case resumed =>
    intro polls more hgave
    have hwaits := (htimeout polls).mp hgave
    rw [run_waitFor_of_waits hwaits]
    exact waitFor_resumed h hwaits
  case settled =>
    intro polls more hsettled
    rcases waits_or_first poll run w polls with hwaits | ⟨n, hn, hwaits, hstops⟩
    · exact absurd ((htimeout polls).mpr hwaits) hsettled
    · exact waitFor_settled hn hwaits hstops more

end Polls

/-! ### Waiting for runs -/

section Runs

variable {run after : CircuitRun R} {runs others : List (CircuitRun R)} {calls : List Exchange}

theorem CircuitRun.PollStep.answer_ne_pollTimeout
    {answer : Except DispatchError (Option (Registers R))} (h : run.PollStep calls answer after)
    (n : Nat) : answer ≠ .error (.pollTimeout n) := by
  cases h <;> exact nofun

theorem ProgramRun.RunsStep.answer_ne_pollTimeout {answer : Except DispatchError Unit}
    (h : ProgramRun.RunsStep runs calls answer others) (n : Nat) :
    answer ≠ .error (.pollTimeout n) := by
  induction h with
  | done => exact nofun
  | next first others ih => exact ih
  | @stop run after rest calls e first =>
    rintro ⟨rfl⟩
    exact first.answer_ne_pollTimeout n rfl

variable [Measurement M R]

/-- Evaluating the registers may fail, but only as a measurement does. -/
theorem ProgramRun.outcomeOf_registers_ne_pollTimeout (m : M) (registers : Registers R) (n : Nat) :
    ProgramRun.outcomeOf m (.ok (some registers)) ≠ .error (.pollTimeout n) := by
  unfold ProgramRun.outcomeOf ProgramRun.outcome
  by_cases hkind : (Measurement.kind m).isRegisterOnly = true
  · simp only [if_pos hkind]
    exact nofun
  · simp only [if_neg hkind]
    cases (Measurement.evaluate m registers : Except ServiceError (SortedMap String R)) with
    | error e => exact nofun
    | ok values => exact nofun

theorem ProgramRun.OutcomeStep.answer_ne_pollTimeout {program after : ProgramRun M R}
    {answer : Except DispatchError (Option (ProgramOutcome R))}
    (h : program.OutcomeStep calls answer after) (n : Nat) : answer ≠ .error (.pollTimeout n) := by
  obtain ⟨found, hstep, rfl⟩ := h
  cases hstep with
  | stopped hruns =>
    rintro ⟨rfl⟩
    exact hruns.answer_ne_pollTimeout n rfl
  | polled hruns =>
    by_cases hcomplete : after.isComplete = true
    · rw [if_pos hcomplete]
      exact ProgramRun.outcomeOf_registers_ne_pollTimeout _ _ n
    · rw [if_neg hcomplete]
      exact nofun

/-- **Waiting is bounded and says what the polls say.** Waiting for a circuit or for a program makes
one poll after another up to the first that has an answer or fails, makes as many as are granted at
most, and gives up exactly if all of these wait; waiting again goes on from there. The world may be
anything that a service keeps, the list of its calls among it (`TaskService.recorded`). -/
theorem wait_asPolled (service : TaskService σ) :
    (∀ (run : CircuitRun R) (w : σ),
      WaitsAsPolled (CircuitRun.poll service) (CircuitRun.wait service) run w) ∧
    ∀ (program : ProgramRun M R) (w : σ),
      WaitsAsPolled (ProgramRun.poll service) (ProgramRun.wait service) program w := by
  refine ⟨waitsAsPolled fun run w n => ?_, waitsAsPolled fun program w n => ?_⟩
  · obtain ⟨calls, answer, after, w', hrecords, hstep⟩ := CircuitRun.polls_circuit service run w
    rw [hrecords.plain_eq]
    exact hstep.answer_ne_pollTimeout n
  · obtain ⟨calls, answer, after, w', hrecords, hstep⟩ := ProgramRun.polls_outcome service program w
    rw [hrecords.plain_eq]
    exact hstep.answer_ne_pollTimeout n

end Runs

end CircuitDispatch
