import CircuitDispatch.Proofs.Service.Recording
import CircuitDispatch.Run.Polling

/-!
# Histories of polls

A history is what is seen of a thing that is polled again and again: of every poll, the thing
before it, the exchanges with the service, the answer, and the thing after it. Between two polls
the world may change in any way, so tasks may complete in any order or not at all.

`Trace step` says of a list of observations that they follow each other and that each of them is
allowed by `step`. If `step` allows every single poll (`Polls`), histories are traces
(`trace_history`), and what `step` preserves holds along a trace (`Trace.invariant`). The
recorder that reads the exchanges off does not show in the answers (`answers_history`).
-/

namespace CircuitDispatch

variable {ρ α σ : Type}

/-- One poll, seen from outside. -/
structure Observation (ρ α : Type) where
  before : ρ
  calls : List Exchange
  answer : Except DispatchError (Option α)
  after : ρ

/-- The tasks whose samples were delivered, each as often as that happened. -/
def deliveries (seen : List (Observation ρ α)) : List TaskHandle :=
  seen.flatMap fun o => o.calls.filterMap Exchange.delivered?

theorem deliveries_cons (o : Observation ρ α) (rest : List (Observation ρ α)) :
    deliveries (o :: rest) = o.calls.filterMap Exchange.delivered? ++ deliveries rest :=
  List.flatMap_cons

/-- The polls of a thing against a recording service. Before each poll the world changes. -/
def history (poll : ρ → StateM (σ × List Exchange) (Polled ρ α)) :
    List (σ → σ) → ρ → σ → List (Observation ρ α)
  | [], _, _ => []
  | change :: rest, run, w =>
    let ((answer, after), (w, calls)) := (poll run).run (change w, [])
    ⟨run, calls, answer, after⟩ :: history poll rest after w

theorem history_cons (poll : ρ → StateM (σ × List Exchange) (Polled ρ α)) (change : σ → σ)
    (rest : List (σ → σ)) (run : ρ) (w : σ) :
    history poll (change :: rest) run w =
      let seen := (poll run).run (change w, [])
      ⟨run, seen.2.2, seen.1.1, seen.1.2⟩ :: history poll rest seen.1.2 seen.2.1 := rfl

/-- The same polls without the recorder: the answers and what becomes of the thing. -/
def pollSeries (poll : ρ → StateM σ (Polled ρ α)) : List (σ → σ) → ρ → σ → List (Polled ρ α)
  | [], _, _ => []
  | change :: rest, run, w =>
    let (polled, w) := (poll run).run (change w)
    polled :: pollSeries poll rest polled.2 w

/-- Whatever the world, a poll is one that `step` allows, with a recording service and without. -/
def Polls (recording : ρ → StateM (σ × List Exchange) (Polled ρ α))
    (plain : ρ → StateM σ (Polled ρ α))
    (step : ρ → List Exchange → Except DispatchError (Option α) → ρ → Prop) : Prop :=
  ∀ run w, ∃ calls answer after w',
    Records (recording run) (plain run) w calls (answer, after) w' ∧ step run calls answer after

theorem pollSeries_cons (poll : ρ → StateM σ (Polled ρ α)) (change : σ → σ)
    (rest : List (σ → σ)) (run : ρ) (w : σ) :
    pollSeries poll (change :: rest) run w =
      let seen := (poll run).run (change w)
      seen.1 :: pollSeries poll rest seen.1.2 seen.2 := rfl

variable {recording : ρ → StateM (σ × List Exchange) (Polled ρ α)}
  {plain : ρ → StateM σ (Polled ρ α)}
  {step : ρ → List Exchange → Except DispatchError (Option α) → ρ → Prop}

/-- **The recorder does not show** in the answers. -/
theorem answers_history (h : Polls recording plain step) (changes : List (σ → σ)) (run : ρ)
    (w : σ) : (history recording changes run w).map (fun o => (o.answer, o.after))
      = pollSeries plain changes run w := by
  -- thing and world are different for every poll
  induction changes generalizing run w with
  | nil => rfl
  | cons change rest ih =>
    obtain ⟨calls, answer, after, w', hrecords, -⟩ := h run (change w)
    rw [history_cons, pollSeries_cons, hrecords.recording_eq, hrecords.plain_eq, List.map_cons, ih]

/-! ### Traces -/

/-- Observations that follow each other, each of them allowed by `step`. -/
inductive Trace (step : ρ → List Exchange → Except DispatchError (Option α) → ρ → Prop) :
    ρ → List (Observation ρ α) → Prop where
  | done (run : ρ) : Trace step run []
  | poll {run after : ρ} {calls : List Exchange} {answer : Except DispatchError (Option α)}
      {rest : List (Observation ρ α)} (first : step run calls answer after)
      (others : Trace step after rest) : Trace step run (⟨run, calls, answer, after⟩ :: rest)

/-- **Histories are traces** of whatever allows every single poll. -/
theorem trace_history (h : Polls recording plain step) (changes : List (σ → σ)) (run : ρ) (w : σ) :
    Trace step run (history recording changes run w) := by
  induction changes generalizing run w with
  | nil => exact Trace.done run
  | cons change rest ih =>
    obtain ⟨calls, answer, after, w', hrecords, hstep⟩ := h run (change w)
    rw [history_cons, hrecords.recording_eq]
    exact Trace.poll hstep (ih after w')

/-- **Invariants of a trace.** What every step preserves holds before each poll. -/
theorem Trace.invariant {run : ρ} {seen : List (Observation ρ α)} (h : Trace step run seen)
    {I : ρ → Prop} (hstart : I run)
    (hstep : ∀ {before calls answer after}, I before → step before calls answer after → I after) :
    ∀ o ∈ seen, I o.before ∧ step o.before o.calls o.answer o.after := by
  induction h with
  | done run =>
    intro o ho
    cases ho
  | poll first others ih =>
    intro o ho
    rcases List.mem_cons.mp ho with rfl | ho
    · exact ⟨hstart, first⟩
    · exact ih (hstep hstart first) o ho

end CircuitDispatch
