import CircuitDispatch.Dispatch.Backend
import CircuitDispatch.Measurement.OnesFraction
import CircuitDispatch.Run.Snapshot

/-!
# Sessions

A session is a backend with everything that was submitted through it: the runs
of circuits and of measurements, each kind numbered from 0. A step that fails
adds nothing, but what it changed in the world and in a run stays changed.
-/

namespace CircuitDispatch

/-- The run of a measurement of a known type. -/
inductive AnyProgram where
  | classical (program : ProgramRun (ClassicalRegister Float) Float)
  | ones (program : ProgramRun OnesFraction Float)

namespace AnyProgram

/-- The record of a run. -/
def toRecord : AnyProgram → ProgramRecord Float
  | .classical p => p.toRecord
  | .ones p => p.toRecord

/-- The run of a snapshot, with a measurement of one of the types. -/
def load (ones : Bool) (text : String) : Except DispatchError AnyProgram :=
  if ones then (ProgramRun.load text).map .ones else (ProgramRun.load text).map .classical

end AnyProgram

/-- A backend, its world and what was submitted through it. -/
structure Session (σ : Type) where
  backend : Backend Float σ
  world : σ
  runs : List (CircuitRun Float) := []
  programs : List AnyProgram := []

/-- Why a step of a session has no answer. -/
inductive SessionError where
  /-- There is no run or program of this number. -/
  | unknownNumber (number : Nat)
  | dispatch (error : DispatchError)

namespace Session

variable {σ α : Type}

/-- A step of a session. -/
abbrev Step (σ α : Type) := ExceptT SessionError (StateM (Session σ)) α

/-- A result as a step. -/
def ofResult (result : Except DispatchError α) : Step σ α :=
  MonadExcept.ofExcept (result.mapError .dispatch)

/-- A call in the world of the session. -/
def call (c : Call DispatchError σ α) : Step σ α := do
  let s ← getThe (Session σ)
  let (answer, world) := c.run.run s.world
  set { s with world }
  ofResult answer

/-- Adds the run of a circuit. -/
def addRun (run : CircuitRun Float) : Step σ Unit :=
  modifyThe (Session σ) fun s => { s with runs := s.runs ++ [run] }

/-- Adds the run of a measurement. -/
def addProgram (p : AnyProgram) : Step σ Unit :=
  modifyThe (Session σ) fun s => { s with programs := s.programs ++ [p] }

/-- The run of a number. -/
def run (n : Nat) : Step σ (CircuitRun Float) := do
  match (← getThe (Session σ)).runs[n]? with
  | some run => return run
  | none => throw (.unknownNumber n)

/-- The program of a number. -/
def program (n : Nat) : Step σ AnyProgram := do
  match (← getThe (Session σ)).programs[n]? with
  | some p => return p
  | none => throw (.unknownNumber n)

/-- Puts a run in the place of the one of a number. -/
def setRun (n : Nat) (run : CircuitRun Float) : Step σ Unit :=
  modifyThe (Session σ) fun s => { s with runs := s.runs.set n run }

/-- Puts a program in the place of the one of a number. -/
def setProgram (n : Nat) (p : AnyProgram) : Step σ Unit :=
  modifyThe (Session σ) fun s => { s with programs := s.programs.set n p }

/-- Does something that also changes a thing, and keeps the changed thing before it answers. -/
def update {ρ : Type} (keep : ρ → Step σ Unit) (act : StateM σ (Except DispatchError α × ρ)) :
    Step σ α := do
  let s ← getThe (Session σ)
  let ((answer, changed), world) := act.run s.world
  set { s with world }
  keep changed
  ofResult answer

/-- Does something with the run of a number. -/
def updateRun (n : Nat)
    (act : CircuitRun Float → StateM σ (Except DispatchError α × CircuitRun Float)) :
    Step σ α := do
  update (setRun n) (act (← run n))

/-- Does something with the program of a number, whatever it measures. -/
def updateProgram (n : Nat)
    (act : {M : Type} → [Measurement M Float] → ProgramRun M Float →
      StateM σ (Except DispatchError α × ProgramRun M Float)) : Step σ α := do
  match ← program n with
  | .classical p => update (fun p => setProgram n (.classical p)) (act p)
  | .ones p => update (fun p => setProgram n (.ones p)) (act p)

/-- Puts in the place of a run what is read back from its snapshot, and tells whether that is the
same. -/
def restoreRun (n : Nat) : Step σ Bool := do
  let old ← run n
  let restored ← ofResult (CircuitRun.load old.save)
  setRun n restored
  return restored == old

/-- Puts in the place of a program what is read back from its snapshot. -/
def restoreProgram (n : Nat) (ones : Bool) : Step σ AnyProgram := do
  let restored ← ofResult (AnyProgram.load ones (← program n).toRecord.toJson.render)
  setProgram n restored
  return restored

end Session

end CircuitDispatch
