import CircuitDispatch.Proofs.Dispatch.Safety

/-!
# Errors before anything is handed over

Some errors of a submission are due to the request itself and not to the service or the executor
(`DispatchError.isOwn`). Planning reports its own for all circuits before the first one is handed
over, and a batch at the service has all its programs rendered before. But circuits that are
submitted one by one are also rendered one by one, so a program without text is found only when
its turn comes: the circuits before it have been handed over by then, and their runs are lost.

`submission_failsEarly` says that there is no other way, and
`submission_failsLate` gives a submission that goes this way.
-/

namespace CircuitDispatch

variable {R σ : Type}

/-- Whether a submission fails with an error of its own: the service and the executor report
`service`, and a batch whose tasks are too few or too many is reported as `cloud`. -/
def DispatchError.isOwn : DispatchError → Bool
  | .service _ => false
  | .cloud _ => false
  | _ => true

namespace Gateway

variable [Scalar R] {gateway : Gateway R σ} {device : Device} {items : List (Circuit R × Plan R)}
  {handed : List Handover} {answer : Except DispatchError (List (CircuitRun R))} {e : DispatchError}

theorem request_eq_error {plan : Plan R} (h : request device plan = .error e) :
    plan.program.source = .error e := by
  unfold request at h
  cases hsource : plan.program.source with
  | ok source =>
    rw [hsource] at h
    cases h
  | error e' =>
    rw [hsource] at h
    cases h
    rfl

/-- Without anything to hand work to, nothing is handed over. -/
theorem handed_eq_nil_of_reaches (hreach : gateway.reaches device = false)
    (h : Series (fun item => gateway.SubmitStep device item.2) items handed answer) :
    handed = [] := by
  refine (h.mono fun item handed answer hstep => ?_).handed_eq_nil
  cases hstep with
  | unrendered | noExecutor => rfl
  | refused hreach' | started hreach' =>
    rw [hreach] at hreach'
    cases hreach'

/-- **One by one**: either nothing is handed over, or the program whose turn it is has no text. -/
theorem series_failsEarly
    (h : Series (fun item => gateway.SubmitStep device item.2) items handed (.error e))
    (hown : e.isOwn = true) :
    handed = [] ∨ ∃ item, items[handed.length]? = some item ∧ item.2.program.source = .error e := by
  cases hreach : gateway.reaches device with
  | false => exact .inl (handed_eq_nil_of_reaches hreach h)
  | true =>
    obtain ⟨item, hitem, hstep⟩ := h.getElem?_of_error rfl
      (by
        intro item handed run hstep
        cases hstep with
        | started => rfl)
      (by
        intro item handed hstep
        cases hstep with
        | unrendered | noExecutor => rfl
        | refused => cases hown)
    refine .inr ⟨item, hitem, ?_⟩
    cases hstep with
    | unrendered hrequest => exact request_eq_error hrequest
    | noExecutor hreach' =>
      rw [hreach] at hreach'
      cases hreach'

end Gateway

variable [Scalar R]

/-- What an own error of a submission leaves behind: nothing is handed over, or the circuits go one
by one and the next one's program has no text. -/
def FailsEarly (config : Config) (circuits : List (Circuit R)) (handed : List Handover)
    (e : DispatchError) : Prop :=
  handed = [] ∨ (config.batchMode = false ∨ DeviceName.isLocal config.device = true) ∧
    ∃ c plan, circuits[handed.length]? = some c ∧ Plan.make config c = .ok plan ∧
      plan.program.source = .error e

theorem Backend.SubmitStep.failsEarly {b : Backend R σ} {circuits : List (Circuit R)}
    {handed : List Handover} {e : DispatchError} (h : b.SubmitStep circuits handed (.error e))
    (hown : e.isOwn = true) : FailsEarly b.config circuits handed e := by
  cases h with
  | noDevice | unplanned => exact .inl rfl
  | @planned device items _ _ hdevice hplans hmany =>
    obtain ⟨hcircuits, hmake⟩ := of_planAll hplans
    cases hmany with
    | mixedShots => exact .inl rfl
    | together _ _ hstep =>
      -- all programs are rendered before, and the other errors come from the service
      cases hstep with
      | unrendered => exact .inl rfl
      | refused | mismatched => cases hown
    | oneByOne hsingle hseries =>
      refine (Gateway.series_failsEarly hseries hown).imp_right fun ⟨item, hitem, hsource⟩ => ?_
      rw [(Device.of_select hdevice).1] at hsingle
      refine ⟨hsingle, item.1, item.2, ?_, hmake item (List.mem_of_getElem? hitem), hsource⟩
      rw [← hcircuits, List.getElem?_map, hitem]
      rfl

namespace Backend

theorem submitAll_failsEarly (b : Backend R σ) (circuits : List (Circuit R)) :
    Hands (b.watched.submitAll circuits) (b.submitAll circuits) fun handed answer =>
      ∀ e, answer = .error e → e.isOwn = true → FailsEarly b.config circuits handed e := by
  refine (b.hands_submitAll circuits).mono ?_
  rintro handed _ hstep e rfl hown
  exact hstep.failsEarly hown

theorem submitMeasurement_failsEarly {M : Type} [Measurement M R] (b : Backend R σ) (m : M) :
    Hands (b.watched.submitMeasurement m) (b.submitMeasurement m) fun handed answer =>
      ∀ e, answer = .error e → e.isOwn = true →
        FailsEarly b.config (Measurement.submittedCircuits m) handed e := by
  refine (b.submitAll_failsEarly (Measurement.submittedCircuits m)).bind ?_ ?_
  · -- what is left is to return the runs
    intro handed runs _
    refine Hands.pure fun e he => ?_
    cases he
  · intro handed e hfails _ he
    cases he
    exact hfails e rfl

end Backend

/-- **An own error comes early**, or it is a program without text and the circuits before it were
handed over one by one. -/
theorem submission_failsEarly (b : Backend R σ) :
    (∀ circuits w e, ((b.submitAll circuits).run.run w).1 = .error e → e.isOwn = true →
      FailsEarly b.config circuits (Call.handed (b.watched.submitAll circuits) w) e) ∧
    ∀ (M : Type) [Measurement M R] (m : M) w e,
      ((b.submitMeasurement m).run.run w).1 = .error e → e.isOwn = true →
        FailsEarly b.config (Measurement.submittedCircuits m)
          (Call.handed (b.watched.submitMeasurement m) w) e :=
  ⟨fun circuits w e => (b.submitAll_failsEarly circuits).step_handed w e,
    fun _ _ m w e => (b.submitMeasurement_failsEarly m).step_handed w e⟩

/-- The first program is accepted; the angle of the second has no value. -/
def boundAndUnbound : List (Circuit Float) :=
  [⟨[.measure 0 "ro" 0]⟩, ⟨[.single (.gpi (.symbol "theta")) 0]⟩]

theorem submission_failsEarly_secondProgram :
    let e := DispatchError.compile (.circuit (.unboundParameter "theta"))
    let m : ClassicalRegister Float := ⟨none, boundAndUnbound⟩
    FailsEarly Backend.native.config boundAndUnbound
        (Call.handed (Backend.native.watched.submitAll boundAndUnbound) 0) e ∧
      FailsEarly Backend.native.config boundAndUnbound
        (Call.handed (Backend.native.watched.submitMeasurement m) 0) e :=
  ⟨(submission_failsEarly Backend.native).1 boundAndUnbound 0 _ (by rfl) (by decide),
    (submission_failsEarly Backend.native).2 _ _ 0 _ (by rfl) (by decide)⟩

/-- **A program without text is found late.** -/
theorem submission_failsLate :
    ¬ ∀ (b : Backend Float Nat) circuits w e, ((b.submitAll circuits).run.run w).1 = .error e →
      e.isOwn = true → Call.handed (b.watched.submitAll circuits) w = [] := by
  intro h
  have hnone := h Backend.native boundAndUnbound 0
    (.compile (.circuit (.unboundParameter "theta"))) (by rfl) (by decide)
  revert hnone
  decide +kernel

end CircuitDispatch
