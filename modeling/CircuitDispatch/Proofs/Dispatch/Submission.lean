import CircuitDispatch.Proofs.Dispatch.Handover
import CircuitDispatch.Proofs.Sequencing

/-!
# What a submission can do

`Gateway.SubmitStep` lists what the submission of one planned circuit can hand over and answer,
`Gateway.BatchStep` the same of a batch at the service, and `Gateway.ManyStep` of several circuits,
which are submitted one by one or as a batch. `Backend.SubmitStep` puts planning in front. In
each case something is handed over only where the list says so (`Gateway.hands_submit`,
`Gateway.hands_submitBatch`, `Backend.hands_submitAll`).
-/

namespace CircuitDispatch

variable {R σ : Type}

/-- What a request for a device is handed over as. -/
def Device.handover (request : TaskRequest) : Device → Handover
  | .onSite _ => .execute request
  | .remote _ _ => .submit request

/-- The runs that a planned circuit can start as on a device. -/
inductive CircuitRun.StartedAs (metadata : CircuitMetadata R) : Device → CircuitRun R → Prop where
  | onSite (name id : String) (samples : Samples) :
    StartedAs metadata (.onSite name) (.onSite id metadata (metadata.assemble samples))
  | remote (arn : String) (simulator : Bool) (handle : TaskHandle) :
    StartedAs metadata (.remote arn simulator) (.remote handle metadata)

namespace Gateway

/-- Whether there is something to hand work for a device to. -/
def reaches (gateway : Gateway R σ) (device : Device) : Bool :=
  !device.isLocal || gateway.executor.isSome

variable [Scalar R]

/-! ### One circuit -/

/-- What the submission of a planned circuit can do. -/
inductive SubmitStep (gateway : Gateway R σ) (device : Device) (plan : Plan R) :
    List Handover → Except DispatchError (CircuitRun R) → Prop where
  /-- The program has no text. -/
  | unrendered {e : DispatchError} (hrequest : request device plan = .error e) :
    SubmitStep gateway device plan [] (.error e)
  | noExecutor (hreach : gateway.reaches device = false) :
    SubmitStep gateway device plan [] (.error (.localSimulatorUnavailable device.identifier))
  /-- The service or the executor fails. -/
  | refused {r : TaskRequest} {reason : ServiceError} (hreach : gateway.reaches device = true)
      (hrequest : request device plan = .ok r) :
    SubmitStep gateway device plan [device.handover r] (.error (.service reason))
  | started {r : TaskRequest} {run : CircuitRun R} (hreach : gateway.reaches device = true)
      (hrequest : request device plan = .ok r) (hrun : run.StartedAs plan.metadata device) :
    SubmitStep gateway device plan [device.handover r] (.ok run)

/-- One circuit is handed over once, or not at all and fails. -/
theorem SubmitStep.handed_eq {gateway : Gateway R σ} {device : Device} {plan : Plan R}
    {handed : List Handover} {answer : Except DispatchError (CircuitRun R)}
    (h : SubmitStep gateway device plan handed answer) :
    (∃ x, handed = [x] ∧ ∃ r, request device plan = .ok r ∧ x = device.handover r) ∨
      (handed = [] ∧ ∃ e, answer = .error e) := by
  cases h with
  | unrendered => exact .inr ⟨rfl, _, rfl⟩
  | noExecutor => exact .inr ⟨rfl, _, rfl⟩
  | @refused r _ _ hrequest => exact .inl ⟨_, rfl, r, hrequest, rfl⟩
  | @started r _ _ hrequest => exact .inl ⟨_, rfl, r, hrequest, rfl⟩

/-- A circuit that is submitted starts as a run. -/
theorem SubmitStep.startedAs {gateway : Gateway R σ} {device : Device} {plan : Plan R}
    {handed : List Handover} {run : CircuitRun R}
    (h : gateway.SubmitStep device plan handed (.ok run)) : run.StartedAs plan.metadata device := by
  cases h with
  | started _ _ hrun => exact hrun

/-- **One circuit.** -/
theorem hands_submit (gateway : Gateway R σ) (device : Device) (circuit : Circuit R)
    (plan : Plan R) :
    Hands (gateway.watched.submit device circuit plan) (gateway.submit device circuit plan)
      (gateway.SubmitStep device plan) := by
  refine Hands.ofExcept_bind (fun r hrequest => ?_) fun e hrequest => .unrendered hrequest
  cases device with
  | remote arn simulator =>
    refine Hands.handover_bind (Handover.submit r) (fun handle => ?_) fun _ =>
      .refused rfl hrequest
    exact Hands.pure (.started rfl hrequest (.remote arn simulator handle))
  | onSite name =>
    obtain ⟨service, executor⟩ := gateway
    cases executor with
    | none => exact Hands.throw (.noExecutor rfl)
    | some executor =>
      refine Hands.handover_bind (Handover.execute r) (fun samples => ?_) fun _ =>
        .refused rfl hrequest
      refine Hands.unlogged_bind fun id => ?_
      exact Hands.pure (.started rfl hrequest (.onSite name id samples))

/-! ### Several circuits -/

/-- What the submission of planned circuits as one batch can do. -/
inductive BatchStep (device : Device) (plans : List (Plan R)) :
    List Handover → Except DispatchError (List (CircuitRun R)) → Prop where
  /-- Some program has no text. -/
  | unrendered {e : DispatchError} (hrequests : plans.mapM (request device) = .error e) :
    BatchStep device plans [] (.error e)
  | refused {rs : List TaskRequest} {reason : ServiceError}
      (hrequests : plans.mapM (request device) = .ok rs) :
    BatchStep device plans [.submitBatch rs] (.error (.service reason))
  /-- The service answers with too few or too many tasks. -/
  | mismatched {rs : List TaskRequest} {reason : String}
      (hrequests : plans.mapM (request device) = .ok rs) :
    BatchStep device plans [.submitBatch rs] (.error (.cloud reason))
  | started {rs : List TaskRequest} {tasks : List TaskHandle}
      (hrequests : plans.mapM (request device) = .ok rs) (hlength : tasks.length = plans.length) :
    BatchStep device plans [.submitBatch rs]
      (.ok (tasks.zipWith (fun handle plan => .remote handle plan.metadata) plans))

theorem hands_submitRemoteBatch (gateway : Gateway R σ) (device : Device) (plans : List (Plan R)) :
    Hands (gateway.watched.submitRemoteBatch device plans)
      (gateway.submitRemoteBatch device plans) (BatchStep device plans) := by
  refine Hands.ofExcept_bind (fun rs hrequests => ?_) fun e hrequests => .unrendered hrequests
  refine Hands.handover_bind (Handover.submitBatch rs) (fun batch => ?_) fun _ =>
    .refused hrequests
  by_cases hlength : batch.tasks.length = plans.length
  · rw [if_pos hlength, if_pos hlength]
    exact Hands.pure (.started hrequests hlength)
  · rw [if_neg hlength, if_neg hlength]
    exact Hands.throw (.mismatched hrequests)

/-- What the submission of several planned circuits can do, as a batch or not. -/
inductive ManyStep (gateway : Gateway R σ) (batch : Bool) (device : Device)
    (items : List (Circuit R × Plan R)) :
    List Handover → Except DispatchError (List (CircuitRun R)) → Prop where
  | mixedShots {e : DispatchError} (hbatch : batch = true)
      (hshots : checkShots (items.map (·.2.shots)) = .error e) :
    ManyStep gateway batch device items [] (.error e)
  | oneByOne {handed : List Handover} {answer : Except DispatchError (List (CircuitRun R))}
      (hsingle : batch = false ∨ device.isLocal = true)
      (hseries : Series (fun item => gateway.SubmitStep device item.2) items handed answer) :
    ManyStep gateway batch device items handed answer
  | together {handed : List Handover} {answer : Except DispatchError (List (CircuitRun R))}
      (hbatch : batch = true) (hremote : device.isLocal = false)
      (hstep : BatchStep device (items.map (·.2)) handed answer) :
    ManyStep gateway batch device items handed answer

omit [Scalar R] in
/-- The runs of a batch are those of its tasks, in order. -/
theorem forall₂_startedAs_zipWith {device : Device} (hremote : device.isLocal = false)
    {items : List (Circuit R × Plan R)} {tasks : List TaskHandle}
    (hlength : tasks.length = (items.map (·.2)).length) :
    List.Forall₂ (fun item (run : CircuitRun R) => run.StartedAs item.2.metadata device) items
      (tasks.zipWith (fun handle plan => CircuitRun.remote handle plan.metadata)
        (items.map (·.2))) := by
  cases device with
  | onSite name => cases hremote
  | remote arn simulator =>
    induction items generalizing tasks with
    | nil =>
      cases tasks with
      | nil => exact .nil
      | cons => cases hlength
    | cons item items ih =>
      cases tasks with
      | nil => cases hlength
      | cons handle tasks =>
        exact .cons (.remote arn simulator handle) (ih (Nat.succ.inj hlength))

/-- **Every planned circuit starts as a run**, if the submission succeeds. -/
theorem ManyStep.startedAs {gateway : Gateway R σ} {batch : Bool} {device : Device}
    {items : List (Circuit R × Plan R)} {handed : List Handover} {runs : List (CircuitRun R)}
    (h : gateway.ManyStep batch device items handed (.ok runs)) :
    List.Forall₂ (fun item run => run.StartedAs item.2.metadata device) items runs := by
  cases h with
  | oneByOne _ hseries => exact hseries.forall₂_of_ok SubmitStep.startedAs
  | together _ hremote hstep =>
    cases hstep with
    | started _ hlength => exact forall₂_startedAs_zipWith hremote hlength

theorem hands_submitSeries (gateway : Gateway R σ) (device : Device)
    (items : List (Circuit R × Plan R)) :
    Hands (items.mapM fun (circuit, plan) => gateway.watched.submit device circuit plan)
      (items.mapM fun (circuit, plan) => gateway.submit device circuit plan)
      (Series (fun item => gateway.SubmitStep device item.2) items) :=
  Hands.mapM (fun item => gateway.hands_submit device item.1 item.2) items

theorem hands_submitBatch (gateway : Gateway R σ) (device : Device)
    (items : List (Circuit R × Plan R)) :
    Hands (gateway.watched.submitBatch device items) (gateway.submitBatch device items)
      (gateway.ManyStep true device items) := by
  refine Hands.ofExcept_bind (fun _ _ => ?_) fun e hshots => .mixedShots rfl hshots
  by_cases hlocal : device.isLocal = true
  · rw [if_pos hlocal, if_pos hlocal]
    exact (gateway.hands_submitSeries device items).mono fun _ _ => .oneByOne (.inr hlocal)
  · rw [if_neg hlocal, if_neg hlocal]
    exact (gateway.hands_submitRemoteBatch device _).mono fun _ _ =>
      .together rfl (Bool.eq_false_iff.mpr hlocal)

end Gateway

/-! ### Planning first -/

/-- **What a plan says** of its circuit. -/
theorem Plan.of_make [Scalar R] {config : Config} {c : Circuit R} {plan : Plan R}
    (h : Plan.make config c = .ok plan) : ∃ readout family,
      measurementDeclaration c = .ok (plan.shots, readout) ∧
        checkLimits config c plan.shots = .ok () ∧ Plan.family config = .ok family ∧
        compile c family = .ok plan.program ∧ plan.metadata = .ofCircuit c readout := by
  obtain ⟨⟨shots, readout⟩, hdeclared, h⟩ := bind_eq_ok_iff.mp h
  obtain ⟨⟨⟩, hlimits, h⟩ := bind_eq_ok_iff.mp h
  obtain ⟨family, hfamily, h⟩ := bind_eq_ok_iff.mp h
  obtain ⟨program, hprogram, h⟩ := bind_eq_ok_iff.mp h
  obtain rfl := pure_eq_ok_iff.mp h
  exact ⟨readout, family, hdeclared, hlimits, hfamily, hprogram, rfl⟩

namespace Backend

variable [Scalar R]

/-- What the submission of circuits can do. -/
inductive SubmitStep (b : Backend R σ) (circuits : List (Circuit R)) :
    List Handover → Except DispatchError (List (CircuitRun R)) → Prop where
  | noDevice {e : DispatchError} (hdevice : b.device = .error e) :
    SubmitStep b circuits [] (.error e)
  | unplanned {e : DispatchError} (hplans : b.planAll circuits = .error e) :
    SubmitStep b circuits [] (.error e)
  | planned {device : Device} {items : List (Circuit R × Plan R)} {handed : List Handover}
      {answer : Except DispatchError (List (CircuitRun R))} (hdevice : b.device = .ok device)
      (hplans : b.planAll circuits = .ok items)
      (hstep : b.gateway.ManyStep b.config.batchMode device items handed answer) :
    SubmitStep b circuits handed answer

/-- **Several circuits.** -/
theorem hands_submitAll (b : Backend R σ) (circuits : List (Circuit R)) :
    Hands (b.watched.submitAll circuits) (b.submitAll circuits) (b.SubmitStep circuits) := by
  refine Hands.ofExcept_bind (fun device hdevice => ?_) fun e hdevice => .noDevice hdevice
  refine Hands.ofExcept_bind (fun items hplans => ?_) fun e hplans => .unplanned hplans
  -- the watched backend has the same configuration
  have hconfig : b.watched.config = b.config := rfl
  rw [hconfig]
  by_cases hmode : b.config.batchMode = true
  · rw [if_pos hmode, if_pos hmode]
    refine (b.gateway.hands_submitBatch device items).mono fun _ _ hstep => ?_
    exact .planned hdevice hplans (hmode ▸ hstep)
  · rw [if_neg hmode, if_neg hmode]
    refine (b.gateway.hands_submitSeries device items).mono fun _ _ hseries => ?_
    exact .planned hdevice hplans (.oneByOne (.inl (Bool.eq_false_iff.mpr hmode)) hseries)

/-- Planned circuits are the circuits, each with its plan. -/
theorem of_planAll {b : Backend R σ} {circuits : List (Circuit R)}
    {items : List (Circuit R × Plan R)} (h : b.planAll circuits = .ok items) :
    items.map (·.1) = circuits ∧ ∀ item ∈ items, Plan.make b.config item.1 = .ok item.2 := by
  have hall := mapM_eq_ok_iff.mp h
  clear h
  induction hall with
  | nil =>
    refine ⟨rfl, fun item hitem => ?_⟩
    cases hitem
  | @cons c item circuits items hitem _ ih =>
    obtain ⟨plan, hplan, hpure⟩ := bind_eq_ok_iff.mp hitem
    obtain rfl := pure_eq_ok_iff.mp hpure
    refine ⟨by rw [List.map_cons, ih.1], fun item' hitem' => ?_⟩
    rcases List.mem_cons.mp hitem' with rfl | hitem'
    · exact hplan
    · exact ih.2 item' hitem'

end Backend

end CircuitDispatch
