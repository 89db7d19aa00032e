import CircuitDispatch.Proofs.Dispatch.Submission

/-!
# What reaches the service

Whatever a backend is asked to run (`Job`), a request that reaches the task service is made of one
of the circuits of the job, and `SafeRequest` holds of the two: the request names a managed
simulator unless hardware is allowed, never a simulator in the own process, and where the limits
hold it keeps them. The main statement is `safe_jobs`, about any sequence of jobs.

A request is safe for three reasons that have nothing to do with each other: what `Device.select`
lets through (`Device.of_select`), what `Plan.checkLimits` lets through (`Plan.limits_of_make`), and
that a request is made of one device and one plan (`Gateway.request_eq_ok`).
-/

namespace CircuitDispatch

variable {R σ : Type}

/-! ### Devices -/

namespace DeviceName

/-- A friendly name never stands for a simulator in the own process. -/
theorem isLocal_resolve {identifier : String} (h : isLocal identifier = false) :
    isLocal (resolve identifier) = false := by
  -- several friendly names stand for one resource name
  have harns : ∀ arn ∈ [ankaa3, aspenM3, aria1, aria2, forte1, garnet, lucy, sv1, tn1, dm1],
      isLocal arn = false := by decide +kernel
  have hnames : ∀ e ∈ friendlyNames, isLocal e.2 = false := fun e he =>
    harns e.2 (by revert e; simp [friendlyNames])
  unfold resolve ofFriendly?
  cases hlookup : friendlyNames.lookup (Text.toLower identifier) with
  | none => exact h
  | some arn =>
    obtain ⟨before, after, hsplit, -⟩ := List.lookup_eq_some_iff.mp hlookup
    refine hnames (Text.toLower identifier, arn) ?_
    rw [hsplit]
    exact List.mem_append_right before List.mem_cons_self

end DeviceName

namespace Device

/-- **A selected device** is in the own process if the identifier says so, and else a managed
simulator unless hardware is allowed. -/
theorem of_select {identifier : String} {allowHardware : Bool} {device : Device}
    (h : select identifier allowHardware = .ok device) :
    device.isLocal = DeviceName.isLocal identifier ∧ (device.isLocal = false →
      (device.identifier ∈ DeviceName.remoteSimulators ∨ allowHardware = true) ∧
        DeviceName.isLocal device.identifier = false) := by
  unfold select select? at h
  cases hlocal : DeviceName.isLocal identifier with
  | true =>
    rw [hlocal, if_pos rfl] at h
    cases h
    exact ⟨rfl, fun hremote => Bool.noConfusion hremote⟩
  | false =>
    have hname := DeviceName.isLocal_resolve hlocal
    by_cases hsimulator : DeviceName.isRemoteSimulator identifier = true
    · simp only [hlocal, hsimulator, if_true, Bool.false_eq_true, if_false] at h
      cases h
      exact ⟨rfl, fun _ => ⟨.inl (List.contains_iff_mem.mp hsimulator), hname⟩⟩
    · by_cases hallowed : allowHardware = true
      · simp only [hlocal, hsimulator, hallowed, if_true, Bool.false_eq_true, if_false] at h
        cases h
        exact ⟨rfl, fun _ => ⟨.inr hallowed, hname⟩⟩
      · simp only [hlocal, hsimulator, hallowed, Bool.false_eq_true, if_false] at h
        cases h

end Device

/-! ### Limits -/

/-- **A plan keeps the limits** where they hold. -/
theorem Plan.limits_of_make [Scalar R] {config : Config} {c : Circuit R} {plan : Plan R}
    (h : Plan.make config c = .ok plan) (hlimits : config.enforcesLimits = true) :
    plan.shots ≤ config.maxShots ∧ c.size ≤ config.maxCircuitLength := by
  obtain ⟨readout, family, -, hchecked, -⟩ := Plan.of_make h
  unfold checkLimits at hchecked
  simp only [hlimits, Bool.not_true, Bool.false_eq_true, if_false] at hchecked
  split at hchecked
  · cases hchecked
  · next hshots =>
    split at hchecked
    · cases hchecked
    · next hlength => exact ⟨Nat.le_of_not_lt hshots, Nat.le_of_not_lt hlength⟩

theorem Gateway.request_eq_ok [Scalar R] {device : Device} {plan : Plan R} {r : TaskRequest}
    (h : request device plan = .ok r) :
    r.device = device.identifier ∧ plan.program.source = .ok r.source ∧ plan.shots = r.shots := by
  obtain ⟨source, hsource, h⟩ := bind_eq_ok_iff.mp h
  obtain rfl := pure_eq_ok_iff.mp h
  exact ⟨rfl, hsource, rfl⟩

/-! ### Safe requests -/

/-- What is asked of a request to the service that is made of a circuit. -/
structure SafeRequest [Scalar R] (config : Config) (c : Circuit R) (r : TaskRequest) : Prop where
  /-- It has the program and the number of shots that are planned for the circuit. -/
  planned : ∃ plan, Plan.make config c = .ok plan ∧ plan.program.source = .ok r.source ∧
    plan.shots = r.shots
  /-- It names a managed simulator unless hardware is allowed. -/
  allowed : r.device ∈ DeviceName.remoteSimulators ∨ config.allowHardware = true
  /-- It keeps the limits if hardware is allowed or a family is forced. -/
  limited : (config.allowHardware = true ∨ ∃ family, config.family = .force family) →
    r.shots ≤ config.maxShots ∧ c.size ≤ config.maxCircuitLength
  /-- It names no simulator in the own process. -/
  isRemote : DeviceName.isLocal r.device = false

theorem Config.enforcesLimits_iff {config : Config} : config.enforcesLimits = true ↔
    config.allowHardware = true ∨ ∃ family, config.family = .force family := by
  unfold enforcesLimits
  cases config.family with
  | auto => simp
  | force family => simp

/-- **A request is safe** if it is made of a planned circuit for the selected remote device. -/
theorem safeRequest_of_plan [Scalar R] {config : Config} {device : Device} {c : Circuit R}
    {plan : Plan R} {r : TaskRequest}
    (hdevice : Device.select config.device config.allowHardware = .ok device)
    (hremote : device.isLocal = false) (hplan : Plan.make config c = .ok plan)
    (hrequest : Gateway.request device plan = .ok r) : SafeRequest config c r := by
  obtain ⟨hidentifier, hsource, hshots⟩ := Gateway.request_eq_ok hrequest
  obtain ⟨hallowed, hname⟩ := (Device.of_select hdevice).2 hremote
  rw [← hidentifier] at hallowed hname
  refine ⟨⟨plan, hplan, hsource, hshots⟩, hallowed, fun hlimits => ?_, hname⟩
  rw [← hshots]
  exact Plan.limits_of_make hplan (Config.enforcesLimits_iff.mpr hlimits)

/-- What is asked of everything that is handed over for some circuits. -/
structure SafelyHanded [Scalar R] (config : Config) (circuits : List (Circuit R))
    (handed : List Handover) : Prop where
  /-- The requests to the service are safe, and are those of the first circuits in order. -/
  requests : ∃ started, started <+: circuits ∧
    List.Forall₂ (SafeRequest config) started (handed.flatMap Handover.toService)
  /-- Nothing reaches the service if the device is in the own process. -/
  onSite : DeviceName.isLocal config.device = true → handed.flatMap Handover.toService = []

namespace SafelyHanded

variable [Scalar R] {config : Config} {device : Device} {items started : List (Circuit R × Plan R)}
  {handed : List Handover}

theorem nil {circuits : List (Circuit R)} : SafelyHanded config circuits [] where
  requests := ⟨[], List.nil_prefix, .nil⟩
  onSite _ := rfl

/-- Requests for planned circuits are safe. -/
theorem forall₂_safeRequest {rs : List TaskRequest}
    (hdevice : Device.select config.device config.allowHardware = .ok device)
    (hremote : device.isLocal = false)
    (hplans : ∀ item ∈ started, Plan.make config item.1 = .ok item.2)
    (hrequests : List.Forall₂ (fun item r => Gateway.request device item.2 = .ok r) started rs) :
    List.Forall₂ (SafeRequest config) (started.map (·.1)) rs := by
  rw [List.forall₂_map_left_iff]
  refine ((List.forall₂_and_left _ _).mpr ⟨hplans, hrequests⟩).imp fun item r h => ?_
  exact safeRequest_of_plan hdevice hremote h.1 h.2

/-- What is handed over for an execution in the own process does not reach the service. -/
theorem toService_of_isLocal (hlocal : device.isLocal = true) (h : List.Forall₂ (fun item x =>
      ∃ r, Gateway.request device item.2 = .ok r ∧ x = device.handover r) started handed) :
    handed.flatMap Handover.toService = [] := by
  induction h with
  | nil => rfl
  | cons hx _ ih =>
    obtain ⟨r, -, rfl⟩ := hx
    cases device with
    | onSite name => exact ih
    | remote arn simulator => cases hlocal

/-- What is handed over for a remote device reaches the service as it is. -/
theorem toService_of_remote (hremote : device.isLocal = false) (h : List.Forall₂ (fun item x =>
      ∃ r, Gateway.request device item.2 = .ok r ∧ x = device.handover r) started handed) :
    List.Forall₂ (fun item r => Gateway.request device item.2 = .ok r) started
      (handed.flatMap Handover.toService) := by
  induction h with
  | nil => exact .nil
  | cons hx _ ih =>
    obtain ⟨r, hrequest, rfl⟩ := hx
    cases device with
    | onSite name => cases hremote
    | remote arn simulator => exact .cons hrequest ih

/-- **Circuits one by one**: what is handed over is handed over for the first ones. -/
theorem of_started (hdevice : Device.select config.device config.allowHardware = .ok device)
    (hplans : ∀ item ∈ items, Plan.make config item.1 = .ok item.2)
    (h : ∃ started, started <+: items ∧ List.Forall₂ (fun item x =>
      ∃ r, Gateway.request device item.2 = .ok r ∧ x = device.handover r) started handed) :
    SafelyHanded config (items.map (·.1)) handed := by
  obtain ⟨started, hfront, hall⟩ := h
  cases hlocal : device.isLocal with
  | true =>
    have hnone := toService_of_isLocal hlocal hall
    exact ⟨⟨[], List.nil_prefix, hnone ▸ .nil⟩, fun _ => hnone⟩
  | false =>
    refine ⟨⟨started.map (·.1), hfront.map _, ?_⟩, fun hname => ?_⟩
    · refine forall₂_safeRequest hdevice hlocal (fun item hitem => ?_)
        (toService_of_remote hlocal hall)
      exact hplans item (hfront.subset hitem)
    · rw [← (Device.of_select hdevice).1, hlocal] at hname
      cases hname

theorem of_manyStep {gateway : Gateway R σ} {batch : Bool}
    {answer : Except DispatchError (List (CircuitRun R))}
    (hdevice : Device.select config.device config.allowHardware = .ok device)
    (hplans : ∀ item ∈ items, Plan.make config item.1 = .ok item.2)
    (h : gateway.ManyStep batch device items handed answer) :
    SafelyHanded config (items.map (·.1)) handed := by
  cases h with
  | mixedShots => exact nil
  | oneByOne _ hseries =>
    exact of_started hdevice hplans (hseries.forall₂_started Gateway.SubmitStep.handed_eq)
  | together _ hremote hstep =>
    have hbatch : ∀ rs, (items.map (·.2)).mapM (Gateway.request device) = .ok rs →
        SafelyHanded config (items.map (·.1)) [.submitBatch rs] := by
      intro rs hrs
      have hall := List.forall₂_map_left_iff.mp (mapM_eq_ok_iff.mp hrs)
      refine ⟨⟨items.map (·.1), List.prefix_rfl, ?_⟩, fun hname => ?_⟩
      · rw [List.flatMap_singleton]
        exact forall₂_safeRequest hdevice hremote hplans hall
      · rw [← (Device.of_select hdevice).1, hremote] at hname
        cases hname
    cases hstep with
    | unrendered => exact nil
    | refused hrs | mismatched hrs | started hrs => exact hbatch _ hrs

end SafelyHanded

namespace Backend

variable [Scalar R]

/-- **One circuit.** -/
theorem submit_safely (b : Backend R σ) (c : Circuit R) :
    Hands (b.watched.submit c) (b.submit c) fun handed _ => SafelyHanded b.config [c] handed := by
  refine Hands.ofExcept_bind (fun device hdevice => ?_) fun _ _ => .nil
  refine Hands.ofExcept_bind (fun plan hplan => ?_) fun _ _ => .nil
  refine (b.gateway.hands_submit device c plan).mono fun handed answer hstep => ?_
  change SafelyHanded b.config ([(c, plan)].map (·.1)) handed
  refine SafelyHanded.of_started hdevice (fun item hitem => ?_) ?_
  · rw [List.mem_singleton.mp hitem]
    exact hplan
  · rcases hstep.handed_eq with ⟨x, rfl, hx⟩ | ⟨rfl, -⟩
    · exact ⟨[(c, plan)], List.prefix_rfl, .cons hx .nil⟩
    · exact ⟨[], List.nil_prefix, .nil⟩

/-- **Several circuits.** -/
theorem submitAll_safely (b : Backend R σ) (circuits : List (Circuit R)) :
    Hands (b.watched.submitAll circuits) (b.submitAll circuits)
      fun handed _ => SafelyHanded b.config circuits handed := by
  refine (b.hands_submitAll circuits).mono fun handed answer hstep => ?_
  cases hstep with
  | noDevice | unplanned => exact .nil
  | planned hdevice hplans hmany =>
    obtain ⟨hcircuits, hmake⟩ := of_planAll hplans
    rw [← hcircuits]
    exact SafelyHanded.of_manyStep hdevice hmake hmany

/-- **Several circuits and their results**, which are asked for when all are submitted. -/
theorem runAll_safely (b : Backend R σ) (circuits : List (Circuit R)) :
    Hands (b.watched.runAll circuits) (b.runAll circuits)
      fun handed _ => SafelyHanded b.config circuits handed := by
  refine (b.submitAll_safely circuits).bind_idle fun runs => ?_
  have hawaits := Hands.mapM (hands_await b) runs
  refine (hawaits.mono fun _ _ hseries => hseries.handed_eq_nil).bind_idle fun _ => ?_
  exact Hands.pure rfl

end Backend

/-! ### Jobs -/

/-- What a backend can be asked to do. -/
inductive Job (R : Type) : Type 1 where
  | submit (c : Circuit R)
  | run (c : Circuit R)
  | submitAll (circuits : List (Circuit R))
  | runAll (circuits : List (Circuit R))
  | submitMeasurement {M : Type} [Measurement M R] (m : M)
  | measureRegisters {M : Type} [Measurement M R] (m : M)
  | measure {M : Type} [Measurement M R] (m : M)

namespace Job

/-- The circuits of a job, those of a measurement with the constant circuit in front. -/
def circuits : Job R → List (Circuit R)
  | submit c => [c]
  | run c => [c]
  | submitAll circuits => circuits
  | runAll circuits => circuits
  | submitMeasurement m => Measurement.submittedCircuits m
  | measureRegisters m => Measurement.submittedCircuits m
  | measure m => Measurement.submittedCircuits m

variable [Scalar R]

/-- Does a job; the answer is left out. -/
def perform (b : Backend R σ) : Job R → Call DispatchError σ Unit
  | submit c => do let _ ← b.submit c
  | run c => do let _ ← b.run c
  | submitAll circuits => do let _ ← b.submitAll circuits
  | runAll circuits => do let _ ← b.runAll circuits
  | submitMeasurement m => do let _ ← b.submitMeasurement m
  | measureRegisters m => do let _ ← b.measureRegisters m
  | measure m => do let _ ← b.measure m

/-- **One job.** -/
theorem perform_safely (b : Backend R σ) (job : Job R) :
    Hands (job.perform b.watched) (job.perform b)
      fun handed _ => SafelyHanded b.config job.circuits handed := by
  have hunit : Hands (Pure.pure () : Call DispatchError (σ × List Handover) Unit)
      (Pure.pure () : Call DispatchError σ Unit) fun handed _ => handed = [] := Hands.pure rfl
  cases job with
  | submit c => exact (b.submit_safely c).bind_idle fun _ => hunit
  | run c =>
    refine ((b.submit_safely c).bind_idle fun run => ?_).bind_idle fun _ => hunit
    exact hands_await b run
  | submitAll circuits => exact (b.submitAll_safely circuits).bind_idle fun _ => hunit
  | runAll circuits => exact (b.runAll_safely circuits).bind_idle fun _ => hunit
  | submitMeasurement m =>
    refine ((b.submitAll_safely _).bind_idle fun runs => ?_).bind_idle fun _ => hunit
    exact Hands.pure rfl
  | measureRegisters m => exact (b.runAll_safely _).bind_idle fun _ => hunit
  | measure m =>
    refine ((b.runAll_safely _).bind_idle fun registers => ?_).bind_idle fun _ => hunit
    exact Hands.ofExcept _

/-- What each of several jobs hands over. Before each of them the world changes. -/
def handedOver (b : Backend R σ) : List ((σ → σ) × Job R) → σ → List (List Handover)
  | [], _ => []
  | (change, job) :: rest, w =>
    let (_, w', handed) := (job.perform b.watched).run.run (change w, [])
    handed :: handedOver b rest w'

end Job

/-- **What reaches the service is safe**, whatever a backend is asked to do and however the world
changes in between. -/
theorem safe_jobs [Scalar R] (b : Backend R σ) (jobs : List ((σ → σ) × Job R)) (w : σ) :
    List.Forall₂ (fun job handed => SafelyHanded b.config job.2.circuits handed) jobs
      (Job.handedOver b jobs w) := by
  induction jobs generalizing w with
  | nil => exact .nil
  | cons first rest ih =>
    obtain ⟨change, job⟩ := first
    obtain ⟨handed, answer, w', hrecords, hsafe⟩ := job.perform_safely b (change w)
    have hrun : Job.handedOver b ((change, job) :: rest) w
        = handed :: Job.handedOver b rest w' := by
      rw [Job.handedOver, hrecords.recording_eq]
      rfl
    rw [hrun]
    exact .cons hsafe (ih w')

/-- A backend that submits native programs one by one. -/
def Backend.native : Backend Float Nat :=
  .accepting { Config.forDevice "sv1" with family := .force .ionq }

/-- One circuit makes one request, here for a managed simulator. -/
example : (Job.handedOver Backend.native [(id, .submitAll [⟨[.measure 0 "ro" 0]⟩])] 0).map
    (fun handed => (handed.flatMap Handover.toService).map fun r => (r.device, r.shots))
    = [[(DeviceName.sv1, 100)]] := by
  decide +kernel

end CircuitDispatch
