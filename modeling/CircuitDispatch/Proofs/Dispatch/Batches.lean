import CircuitDispatch.Proofs.Dispatch.Exchanges

/-!
# Batches and single submissions agree

Several circuits are submitted as one batch or one by one, by two loops that have nothing in common.
A service that submits the programs of a batch in turn (`TaskService.SubmitsInTurn`) sees no
difference between the two: it is handed the same requests in the same order, also if it
refuses one of them, and the answer is the same (`Backend.ModesAgree`, `Backend.submitAll_agrees`).

The log that tells the requests goes through the batch, so it has one entry for each submission
(`TaskService.submissionsRecorded`).
-/

namespace CircuitDispatch

variable {R σ : Type}

namespace TaskService

/-- Whether a batch is submitted one by one. -/
def SubmitsInTurn (service : TaskService σ) : Prop := service.submitBatch = oneByOne service.submit

/-- The service, which submits batches one by one, with a log of the single submissions. -/
def submissionsRecorded (service : TaskService σ) : TaskService (σ × List Exchange) :=
  { service.recorded with submitBatch := oneByOne service.recorded.submit }

end TaskService

namespace Gateway

variable [Scalar R] {gateway : Gateway R σ} {device : Device} {items : List (Circuit R × Plan R)}
  {requests : List TaskRequest}

/-- A planned circuit, in terms of its request. -/
private theorem submit_eq (hremote : device.isLocal = false) {plan : Plan R} {r : TaskRequest}
    (hrequest : request device plan = .ok r) (circuit : Circuit R) :
    gateway.submit device circuit plan
      = (gateway.service.submit r).dispatched >>= fun handle =>
          return .remote handle plan.metadata := by
  rw [submit, hrequest]
  cases device with
  | onSite name => cases hremote
  | remote arn simulator => rfl

/-- Planned circuits in turn, in terms of their requests: the runs are made of the handles in
order. -/
private theorem run_submitSeries (hremote : device.isLocal = false)
    (hrequests : List.Forall₂ (fun item r => request device item.2 = .ok r) items requests)
    (w : σ) : ∃ told w', (requests.mapM gateway.service.submit).run.run w = (told, w') ∧
      (∀ handles, told = .ok handles → handles.length = items.length) ∧
      (items.mapM fun (circuit, plan) => gateway.submit device circuit plan).run.run w
        = ((told.mapError DispatchError.service).map fun handles =>
            handles.zipWith (fun handle item => .remote handle item.2.metadata) items, w') := by
  -- both loops hand over the same requests, so each of their rounds starts in the same world
  induction hrequests generalizing w with
  | nil =>
    refine ⟨.ok [], w, rfl, ?_, rfl⟩
    intro handles hhandles
    cases hhandles
    rfl
  | @cons item r items requests hrequest _ ih =>
    simp only [List.mapM_cons]
    rw [submit_eq hremote hrequest, bind_assoc]
    rcases hcall : (gateway.service.submit r).run.run w with ⟨told, w'⟩
    have hdispatched := Call.run_dispatched hcall
    cases told with
    | error reason =>
      -- the rest is not submitted, in either way
      refine ⟨.error reason, w', Call.run_bind_of_error hcall, ?_,
        Call.run_bind_of_error hdispatched⟩
      intro handles hhandles
      cases hhandles
    | ok handle =>
      obtain ⟨told, w'', hrest, hlength, hruns⟩ := ih w'
      rw [Call.run_bind_of_ok hcall, Call.run_bind_of_ok hdispatched, pure_bind]
      cases told with
      | error reason =>
        refine ⟨.error reason, w'', Call.run_bind_of_error hrest, ?_,
          Call.run_bind_of_error hruns⟩
        intro handles hhandles
        cases hhandles
      | ok handles =>
        refine ⟨.ok (handle :: handles), w'', ?_, ?_, ?_⟩
        · rw [Call.run_bind_of_ok hrest]
          rfl
        · intro handles' hhandles
          cases hhandles
          rw [List.length_cons, List.length_cons, hlength handles rfl]
        · rw [Call.run_bind_of_ok hruns]
          rfl

/-- **A batch in turn.** -/
theorem submitBatch_eq_mapM (hturn : gateway.service.SubmitsInTurn)
    (hremote : device.isLocal = false) (hshots : checkShots (items.map (·.2.shots)) = .ok ())
    (hrequests : List.Forall₂ (fun item r => request device item.2 = .ok r) items requests) :
    gateway.submitBatch device items
      = items.mapM fun (circuit, plan) => gateway.submit device circuit plan := by
  have hall : (items.map (·.2)).mapM (request device) = .ok requests :=
    mapM_eq_ok_iff.mpr (List.forall₂_map_left_iff.mpr hrequests)
  have hbatch : gateway.submitBatch device items
      = (gateway.service.submitBatch requests).dispatched >>= fun batch =>
        if batch.tasks.length = (items.map (·.2)).length then
          return batch.tasks.zipWith (fun handle plan => .remote handle plan.metadata)
            (items.map (·.2))
        else throw (.cloud s!"batch of {(items.map (·.2)).length} programs returned {
          batch.tasks.length} tasks") := by
    rw [submitBatch, hshots, hremote, submitRemoteBatch, hall]
    rfl
  rw [hbatch, hturn]
  refine Call.ext fun w => ?_
  -- what the service tells about the single requests decides both sides
  obtain ⟨told, w', hrun, hlength, hruns⟩ := run_submitSeries hremote hrequests w
  rw [hruns]
  cases told with
  | error reason =>
    exact Call.run_bind_of_error (Call.run_dispatched (Call.run_bind_of_error hrun))
  | ok handles =>
    have hsingle : (TaskService.oneByOne gateway.service.submit requests).run.run w
        = (.ok ⟨handles⟩, w') := Call.run_bind_of_ok hrun
    -- there are as many tasks as programs, so the batch is not refused afterwards
    rw [Call.run_bind_of_ok (Call.run_dispatched hsingle),
      if_pos ((hlength handles rfl).trans (List.length_map _).symm), List.zipWith_map_right]
    rfl

theorem request_of_source {plan : Plan R} {text : String} (h : plan.program.source = .ok text) :
    request device plan = .ok ⟨device.identifier, text, plan.shots⟩ := by
  rw [request, h]
  rfl

theorem exists_requests (h : ∀ item ∈ items, ∃ text, item.2.program.source = .ok text) :
    ∃ requests, List.Forall₂ (fun item r => request device item.2 = .ok r) items requests := by
  induction items with
  | nil => exact ⟨[], .nil⟩
  | cons item items ih =>
    obtain ⟨text, htext⟩ := h item List.mem_cons_self
    obtain ⟨requests, hrequests⟩ := ih fun item' hitem => h item' (List.mem_cons_of_mem item hitem)
    exact ⟨_, .cons (request_of_source htext) hrequests⟩

omit [Scalar R] in
/-- One number of shots passes the check. -/
theorem checkShots_of_forall {shots : Nat} (h : ∀ item ∈ items, item.2.shots = shots) :
    checkShots (items.map (·.2.shots)) = .ok () := by
  cases items with
  | nil => rfl
  | cons item items =>
    have hrest : (items.map (·.2.shots)).all (· = item.2.shots) = true := by
      rw [List.all_map, List.all_eq_true]
      intro item' hitem
      have heq := h item' (List.mem_cons_of_mem item hitem)
      rw [← h item List.mem_cons_self] at heq
      exact decide_eq_true heq
    rw [List.map_cons, checkShots, if_pos hrest]

end Gateway

theorem Plan.make_batchMode [Scalar R] (config : Config) (batch : Bool) (c : Circuit R) :
    Plan.make { config with batchMode := batch } c = Plan.make config c := by
  -- no stage of planning looks at the mode
  simp only [Plan.make, checkLimits, Config.enforcesLimits, Plan.family]
  rfl

namespace Backend

/-- The backend with batches switched on or off. -/
def inMode (b : Backend R σ) (batch : Bool) : Backend R σ :=
  { b with config := { b.config with batchMode := batch } }

/-- The backend, with a log of the single submissions. -/
def submissionsRecorded (b : Backend R σ) : Backend R (σ × List Exchange) :=
  b.over b.service.submissionsRecorded

variable [Scalar R] {b : Backend R σ} {device : Device} {circuits : List (Circuit R)}
  {items : List (Circuit R × Plan R)}

/-- Once a device and plans are there, the mode tells how the circuits are submitted. -/
theorem submitAll_inMode (hdevice : b.device = .ok device)
    (hplans : b.planAll circuits = .ok items) (batch : Bool) :
    (b.inMode batch).submitAll circuits = if batch = true then b.gateway.submitBatch device items
      else items.mapM fun (c, plan) => b.gateway.submit device c plan := by
  have hdevice' : (b.inMode batch).device = .ok device := hdevice
  have hplans' : (b.inMode batch).planAll circuits = .ok items := by
    rw [← hplans]
    simp only [planAll, inMode, Plan.make_batchMode]
  rw [submitAll, hdevice', hplans']
  rfl

end Backend

/-! ### Circuits in turn -/

section Turns

variable [Scalar R] {config : Config} {device : Device} {circuits : List (Circuit R)}
  {items : List (Circuit R × Plan R)} {calls : List Exchange}
  {answer : Except DispatchError (List (CircuitRun R))}

/-- The submission of a circuit, with the request that is planned for it. -/
inductive Circuit.Submitted (config : Config) (device : Device) (c : Circuit R) :
    List Exchange → Except DispatchError (CircuitRun R) → Prop where
  | refused {plan : Plan R} {r : TaskRequest} {reason : ServiceError}
      (hplan : Plan.make config c = .ok plan) (hrequest : Gateway.request device plan = .ok r) :
    Submitted config device c [.submit r (.error reason)] (.error (.service reason))
  | accepted {plan : Plan R} {r : TaskRequest} {handle : TaskHandle}
      (hplan : Plan.make config c = .ok plan) (hrequest : Gateway.request device plan = .ok r) :
    Submitted config device c [.submit r (.ok handle)] (.ok (.remote handle plan.metadata))

/-- What the submission of circuits asks the service, is told and answers. -/
structure SubmittedInTurn (config : Config) (device : Device) (circuits : List (Circuit R))
    (calls : List Exchange) (answer : Except DispatchError (List (CircuitRun R))) : Prop where
  /-- Every circuit is submitted with its planned request, in order, up to the first refusal. -/
  series : Series (Circuit.Submitted config device) circuits calls answer
  /-- An error is the one that the service gives for the last request. -/
  refused : ∀ e, answer = .error e →
    ∃ r reason, calls.getLast? = some (.submit r (.error reason)) ∧ e = .service reason
  /-- A success has one request and one run for each circuit, and the run has the planned metadata
  of the circuit and the handle that the service gave for the request of the circuit. -/
  started : ∀ runs, answer = .ok runs → calls.length = circuits.length ∧
    runs.length = circuits.length ∧ ∀ (i : Nat) c, circuits[i]? = some c →
      ∃ plan r handle, Plan.make config c = .ok plan ∧ Gateway.request device plan = .ok r ∧
        calls[i]? = some (Exchange.submit r (.ok handle)) ∧
        runs[i]? = some (CircuitRun.remote handle plan.metadata)

/-- What is known of planned circuits is known of the circuits. -/
private theorem series_submitted (hmake : ∀ item ∈ items, Plan.make config item.1 = .ok item.2)
    (htexts : ∀ item ∈ items, ∃ text, item.2.program.source = .ok text)
    (h : Series (fun item => Gateway.SubmitExchange device item.2) items calls answer) :
    Series (Circuit.Submitted config device) (items.map (·.1)) calls answer := by
  -- a circuit and its plan are submitted as the circuit is
  have hfirst : ∀ item ∈ items, ∀ calls answer,
      Gateway.SubmitExchange device item.2 calls answer →
      Circuit.Submitted config device item.1 calls answer := by
    intro item hitem calls answer hstep
    have hplan := hmake item hitem
    cases hstep with
    | unrendered herror =>
      obtain ⟨text, htext⟩ := htexts item hitem
      rw [Gateway.request_of_source htext] at herror
      cases herror
    | refused hrequest => exact .refused hplan hrequest
    | accepted hrequest => exact .accepted hplan hrequest
  clear hmake htexts
  induction h with
  | done => exact .done
  | next first _ ih =>
    exact .next (hfirst _ List.mem_cons_self _ _ first)
      (ih fun item hitem => hfirst item (List.mem_cons_of_mem _ hitem))
  | stopLater first _ ih =>
    exact .stopLater (hfirst _ List.mem_cons_self _ _ first)
      (ih fun item hitem => hfirst item (List.mem_cons_of_mem _ hitem))
  | stop first => exact .stop (hfirst _ List.mem_cons_self _ _ first)

/-- A series that fails ends with the request that is refused. -/
private theorem getLast?_of_series {e : DispatchError}
    (h : Series (Circuit.Submitted config device) circuits calls answer) (he : answer = .error e) :
    ∃ r reason, calls.getLast? = some (.submit r (.error reason)) ∧ e = .service reason := by
  induction h with
  | done => cases he
  | next => cases he
  | stopLater _ _ ih =>
    obtain ⟨r, reason, hlast, hreason⟩ := ih he
    exact ⟨r, reason, by rw [List.getLast?_append, hlast]; rfl, hreason⟩
  | stop first =>
    cases he
    cases first with
    | @refused _ r reason => exact ⟨r, reason, rfl, rfl⟩

/-- In a series that succeeds circuits, requests and runs stand side by side. -/
private theorem getElem?_of_series {runs : List (CircuitRun R)}
    (h : Series (Circuit.Submitted config device) circuits calls (.ok runs)) :
    calls.length = circuits.length ∧ runs.length = circuits.length ∧
      ∀ (i : Nat) c, circuits[i]? = some c → ∃ plan r handle, Plan.make config c = .ok plan ∧
        Gateway.request device plan = .ok r ∧ calls[i]? = some (Exchange.submit r (.ok handle)) ∧
        runs[i]? = some (CircuitRun.remote handle plan.metadata) := by
  -- an index counts circuits, so the induction is on them, and not on the series
  induction circuits generalizing calls runs with
  | nil =>
    cases h with
    | done => exact ⟨rfl, rfl, fun i c hc => by cases hc⟩
  | cons c circuits ih =>
    cases h with
    | next first others =>
      obtain ⟨hcalls, hruns, hall⟩ := ih others
      cases first with
      | @accepted plan r handle hplan hrequest =>
        refine ⟨?_, ?_, fun i c' hc' => ?_⟩
        · rw [List.singleton_append, List.length_cons, List.length_cons, hcalls]
        · rw [List.length_cons, List.length_cons, hruns]
        · cases i with
          | zero =>
            cases hc'
            exact ⟨plan, r, handle, hplan, hrequest, rfl, rfl⟩
          | succ i => exact hall i c' hc'

private theorem SubmittedInTurn.of_series
    (h : Series (Circuit.Submitted config device) circuits calls answer) :
    SubmittedInTurn config device circuits calls answer where
  series := h
  refused _ he := getLast?_of_series h he
  started runs hruns := by
    rw [hruns] at h
    exact getElem?_of_series h

end Turns

/-- How the two modes of submission agree. -/
structure Backend.ModesAgree [Scalar R] (b : Backend R σ) (device : Device)
    (circuits : List (Circuit R)) : Prop where
  /-- In every world the answers are the same, and the worlds afterwards. -/
  same : (b.inMode true).submitAll circuits = (b.inMode false).submitAll circuits
  /-- So they are with a log: the service is handed the same requests in the same order. -/
  sameLog : (b.inMode true).submissionsRecorded.submitAll circuits
    = (b.inMode false).submissionsRecorded.submitAll circuits
  /-- In either mode the circuits are submitted in turn. -/
  inTurn : ∀ batch, Hands ((b.inMode batch).submissionsRecorded.submitAll circuits)
    ((b.inMode batch).submitAll circuits) (SubmittedInTurn b.config device circuits)

namespace Backend

variable [Scalar R] {b : Backend R σ} {device : Device} {circuits : List (Circuit R)}
  {items : List (Circuit R × Plan R)}

/-- **Batches and single submissions agree** at a service that submits batches in turn. -/
theorem submitAll_agrees (hdevice : b.device = .ok device) (hremote : device.isLocal = false)
    (hturn : b.service.SubmitsInTurn) (hplans : b.planAll circuits = .ok items)
    (htexts : ∀ item ∈ items, ∃ text, item.2.program.source = .ok text) {shots : Nat}
    (hshots : ∀ item ∈ items, item.2.shots = shots) : b.ModesAgree device circuits := by
  obtain ⟨requests, hrequests⟩ : ∃ requests,
      List.Forall₂ (fun item r => Gateway.request device item.2 = .ok r) items requests :=
    Gateway.exists_requests htexts
  have hchecked := Gateway.checkShots_of_forall hshots
  -- in either mode the circuits are submitted in turn, and so they are with a log
  have hsingle : ∀ {τ : Type} (b' : Backend R τ), b'.service.SubmitsInTurn →
      b'.device = .ok device → b'.planAll circuits = .ok items → ∀ batch,
      (b'.inMode batch).submitAll circuits
        = items.mapM fun (c, plan) => b'.gateway.submit device c plan := by
    intro τ b' hturn' hdevice' hplans' batch
    rw [submitAll_inMode hdevice' hplans']
    split
    · exact Gateway.submitBatch_eq_mapM hturn' hremote hchecked hrequests
    · rfl
  have hplain := hsingle b hturn hdevice hplans
  have hlogged := hsingle b.submissionsRecorded rfl hdevice hplans
  constructor
  case same => rw [hplain, hplain]
  case sameLog => exact (hlogged true).trans (hlogged false).symm
  case inTurn =>
    intro batch
    obtain ⟨hcircuits, hmake⟩ := of_planAll hplans
    have hlog : (b.inMode batch).submissionsRecorded.submitAll circuits
        = items.mapM fun (c, plan) => b.submissionsRecorded.gateway.submit device c plan :=
      hlogged batch
    rw [hplain, hlog]
    refine (Gateway.exchanges_submitSeries (fun _ => rfl) hremote items).mono fun _ _ h => ?_
    rw [← hcircuits]
    exact .of_series (series_submitted hmake htexts h)

end Backend

/-- A service that hands out the handles it is given, and submits batches in turn. -/
def TaskService.handingOut : TaskService (List TaskHandle) where
  name := "handing out"
  submit := submit
  submitBatch := oneByOne submit
  state _ := throw (.backendUnavailable "no connection")
  fetch _ := throw (.backendUnavailable "no connection")
where
  submit (_ : TaskRequest) : Call ServiceError (List TaskHandle) TaskHandle := ExceptT.mk fun
    | [] => (.error (.submissionFailed "no more"), [])
    | handle :: left => (.ok handle, left)

/-- A simulator backend over such a service. -/
def Backend.handingOut : Backend Float (List TaskHandle) :=
  ⟨{ Config.forDevice "sv1" with family := .force .ionq }, ⟨.handingOut, none⟩, {}⟩

/-- Two circuits with readouts of their own. -/
def twoReadouts : List (Circuit Float) := [⟨[.measure 0 "a" 0]⟩, ⟨[.measure 1 "b" 0]⟩]

/-- The modes agree where both circuits are accepted, and where the second one is refused. -/
theorem Backend.submitAll_agrees_secondRefused :
    Backend.handingOut.ModesAgree (.remote DeviceName.sv1 true) twoReadouts ∧
      (∃ runs, ((Backend.handingOut.inMode true).submitAll twoReadouts).run.run
          [⟨"one", none⟩, ⟨"two", none⟩] = (.ok runs, []) ∧
        runs.map (fun run => (run.task, run.metadata.readoutName))
          = [(.remote ⟨"one", none⟩, "a"), (.remote ⟨"two", none⟩, "b")]) ∧
      ((Backend.handingOut.inMode true).submitAll twoReadouts).run.run [⟨"one", none⟩]
        = (.error (.service (.submissionFailed "no more")), []) := by
  obtain ⟨items, hplans, htexts, hshots⟩ : ∃ items,
      Backend.handingOut.planAll twoReadouts = .ok items ∧
      (∀ item ∈ items, ∃ text, item.2.program.source = .ok text) ∧
      ∀ item ∈ items, item.2.shots = 100 := by
    refine ⟨_, rfl, ?_, ?_⟩
    · intro item hitem
      rcases List.mem_pair.mp hitem with rfl | rfl
      · exact ⟨_, rfl⟩
      · exact ⟨_, rfl⟩
    · intro item hitem
      rcases List.mem_pair.mp hitem with rfl | rfl
      · rfl
      · rfl
  refine ⟨submitAll_agrees rfl rfl rfl hplans htexts hshots, ?_, ?_⟩
  · refine ⟨_, rfl, ?_⟩
    rfl
  · rfl

end CircuitDispatch
