import CircuitDispatch.Cloud.Clients
import CircuitDispatch.Proofs.Run.KeptTask
import CircuitDispatch.Proofs.SortedMap

/-!
# Tasks are asked for in their own region

`TaskRegion home arn region` says, of the fields of a resource name and nothing else, in which
region a task is: the one that the fourth field names, or the home region. The cloud is watched, so
that the regions which a call sends requests to can be read off (`Cloud.watched`), and `AskedIn`
says that both questions for a task go to one region, through the clients of that region.

The region of a task is settled twice, once when the task is submitted and once when it is asked
for. `CloudClient.askedIn` is about the second time alone; as runs keep their tasks
(`CircuitRun.Follows.task_eq`), the main statement `submitted_askedIn` follows for every run of the
task.
-/

namespace CircuitDispatch

variable {σ τ α β ε : Type}

/-! ### Fields of a text -/

namespace Text

/-- The fields of a text: parts without the separator which the text joins. -/
structure AreFields (separator : Char) (fields : List String) (s : String) : Prop where
  nonempty : fields ≠ []
  plain : ∀ field ∈ fields, separator ∉ field.toList
  joined : (String.singleton separator).intercalate fields = s

theorem splitList_eq_splitOn (separator : Char) (s : List Char) :
    splitList separator s = s.splitOn separator := by
  induction s with
  | nil => rfl
  | cons c s ih =>
    rw [splitList, List.splitOn_cons_eq_if_modifyHead, ih]
    by_cases hc : c = separator
    · simp [hc]
    · obtain ⟨part, parts, hparts⟩ := List.exists_cons_of_ne_nil (List.splitOn_ne_nil separator s)
      simp [hc, hparts]

theorem notMem_of_mem_splitList {separator : Char} {s part : List Char}
    (h : part ∈ splitList separator s) : separator ∉ part := by
  induction s generalizing part with
  | nil =>
    rw [List.mem_singleton.mp h]
    exact List.not_mem_nil
  | cons c s ih =>
    obtain ⟨first, parts, hparts⟩ := List.exists_cons_of_ne_nil (splitList_ne_nil separator s)
    rw [hparts] at ih
    rw [splitList, hparts] at h
    by_cases hc : c = separator
    · rw [if_pos hc] at h
      rcases List.mem_cons.mp h with rfl | h
      · exact List.not_mem_nil
      · exact ih h
    · rw [if_neg hc] at h
      rcases List.mem_cons.mp h with rfl | h
      · simp [Ne.symm hc, ih List.mem_cons_self]
      · exact ih (List.mem_cons_of_mem _ h)

/-- **Splitting a text** finds its fields, and there are no others. -/
theorem areFields_iff {separator : Char} {fields : List String} {s : String} :
    AreFields separator fields s ↔ fields = split separator s := by
  constructor
  · rintro ⟨hnonempty, hplain, rfl⟩
    have hplain' : ∀ part ∈ fields.map String.toList, separator ∉ part := by
      simpa using hplain
    rw [split, String.toList_intercalate, String.toList_singleton, splitList_eq_splitOn,
      List.splitOn_intercalate separator hplain' (by simpa using hnonempty), List.map_map]
    simp [Function.comp_def]
  · rintro rfl
    refine ⟨by simp [split, splitList_ne_nil], fun field hfield => ?_, ?_⟩
    · obtain ⟨part, hpart, rfl⟩ := List.mem_map.mp hfield
      rw [String.toList_ofList]
      exact notMem_of_mem_splitList hpart
    · rw [← String.toList_inj, String.toList_intercalate, String.toList_singleton, split,
        List.map_map]
      simpa [Function.comp_def] using intercalate_splitList separator s.toList

end Text

/-- In which region a task is. -/
structure TaskRegion (home arn region : String) : Prop where
  /-- The fourth field between colons names the region. -/
  named : ∀ fields name, Text.AreFields ':' fields arn → fields[3]? = some name → name ≠ "" →
    region = name
  /-- If it is missing or empty, the task is at home. -/
  unnamed : ∀ fields, Text.AreFields ':' fields arn → (fields[3]? = none ∨ fields[3]? = some "") →
    region = home

namespace CloudClient

theorem taskRegion_iff {client : CloudClient} {arn region : String} :
    TaskRegion client.region arn region ↔ region = client.regionOf arn := by
  have hfields : Text.AreFields ':' (Text.split ':' arn) arn := Text.areFields_iff.mpr rfl
  have hname : ∀ name : String, name ≠ "" → (some name).filter (fun s => !s.isEmpty) = some name :=
    fun name hname => Option.filter_some_pos (by simpa using hname)
  rw [regionOf, DeviceName.region?]
  constructor
  · rintro ⟨hnamed, hunnamed⟩
    cases hfourth : (Text.split ':' arn)[3]? with
    | none => exact hunnamed _ hfields (.inl hfourth)
    | some name =>
      by_cases hempty : name = ""
      · subst hempty
        exact hunnamed _ hfields (.inr hfourth)
      · rw [hnamed _ name hfields hfourth hempty, hname name hempty, Option.getD_some]
  · rintro rfl
    refine ⟨fun fields name h hfourth hempty => ?_, fun fields h hmissing => ?_⟩
    · rw [Text.areFields_iff.mp h] at hfourth
      rw [hfourth, hname name hempty, Option.getD_some]
    · rw [Text.areFields_iff.mp h] at hmissing
      rcases hmissing with hmissing | hmissing
      · rw [hmissing]
        rfl
      · rw [hmissing]
        rfl

/-- A handle's task is asked for in the region that is looked for, or at home. -/
theorem regionOfHandle_eq (client : CloudClient) (handle : TaskHandle) :
    client.regionOfHandle handle = (taskRegion? handle).getD client.region := by
  rw [regionOfHandle, taskRegion?, regionOf]
  cases handle.region with
  | none => rfl
  | some region => rfl

end CloudClient

/-! ### Requests -/

/-- A request to the cloud. -/
inductive CloudRequest where
  | create (region : String) (order : CloudOrder)
  | describe (region arn : String)
  | download (region bucket key : String)

/-- The region that a request is sent to. -/
def CloudRequest.region : CloudRequest → String
  | .create region _ => region
  | .describe region _ => region
  | .download region _ _ => region

namespace Cloud

/-- A request that is written down. -/
def watchedCall (request : CloudRequest) (call : Call String σ α) :
    Call String (σ × List CloudRequest) α :=
  ExceptT.mk fun world =>
    let (answer, after) := call.run.run world.1
    (answer, after, world.2 ++ [request])

/-- The same cloud, with a log of the requests. -/
def watched (cloud : Cloud σ) : Cloud (σ × List CloudRequest) where
  create region order := watchedCall (.create region order) (cloud.create region order)
  describe region arn := watchedCall (.describe region arn) (cloud.describe region arn)
  download region bucket key :=
    watchedCall (.download region bucket key) (cloud.download region bucket key)

end Cloud

namespace Records

variable {w between after : σ} {calls calls' : List CloudRequest}

theorem watchedCall (request : CloudRequest) {call : Call String σ α} {answer : Except String α}
    (h : call.run.run w = (answer, after)) :
    Records (Cloud.watchedCall request call).run call.run w [request] answer after where
  plain_eq := h
  recording_eq log := by
    have hrun : (Cloud.watchedCall request call).run.run (w, log)
        = ((call.run.run w).1, (call.run.run w).2, log ++ [request]) := rfl
    rw [hrun, h]

/-- What a failure means is a matter of the caller alone. -/
theorem adapt {watching : Call ε (σ × List CloudRequest) α} {plain : Call ε σ α}
    {answer : Except ε α} (h : Records watching.run plain.run w calls answer after) {ε' : Type}
    (meaning : ε → ε') : Records (watching.adapt meaning).run (plain.adapt meaning).run w calls
      (answer.mapError meaning) after :=
  h.bind_pure (f := fun answer : Except ε α => Pure.pure (answer.mapError meaning))
    (g := fun answer : Except ε α => Pure.pure (answer.mapError meaning)) rfl rfl

/-- A call that goes on where another one has an answer. -/
theorem andThen {watching : Call ε (σ × List CloudRequest) α} {plain : Call ε σ α} {a : α}
    (h : Records watching.run plain.run w calls (.ok a) between)
    {next : α → Call ε (σ × List CloudRequest) β} {next' : α → Call ε σ β} {answer : Except ε β}
    (hnext : Records (next a).run (next' a).run between calls' answer after) :
    Records (watching >>= next).run (plain >>= next').run w (calls ++ calls') answer after :=
  h.bind (f := ExceptT.bindCont next) (g := ExceptT.bindCont next') hnext

/-- A call that fails ends what it is part of. -/
theorem failed {watching : Call ε (σ × List CloudRequest) α} {plain : Call ε σ α} {e : ε}
    (h : Records watching.run plain.run w calls (.error e) after)
    (next : α → Call ε (σ × List CloudRequest) β) (next' : α → Call ε σ β) :
    Records (watching >>= next).run (plain >>= next').run w calls (.error e) after :=
  h.bind_pure (f := ExceptT.bindCont next) (g := ExceptT.bindCont next') rfl rfl

/-- What is read of an answer takes no request. -/
theorem andRead {watching : Call ε (σ × List CloudRequest) α} {plain : Call ε σ α}
    {answer : Except ε α} (h : Records watching.run plain.run w calls answer after)
    (read : α → Except ε β) :
    Records (watching >>= fun a => MonadExcept.ofExcept (read a)).run
      (plain >>= fun a => MonadExcept.ofExcept (read a)).run w calls (answer.bind read) after := by
  cases answer with
  | error e => exact h.failed _ _
  | ok a =>
    rw [← List.append_nil calls]
    refine h.andThen ?_
    change Records _ _ after [] (read a) after
    cases read a with
    | error e => exact Records.pure (Except.error e) after
    | ok b => exact Records.pure (Except.ok b) after

end Records

namespace CloudClient

theorem records_taskIn (cloud : Cloud σ) (region arn : String) (w : σ) :
    ∃ answer after, Records (taskIn cloud.watched region arn).run (taskIn cloud region arn).run w
      [.describe region arn] answer after := by
  rcases hcall : (cloud.describe region arn).run.run w with ⟨answer, after⟩
  exact ⟨_, after, (Records.watchedCall (.describe region arn) hcall).adapt _⟩

/-- **The state of a task** takes one request. -/
theorem records_stateIn (cloud : Cloud σ) (region arn : String) (w : σ) :
    ∃ answer after, Records (stateIn cloud.watched region arn).run (stateIn cloud region arn).run w
      [.describe region arn] answer after := by
  obtain ⟨answer, after, htask⟩ := records_taskIn cloud region arn w
  cases answer with
  | error e => exact ⟨_, after, htask.failed _ _⟩
  | ok task => exact ⟨_, after, htask.andThen (Records.pure (Except.ok (stateOf task)) after)⟩

/-- **The results of a task** take two requests to one region, or one that fails. -/
theorem records_resultIn (cloud : Cloud σ) (region arn : String) (w : σ) :
    ∃ more answer after, Records (resultIn cloud.watched region arn).run
        (resultIn cloud region arn).run w (.describe region arn :: more) answer after ∧
      ∀ request ∈ more, request.region = region := by
  obtain ⟨answer, between, htask⟩ := records_taskIn cloud region arn w
  cases answer with
  | error e => exact ⟨[], _, between, htask.failed _ _, nofun⟩
  | ok task =>
    let place := resultsLocation task.bucket task.directory
    rcases hcall : (cloud.download region place.1 place.2).run.run between with ⟨answer, after⟩
    have hdownload := (Records.watchedCall (.download region place.1 place.2) hcall).adapt
      DispatchError.storage
    refine ⟨[.download region place.1 place.2], ?_⟩
    suffices h : ∃ answer, Records (resultIn cloud.watched region arn).run
        (resultIn cloud region arn).run w
        ([.describe region arn] ++ ([.download region place.1 place.2] ++ [])) answer after by
      obtain ⟨answer, hrecords⟩ := h
      exact ⟨answer, after, hrecords, by simp [CloudRequest.region]⟩
    cases answer with
    | error e => exact ⟨_, htask.andThen (hdownload.failed _ _)⟩
    | ok text =>
      -- what is stored is read without asking anyone
      cases hread : (Json.parse? text).bind TaskResult.ofJson? with
      | none =>
        refine ⟨.error .json, htask.andThen (hdownload.andThen ?_)⟩
        simp only [hread]
        exact Records.pure (Except.error DispatchError.json) after
      | some result =>
        refine ⟨.ok result, htask.andThen (hdownload.andThen ?_)⟩
        simp only [hread]
        exact Records.pure (Except.ok result) after

end CloudClient

/-! ### Clients -/

namespace ClientPool

/-- The clients that are kept for a region send their requests there. -/
structure Sound (home : String) (pool : ClientPool) : Prop where
  home_region : pool.home.region = home
  foreign_region : ∀ region clients, pool.foreign.get? region = some clients →
    clients.region = region

theorem sound_atHome (home : String) : (atHome home).Sound home where
  home_region := rfl
  foreign_region := nofun

variable {home : String} {pool : ClientPool}

/-- Keeping clients under their region. -/
theorem Sound.keep (h : pool.Sound home) (region : String) :
    (pool.keep region ⟨region⟩).1.region = region ∧ (pool.keep region ⟨region⟩).2.Sound home := by
  rw [ClientPool.keep]
  cases hkept : pool.foreign.get? region with
  | some kept => exact ⟨h.foreign_region region kept hkept, h⟩
  | none =>
    refine ⟨rfl, h.home_region, fun region' clients hclients => ?_⟩
    by_cases hregion : region' = region
    · subst hregion
      rw [SortedMap.get?_insert_self] at hclients
      rw [← Option.some.inj hclients]
    · rw [SortedMap.get?_insert_of_ne _ _ hregion] at hclients
      exact h.foreign_region region' clients hclients

/-- **The clients of a region** send their requests there, and are those at home if the region is
not known or the home region. -/
theorem Sound.clientsFor (h : pool.Sound home) (region : Option String) :
    (pool.clientsFor home region).1.region = region.getD home ∧
      (region.getD home = home → (pool.clientsFor home region).1 = pool.home) ∧
      (pool.clientsFor home region).2.Sound home := by
  rw [ClientPool.clientsFor]
  cases region with
  | none => exact ⟨h.home_region, fun _ => rfl, h⟩
  | some region =>
    rw [Option.getD_some]
    by_cases hhome : region = home
    · subst hhome
      rw [foreignRegion?, Option.filter_some_neg (by simp)]
      exact ⟨h.home_region, fun _ => rfl, h⟩
    · rw [foreignRegion?, Option.filter_some_pos (by simpa using hhome)]
      cases hkept : pool.foreign.get? region with
      | some kept =>
        simp only [hkept]
        exact ⟨h.foreign_region region kept hkept, fun heq => absurd heq hhome, h⟩
      | none =>
        simp only [hkept]
        exact ⟨(h.keep region).1, fun heq => absurd heq hhome, (h.keep region).2⟩

end ClientPool

/-- A call that keeps clients does what another one does without. -/
def Keeping (home : String) (keeping : Call ε (σ × ClientPool) α) (plain : Call ε σ α) : Prop :=
  ∀ w (pool : ClientPool), pool.Sound home → ∃ after : ClientPool, after.Sound home ∧
    keeping.run.run (w, pool) = ((plain.run.run w).1, (plain.run.run w).2, after)

namespace CloudClient

/-- **A call with the clients of a region** is a call in that region. -/
theorem keeping_withClients (client : CloudClient) (region : Option String)
    (call : RegionClients → Call DispatchError σ α) :
    Keeping client.region (served (client.withClients region call))
      (served (call ⟨region.getD client.region⟩)) := by
  intro w pool hpool
  obtain ⟨hregion, -, hafter⟩ := hpool.clientsFor region
  have hclients : (pool.clientsFor client.region region).1 = ⟨region.getD client.region⟩ := by
    rw [← hregion]
  refine ⟨_, hafter, ?_⟩
  rw [← hclients]
  rfl

/-- A call for the task of a handle is a call in the region that the handle tells. -/
theorem keeping_taskClients (client : CloudClient) (handle : TaskHandle)
    (call : RegionClients → Call DispatchError σ α) :
    Keeping client.region (served (client.withClients (taskRegion? handle) call))
      (served (call ⟨client.regionOfHandle handle⟩)) := by
  rw [regionOfHandle_eq]
  exact client.keeping_withClients (taskRegion? handle) call

/-- Keeping clients does not show. -/
theorem keeping_pooled (cloud : Cloud σ) (client : CloudClient) :
    (∀ request, Keeping client.region ((client.pooled cloud).submit request)
      ((client.service cloud).submit request)) ∧
    (∀ handle, Keeping client.region ((client.pooled cloud).state handle)
      ((client.service cloud).state handle)) ∧
    ∀ handle, Keeping client.region ((client.pooled cloud).fetch handle)
      ((client.service cloud).fetch handle) :=
  ⟨fun _ => client.keeping_withClients none _, fun handle => client.keeping_taskClients handle _,
    fun handle => client.keeping_taskClients handle _⟩

end CloudClient

/-! ### Tasks -/

/-- Where a client asks for the task of a handle. -/
structure AskedIn (cloud : Cloud σ) (client : CloudClient) (handle : TaskHandle)
    (region : String) : Prop where
  /-- The region tells the state of the task. -/
  state : ∀ w, ∃ answer after, Records ((client.service cloud.watched).state handle).run
    ((client.service cloud).state handle).run w [.describe region handle.id] answer after
  /-- The region is asked for the task and, if it knows the task, for the results. -/
  fetch : ∀ w, ∃ more answer after,
    Records ((client.service cloud.watched).fetch handle).run
      ((client.service cloud).fetch handle).run w (.describe region handle.id :: more) answer
      after ∧
    ∀ request ∈ more, request.region = region
  /-- The requests are sent by the clients of the region, which are those at home if it is the home
  region. -/
  clients : ∀ pool : ClientPool, pool.Sound client.region →
    (pool.clientsFor client.region (CloudClient.taskRegion? handle)).1.region = region ∧
      (region = client.region →
        (pool.clientsFor client.region (CloudClient.taskRegion? handle)).1 = pool.home)
  /-- It makes no difference which clients were kept. -/
  keeping : Keeping client.region ((client.pooled cloud).state handle)
      ((client.service cloud).state handle) ∧
    Keeping client.region ((client.pooled cloud).fetch handle) ((client.service cloud).fetch handle)

namespace CloudClient

/-- A new task is recorded with its region. -/
theorem run_submit {cloud : Cloud σ} {client : CloudClient} {request : TaskRequest} {w after : σ}
    {answer : Except DispatchError String}
    (h : (create cloud client request.device request.source request.shots).run.run w
      = (answer, after)) :
    ((client.service cloud).submit request).run.run w
      = ((answer.map fun arn => ⟨arn, some (client.regionOf arn)⟩).mapError
          DispatchError.toServiceError, after) := by
  let next : String → Call DispatchError σ TaskHandle := fun arn =>
    pure ⟨arn, some (client.regionOf arn)⟩
  change (((create cloud client request.device request.source request.shots).run >>=
    ExceptT.bindCont next >>= fun answer =>
      pure (answer.mapError DispatchError.toServiceError) : StateM σ _)).run w = _
  rw [StateT.run_bind, StateT.run_bind, h]
  cases answer with
  | error e => rfl
  | ok arn => rfl

/-- **Every task** is asked for in the region that its handle tells. -/
theorem askedIn (cloud : Cloud σ) (client : CloudClient) (handle : TaskHandle) :
    AskedIn cloud client handle (client.regionOfHandle handle) where
  state w := by
    obtain ⟨answer, after, hstate⟩ :=
      records_stateIn cloud (client.regionOfHandle handle) handle.id w
    exact ⟨_, after, hstate.adapt DispatchError.toServiceError⟩
  fetch w := by
    obtain ⟨more, answer, after, hresult, hmore⟩ :=
      records_resultIn cloud (client.regionOfHandle handle) handle.id w
    exact ⟨more, _, after,
      (hresult.andRead TaskResult.samples).adapt DispatchError.toServiceError, hmore⟩
  clients pool hpool := by
    rw [regionOfHandle_eq]
    exact ⟨(hpool.clientsFor _).1, (hpool.clientsFor _).2.1⟩
  keeping := ⟨(client.keeping_pooled cloud).2.1 handle, (client.keeping_pooled cloud).2.2 handle⟩

end CloudClient

/-- **Tasks are asked for in their own region.** If the cloud creates a task, the handle of the task
and every handle that a run of the task still has, however often it was polled and taken up again,
makes any client ask for the task in its own region, also for one whose home is another region. So
does a handle that has lost its region, if the resource name tells it; without either the task is
looked for at home. -/
theorem submitted_askedIn (cloud : Cloud σ) (client : CloudClient) {request : TaskRequest} {w : σ}
    {arn : String} (hcreated : ((CloudClient.create cloud client request.device request.source
      request.shots).run.run w).1 = .ok arn) :
    ∃ region, TaskRegion client.region arn region ∧
      (((client.service cloud).submit request).run.run w).1 = .ok ⟨arn, some region⟩ ∧
      ∀ {τ : Type} (cloud' : Cloud τ) (asker : CloudClient),
        AskedIn cloud' asker ⟨arn, some region⟩ region ∧
        (∀ run restored, CircuitRun.Follows ⟨arn, some region⟩ run → run.task = .remote restored →
          AskedIn cloud' asker restored region) ∧
        ∀ region', TaskRegion asker.region arn region' →
          AskedIn cloud' asker ⟨arn, none⟩ region' := by
  refine ⟨client.regionOf arn, CloudClient.taskRegion_iff.mpr rfl, ?_, fun cloud' asker => ?_⟩
  · rcases hcreate : (CloudClient.create cloud client request.device request.source
      request.shots).run.run w with ⟨answer, after⟩
    rw [hcreate] at hcreated
    obtain rfl : answer = .ok arn := hcreated
    rw [CloudClient.run_submit hcreate]
    rfl
  · have hasked := asker.askedIn cloud' ⟨arn, some (client.regionOf arn)⟩
    refine ⟨hasked, fun run restored hfollows htask => ?_, fun region' hregion => ?_⟩
    · obtain rfl := TaskRef.remote.inj (hfollows.task_eq.symm.trans htask)
      exact hasked
    · rw [CloudClient.taskRegion_iff.mp hregion]
      exact asker.askedIn cloud' ⟨arn, none⟩

/-- A task that is created abroad is asked for there, by a client that is at home elsewhere and with
clients that have to be made first. -/
theorem submitted_askedIn_abroad :
    let arn := "arn:aws:braket:eu-north-1:0:quantum-task/1"
    let cloud : Cloud Unit :=
      ⟨fun _ _ => pure arn, fun _ _ => pure ⟨.running, none, "", ""⟩, fun _ _ _ => throw ""⟩
    let client : CloudClient := ⟨"", "", "us-east-1"⟩
    let request : TaskRequest := ⟨"garnet", "", 1⟩
    let run : CircuitRun Float := .remote ⟨arn, some "eu-north-1"⟩ (.ofCircuit ⟨[]⟩ "ro")
    ((CloudClient.create cloud client request.device request.source request.shots).run.run ()).1
        = .ok arn ∧
      TaskRegion client.region arn "eu-north-1" ∧
      (ClientPool.atHome client.region).Sound client.region ∧
      CircuitRun.Follows ⟨arn, some "eu-north-1"⟩ run ∧
      AskedIn cloud client ⟨arn, some "eu-north-1"⟩ "eu-north-1" := by
  intro arn cloud client request run
  have hcreated : ((CloudClient.create cloud client request.device request.source
    request.shots).run.run ()).1 = .ok arn := rfl
  obtain ⟨region, hregion, -, hasked⟩ := submitted_askedIn cloud client hcreated
  obtain rfl : region = "eu-north-1" := (CloudClient.taskRegion_iff.mp hregion).trans (by decide)
  have hfollows : CircuitRun.Follows ⟨arn, some "eu-north-1"⟩ run := .started _
  exact ⟨hcreated, hregion, ClientPool.sound_atHome _, hfollows,
    (hasked cloud client).2.1 run _ hfollows rfl⟩

end CircuitDispatch
