import Mathlib.Data.List.Forall2
import CircuitDispatch.Dispatch.Backend
import CircuitDispatch.Proofs.Sequencing
import CircuitDispatch.Proofs.Service.Recording

/-!
# What a backend hands over

Here the log holds what is handed to the task service and to the local executor
(`Handover`), and is written before it is known whether the request is accepted. Questions about
tasks are no handover. `Backend.watched` is a backend whose service and executor are watched in
this way.

`Hands` says of a call what it can hand over and answer, in any world, and that the call without
the log answers the same. It is kept by sequencing (`Hands.bind`) and holds of a call for every
element of a list if it holds of each (`Hands.mapM`, with `Series`). Polls hand over nothing
(`hands_await`).
-/

namespace CircuitDispatch

variable {R M ε σ ξ α β : Type}

/-- Work that is handed over. -/
inductive Handover where
  | submit (request : TaskRequest)
  | submitBatch (requests : List TaskRequest)
  | execute (request : TaskRequest)
  deriving DecidableEq, Repr

/-- The requests that the service is handed. -/
def Handover.toService : Handover → List TaskRequest
  | .submit request => [request]
  | .submitBatch requests => requests
  | .execute _ => []

/-- A service that accepts every request and counts them. -/
def TaskService.accepting : TaskService Nat where
  name := "accepting"
  submit _ := ExceptT.mk fun n => (.ok ⟨toString n, none⟩, n + 1)
  submitBatch := TaskService.offline.submitBatch
  state := TaskService.offline.state
  fetch := TaskService.offline.fetch

/-- A backend over a service that accepts every request. -/
def Backend.accepting (config : Config) : Backend Float Nat where
  config := config
  gateway := ⟨TaskService.accepting, none⟩
  policy := {}

/-! ### Watched services and executors -/

/-- The service, with a log of what it is handed. -/
def TaskService.watched (service : TaskService σ) : TaskService (σ × List Handover) where
  name := service.name
  submit request := logged (fun _ => .submit request) (service.submit request)
  submitBatch requests := logged (fun _ => .submitBatch requests) (service.submitBatch requests)
  state handle := ExceptT.mk (unlogged (service.state handle).run)
  fetch handle := ExceptT.mk (unlogged (service.fetch handle).run)

/-- The executor, with a log of what it is handed. -/
def LocalExecutor.watched (executor : LocalExecutor R σ) :
    LocalExecutor R (σ × List Handover) where
  name := executor.name
  execute request circuit := logged (fun _ => .execute request) (executor.execute request circuit)
  freshId := unlogged executor.freshId

def Gateway.watched (gateway : Gateway R σ) : Gateway R (σ × List Handover) where
  service := gateway.service.watched
  executor := gateway.executor.map LocalExecutor.watched

def Backend.watched (b : Backend R σ) : Backend R (σ × List Handover) where
  config := b.config
  gateway := b.gateway.watched
  policy := b.policy

/-! ### Calls -/

/-- What a call with a log hands over. -/
def Call.handed (call : Call ε (σ × List ξ) α) (w : σ) : List ξ := (call.run.run (w, [])).2.2

/-- Whatever the world, a call hands over and answers what `step` allows, and the call without the
log answers the same. -/
def Hands (watched : Call ε (σ × List ξ) α) (plain : Call ε σ α)
    (step : List ξ → Except ε α → Prop) : Prop :=
  ∀ w, ∃ handed answer w', Records watched.run plain.run w handed answer w' ∧ step handed answer

namespace Hands

variable {watched : Call ε (σ × List ξ) α} {plain : Call ε σ α}
  {step step' : List ξ → Except ε α → Prop}

theorem mono (h : Hands watched plain step)
    (himp : ∀ handed answer, step handed answer → step' handed answer) :
    Hands watched plain step' := by
  intro w
  obtain ⟨handed, answer, w', hrecords, hstep⟩ := h w
  exact ⟨handed, answer, w', hrecords, himp handed answer hstep⟩

/-- What a call hands over and what it answers without the log are what `step` allows. -/
theorem step_handed (h : Hands watched plain step) (w : σ) :
    step (Call.handed watched w) (plain.run.run w).1 := by
  obtain ⟨handed, answer, w', hrecords, hstep⟩ := h w
  rw [Call.handed, hrecords.recording_eq, hrecords.plain_eq]
  exact hstep

/-- Returning a value. -/
theorem pure {a : α} (h : step [] (.ok a)) :
    Hands (Pure.pure a : Call ε (σ × List ξ) α) (Pure.pure a : Call ε σ α) step :=
  fun w => ⟨[], .ok a, w, Records.pure _ w, h⟩

theorem throw {e : ε} (h : step [] (.error e)) :
    Hands (MonadExcept.throw e : Call ε (σ × List ξ) α) (MonadExcept.throw e : Call ε σ α) step :=
  fun w => ⟨[], .error e, w, Records.pure _ w, h⟩

/-- A call that writes nothing down. -/
theorem unlogged {call : Call ε σ α} :
    Hands (ExceptT.mk (unlogged call.run) : Call ε (σ × List ξ) α) call
      fun handed _ => handed = [] := by
  intro w
  rcases hrun : call.run.run w with ⟨answer, w'⟩
  exact ⟨[], answer, w', Records.unlogged hrun, rfl⟩

/-- **Sequencing.** An answer is followed by what depends on it, and an error by nothing. -/
theorem bind {f : α → Call ε (σ × List ξ) β} {g : α → Call ε σ β}
    {next : List ξ → Except ε β → Prop} (h : Hands watched plain step)
    (hok : ∀ handed a, step handed (.ok a) →
      Hands (f a) (g a) fun handed' answer => next (handed ++ handed') answer)
    (herror : ∀ handed e, step handed (.error e) → next handed (.error e)) :
    Hands (watched >>= f) (plain >>= g) next := by
  intro w
  obtain ⟨handed, answer, w', hrecords, hstep⟩ := h w
  cases answer with
  | error e =>
    refine ⟨handed, .error e, w', ?_, herror handed e hstep⟩
    rw [ExceptT.run_bind, ExceptT.run_bind]
    exact hrecords.bind_pure rfl rfl
  | ok a =>
    obtain ⟨handed', answer, w'', hrecords', hnext⟩ := hok handed a hstep w'
    refine ⟨handed ++ handed', answer, w'', ?_, hnext⟩
    rw [ExceptT.run_bind, ExceptT.run_bind]
    exact hrecords.bind hrecords'

/-- What comes after hands over nothing more. -/
theorem bind_idle {P : List ξ → Prop} {f : α → Call ε (σ × List ξ) β} {g : α → Call ε σ β}
    (h : Hands watched plain fun handed _ => P handed)
    (hidle : ∀ a, Hands (f a) (g a) fun handed _ => handed = []) :
    Hands (watched >>= f) (plain >>= g) fun handed _ => P handed := by
  refine h.bind (fun handed a hP => (hidle a).mono ?_) fun _ _ hP => hP
  rintro _ - rfl
  rwa [List.append_nil]

/-- A result hands over nothing. -/
theorem ofExcept (x : Except ε α) :
    Hands (MonadExcept.ofExcept x : Call ε (σ × List ξ) α) (MonadExcept.ofExcept x)
      fun handed _ => handed = [] := by
  cases x with
  | ok a => exact Hands.pure rfl
  | error e => exact Hands.throw rfl

/-- A result comes first, which hands over nothing. -/
theorem ofExcept_bind {x : Except ε α} {f : α → Call ε (σ × List ξ) β} {g : α → Call ε σ β}
    {next : List ξ → Except ε β → Prop} (hok : ∀ a, x = .ok a → Hands (f a) (g a) next)
    (herror : ∀ e, x = .error e → next [] (.error e)) :
    Hands (MonadExcept.ofExcept x >>= f) (MonadExcept.ofExcept x >>= g) next := by
  cases x with
  | ok a => exact hok a rfl
  | error e => exact Hands.throw (herror e rfl)

/-- A computation that writes nothing down comes first. -/
theorem unlogged_bind {x : StateM σ α} {f : α → Call ε (σ × List ξ) β} {g : α → Call ε σ β}
    {next : List ξ → Except ε β → Prop} (hok : ∀ a, Hands (f a) (g a) next) :
    Hands (liftM (CircuitDispatch.unlogged x : StateM (σ × List ξ) α) >>= f) (liftM x >>= g)
      next := by
  intro w
  rcases hrun : x.run w with ⟨a, w'⟩
  obtain ⟨handed, answer, w'', hrecords, hnext⟩ := hok a w'
  exact ⟨handed, answer, w'', (Records.unlogged hrun).bind hrecords, hnext⟩

/-- A call of the service or the executor comes first. It is written down with its answer, and what
depends on it follows if it succeeds. -/
theorem logged_bind (exchange : Except ServiceError α → ξ) {call : Call ServiceError σ α}
    {f : α → Call DispatchError (σ × List ξ) β} {g : α → Call DispatchError σ β}
    {next : List ξ → Except DispatchError β → Prop}
    (hok : ∀ a, Hands (f a) (g a) fun handed answer => next (exchange (.ok a) :: handed) answer)
    (herror : ∀ reason, next [exchange (.error reason)] (.error (.service reason))) :
    Hands ((logged exchange call).dispatched >>= f) (call.dispatched >>= g) next := by
  have hcall : Hands (logged exchange call).dispatched call.dispatched
      fun handed answer => ∃ told, handed = [exchange told] ∧ answer = told.mapError .service := by
    intro w
    rcases hrun : call.run.run w with ⟨told, w'⟩
    refine ⟨[exchange told], told.mapError .service, w', ?_, told, rfl, rfl⟩
    rw [Call.dispatched, Call.dispatched, ExceptT.run_adapt, ExceptT.run_adapt,
      ← bind_pure_comp, ← bind_pure_comp]
    exact (Records.logged _ hrun).bind_pure rfl rfl
  refine hcall.bind (fun handed a h => ?_) fun handed e h => ?_
  · obtain ⟨told, rfl, htold⟩ := h
    rw [mapError_eq_ok_iff.mp htold.symm]
    exact hok a
  · obtain ⟨told, rfl, htold⟩ := h
    cases told with
    | ok a => cases htold
    | error reason =>
      cases htold
      exact herror reason

/-- **Handing over** comes first. It is written down whatever the answer is, and fails only with an
error of the service or the executor. -/
theorem handover_bind (entry : ξ) {call : Call ServiceError σ α}
    {f : α → Call DispatchError (σ × List ξ) β} {g : α → Call DispatchError σ β}
    {next : List ξ → Except DispatchError β → Prop}
    (hok : ∀ a, Hands (f a) (g a) fun handed answer => next (entry :: handed) answer)
    (herror : ∀ reason, next [entry] (.error (.service reason))) :
    Hands ((logged (fun _ => entry) call).dispatched >>= f) (call.dispatched >>= g) next :=
  logged_bind (fun _ => entry) hok herror

/-- After a call that succeeds in a world, what follows is added to what it handed over there. -/
theorem handed_bind {f : α → Call ε (σ × List ξ) β} {g : α → Call ε σ β} {w w' : σ}
    {handed : List ξ} {a : α} {next : List ξ → Except ε β → Prop}
    (hrecords : Records watched.run plain.run w handed (.ok a) w') (h : Hands (f a) (g a) next) :
    ∃ handed' answer, Call.handed (watched >>= f) w = handed ++ handed' ∧
      ((plain >>= g).run.run w).1 = answer ∧ next handed' answer := by
  obtain ⟨handed', answer, w'', hrecords', hnext⟩ := h w'
  have hall : Records (watched >>= f).run (plain >>= g).run w (handed ++ handed') answer w'' := by
    rw [ExceptT.run_bind, ExceptT.run_bind]
    exact hrecords.bind hrecords'
  refine ⟨handed', answer, ?_, ?_, hnext⟩
  · rw [Call.handed, hall.recording_eq]
    rfl
  · rw [hall.plain_eq]

end Hands

/-! ### Calls for the elements of a list -/

/-- Steps for the elements of a list in order, up to the first that fails. -/
inductive Series (step : α → List ξ → Except ε β → Prop) :
    List α → List ξ → Except ε (List β) → Prop where
  | done : Series step [] [] (.ok [])
  | next {a : α} {rest : List α} {handed handed' : List ξ} {b : β} {bs : List β}
      (first : step a handed (.ok b)) (others : Series step rest handed' (.ok bs)) :
    Series step (a :: rest) (handed ++ handed') (.ok (b :: bs))
  | stopLater {a : α} {rest : List α} {handed handed' : List ξ} {b : β} {e : ε}
      (first : step a handed (.ok b)) (others : Series step rest handed' (.error e)) :
    Series step (a :: rest) (handed ++ handed') (.error e)
  | stop {a : α} {rest : List α} {handed : List ξ} {e : ε} (first : step a handed (.error e)) :
    Series step (a :: rest) handed (.error e)

/-- **A call for every element** of a list. -/
theorem Hands.mapM {f : α → Call ε (σ × List ξ) β} {g : α → Call ε σ β}
    {step : α → List ξ → Except ε β → Prop} (h : ∀ a, Hands (f a) (g a) (step a)) (l : List α) :
    Hands (l.mapM f) (l.mapM g) (Series step l) := by
  induction l with
  | nil => exact Hands.pure .done
  | cons a l ih =>
    rw [List.mapM_cons, List.mapM_cons]
    refine (h a).bind (fun handed b hfirst => ?_) fun handed e hfirst => .stop hfirst
    refine ih.bind (fun handed' bs hothers => ?_) fun handed' e hothers => .stopLater hfirst hothers
    refine Hands.pure ?_
    rw [List.append_nil]
    exact .next hfirst hothers

namespace Series

variable {step : α → List ξ → Except ε β → Prop} {l : List α} {handed : List ξ}
  {answer : Except ε (List β)}

theorem mono {step' : α → List ξ → Except ε β → Prop} (h : Series step l handed answer)
    (himp : ∀ a handed answer, step a handed answer → step' a handed answer) :
    Series step' l handed answer := by
  induction h with
  | done => exact .done
  | next first _ ih => exact .next (himp _ _ _ first) ih
  | stopLater first _ ih => exact .stopLater (himp _ _ _ first) ih
  | stop first => exact .stop (himp _ _ _ first)

/-- **What a series hands over** is handed over for its first elements, one thing for each, if every
step hands over one thing, or nothing and fails. -/
theorem forall₂_started {Q : α → ξ → Prop} (h : Series step l handed answer)
    (hone : ∀ {a handed answer}, step a handed answer →
      (∃ x, handed = [x] ∧ Q a x) ∨ (handed = [] ∧ ∃ e, answer = .error e)) :
    ∃ started, started <+: l ∧ List.Forall₂ Q started handed := by
  -- an element that is followed by others
  have hcons : ∀ {a rest handed b handed'}, step a handed (.ok b) →
      (∃ started, started <+: rest ∧ List.Forall₂ Q started handed') →
      ∃ started, started <+: a :: rest ∧ List.Forall₂ Q started (handed ++ handed') := by
    rintro a rest handed b handed' hfirst ⟨started, hfront, hall⟩
    rcases hone hfirst with ⟨x, rfl, hx⟩ | ⟨-, e, he⟩
    · exact ⟨a :: started, List.cons_prefix_cons.mpr ⟨rfl, hfront⟩, .cons hx hall⟩
    · cases he
  induction h with
  | done => exact ⟨[], List.prefix_rfl, .nil⟩
  | next first _ ih => exact hcons first ih
  | stopLater first _ ih => exact hcons first ih
  | @stop a rest handed e first =>
    rcases hone first with ⟨x, rfl, hx⟩ | ⟨rfl, -⟩
    · exact ⟨[a], List.cons_prefix_cons.mpr ⟨rfl, List.nil_prefix⟩, .cons hx .nil⟩
    · exact ⟨[], List.nil_prefix, .nil⟩

/-- A series of steps that hand over nothing hands over nothing. -/
theorem handed_eq_nil (h : Series (fun _ handed _ => handed = []) l handed answer) :
    handed = [] := by
  induction h with
  | done => rfl
  | next first _ ih => rw [first, ih, List.append_nil]
  | stopLater first _ ih => rw [first, ih, List.append_nil]
  | stop first => exact first

/-- What every step hands over, the whole series does. -/
theorem forall_mem_handed {P : ξ → Prop} (h : Series step l handed answer)
    (hall : ∀ {a handed answer}, step a handed answer → ∀ x ∈ handed, P x) : ∀ x ∈ handed, P x := by
  induction h with
  | done =>
    intro x hx
    cases hx
  | next first _ ih => exact List.forall_mem_append.mpr ⟨hall first, ih⟩
  | stopLater first _ ih => exact List.forall_mem_append.mpr ⟨hall first, ih⟩
  | stop first => exact hall first

/-- A series succeeds if every step of it does. -/
theorem forall₂_of_ok {Q : α → β → Prop} {bs : List β} (h : Series step l handed (.ok bs))
    (hok : ∀ {a handed b}, step a handed (.ok b) → Q a b) : List.Forall₂ Q l bs := by
  induction l generalizing handed bs with
  | nil =>
    cases h with
    | done => exact .nil
  | cons a l ih =>
    cases h with
    | next first others => exact .cons (hok first) (ih others)

/-- **Where a series fails** without handing over anything, as many elements came before as things
were handed over. -/
theorem getElem?_of_error {e : ε} (h : Series step l handed answer) (he : answer = .error e)
    (hone : ∀ {a handed b}, step a handed (.ok b) → handed.length = 1)
    (hnone : ∀ {a handed}, step a handed (.error e) → handed = []) :
    ∃ a, l[handed.length]? = some a ∧ step a [] (.error e) := by
  induction h with
  | done => cases he
  | next => cases he
  | @stopLater a rest handed handed' b _ first _ ih =>
    obtain ⟨a', ha', hstep⟩ := ih he
    refine ⟨a', ?_, hstep⟩
    rw [List.length_append, hone first, Nat.add_comm, List.getElem?_cons_succ]
    exact ha'
  | @stop a rest handed _ first =>
    cases he
    have hempty := hnone first
    subst hempty
    exact ⟨a, rfl, first⟩

end Series

/-! ### Polls -/

theorem CircuitRun.collect_watched (service : TaskService σ) (run : CircuitRun R)
    (handle : TaskHandle) :
    run.collect service.watched handle = unlogged (run.collect service handle) := by
  unfold collect
  rw [unlogged_bind]
  refine congrArg _ (funext fun answer => ?_)
  cases answer with
  | ok samples => rfl
  | error e => rfl

theorem CircuitRun.poll_watched (service : TaskService σ) (run : CircuitRun R) :
    run.poll service.watched = unlogged (run.poll service) := by
  unfold poll
  cases run.results with
  | some results => rfl
  | none =>
    cases run.task with
    | onSite id => rfl
    | remote handle =>
      simp only [unlogged_bind]
      refine congrArg _ (funext fun answer => ?_)
      cases answer with
      | error e => rfl
      | ok state =>
        cases state with
        | completed => exact collect_watched service run handle
        | created | queued | running | failed _ | cancelling | cancelled => rfl

/-- If a poll writes nothing down, waiting for an answer does not either. -/
theorem waitFor_unlogged {ρ : Type} (poll : ρ → StateM σ (Polled ρ α)) (polls : Nat) (run : ρ) :
    waitFor (fun run => unlogged (ξ := ξ) (poll run)) polls run
      = unlogged (waitFor poll polls run) := by
  have hpoll : ∀ run, pollFor (fun run => unlogged (ξ := ξ) (poll run)) polls run
      = unlogged (pollFor poll polls run) := by
    induction polls with
    | zero => exact fun _ => rfl
    | succ n ih =>
      intro run
      rw [pollFor, pollFor, unlogged_bind]
      refine congrArg _ (funext fun answer => ?_)
      rcases answer with ⟨answer | answer, run⟩
      · rfl
      · cases answer with
        | none => exact ih run
        | some answer => rfl
  rw [waitFor, waitFor, hpoll, unlogged_bind]
  refine congrArg _ (funext fun answer => ?_)
  rcases answer with ⟨answer | answer, run⟩
  · rfl
  · cases answer with
    | none => rfl
    | some answer => rfl

/-- **Waiting hands over nothing.** -/
theorem hands_await (b : Backend R σ) (run : CircuitRun R) :
    Hands (b.watched.await run) (b.await run) fun handed _ => handed = [] := by
  have hawait : b.watched.await run
      = ExceptT.mk (unlogged (b.await run).run) := by
    have hwait : run.wait b.watched.service b.watched.policy.maxPolls
        = unlogged (run.wait b.service b.policy.maxPolls) := by
      have hpoll : CircuitRun.poll (R := R) b.service.watched
          = fun run => unlogged (run.poll b.service) :=
        funext fun run => run.poll_watched b.service
      rw [CircuitRun.wait, CircuitRun.wait, ← waitFor_unlogged, ← hpoll]
      rfl
    rw [Backend.await, hwait]
    rfl
  rw [hawait]
  exact Hands.unlogged

end CircuitDispatch
