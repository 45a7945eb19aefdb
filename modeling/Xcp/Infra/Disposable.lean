import Mathlib
import Xcp.Library.Machine

/-!
# Disposables

`infra::disposable`: `dispose` and `async_dispose` of one object, called by any number of callers.
The caller that wins the compare-exchange runs `dispose_impl`, itself or in a thread of its own; the
others wait for it or leave. `dispose_impl` does not dispose its own object.
-/

namespace Xcp

namespace Disposable

/-- `_status`. -/
inductive Status where
  | normal
  | disposing
  | disposed
  deriving DecidableEq

/-- `dispose()` or `async_dispose(wait_for_done)`. -/
inductive Call where
  | dispose
  | asyncDispose (waitForDone : Bool)
  deriving DecidableEq

/-- The call waits until `dispose_impl` has been executed. -/
def Call.waits : Call → Bool
  | .dispose => true
  | .asyncDispose waitForDone => waitForDone

/-- Where a caller is: before the compare-exchange; as the winner in `dispose_impl`, before the store
of `STATUS_DISPOSED`, or before it starts, joins or detaches its thread; as a loser with the status
it has observed, in `wait_for_dispose_done` and before the assertion behind its loop. -/
inductive Pc where
  | idle
  | compareExchange (call : Call)
  | disposeImpl
  | store
  | start (waitForDone : Bool)
  | join
  | detach
  | observed (call : Call) (status : Status)
  | waiting (call : Call)
  | finalAssert (call : Call)
  | returned (call : Call)
  deriving DecidableEq

/-- Where the thread that a caller has started is. -/
inductive Worker where
  | absent
  | disposeImpl
  | store
  | done
  deriving DecidableEq

/-- A caller calls or takes the next step of its call, or its thread takes a step. -/
inductive Action (ι : Type) where
  | call (t : ι) (call : Call)
  | step (t : ι)
  | worker (t : ι)
  deriving DecidableEq

/-- A disposable with its callers. `winner` has won the compare-exchange; `started` and `finished`
count the executions of `dispose_impl`. -/
structure State (ι : Type) where
  status : Status := .normal
  pc : ι → Pc := fun _ => .idle
  worker : ι → Worker := fun _ => .absent
  winner : Option ι := none
  started : ℕ := 0
  finished : ℕ := 0
  aborted : Bool := false

namespace State

variable {ι : Type} [DecidableEq ι] (s : State ι) (t : ι)

def setPc (pc : Pc) : State ι := { s with pc := Function.update s.pc t pc }

def setWorker (w : Worker) : State ι := { s with worker := Function.update s.worker t w }

/-- `_status.compare_exchange_strong(status, STATUS_DISPOSING)`. -/
def compareExchange (call : Call) : State ι :=
  if s.status = .normal then
    let won := { s with
      status := .disposing
      winner := some t }
    match call with
    | .dispose => { won with started := s.started + 1 }.setPc t .disposeImpl
    | .asyncDispose waitForDone => won.setPc t (.start waitForDone)
  else s.setPc t (.observed call s.status)

/-- What a loser does with the status that it has observed. -/
def lose (call : Call) (status : Status) : State ι :=
  match call, status with
  | call, .disposed => s.setPc t (.returned call)
  | .dispose, _ => s.setPc t (.waiting .dispose)
  | .asyncDispose waitForDone, .disposing =>
    s.setPc t (if waitForDone then .waiting (.asyncDispose true) else .returned (.asyncDispose false))
  | .asyncDispose _, .normal => { s with aborted := true }

/-- The next step of a call. A round of the loop in `wait_for_dispose_done` changes nothing. -/
def callerStep : Option (State ι) :=
  match s.pc t with
  | .compareExchange call => some (s.compareExchange t call)
  | .disposeImpl => some ({ s with finished := s.finished + 1 }.setPc t .store)
  | .store => some ({ s with status := .disposed }.setPc t (.returned .dispose))
  | .start waitForDone =>
    some (({ s with started := s.started + 1 }.setWorker t .disposeImpl).setPc t
      (if waitForDone then .join else .detach))
  | .join =>
    if s.worker t = .done then some (s.setPc t (.returned (.asyncDispose true))) else none
  | .detach => some (s.setPc t (.returned (.asyncDispose false)))
  | .observed call status => some (s.lose t call status)
  | .waiting call =>
    some (if s.status = .disposing then s else s.setPc t (.finalAssert call))
  | .finalAssert call =>
    some (if s.status = .disposed then s.setPc t (.returned call) else { s with aborted := true })
  | .idle | .returned _ => none

/-- The thread that a caller has started. -/
def workerStep : Option (State ι) :=
  match s.worker t with
  | .disposeImpl => some ({ s with finished := s.finished + 1 }.setWorker t .store)
  | .store => some ({ s with status := .disposed }.setWorker t .done)
  | .absent | .done => none

/-- A caller can call again after it has returned. -/
def canCall : Bool :=
  match s.pc t with
  | .idle | .returned _ => true
  | _ => false

/-- A step. -/
def step (a : Action ι) : Option (State ι) :=
  if s.aborted then none
  else
    match a with
    | .call t call => if s.canCall t then some (s.setPc t (.compareExchange call)) else none
    | .step t      => s.callerStep t
    | .worker t    => s.workerStep t

end State

/-- The machine of a disposable. -/
def machine (ι : Type) [DecidableEq ι] : Machine (State ι) (Action ι) where
  init s := s = {}
  step s a := s.step a

/-! ### What callers and threads can do -/

variable {ι : Type} [DecidableEq ι] {s s' : State ι} {a : Action ι}

/-- The steps, as long as no assertion has failed. -/
inductive Step (s : State ι) : Action ι → State ι → Prop where
  | call {t call} (hpc : s.canCall t = true) :
      Step s (.call t call) (s.setPc t (.compareExchange call))
  | winDispose {t} (hpc : s.pc t = .compareExchange .dispose) (hstatus : s.status = .normal) :
      Step s (.step t) ({ s with
        status := .disposing
        winner := some t
        started := s.started + 1 }.setPc t .disposeImpl)
  | winAsync {t wait} (hpc : s.pc t = .compareExchange (.asyncDispose wait))
      (hstatus : s.status = .normal) :
      Step s (.step t) ({ s with
        status := .disposing
        winner := some t }.setPc t (.start wait))
  | observe {t call} (hpc : s.pc t = .compareExchange call) (hstatus : s.status ≠ .normal) :
      Step s (.step t) (s.setPc t (.observed call s.status))
  | disposeImpl {t} (hpc : s.pc t = .disposeImpl) :
      Step s (.step t) ({ s with finished := s.finished + 1 }.setPc t .store)
  | store {t} (hpc : s.pc t = .store) :
      Step s (.step t) ({ s with status := .disposed }.setPc t (.returned .dispose))
  | start {t wait} (hpc : s.pc t = .start wait) :
      Step s (.step t) (({ s with started := s.started + 1 }.setWorker t .disposeImpl).setPc t
        (if wait then .join else .detach))
  | join {t} (hpc : s.pc t = .join) (hdone : s.worker t = .done) :
      Step s (.step t) (s.setPc t (.returned (.asyncDispose true)))
  | detach {t} (hpc : s.pc t = .detach) :
      Step s (.step t) (s.setPc t (.returned (.asyncDispose false)))
  | leave {t call status} (hpc : s.pc t = .observed call status)
      (hleave : status = .disposed ∨ call = .asyncDispose false) (hstatus : status ≠ .normal) :
      Step s (.step t) (s.setPc t (.returned call))
  | wait {t call status} (hpc : s.pc t = .observed call status) (hwaits : call.waits = true)
      (hstatus : status ≠ .disposed) :
      Step s (.step t) (s.setPc t (.waiting call))
  | notNormal {t call} (hpc : s.pc t = .observed call .normal) :
      Step s (.step t) { s with aborted := true }
  | sleep {t call} (hpc : s.pc t = .waiting call) (hstatus : s.status = .disposing) :
      Step s (.step t) s
  | wakeUp {t call} (hpc : s.pc t = .waiting call) (hstatus : s.status ≠ .disposing) :
      Step s (.step t) (s.setPc t (.finalAssert call))
  | finalAssert {t call} (hpc : s.pc t = .finalAssert call) (hstatus : s.status = .disposed) :
      Step s (.step t) (s.setPc t (.returned call))
  | notDisposed {t call} (hpc : s.pc t = .finalAssert call) (hstatus : s.status ≠ .disposed) :
      Step s (.step t) { s with aborted := true }
  | workerImpl {t} (hw : s.worker t = .disposeImpl) :
      Step s (.worker t) ({ s with finished := s.finished + 1 }.setWorker t .store)
  | workerStore {t} (hw : s.worker t = .store) :
      Step s (.worker t) ({ s with status := .disposed }.setWorker t .done)

lemma Step.of_lose {t : ι} {call : Call} {status : Status} (hpc : s.pc t = .observed call status) :
    Step s (.step t) (s.lose t call status) := by
  cases call with
  | dispose =>
    cases status with
    | disposed => exact .leave hpc (.inl rfl) (by decide)
    | normal | disposing => exact .wait hpc rfl (by decide)
  | asyncDispose waitForDone =>
    cases status with
    | disposed => exact .leave hpc (.inl rfl) (by decide)
    | normal => exact .notNormal hpc
    | disposing =>
      cases waitForDone with
      | true => exact .wait hpc rfl (by decide)
      | false => exact .leave hpc (.inr rfl) (by decide)

lemma Step.of_compareExchange {t : ι} {call : Call} (hpc : s.pc t = .compareExchange call) :
    Step s (.step t) (s.compareExchange t call) := by
  unfold State.compareExchange
  split_ifs with hstatus
  · cases call with
    | dispose => exact .winDispose hpc hstatus
    | asyncDispose waitForDone => exact .winAsync hpc hstatus
  · exact .observe hpc hstatus

lemma Step.of_callerStep {t : ι} (h : s.callerStep t = some s') : Step s (.step t) s' := by
  unfold State.callerStep at h
  split at h
  · next call hpc => cases h; exact .of_compareExchange hpc
  · next hpc => cases h; exact .disposeImpl hpc
  · next hpc => cases h; exact .store hpc
  · next waitForDone hpc => cases h; exact .start hpc
  · next hpc =>
    split_ifs at h with hdone
    cases h
    exact .join hpc hdone
  · next hpc => cases h; exact .detach hpc
  · next call status hpc => cases h; exact .of_lose hpc
  · next call hpc =>
    cases h
    split_ifs with hstatus
    · exact .sleep hpc hstatus
    · exact .wakeUp hpc hstatus
  · next call hpc =>
    cases h
    split_ifs with hstatus
    · exact .finalAssert hpc hstatus
    · exact .notDisposed hpc hstatus
  all_goals cases h

lemma Step.of_step (h : s.step a = some s') : s.aborted = false ∧ Step s a s' := by
  unfold State.step at h
  split_ifs at h with haborted
  refine ⟨Bool.eq_false_of_not_eq_true haborted, ?_⟩
  cases a with
  | call t call =>
    dsimp only at h
    split_ifs at h with hpc
    cases h
    exact .call hpc
  | step t => exact of_callerStep h
  | worker t =>
    dsimp only [State.workerStep] at h
    split at h
    · next hw => cases h; exact .workerImpl hw
    · next hw => cases h; exact .workerStore hw
    all_goals cases h

/-! ### Invariants -/

/-- The caller has won and has not handed `dispose_impl` over or executed it. -/
def Pc.Runs : Pc → Prop
  | .disposeImpl | .store | .start _ => True
  | _ => False

/-- The thread is executing `dispose_impl`. -/
def Worker.Runs : Worker → Prop
  | .disposeImpl | .store => True
  | _ => False

attribute [grind =] Pc.Runs Worker.Runs

/-- The status, the winner of the compare-exchange, and the executions of `dispose_impl`. -/
structure Winner (s : State ι) : Prop where
  normal : s.status = .normal ↔ s.winner = none
  runs : ∀ t, (s.pc t).Runs → s.winner = some t ∧ s.status = .disposing ∧ s.worker t = .absent
  worker : ∀ t, s.worker t ≠ .absent → s.winner = some t
  running : ∀ t, (s.worker t).Runs → s.winner = some t ∧ s.status = .disposing
  active : ∀ t, s.winner = some t → s.status = .disposing → (s.pc t).Runs ∨ (s.worker t).Runs
  done : ∀ t, s.worker t = .done → s.status = .disposed
  join : ∀ t, s.pc t = .join → s.worker t ≠ .absent

/-- How often `dispose_impl` has been started and has returned. -/
structure Executions (s : State ι) : Prop where
  normal : s.status = .normal → s.started = 0 ∧ s.finished = 0
  start : ∀ t wait, s.pc t = .start wait → s.started = 0 ∧ s.finished = 0
  disposeImpl : ∀ t, s.pc t = .disposeImpl ∨ s.worker t = .disposeImpl →
    s.started = 1 ∧ s.finished = 0
  store : ∀ t, s.pc t = .store ∨ s.worker t = .store → s.started = 1 ∧ s.finished = 1
  disposed : s.status = .disposed → s.started = 1 ∧ s.finished = 1

lemma Winner.step (hs : Winner s) (h : Step s a s') : Winner s' := by
  obtain ⟨hnormal, hruns, hworker, hrunning, hactive, hdone, hjoin⟩ := hs
  cases h with
  | notNormal | sleep | notDisposed => constructor <;> assumption
  | @start t wait hpc =>
    cases wait <;> dsimp only [State.setPc, State.setWorker] <;> constructor <;>
      first | assumption | grind -linarith
  | @call t call hpc =>
    dsimp only [State.setPc]
    constructor <;> first | assumption | grind -linarith [State.canCall]
  | _ =>
    dsimp only [State.setPc, State.setWorker]
    constructor <;> first | assumption | grind -linarith

lemma Executions.step (hs : Executions s) (hw : Winner s) (h : Step s a s') : Executions s' := by
  obtain ⟨hnormal, hruns, hworker, hrunning, hactive, hdone, hjoin⟩ := hw
  obtain ⟨hnever, hstart, himpl, hstore, hdisposed⟩ := hs
  cases h with
  | notNormal | sleep | notDisposed => constructor <;> assumption
  | @start t wait hpc =>
    cases wait <;> dsimp only [State.setPc, State.setWorker] <;> constructor <;>
      first | assumption | grind -linarith
  | _ =>
    dsimp only [State.setPc, State.setWorker]
    constructor <;> first | assumption | grind -linarith

/-- What the callers know of the status. -/
structure Known (s : State ι) : Prop where
  observed : ∀ t call status, s.pc t = .observed call status →
    s.status ≠ .normal ∧ status ≠ .normal ∧ (status = .disposed → s.status = .disposed)
  waiting : ∀ t call, s.pc t = .waiting call → s.status ≠ .normal ∧ call.waits = true
  finalAssert : ∀ t call, s.pc t = .finalAssert call → s.status = .disposed ∧ call.waits = true
  detach : ∀ t, s.pc t = .detach → s.status ≠ .normal
  returned : ∀ t call, s.pc t = .returned call →
    s.status ≠ .normal ∧ (call.waits = true → s.status = .disposed)
  aborted : s.aborted = false

attribute [grind =] Call.waits

lemma Known.step (hs : Known s) (hw : Winner s) (h : Step s a s') : Known s' := by
  obtain ⟨hnormal, hruns, hworker, hrunning, hactive, hdone, hjoin⟩ := hw
  obtain ⟨hobserved, hwaiting, hfinal, hdetach, hreturned, haborted⟩ := hs
  cases h with
  | sleep => constructor <;> assumption
  | notNormal | notDisposed => grind -linarith
  | @start t wait hpc =>
    cases wait <;> dsimp only [State.setPc, State.setWorker] <;> constructor <;>
      first | assumption | grind -linarith
  | @wakeUp t call hpc hstatus =>
    have hdisposed : s.status = .disposed := by
      cases heq : s.status with
      | normal => exact absurd heq (hwaiting t call hpc).1
      | disposing => exact absurd heq hstatus
      | disposed => rfl
    dsimp only [State.setPc]
    constructor <;> first | assumption | grind -linarith
  | _ =>
    dsimp only [State.setPc, State.setWorker]
    constructor <;> first | assumption | grind -linarith

/-! ### Every run -/

/-- All of this. -/
structure Inv (s : State ι) : Prop where
  winner : Winner s
  executions : Executions s
  known : Known s

lemma inv_of_reach (h : (machine ι).Reach s) : Inv s := by
  refine h.invariant (fun s hs => ?_) (fun s a s' _ hs _ hstep => ?_)
  · cases hs
    refine ⟨?_, ?_, ?_⟩ <;> constructor <;> simp [Pc.Runs, Worker.Runs]
  · have hstep := (Step.of_step hstep).2
    exact ⟨hs.winner.step hstep, hs.executions.step hs.winner hstep, hs.known.step hs.winner hstep⟩

omit [DecidableEq ι] in
/-- While the object is being disposed, the winner or its thread does it. -/
lemma Winner.exists_runs (hs : Winner s) (hstatus : s.status = .disposing) :
    ∃ t, (s.pc t).Runs ∨ (s.worker t).Runs := by
  have hwon : s.winner ≠ none := fun h => by
    cases hstatus.symm.trans (hs.normal.mpr h)
  obtain ⟨t, ht⟩ := Option.ne_none_iff_exists'.mp hwon
  exact ⟨t, hs.active t ht hstatus⟩

/-- A caller that has won takes a step. -/
lemma exists_step_of_runs (haborted : s.aborted = false) {t : ι} (hruns : (s.pc t).Runs) :
    ∃ s', s.step (.step t) = some s' ∧ s'.pc t ≠ s.pc t := by
  rw [State.step, haborted]
  dsimp only [State.callerStep]
  cases hpc : s.pc t with
  | disposeImpl | store => exact ⟨_, rfl, by simp [State.setPc]⟩
  | start wait => exact ⟨_, rfl, by cases wait <;> simp [State.setPc]⟩
  | _ => rw [hpc] at hruns; cases hruns

/-- A thread that executes `dispose_impl` takes a step. -/
lemma exists_step_of_worker (haborted : s.aborted = false) {t : ι} (hruns : (s.worker t).Runs) :
    ∃ s', s.step (.worker t) = some s' ∧ s'.worker t ≠ s.worker t := by
  rw [State.step, haborted]
  dsimp only [State.workerStep]
  cases hw : s.worker t with
  | disposeImpl | store => exact ⟨_, rfl, by simp [State.setWorker]⟩
  | absent | done => rw [hw] at hruns; cases hruns

omit [DecidableEq ι] in
/-- Until one of them wins, all callers are before the compare-exchange. -/
lemma Inv.compareExchange (hs : Inv s) (hstatus : s.status = .normal) {t : ι}
    (hpc : s.pc t ≠ .idle) : ∃ call, s.pc t = .compareExchange call := by
  have hwinner := hs.winner.normal.mp hstatus
  have hruns : ¬ (s.pc t).Runs := fun h => by cases hwinner.symm.trans (hs.winner.runs t h).1
  cases hpc' : s.pc t with
  | idle => exact absurd hpc' hpc
  | compareExchange call => exact ⟨call, rfl⟩
  | disposeImpl | store | start => simp [hpc', Pc.Runs] at hruns
  | join =>
    have hw := hs.winner.worker t (hs.winner.join t hpc')
    cases hwinner.symm.trans hw
  | detach => exact absurd hstatus (hs.known.detach t hpc')
  | observed call status => exact absurd hstatus (hs.known.observed t call status hpc').1
  | waiting call => exact absurd hstatus (hs.known.waiting t call hpc').1
  | finalAssert call => cases hstatus.symm.trans (hs.known.finalAssert t call hpc').1
  | returned call => exact absurd hstatus (hs.known.returned t call hpc').1

/-- No caller and no thread takes a step that changes anything. -/
def Quiescent (s : State ι) : Prop :=
  ∀ t s', s.step (.step t) = some s' ∨ s.step (.worker t) = some s' → s' = s

/-- Who has been called is disposed in the end. -/
lemma Inv.disposed (hs : Inv s) {t : ι} (hpc : s.pc t ≠ .idle) (hq : Quiescent s) :
    s.status = .disposed := by
  have haborted := hs.known.aborted
  cases hstatus : s.status with
  | disposed => rfl
  | normal =>
    obtain ⟨call, hpc'⟩ := hs.compareExchange hstatus hpc
    have hstep : s.step (.step t) = some (s.compareExchange t call) := by
      rw [State.step, haborted]
      dsimp only [State.callerStep]
      rw [hpc']
      rfl
    have heq := congrArg (fun s => s.status) (hq t _ (.inl hstep))
    rw [hstatus, State.compareExchange, if_pos hstatus] at heq
    cases call <;> cases heq
  | disposing =>
    obtain ⟨w, hruns | hruns⟩ := hs.winner.exists_runs hstatus
    · obtain ⟨s', hstep, hne⟩ := exists_step_of_runs haborted hruns
      exact absurd (congrArg (fun s => s.pc w) (hq w s' (.inl hstep))) hne
    · obtain ⟨s', hstep, hne⟩ := exists_step_of_worker haborted hruns
      exact absurd (congrArg (fun s => s.worker w) (hq w s' (.inr hstep))) hne

/-- `_status` moves on. -/
inductive Status.Moves : Status → Status → Prop where
  | stay (status : Status) : Moves status status
  | disposing : Moves .normal .disposing
  | disposed : Moves .disposing .disposed

lemma Inv.moves (hs : Inv s) (h : Step s a s') : s.status.Moves s'.status := by
  cases h with
  | winDispose hpc hstatus | winAsync hpc hstatus => rw [hstatus]; exact .disposing
  | @store t hpc => rw [(hs.winner.runs t (by simp [hpc, Pc.Runs])).2.1]; exact .disposed
  | @workerStore t hw =>
    rw [(hs.winner.running t (by simp [hw, Worker.Runs])).2]
    exact .disposed
  | _ => exact .stay _

/-- The caller is in `async_dispose(false)`. -/
def Pc.InAsyncDispose : Pc → Prop
  | .compareExchange call | .observed call _ | .waiting call | .finalAssert call =>
    call = .asyncDispose false
  | .start wait => wait = false
  | .detach => True
  | _ => False

/-- How many steps `async_dispose(false)` still takes. -/
def Pc.stepsLeft : Pc → ℕ
  | .compareExchange _ => 3
  | .start _ => 2
  | .detach | .observed _ _ => 1
  | _ => 0

attribute [grind =] Pc.InAsyncDispose Pc.stepsLeft

/-- `async_dispose(false)` is never blocked, and each of its steps brings it closer to its end. -/
lemma Inv.asyncDispose (hs : Inv s) {t : ι} (hpc : (s.pc t).InAsyncDispose) :
    ∃ s', s.step (.step t) = some s' ∧ (s'.pc t).stepsLeft < (s.pc t).stepsLeft ∧
      ((s'.pc t).InAsyncDispose ∨ s'.pc t = .returned (.asyncDispose false)) := by
  have hobserved := hs.known.observed t
  have hwaiting := hs.known.waiting t
  have hfinal := hs.known.finalAssert t
  rw [State.step, hs.known.aborted]
  dsimp only [State.callerStep]
  cases hpc' : s.pc t with
  | compareExchange call =>
    obtain rfl : call = .asyncDispose false := by simpa only [hpc', Pc.InAsyncDispose] using hpc
    refine ⟨_, rfl, ?_⟩
    unfold State.compareExchange
    split_ifs <;> simp [State.setPc, Pc.stepsLeft, Pc.InAsyncDispose]
  | start wait =>
    obtain rfl : wait = false := by simpa only [hpc', Pc.InAsyncDispose] using hpc
    exact ⟨_, rfl, by simp [State.setPc, Pc.stepsLeft, Pc.InAsyncDispose]⟩
  | detach => exact ⟨_, rfl, by simp [State.setPc, Pc.stepsLeft]⟩
  | observed call status =>
    obtain rfl : call = .asyncDispose false := by simpa only [hpc', Pc.InAsyncDispose] using hpc
    refine ⟨_, rfl, ?_⟩
    cases status with
    | normal => exact absurd rfl (hobserved _ _ hpc').2.1
    | disposing | disposed => simp [State.lose, State.setPc, Pc.stepsLeft]
  | waiting call =>
    obtain rfl : call = .asyncDispose false := by simpa only [hpc', Pc.InAsyncDispose] using hpc
    cases (hwaiting _ hpc').2
  | finalAssert call =>
    obtain rfl : call = .asyncDispose false := by simpa only [hpc', Pc.InAsyncDispose] using hpc
    cases (hfinal _ hpc').2
  | _ => simp only [hpc', Pc.InAsyncDispose] at hpc

/-- The steps of the others do not move a caller that is in a call. -/
lemma Step.frame (h : Step s a s') {t : ι} (hpc : (s.pc t).InAsyncDispose) (ha : a ≠ .step t) :
    s'.pc t = s.pc t := by
  cases h with
  | notNormal | sleep | notDisposed | workerImpl | workerStore => rfl
  | _ =>
    dsimp only [State.setPc, State.setWorker]
    grind -linarith [State.canCall]

omit [DecidableEq ι] in
/-- `dispose_impl` has been started at most once. -/
lemma Inv.started_le (hs : Inv s) : s.started ≤ 1 := by
  obtain ⟨hnormal, hstart, himpl, hstore, hdisposed⟩ := hs.executions
  cases hstatus : s.status with
  | normal => exact (hnormal hstatus).1.le.trans zero_le_one
  | disposed => exact (hdisposed hstatus).1.le
  | disposing =>
    obtain ⟨w, hruns | hruns⟩ := hs.winner.exists_runs hstatus
    · cases hpc : s.pc w with
      | disposeImpl => exact (himpl w (.inl hpc)).1.le
      | store => exact (hstore w (.inl hpc)).1.le
      | start wait => exact (hstart w wait hpc).1.le.trans zero_le_one
      | _ => rw [hpc] at hruns; cases hruns
    · cases hworker : s.worker w with
      | disposeImpl => exact (himpl w (.inr hworker)).1.le
      | store => exact (hstore w (.inr hworker)).1.le
      | absent | done => rw [hworker] at hruns; cases hruns

/-- A disposable in any state that its callers can bring it to. -/
theorem disposes_once (h : (machine ι).Reach s) :
    s.started ≤ 1 ∧
    ((∃ t, s.pc t ≠ .idle) → Quiescent s → s.started = 1 ∧ s.finished = 1) ∧
    (∀ a s', s.step a = some s' → s.status.Moves s'.status) ∧
    (∀ t call, s.pc t = .returned call → call.waits = true →
      s.finished = 1 ∧ s.status = .disposed) ∧
    (∀ t, (s.pc t).InAsyncDispose →
      (∃ s', s.step (.step t) = some s' ∧ (s'.pc t).stepsLeft < (s.pc t).stepsLeft ∧
        ((s'.pc t).InAsyncDispose ∨ s'.pc t = .returned (.asyncDispose false))) ∧
      ∀ a s', a ≠ .step t → s.step a = some s' → s'.pc t = s.pc t) ∧
    s.aborted = false := by
  have hs := inv_of_reach h
  refine ⟨hs.started_le, fun ⟨t, hpc⟩ hq => hs.executions.disposed (hs.disposed hpc hq),
    fun a s' hstep => hs.moves (Step.of_step hstep).2, fun t call hpc hwaits => ?_,
    fun t hpc => ⟨hs.asyncDispose hpc, fun a s' ha hstep => (Step.of_step hstep).2.frame hpc ha⟩,
    hs.known.aborted⟩
  have hdisposed := (hs.known.returned t call hpc).2 hwaits
  exact ⟨(hs.executions.disposed hdisposed).2, hdisposed⟩

/-- The first caller wins with `async_dispose(true)`, the second waits, the third leaves. -/
def threeCallers : List (Action ℕ) :=
  [.call 0 (.asyncDispose true), .call 1 .dispose, .call 2 (.asyncDispose false), .step 0, .step 1,
    .step 2, .step 2, .step 0, .step 1, .step 1, .worker 0, .worker 0, .step 0, .step 1, .step 1]

theorem disposes_once_threeCallers : ∃ s, (machine ℕ).Reach s ∧
    s.pc 0 = .returned (.asyncDispose true) ∧ s.pc 1 = .returned .dispose ∧
    s.pc 2 = .returned (.asyncDispose false) ∧ s.started ≤ 1 ∧ s.finished = 1 ∧
    s.status = .disposed := by
  have hrun : ((machine ℕ).run {} threeCallers).map (fun s => (s.pc 0, s.pc 1, s.pc 2)) =
      some (.returned (.asyncDispose true), .returned .dispose, .returned (.asyncDispose false)) := by
    decide +kernel
  obtain ⟨s, hs, hfields⟩ := Option.map_eq_some_iff.mp hrun
  simp only [Prod.mk.injEq] at hfields
  obtain ⟨hpc₀, hpc₁, hpc₂⟩ := hfields
  have hreach : (machine ℕ).Reach s := .of_run (.init rfl) hs
  obtain ⟨hstarted, -, -, hreturned, -, -⟩ := disposes_once hreach
  obtain ⟨hfinished, hstatus⟩ := hreturned 1 _ hpc₁ rfl
  exact ⟨s, hreach, hpc₀, hpc₁, hpc₂, hstarted, hfinished, hstatus⟩

end Disposable

end Xcp
