import Mathlib
import Xcp.Library.Machine
import Xcp.Infra.GateGuard

/-!
# Threads at a gate

`signal`, `force_signal_all`, `wait` and `can_pass` of one `gate_guard`, called by any number of
threads, with the mutex and the condition variable of its `manual_reset_event`. A thread is between
two of the atomic operations of its call.
-/

namespace Xcp

open Outcome

/-- `can_pass`. -/
def GateGuard.canPass (g : GateGuard) : Bool := g.atLeastSignal ≤ g.currSignalCount

namespace GateThreads

/-- The call that sets the event: the `k`-th signal, in the order of the increments, or
`force_signal_all`. -/
inductive Setter where
  | signal (k : ℕ)
  | force
  deriving DecidableEq

/-- What a thread does next. `compare k curr` has made the `k`-th increment and read `curr`. -/
inductive Pc where
  | idle
  | increment
  | compare (k curr : ℕ)
  | store
  | setTest (caller : Setter)
  | setLock (caller : Setter)
  | setStore (caller : Setter)
  | setNotify (caller : Setter)
  | setUnlock (caller : Setter)
  | waitLock
  | waitTest
  | waitSleep
  | asleep
  | notified
  | waitUnlock
  deriving DecidableEq

/-- The calls of a thread; `can_pass` with what it returns. -/
inductive Call where
  | signal
  | force
  | wait
  | canPass (result : Bool)
  deriving DecidableEq

/-- A thread calls, takes the next step of its call, or wakes up without having been notified. -/
inductive Action (ι : Type) where
  | call (t : ι) (c : Call)
  | step (t : ι)
  | wake (t : ι)
  deriving DecidableEq

/-- A gate with its threads. `signals` counts the increments, `completed` has the signals that have
returned. -/
structure State (ι : Type) where
  gate : GateGuard
  mutex : Option ι := none
  pc : ι → Pc := fun _ => .idle
  signals : ℕ := 0
  completed : List ℕ := []
  forcesBegun : ℕ := 0
  forcesCompleted : ℕ := 0
  waitsReturned : ℕ := 0
  aborted : Bool := false

namespace State

variable {ι : Type} [DecidableEq ι] (s : State ι)

def setPc (t : ι) (pc : Pc) : State ι := { s with pc := Function.update s.pc t pc }

/-- A call begins with the assertion that the gate has been initialised. -/
def call (t : ι) (c : Call) : Option (State ι) :=
  if s.pc t = .idle then
    if s.gate.initialized then
      match c with
      | .signal  => some (s.setPc t .increment)
      | .force   => some ({ s with forcesBegun := s.forcesBegun + 1 }.setPc t .store)
      | .wait    => some (s.setPc t .waitLock)
      | .canPass result => if s.gate.canPass = result then some s else none
    else some { s with aborted := true }
  else none

/-- The call that has set the event returns. -/
def complete (t : ι) : Setter → State ι
  | .signal k => { s with completed := k :: s.completed }.setPc t .idle
  | .force    => { s with forcesCompleted := s.forcesCompleted + 1 }.setPc t .idle

/-- `notify_all`. -/
def notifyAll : State ι :=
  { s with pc := fun t => if s.pc t = .asleep then .notified else s.pc t }

/-- `_mutex` is taken, if it is free. -/
def lock (t : ι) (pc : Pc) : Option (State ι) :=
  if s.mutex = none then some ({ s with mutex := some t }.setPc t pc) else none

/-- The next step of a call. -/
def threadStep (t : ι) : Option (State ι) :=
  match s.pc t with
  | .increment =>
    some ({ s with
      gate := s.gate.increment
      signals := s.signals + 1 }.setPc t (.compare (s.signals + 1) s.gate.increment.currSignalCount))
  | .compare k curr =>
    some (if curr = s.gate.atLeastSignal then s.setPc t (.setTest (.signal k))
      else s.complete t (.signal k))
  | .store        => some ({ s with gate := s.gate.force }.setPc t (.setTest .force))
  | .setTest caller   => some (if s.gate.isSet then s.complete t caller else s.setPc t (.setLock caller))
  | .setLock caller   => s.lock t (.setStore caller)
  | .setStore caller  => some ({ s with gate := s.gate.set }.setPc t (.setNotify caller))
  | .setNotify caller => some (s.notifyAll.setPc t (.setUnlock caller))
  | .setUnlock caller => some ({ s with mutex := none }.complete t caller)
  | .waitLock     => s.lock t .waitTest
  | .waitTest     => some (s.setPc t (if s.gate.isSet then .waitUnlock else .waitSleep))
  | .waitSleep    => some ({ s with mutex := none }.setPc t .asleep)
  | .notified     => s.lock t .waitTest
  | .waitUnlock   =>
    some ({ s with
      mutex := none
      waitsReturned := s.waitsReturned + 1 }.setPc t .idle)
  | .idle | .asleep => none

/-- A step of a thread. -/
def step : Action ι → Option (State ι)
  | .call t c => if s.aborted then none else s.call t c
  | .step t   => if s.aborted then none else s.threadStep t
  | .wake t   => if s.aborted then none else
    if s.pc t = .asleep then some (s.setPc t .notified) else none

end State

/-- The machine of a gate that has been initialised with `n`. -/
def machine (ι : Type) [DecidableEq ι] (n : ℕ) : Machine (State ι) (Action ι) where
  init s := ∃ g, (({} : GateGuard).init n : Outcome Unit GateGuard) = ok g ∧ s = { gate := g }
  step s a := s.step a

variable {ι : Type} [DecidableEq ι] {n : ℕ} {s s' : State ι} {a : Action ι}

/-! ### What a thread can do -/

/-- The steps of the threads. -/
inductive Step (s : State ι) : Action ι → State ι → Prop where
  | callSignal {t} (hpc : s.pc t = .idle) :
      Step s (.call t .signal) (s.setPc t .increment)
  | callForce {t} (hpc : s.pc t = .idle) :
      Step s (.call t .force) ({ s with forcesBegun := s.forcesBegun + 1 }.setPc t .store)
  | callWait {t} (hpc : s.pc t = .idle) : Step s (.call t .wait) (s.setPc t .waitLock)
  | canPass {t} (hpc : s.pc t = .idle) : Step s (.call t (.canPass s.gate.canPass)) s
  | increment {t} (hpc : s.pc t = .increment) :
      Step s (.step t) ({ s with
        gate := s.gate.increment
        signals := s.signals + 1 }.setPc t
          (.compare (s.signals + 1) s.gate.increment.currSignalCount))
  | reached {t k} (hpc : s.pc t = .compare k s.gate.atLeastSignal) :
      Step s (.step t) (s.setPc t (.setTest (.signal k)))
  | notReached {t k curr} (hpc : s.pc t = .compare k curr) (hcurr : curr ≠ s.gate.atLeastSignal) :
      Step s (.step t) (s.complete t (.signal k))
  | store {t} (hpc : s.pc t = .store) :
      Step s (.step t) ({ s with gate := s.gate.force }.setPc t (.setTest .force))
  | alreadySet {t caller} (hpc : s.pc t = .setTest caller) (hset : s.gate.isSet = true) :
      Step s (.step t) (s.complete t caller)
  | notSet {t caller} (hpc : s.pc t = .setTest caller) (hset : s.gate.isSet = false) :
      Step s (.step t) (s.setPc t (.setLock caller))
  | setLock {t caller} (hpc : s.pc t = .setLock caller) (hfree : s.mutex = none) :
      Step s (.step t) ({ s with mutex := some t }.setPc t (.setStore caller))
  | setStore {t caller} (hpc : s.pc t = .setStore caller) :
      Step s (.step t) ({ s with gate := s.gate.set }.setPc t (.setNotify caller))
  | setNotify {t caller} (hpc : s.pc t = .setNotify caller) :
      Step s (.step t) (s.notifyAll.setPc t (.setUnlock caller))
  | setUnlock {t caller} (hpc : s.pc t = .setUnlock caller) :
      Step s (.step t) ({ s with mutex := none }.complete t caller)
  | waitLock {t} (hpc : s.pc t = .waitLock ∨ s.pc t = .notified) (hfree : s.mutex = none) :
      Step s (.step t) ({ s with mutex := some t }.setPc t .waitTest)
  | pass {t} (hpc : s.pc t = .waitTest) (hset : s.gate.isSet = true) :
      Step s (.step t) (s.setPc t .waitUnlock)
  | noPass {t} (hpc : s.pc t = .waitTest) (hset : s.gate.isSet = false) :
      Step s (.step t) (s.setPc t .waitSleep)
  | sleep {t} (hpc : s.pc t = .waitSleep) :
      Step s (.step t) ({ s with mutex := none }.setPc t .asleep)
  | waitUnlock {t} (hpc : s.pc t = .waitUnlock) :
      Step s (.step t) ({ s with
        mutex := none
        waitsReturned := s.waitsReturned + 1 }.setPc t .idle)
  | wake {t} (hpc : s.pc t = .asleep) : Step s (.wake t) (s.setPc t .notified)

lemma Step.of_call {t : ι} {c : Call} (hinit : s.gate.initialized = true)
    (h : s.call t c = some s') : Step s (.call t c) s' := by
  unfold State.call at h
  split_ifs at h with hpc
  cases c with
  | signal => cases h; exact .callSignal hpc
  | force => cases h; exact .callForce hpc
  | wait => cases h; exact .callWait hpc
  | canPass result =>
    dsimp only at h
    split_ifs at h with hresult
    cases h
    exact hresult ▸ .canPass hpc

lemma Step.of_lock {t : ι} {pc : Pc} (h : s.lock t pc = some s') :
    s.mutex = none ∧ { s with mutex := some t }.setPc t pc = s' := by
  unfold State.lock at h
  split_ifs at h with hfree
  exact ⟨hfree, Option.some.inj h⟩

lemma Step.of_threadStep {t : ι} (h : s.threadStep t = some s') : Step s (.step t) s' := by
  unfold State.threadStep at h
  split at h
  · next hpc => cases h; exact .increment hpc
  · next k curr hpc =>
    cases h
    split_ifs with hcurr
    · exact .reached (hcurr ▸ hpc)
    · exact .notReached hpc hcurr
  · next hpc => cases h; exact .store hpc
  · next caller hpc =>
    cases h
    split_ifs with hset
    · exact .alreadySet hpc hset
    · exact .notSet hpc (Bool.eq_false_of_not_eq_true hset)
  · next caller hpc => obtain ⟨hfree, rfl⟩ := of_lock h; exact .setLock hpc hfree
  · next caller hpc => cases h; exact .setStore hpc
  · next caller hpc => cases h; exact .setNotify hpc
  · next caller hpc => cases h; exact .setUnlock hpc
  · next hpc => obtain ⟨hfree, rfl⟩ := of_lock h; exact .waitLock (.inl hpc) hfree
  · next hpc =>
    cases h
    split_ifs with hset
    · exact .pass hpc hset
    · exact .noPass hpc (Bool.eq_false_of_not_eq_true hset)
  · next hpc => cases h; exact .sleep hpc
  · next hpc => obtain ⟨hfree, rfl⟩ := of_lock h; exact .waitLock (.inr hpc) hfree
  · next hpc => cases h; exact .waitUnlock hpc
  all_goals cases h

/-- The steps at a gate that has been initialised. -/
lemma Step.of_step (hinit : s.gate.initialized = true) (h : s.step a = some s') :
    s.aborted = false ∧ Step s a s' := by
  unfold State.step at h
  cases a with
  | call t c =>
    dsimp only at h
    split_ifs at h with haborted
    exact ⟨Bool.eq_false_of_not_eq_true haborted, of_call hinit h⟩
  | step t =>
    dsimp only at h
    split_ifs at h with haborted
    exact ⟨Bool.eq_false_of_not_eq_true haborted, of_threadStep h⟩
  | wake t =>
    dsimp only at h
    split_ifs at h with haborted hpc
    cases h
    exact ⟨Bool.eq_false_of_not_eq_true haborted, .wake hpc⟩

/-! ### Invariants -/

/-- The thread holds `_mutex`. -/
def Pc.Holds : Pc → Prop
  | .setStore _ | .setNotify _ | .setUnlock _ | .waitTest | .waitSleep | .waitUnlock => True
  | _ => False

/-- The call is the `k`-th signal. -/
def Pc.Signals (k : ℕ) : Pc → Prop
  | .compare k' _ => k' = k
  | .setTest caller | .setLock caller | .setStore caller | .setNotify caller
  | .setUnlock caller => caller = .signal k
  | _ => False

/-- The call is `force_signal_all`. -/
def Pc.Forces : Pc → Prop
  | .store => True
  | .setTest caller | .setLock caller | .setStore caller | .setNotify caller
  | .setUnlock caller => caller = .force
  | _ => False

/-- The call has come to `set`. -/
def Pc.Sets : Pc → Prop
  | .setTest _ | .setLock _ | .setStore _ => True
  | _ => False

/-- The call has seen that the event is set, or has set it. -/
def Pc.Opened : Pc → Prop
  | .setNotify _ | .setUnlock _ | .waitUnlock => True
  | _ => False

/-- The call is about to notify the waiters. -/
def Pc.Notifies : Pc → Prop
  | .setNotify _ => True
  | _ => False

attribute [grind =] Pc.Holds Pc.Signals Pc.Forces Pc.Sets Pc.Opened Pc.Notifies
  GateGuard.currSignalCount_set

/-- The mutex is held by the thread that is inside, and by no other. -/
def Mutex (s : State ι) : Prop := ∀ t, (s.pc t).Holds ↔ s.mutex = some t

lemma Mutex.step (hs : Mutex s) (h : Step s a s') : Mutex s' := by
  unfold Mutex at hs ⊢
  cases h with
  | canPass => exact hs
  | @alreadySet t caller hpc | @setUnlock t caller hpc =>
    cases caller <;> dsimp only [State.complete, State.setPc] <;> grind -linarith
  | _ =>
    dsimp only [State.complete, State.setPc, State.notifyAll]
    grind -linarith

/-- The counter: it counts the increments until it is overwritten with the target. -/
structure Counter (n : ℕ) (s : State ι) : Prop where
  target : s.gate.atLeastSignal = n
  le : s.gate.currSignalCount ≤ n + s.signals
  counted : s.gate.currSignalCount = s.signals ∨ 0 < s.forcesBegun ∧ n ≤ s.gate.currSignalCount
  compare : ∀ t k curr, s.pc t = .compare k curr →
    0 < k ∧ k ≤ s.signals ∧ (curr = k ∨ 0 < s.forcesBegun)
  forces : ∀ t, (s.pc t).Forces → 0 < s.forcesBegun

omit [DecidableEq ι] in
/-- Fewer than `2 ^ 64 - n` signals do not overflow the counter. -/
lemma Counter.increment_eq (hs : Counter n s) (hn : s.signals + 1 < 2 ^ 64 - n) :
    s.gate.increment.currSignalCount = s.gate.currSignalCount + 1 := by
  have hle := hs.le
  exact toU64_of_lt (by omega)

lemma Counter.step (hs : Counter n s) (h : Step s a s') (hn : s'.signals < 2 ^ 64 - n) :
    Counter n s' := by
  cases h with
  | canPass => exact hs
  | increment hpc =>
    have hincrement := hs.increment_eq hn
    obtain ⟨htarget, hle, hcounted, hcompare, hforces⟩ := hs
    dsimp only [State.setPc]
    constructor <;> first | assumption | grind -linarith
  | store hpc =>
    obtain ⟨htarget, hle, hcounted, hcompare, hforces⟩ := hs
    dsimp only [State.setPc, GateGuard.force]
    constructor <;> first | assumption | grind -linarith
  | @alreadySet t caller hpc | @setUnlock t caller hpc =>
    obtain ⟨htarget, hle, hcounted, hcompare, hforces⟩ := hs
    cases caller <;> dsimp only [State.complete, State.setPc] <;> constructor <;>
      first | assumption | grind -linarith
  | _ =>
    obtain ⟨htarget, hle, hcounted, hcompare, hforces⟩ := hs
    dsimp only [State.complete, State.setPc, State.notifyAll]
    constructor <;> first | assumption | grind -linarith

/-- The event: why it is set, and what depends on it. -/
structure Event (n : ℕ) (s : State ι) : Prop where
  cause : s.gate.isSet = true → n ≤ s.signals ∨ 0 < s.forcesBegun
  sets : ∀ t, (s.pc t).Sets → n ≤ s.signals ∨ 0 < s.forcesBegun
  opened : ∀ t, (s.pc t).Opened → s.gate.isSet = true
  sleep : ∀ t, s.pc t = .waitSleep → s.gate.isSet = false
  waits : 0 < s.waitsReturned → s.gate.isSet = true
  forces : 0 < s.forcesCompleted → s.gate.isSet = true
  completed : n ∈ s.completed → s.gate.isSet = true ∨ 0 < s.forcesBegun

lemma Event.step (hs : Event n s) (hmutex : Mutex s) (hcounter : Counter n s)
    (h : Step s a s') : Event n s' := by
  obtain ⟨htarget, hle, hcounted, hcompare, hbegun⟩ := hcounter
  obtain ⟨hcause, hsets, hopened, hsleep, hwaits, hforces, hcompleted⟩ := hs
  unfold Mutex at hmutex
  cases h with
  | canPass => constructor <;> assumption
  | @alreadySet t caller hpc | @setUnlock t caller hpc =>
    cases caller <;> dsimp only [State.complete, State.setPc] <;> constructor <;>
      first | assumption | grind -linarith
  | _ =>
    dsimp only [State.complete, State.setPc, State.notifyAll]
    constructor <;> first | assumption | grind -linarith

/-- Every signal has its own number, until it has completed. -/
structure Numbered (s : State ι) : Prop where
  nodup : s.completed.Nodup
  le : ∀ k ∈ s.completed, 0 < k ∧ k ≤ s.signals
  signals : ∀ t k, (s.pc t).Signals k → 0 < k ∧ k ≤ s.signals ∧ k ∉ s.completed
  unique : ∀ t t' k, (s.pc t).Signals k → (s.pc t').Signals k → t = t'

lemma Numbered.step (hs : Numbered s) (h : Step s a s') : Numbered s' := by
  obtain ⟨hnodup, hle, hsignals, hunique⟩ := hs
  cases h with
  | canPass => constructor <;> assumption
  | @alreadySet t caller hpc | @setUnlock t caller hpc =>
    cases caller <;> dsimp only [State.complete, State.setPc] <;> constructor <;>
      first | assumption | grind -linarith
  | _ =>
    dsimp only [State.complete, State.setPc, State.notifyAll]
    constructor <;> first | assumption | grind -linarith

/-- A thread of some kind is still there, if the one that moves stays of this kind. -/
lemma exists_setPc {p : Pc → Prop} {t : ι} {pc : Pc} (hpc : p (s.pc t) → p pc)
    (h : ∃ t', p (s.pc t')) : ∃ t', p (Function.update s.pc t pc t') := by
  obtain ⟨t', ht'⟩ := h
  rw [Function.exists_update_iff s.pc fun _ => p]
  by_cases heq : t' = t
  · exact .inl (hpc (heq ▸ ht'))
  · exact .inr ⟨t', heq, ht'⟩

omit [DecidableEq ι] in
lemma exists_notifyAll {p : Pc → Prop} (hpc : p .asleep → p .notified)
    (h : ∃ t', p (s.pc t')) : ∃ t', p (s.notifyAll.pc t') := by
  obtain ⟨t', ht'⟩ := h
  refine ⟨t', ?_⟩
  dsimp only [State.notifyAll]
  split_ifs with hasleep
  · exact hpc (hasleep ▸ ht')
  · exact ht'

/-- While `force_signal_all` has begun and none has completed, a thread is in it. -/
def Forcing (s : State ι) : Prop :=
  0 < s.forcesBegun → 0 < s.forcesCompleted ∨ ∃ t, (s.pc t).Forces

lemma Forcing.step (hs : Forcing s) (h : Step s a s') : Forcing s' := by
  intro hbegun
  cases h with
  | canPass => exact hs hbegun
  | @callForce t hpc => exact .inr ⟨t, by simp [State.setPc, Pc.Forces]⟩
  | @alreadySet t caller hpc | @setUnlock t caller hpc =>
    cases caller with
    | signal k => exact (hs hbegun).imp_right (exists_setPc (by simp [hpc, Pc.Forces]))
    | force => exact .inl (Nat.succ_pos _)
  | @setNotify t caller hpc =>
    refine (hs hbegun).imp_right fun hforces => ?_
    refine exists_setPc (s := s.notifyAll) ?_ (exists_notifyAll (by simp [Pc.Forces]) hforces)
    simp [State.notifyAll, hpc, Pc.Forces]
  | waitLock hpc =>
    refine (hs hbegun).imp_right (exists_setPc ?_)
    rcases hpc with hpc | hpc <;> simp [hpc, Pc.Forces]
  | callSignal hpc | callWait hpc | increment hpc | reached hpc | notReached hpc | store hpc
  | notSet hpc | setLock hpc | setStore hpc | pass hpc | noPass hpc | sleep hpc | waitUnlock hpc
  | wake hpc =>
    exact (hs hbegun).imp_right (exists_setPc (by simp [hpc, Pc.Forces]))

/-- Once the event is set, a thread that sleeps is going to be notified. -/
def Pending (s : State ι) : Prop :=
  s.gate.isSet = true → ∀ t, s.pc t = .asleep → ∃ t', (s.pc t').Notifies

lemma Pending.step (hs : Pending s) (hsleep : ∀ t, s.pc t = .waitSleep → s.gate.isSet = false)
    (h : Step s a s') : Pending s' := by
  intro hset t' hasleep
  cases h with
  | canPass => exact hs hset t' hasleep
  | @setStore t caller hpc => exact ⟨t, by simp [State.setPc, Pc.Notifies]⟩
  | @setNotify t caller hpc =>
    dsimp only [State.setPc, State.notifyAll] at hasleep
    grind -linarith
  | sleep hpc => cases hset.symm.trans (hsleep _ hpc)
  | @alreadySet t caller hpc hset' | @setUnlock t caller hpc =>
    cases caller <;>
    exact exists_setPc (by simp [hpc, Pc.Notifies]) (hs hset t' (by
      dsimp only [State.complete, State.setPc] at hasleep; grind -linarith))
  | waitLock hpc =>
    refine exists_setPc ?_ (hs hset t' ?_)
    · rcases hpc with hpc | hpc <;> simp [hpc, Pc.Notifies]
    · dsimp only [State.setPc] at hasleep
      grind -linarith
  | callSignal hpc | callForce hpc | callWait hpc | increment hpc | reached hpc | notReached hpc
  | store hpc | notSet hpc | setLock hpc | pass hpc | noPass hpc | waitUnlock hpc | wake hpc =>
    refine exists_setPc (by simp [hpc, Pc.Notifies]) (hs hset t' ?_)
    dsimp only [State.complete, State.setPc] at hasleep
    grind -linarith

/-- The signals of a thread that completes the `k₀`-th one. -/
lemma accounted_complete {k k₀ : ℕ} {t : ι} (hpc : (s.pc t).Signals k → k = k₀)
    (h : k ∈ s.completed ∨ ∃ t, (s.pc t).Signals k) :
    k ∈ k₀ :: s.completed ∨ ∃ t', (Function.update s.pc t .idle t').Signals k := by
  by_cases hk : k = k₀
  · exact .inl (hk ▸ List.mem_cons_self)
  · exact h.imp (List.mem_cons_of_mem k₀) (exists_setPc fun hsignals => absurd (hpc hsignals) hk)

/-- Every signal is in progress or completed. -/
def Accounted (s : State ι) : Prop :=
  ∀ k, 0 < k → k ≤ s.signals → k ∈ s.completed ∨ ∃ t, (s.pc t).Signals k

lemma Accounted.step (hs : Accounted s) (h : Step s a s') : Accounted s' := by
  intro k hpos hle
  cases h with
  | canPass => exact hs k hpos hle
  | @increment t hpc =>
    by_cases hk : k = s.signals + 1
    · exact .inr ⟨t, by simp [State.setPc, Pc.Signals, hk]⟩
    · have hle' : k ≤ s.signals := Nat.le_of_lt_succ (lt_of_le_of_ne hle hk)
      exact (hs k hpos hle').imp_right (exists_setPc (by simp [hpc, Pc.Signals]))
  | notReached hpc =>
    exact accounted_complete (by simp [hpc, Pc.Signals, eq_comm]) (hs k hpos hle)
  | @alreadySet t caller hpc | @setUnlock t caller hpc =>
    cases caller with
    | signal => exact accounted_complete (by simp [hpc, Pc.Signals, eq_comm]) (hs k hpos hle)
    | force => exact (hs k hpos hle).imp_right (exists_setPc (by simp [hpc, Pc.Signals]))
  | @setNotify t caller hpc =>
    refine (hs k hpos hle).imp_right fun hsignals => ?_
    refine exists_setPc (s := s.notifyAll) ?_ (exists_notifyAll (by simp [Pc.Signals]) hsignals)
    simp [State.notifyAll, hpc, Pc.Signals]
  | waitLock hpc =>
    refine (hs k hpos hle).imp_right (exists_setPc ?_)
    rcases hpc with hpc | hpc <;> simp [hpc, Pc.Signals]
  | callSignal hpc | callForce hpc | callWait hpc | reached hpc | store hpc | notSet hpc
  | setLock hpc | setStore hpc | pass hpc | noPass hpc | sleep hpc | waitUnlock hpc | wake hpc =>
    exact (hs k hpos hle).imp_right (exists_setPc (by simp [hpc, Pc.Signals]))

/-! ### Every run -/

/-- All of this. -/
structure Inv (n : ℕ) (s : State ι) : Prop where
  aborted : s.aborted = false
  mutex : Mutex s
  counter : Counter n s
  event : Event n s
  numbered : Numbered s
  forcing : Forcing s
  pending : Pending s
  accounted : Accounted s

lemma Step.aborted (h : Step s a s') : s'.aborted = s.aborted := by
  cases h with
  | @alreadySet t caller | @setUnlock t caller => cases caller <;> rfl
  | _ => rfl

lemma Step.signals_le (h : Step s a s') : s.signals ≤ s'.signals := by
  cases h with
  | @alreadySet t caller | @setUnlock t caller => cases caller <;> exact le_rfl
  | increment => exact Nat.le_succ _
  | _ => exact le_rfl

lemma init_iff : (machine ι n).init s ↔
    n ≠ invalidSignalCount ∧ 0 < n ∧ s = { gate := { atLeastSignal := n } } := by
  simp only [machine, GateGuard.init_eq_ok, and_assoc]
  constructor
  · rintro ⟨g, hne, hpos, rfl, rfl⟩
    exact ⟨hne, hpos, rfl⟩
  · rintro ⟨hne, hpos, rfl⟩
    exact ⟨_, hne, hpos, rfl, rfl⟩

lemma inv_init (h : (machine ι n).init s) : Inv n s := by
  obtain ⟨-, hpos, rfl⟩ := init_iff.mp h
  refine ⟨rfl, ?_, ?_, ?_, ?_, ?_, ?_, ?_⟩
  · exact fun t => by simp [Pc.Holds]
  · constructor <;> simp [Pc.Forces]
  · constructor <;> simp [Pc.Sets, Pc.Opened]
  · constructor <;> simp [Pc.Signals]
  · exact fun hbegun => absurd hbegun (lt_irrefl 0)
  · exact fun hset => by cases hset
  · exact fun k hk hle => absurd (hk.trans_le hle) (lt_irrefl 0)

lemma Step.target (h : Step s a s') : s'.gate.atLeastSignal = s.gate.atLeastSignal := by
  cases h with
  | @alreadySet t caller | @setUnlock t caller => cases caller <;> rfl
  | _ => rfl

/-- The target stays, so that no assertion fails. -/
lemma target_of_reach (h : (machine ι n).Reach s) :
    s.gate.atLeastSignal = n ∧ s.gate.initialized = true ∧ 0 < n := by
  induction h with
  | init h =>
    obtain ⟨hne, hpos, rfl⟩ := init_iff.mp h
    exact ⟨rfl, (GateGuard.initialized_iff _).mpr hne, hpos⟩
  | step _ _ hs ih =>
    obtain ⟨htarget, hinit, hpos⟩ := ih
    have heq := (Step.of_step hinit hs).2.target
    refine ⟨heq.trans htarget, ?_, hpos⟩
    rw [GateGuard.initialized_iff] at hinit ⊢
    rwa [heq]

lemma Step.of_reach (h : (machine ι n).Reach s) (hs : (machine ι n).step s a = some s') :
    Step s a s' :=
  (Step.of_step (target_of_reach h).2.1 hs).2

lemma Inv.step (hs : Inv n s) (h : Step s a s') (hn : s'.signals < 2 ^ 64 - n) : Inv n s' where
  aborted := h.aborted.trans hs.aborted
  mutex := hs.mutex.step h
  counter := hs.counter.step h hn
  event := hs.event.step hs.mutex hs.counter h
  numbered := hs.numbered.step h
  forcing := hs.forcing.step h
  pending := hs.pending.step hs.event.sleep h
  accounted := hs.accounted.step h

/-- The invariants hold as long as there have been fewer than `2 ^ 64 - n` signals. -/
lemma inv_of_reach (h : (machine ι n).Reach s) (hn : s.signals < 2 ^ 64 - n) : Inv n s := by
  induction h with
  | init h => exact inv_init h
  | step h _ hs ih =>
    have hstep := Step.of_reach h hs
    exact (ih (hstep.signals_le.trans_lt hn)).step hstep hn

/-- What holds at first and is kept by the steps holds after every run, as long as there have been
fewer than `2 ^ 64 - n` signals. -/
lemma run_induction {P : State ι → Prop} (h : (machine ι n).Reach s) (hP : P s)
    (hstep : ∀ {t t' : State ι} {a}, Inv n t → Step t a t' → t'.signals < 2 ^ 64 - n → P t → P t')
    {as : List (Action ι)} (hrun : (machine ι n).run s as = some s')
    (hn : s'.signals < 2 ^ 64 - n) : P s' := by
  have hreach : ∀ {t : State ι} {as : List (Action ι)}, (machine ι n).Reach t →
      (machine ι n).run t as = some s' → t.signals ≤ s'.signals ∧ (P t → P s') := by
    intro t as ht hrun
    induction as generalizing t with
    | nil => cases hrun; exact ⟨le_rfl, id⟩
    | cons a as ih =>
      simp only [Machine.run_cons, Option.bind_eq_some_iff] at hrun
      obtain ⟨t', ha, hrun⟩ := hrun
      have hstep' := Step.of_reach ht ha
      have ht' : (machine ι n).Reach t' := .step ht trivial ha
      obtain ⟨hle, himp⟩ := ih ht' hrun
      have hI := inv_of_reach ht ((hstep'.signals_le.trans hle).trans_lt hn)
      exact ⟨hstep'.signals_le.trans hle, fun hPt => himp (hstep hI hstep' (hle.trans_lt hn) hPt)⟩
  exact (hreach h hrun).2 hP

/-! ### When the gate is open -/

/-- A `force_signal_all` has completed, or none is in progress and the `n`-th signal has completed, as
it has when `n` signals have and none that has made its increment is in progress. -/
def Completed (n : ℕ) (s : State ι) : Prop :=
  0 < s.forcesCompleted ∨
    (n ∈ s.completed ∨ n ≤ s.completed.length ∧ ∀ t k, ¬ (s.pc t).Signals k) ∧
      ∀ t, ¬ (s.pc t).Forces

omit [DecidableEq ι] in
/-- All signals that have completed have different numbers, and so the `n`-th is among them. -/
lemma Inv.mem_completed (hs : Inv n s) (hpos : 0 < n) (hle : n ≤ s.completed.length)
    (hsignals : ∀ t k, ¬ (s.pc t).Signals k) : n ∈ s.completed := by
  have hsub : s.completed.toFinset ⊆ Finset.Icc 1 s.signals := by
    intro k hk
    exact Finset.mem_Icc.mpr (hs.numbered.le k (List.mem_toFinset.mp hk))
  have hcard := Finset.card_le_card hsub
  rw [List.toFinset_card_of_nodup hs.numbered.nodup, Nat.card_Icc, Nat.add_sub_cancel] at hcard
  rcases hs.accounted n hpos (hle.trans hcard) with hmem | ⟨t, ht⟩
  · exact hmem
  · exact absurd ht (hsignals t n)

omit [DecidableEq ι] in
lemma Inv.isSet (hs : Inv n s) (hpos : 0 < n) (h : Completed n s) : s.gate.isSet = true := by
  rcases h with hforced | ⟨hsignals, hnot⟩
  · exact hs.event.forces hforced
  · have hmem : n ∈ s.completed := hsignals.elim id fun h => hs.mem_completed hpos h.1 h.2
    rcases hs.event.completed hmem with hset | hbegun
    · exact hset
    · rcases hs.forcing hbegun with hforced | ⟨t, ht⟩
      · exact hs.event.forces hforced
      · exact absurd ht (hnot t)

/-- How many steps the thread takes until it releases the mutex, once the event is set. -/
def Pc.inside : Pc → ℕ
  | .setStore _ => 2
  | .setNotify _ | .waitTest => 1
  | _ => 0

/-- In `s'`, a later state than `s`, no `wait` blocks but for the mutex: none has gone to sleep, the
thread that gets the mutex passes the test and returns, and who has the mutex releases it. -/
structure WaitsReturn (s s' : State ι) : Prop where
  awake : ∀ t, s'.pc t = .asleep → s.pc t = .asleep
  lock : ∀ t, s'.pc t = .waitLock ∨ s'.pc t = .notified → s'.mutex = none →
    ∃ s'', s'.step (.step t) = some s'' ∧ s''.pc t = .waitTest
  test : ∀ t, s'.pc t = .waitTest → ∃ s'', s'.step (.step t) = some s'' ∧ s''.pc t = .waitUnlock
  unlock : ∀ t, s'.pc t = .waitUnlock → ∃ s'', s'.step (.step t) = some s'' ∧ s''.pc t = .idle
  release : ∀ t, s'.mutex = some t → ∃ s'', s'.step (.step t) = some s'' ∧
    (s''.mutex = none ∨ s''.mutex = some t ∧ (s''.pc t).inside < (s'.pc t).inside)

lemma step_eq (haborted : s.aborted = false) (t : ι) : s.step (.step t) = s.threadStep t := by
  rw [State.step, haborted]
  rfl

lemma Inv.release (hs : Inv n s) (hset : s.gate.isSet = true) {t : ι} (hmutex : s.mutex = some t) :
    ∃ s', s.step (.step t) = some s' ∧
      (s'.mutex = none ∨ s'.mutex = some t ∧ (s'.pc t).inside < (s.pc t).inside) := by
  have hholds := (hs.mutex t).mpr hmutex
  rw [step_eq hs.aborted, State.threadStep]
  cases hpc : s.pc t with
  | setStore | setNotify => exact ⟨_, rfl, .inr ⟨hmutex, by simp [State.setPc, Pc.inside]⟩⟩
  | setUnlock caller => cases caller <;> exact ⟨_, rfl, .inl rfl⟩
  | waitTest => exact ⟨_, rfl, .inr ⟨hmutex, by simp [State.setPc, hset, Pc.inside]⟩⟩
  | waitSleep | waitUnlock => exact ⟨_, rfl, .inl rfl⟩
  | _ => simp [Pc.Holds, hpc] at hholds

lemma Inv.waitsReturn (hs : Inv n s') (hset : s'.gate.isSet = true)
    (hawake : ∀ t, s'.pc t = .asleep → s.pc t = .asleep) : WaitsReturn s s' where
  awake := hawake
  lock t hpc hfree := by
    rw [step_eq hs.aborted, State.threadStep, State.lock, if_pos hfree]
    rcases hpc with hpc | hpc <;> rw [hpc] <;> exact ⟨_, rfl, Function.update_self ..⟩
  test t hpc := by
    rw [step_eq hs.aborted, State.threadStep, hpc, hset]
    exact ⟨_, rfl, Function.update_self ..⟩
  unlock t hpc := by
    rw [step_eq hs.aborted, State.threadStep, hpc]
    exact ⟨_, rfl, Function.update_self ..⟩
  release t := hs.release hset

/-- Once it is set, the event stays set and no thread goes to sleep. -/
lemma Step.isSet (h : Step s a s') (hs : Inv n s) (hset : s.gate.isSet = true) :
    s'.gate.isSet = true ∧ ∀ t, s'.pc t = .asleep → s.pc t = .asleep := by
  cases h with
  | canPass => exact ⟨hset, fun _ => id⟩
  | sleep hpc => cases hset.symm.trans (hs.event.sleep _ hpc)
  | @alreadySet t caller | @setUnlock t caller =>
    cases caller <;> dsimp only [State.complete, State.setPc] <;> grind -linarith
  | _ =>
    dsimp only [State.complete, State.setPc, State.notifyAll]
    grind -linarith

/-- The counter does not fall below the target. -/
lemma Step.canPass_of (h : Step s a s') (hs : Counter n s) (hn : s'.signals < 2 ^ 64 - n)
    (hpass : s.gate.canPass = true) : s'.gate.canPass = true := by
  rw [GateGuard.canPass, decide_eq_true_iff] at hpass ⊢
  cases h with
  | increment =>
    dsimp only [State.setPc]
    rw [hs.increment_eq hn]
    exact hpass.trans (Nat.le_succ _)
  | store => exact le_rfl
  | @alreadySet t caller | @setUnlock t caller => cases caller <;> exact hpass
  | _ => exact hpass

/-- A gate for `n` signals, as long as there have been fewer than `2 ^ 64 - n`: no `wait` returns too
early, a completed `force_signal_all` or a completed `n`-th signal opens it for good, and `can_pass`
stays true. -/
theorem gate_opens (h : (machine ι n).Reach s) (hn : s.signals < 2 ^ 64 - n) :
    s.aborted = false ∧
    (0 < s.waitsReturned → n ≤ s.signals ∨ 0 < s.forcesBegun) ∧
    (Completed n s → s.gate.isSet = true ∧
      (∀ t, s.pc t = .asleep → ∃ t', (s.pc t').Notifies) ∧
      ∀ as s', (machine ι n).run s as = some s' → s'.signals < 2 ^ 64 - n →
        s'.gate.isSet = true ∧ WaitsReturn s s') ∧
    (s.gate.canPass = true → ∀ as s', (machine ι n).run s as = some s' →
      s'.signals < 2 ^ 64 - n → s'.gate.canPass = true) := by
  have hs := inv_of_reach h hn
  have hpos := (target_of_reach h).2.2
  refine ⟨hs.aborted, fun hwaits => hs.event.cause (hs.event.waits hwaits), fun hcompleted => ?_,
    fun hpass as s' hrun hn' => ?_⟩
  · have hset := hs.isSet hpos hcompleted
    refine ⟨hset, hs.pending hset, fun as s' hrun hn' => ?_⟩
    have hlater : Inv n s' ∧ s'.gate.isSet = true ∧ ∀ t, s'.pc t = .asleep → s.pc t = .asleep := by
      refine run_induction (P := fun t => Inv n t ∧ t.gate.isSet = true ∧
        ∀ i, t.pc i = .asleep → s.pc i = .asleep) h ⟨hs, hset, fun _ => id⟩ ?_ hrun hn'
      rintro t t' a - hstep hn' ⟨hI, hset, hasleep⟩
      obtain ⟨hset', hasleep'⟩ := hstep.isSet hI hset
      exact ⟨hI.step hstep hn', hset', fun i hi => hasleep i (hasleep' i hi)⟩
    exact ⟨hlater.2.1, hlater.1.waitsReturn hlater.2.1 hlater.2.2⟩
  · exact run_induction (P := fun t => t.gate.canPass = true) h hpass
      (fun hI hstep hn' hpass => hstep.canPass_of hI.counter hn' hpass) hrun hn'

/-! ### Two signals at a gate for one -/

/-- The gate for one signal that two threads can signal and wait at. -/
def gateOfOne : State Bool := { gate := { atLeastSignal := 1 } }

lemma reach_gateOfOne : (machine Bool 1).Reach gateOfOne :=
  .init (init_iff.mpr ⟨by decide, one_pos, rfl⟩)

/-- One thread waits, the other signals. -/
def waitAndSignal : List (Action Bool) :=
  [.call false .wait, .step false, .step false, .step false,
    .call true .signal, .step true, .step true, .step true, .step true, .step true, .step true,
    .step true, .step false, .step false, .step false]

theorem gate_opens_waitAndSignal : ∃ s, (machine Bool 1).Reach s ∧ 0 < s.waitsReturned ∧
    Completed 1 s ∧ s.gate.canPass = true ∧ s.aborted = false ∧ s.gate.isSet = true := by
  have hrun : ((machine Bool 1).run gateOfOne waitAndSignal).map
      (fun s => (s.signals, s.waitsReturned, s.completed, s.gate.canPass, s.pc false, s.pc true)) =
        some (1, 1, [1], true, .idle, .idle) := by decide +kernel
  obtain ⟨s, hs, hfields⟩ := Option.map_eq_some_iff.mp hrun
  simp only [Prod.mk.injEq] at hfields
  obtain ⟨hsignals, hwaits, hcompleted, hpass, hfalse, htrue⟩ := hfields
  have hreach := reach_gateOfOne.of_run hs
  have hopen := gate_opens hreach (by rw [hsignals]; norm_num)
  have hc : Completed 1 s := by
    refine .inr ⟨.inl (by simp [hcompleted]), ?_⟩
    rintro (_ | _) <;> simp [hfalse, htrue, Pc.Forces]
  exact ⟨s, hreach, by simp [hwaits], hc, hpass, hopen.1, (hopen.2.2.1 hc).1⟩

/-- Both threads signal, and the first increment is not compared before the second signal is
completed. -/
def overtaken : List (Action Bool) :=
  [.call false .signal, .step false, .call true .signal, .step true, .step true]

/-- One signal has completed and no `force_signal_all` is in progress, but the event is not set. -/
theorem not_isSet_overtaken : ∃ s, (machine Bool 1).Reach s ∧ s.signals < 2 ^ 64 - 1 ∧
    1 ≤ s.completed.length ∧ (∀ t, ¬ (s.pc t).Forces) ∧ s.gate.isSet = false := by
  have hrun : ((machine Bool 1).run gateOfOne overtaken).map
      (fun s => (s.signals, s.completed, s.gate.isSet, s.pc false, s.pc true)) =
        some (2, [2], false, .compare 1 1, .idle) := by decide +kernel
  obtain ⟨s, hs, hfields⟩ := Option.map_eq_some_iff.mp hrun
  simp only [Prod.mk.injEq] at hfields
  obtain ⟨hsignals, hcompleted, hset, hfalse, htrue⟩ := hfields
  refine ⟨s, reach_gateOfOne.of_run hs, by rw [hsignals]; norm_num, by simp [hcompleted], ?_, hset⟩
  rintro (_ | _) <;> simp [hfalse, htrue, Pc.Forces]

end GateThreads

end Xcp
