import Mathlib
import Xcp.Library.Machine

/-!
# Rundown protection

`infra::rundown_protection`: `acquire_shared`, `acquire_unique` and `acquire_rundown` take the shared
mutex while they hold the serial mutex. A caller is a call with the lock that it returns; a thread
with several locks is several callers.
-/

namespace Xcp

namespace RundownProtection

/-- `std::shared_mutex`: its owners. -/
structure SharedMutex (ι : Type) where
  readers : Finset ι := ∅
  writer : Option ι := none
  deriving DecidableEq

/-- The call: `acquire_shared`, `acquire_unique` or `acquire_rundown`. -/
inductive Acquire where
  | shared
  | unique
  | rundown
  deriving DecidableEq

/-- Where a caller is. It returns by unlocking `_serial`; then it has a lock, which owns the mutex or
not. -/
inductive Pc where
  | idle
  | lockSerial (call : Acquire)
  | testRequired (call : Acquire)
  | setRequired
  | lockMutex (call : Acquire)
  | unlockSerial (call : Acquire) (owns : Bool)
  | returned (call : Acquire) (ownsLock : Bool)
  deriving DecidableEq

/-- A caller calls, takes the next step of its call, or destroys the lock that it has got. -/
inductive Action (ι : Type) where
  | call (t : ι) (c : Acquire)
  | step (t : ι)
  | release (t : ι)
  deriving DecidableEq

/-- A `rundown_protection` with its callers. `rundowns` counts the calls of `acquire_rundown` that have
returned. -/
structure State (ι : Type) where
  serial : Option ι := none
  mutex : SharedMutex ι := {}
  requiredRundown : Bool := false
  pc : ι → Pc := fun _ => .idle
  rundowns : ℕ := 0

variable {ι : Type} [DecidableEq ι]

namespace SharedMutex

variable (m : SharedMutex ι) (t : ι)

/-- `lock_shared` or `lock`, if it does not block. -/
def lock : Acquire → Option (SharedMutex ι)
  | .shared => if m.writer = none then some { m with readers := insert t m.readers } else none
  | .unique | .rundown =>
    if m.writer = none ∧ m.readers = ∅ then some { m with writer := some t } else none

/-- `unlock_shared` or `unlock`. -/
def unlock : Acquire → SharedMutex ι
  | .shared => { m with readers := m.readers.erase t }
  | .unique | .rundown => { m with writer := none }

end SharedMutex

namespace State

variable (s : State ι) (t : ι)

def setPc (pc : Pc) : State ι := { s with pc := Function.update s.pc t pc }

/-- The next step of a call. -/
def threadStep : Option (State ι) :=
  match s.pc t with
  | .lockSerial call =>
    if s.serial = none then
      some ({ s with serial := some t }.setPc t
        (if call = Acquire.rundown then .setRequired else .testRequired call))
    else none
  | .testRequired call =>
    some (s.setPc t (if s.requiredRundown then .unlockSerial call false else .lockMutex call))
  | .setRequired => some ({ s with requiredRundown := true }.setPc t (.lockMutex .rundown))
  | .lockMutex call =>
    (s.mutex.lock t call).map fun m => { s with mutex := m }.setPc t (.unlockSerial call true)
  | .unlockSerial call owns =>
    some ({ s with
      serial := none
      rundowns := if call = Acquire.rundown then s.rundowns + 1 else s.rundowns }.setPc t
        (.returned call owns))
  | .idle | .returned _ _ => none

/-- A step of a caller. -/
def step : Action ι → Option (State ι)
  | .call t call => if s.pc t = .idle then some (s.setPc t (.lockSerial call)) else none
  | .step t      => s.threadStep t
  | .release t   =>
    match s.pc t with
    | .returned call true => some ({ s with mutex := s.mutex.unlock t call }.setPc t .idle)
    | .returned _ false   => some (s.setPc t .idle)
    | _ => none

end State

/-- The machine of a `rundown_protection`. -/
def machine (ι : Type) [DecidableEq ι] : Machine (State ι) (Action ι) where
  init s := s = {}
  step s a := s.step a

/-! ### What a caller can do -/

variable {s s' : State ι} {a : Action ι}

/-- The steps of the callers. -/
inductive Step (s : State ι) : Action ι → State ι → Prop where
  | call {t call} (hpc : s.pc t = .idle) :
      Step s (.call t call) (s.setPc t (.lockSerial call))
  | lockSerial {t call} (hpc : s.pc t = .lockSerial call) (hfree : s.serial = none)
      (hcall : call ≠ .rundown) :
      Step s (.step t) ({ s with serial := some t }.setPc t (.testRequired call))
  | lockRundown {t} (hpc : s.pc t = .lockSerial .rundown) (hfree : s.serial = none) :
      Step s (.step t) ({ s with serial := some t }.setPc t .setRequired)
  | required {t call} (hpc : s.pc t = .testRequired call) (hreq : s.requiredRundown = true) :
      Step s (.step t) (s.setPc t (.unlockSerial call false))
  | notRequired {t call} (hpc : s.pc t = .testRequired call) (hreq : s.requiredRundown = false) :
      Step s (.step t) (s.setPc t (.lockMutex call))
  | setRequired {t} (hpc : s.pc t = .setRequired) :
      Step s (.step t) ({ s with requiredRundown := true }.setPc t (.lockMutex .rundown))
  | lockShared {t} (hpc : s.pc t = .lockMutex .shared) (hwriter : s.mutex.writer = none) :
      Step s (.step t) ({ s with
        mutex := { s.mutex with readers := insert t s.mutex.readers } }.setPc t
          (.unlockSerial .shared true))
  | lockUnique {t call} (hpc : s.pc t = .lockMutex call) (hcall : call ≠ .shared)
      (hwriter : s.mutex.writer = none) (hreaders : s.mutex.readers = ∅) :
      Step s (.step t) ({ s with
        mutex := { s.mutex with writer := some t } }.setPc t (.unlockSerial call true))
  | unlockSerial {t call owns} (hpc : s.pc t = .unlockSerial call owns) :
      Step s (.step t) ({ s with
        serial := none
        rundowns := if call = Acquire.rundown then s.rundowns + 1 else s.rundowns }.setPc t
          (.returned call owns))
  | releaseShared {t} (hpc : s.pc t = .returned .shared true) :
      Step s (.release t) ({ s with
        mutex := { s.mutex with readers := s.mutex.readers.erase t } }.setPc t .idle)
  | releaseUnique {t call} (hpc : s.pc t = .returned call true) (hcall : call ≠ .shared) :
      Step s (.release t) ({ s with
        mutex := { s.mutex with writer := none } }.setPc t .idle)
  | discard {t call} (hpc : s.pc t = .returned call false) :
      Step s (.release t) (s.setPc t .idle)

lemma Step.of_lockMutex {t : ι} {call : Acquire} (hpc : s.pc t = .lockMutex call)
    {m : SharedMutex ι} (h : s.mutex.lock t call = some m) :
    Step s (.step t) ({ s with mutex := m }.setPc t (.unlockSerial call true)) := by
  cases call with
  | shared =>
    simp only [SharedMutex.lock, Option.ite_none_right_eq_some, Option.some.injEq] at h
    obtain ⟨hwriter, rfl⟩ := h
    exact .lockShared hpc hwriter
  | unique | rundown =>
    simp only [SharedMutex.lock, Option.ite_none_right_eq_some, Option.some.injEq] at h
    obtain ⟨⟨hwriter, hreaders⟩, rfl⟩ := h
    exact .lockUnique hpc (by decide) hwriter hreaders

lemma Step.of_threadStep {t : ι} (h : s.threadStep t = some s') : Step s (.step t) s' := by
  unfold State.threadStep at h
  split at h
  · next call hpc =>
    split_ifs at h with hfree hcall <;> cases h
    · exact .lockRundown (hcall ▸ hpc) hfree
    · exact .lockSerial hpc hfree hcall
  · next call hpc =>
    cases h
    split_ifs with hreq
    · exact .required hpc hreq
    · exact .notRequired hpc (Bool.eq_false_of_not_eq_true hreq)
  · next hpc => cases h; exact .setRequired hpc
  · next call hpc =>
    obtain ⟨m, hm, rfl⟩ := Option.map_eq_some_iff.mp h
    exact .of_lockMutex hpc hm
  · next call owns hpc => cases h; exact .unlockSerial hpc
  all_goals cases h

lemma Step.of_step (h : s.step a = some s') : Step s a s' := by
  unfold State.step at h
  split at h
  · next t call =>
    split_ifs at h with hpc
    cases h
    exact .call hpc
  · exact of_threadStep h
  · next t =>
    split at h
    · next call hpc =>
      cases h
      cases call with
      | shared => exact .releaseShared hpc
      | unique | rundown => exact .releaseUnique hpc (by decide)
    · next call hpc => cases h; exact .discard hpc
    · cases h

/-! ### Invariants -/

/-- The caller holds `_serial`. -/
def Pc.Serial : Pc → Prop
  | .testRequired _ | .setRequired | .lockMutex _ | .unlockSerial _ _ => True
  | _ => False

/-- The lock of the caller owns the mutex by the call. -/
def Pc.Owns (call : Acquire) : Pc → Prop
  | .unlockSerial c owns | .returned c owns => c = call ∧ owns = true
  | _ => False

/-- The caller has not returned. -/
def Pc.Unfinished : Pc → Prop
  | .idle | .returned _ _ => False
  | _ => True

/-- The caller has found `_required_rundown` set. -/
def Pc.Refused : Pc → Prop
  | .unlockSerial _ owns | .returned _ owns => owns = false
  | _ => False

attribute [grind =] Pc.Serial Pc.Owns Pc.Unfinished Pc.Refused

lemma Pc.Serial.unfinished {pc : Pc} (h : pc.Serial) : pc.Unfinished := by
  cases pc with
  | idle | returned => cases h
  | _ => trivial

lemma Pc.Owns.cases {pc : Pc} {call : Acquire} (h : pc.Owns call) :
    pc = .unlockSerial call true ∨ pc = .returned call true := by
  cases pc with
  | unlockSerial c owns =>
    obtain ⟨rfl, rfl⟩ := h
    exact .inl rfl
  | returned c owns =>
    obtain ⟨rfl, rfl⟩ := h
    exact .inr rfl
  | _ => cases h

/-- The two mutexes are held by the callers that are inside. -/
structure Locks (s : State ι) : Prop where
  serial : ∀ t, (s.pc t).Serial ↔ s.serial = some t
  readers : ∀ t, (s.pc t).Owns .shared ↔ t ∈ s.mutex.readers
  writer : ∀ t, (s.pc t).Owns .unique ∨ (s.pc t).Owns .rundown ↔ s.mutex.writer = some t
  exclusive : ∀ t, s.mutex.writer = some t → s.mutex.readers = ∅

lemma Locks.step (hs : Locks s) (h : Step s a s') : Locks s' := by
  obtain ⟨hserial, hreaders, hwriter, hexclusive⟩ := hs
  cases h with
  | @lockUnique t call hpc hcall | @releaseUnique t call hpc hcall =>
    dsimp only [State.setPc]
    cases call <;> constructor <;> first | assumption | grind -linarith
  | _ =>
    dsimp only [State.setPc]
    constructor <;> first | assumption | grind -linarith

/-- Behind the test of `_required_rundown` only the caller itself can set it. -/
structure Flag (s : State ι) : Prop where
  refused : ∀ t, (s.pc t).Refused → s.requiredRundown = true
  test : ∀ t, s.pc t ≠ .testRequired .rundown
  rundown : ∀ t, ¬ (s.pc t = .unlockSerial .rundown false ∨ s.pc t = .returned .rundown false)
  owns : ∀ t call, s.pc t = .lockMutex call ∨ s.pc t = .unlockSerial call true →
    (call = .rundown ↔ s.requiredRundown = true)

lemma Flag.step (hs : Flag s) (hlocks : Locks s) (h : Step s a s') : Flag s' := by
  obtain ⟨hserial, -, -, -⟩ := hlocks
  obtain ⟨hrefused, htest, hrundown, howns⟩ := hs
  cases h with
  | _ =>
    dsimp only [State.setPc]
    constructor <;> first | assumption | grind -linarith

omit [DecidableEq ι] in
/-- Who owns the mutex by `acquire_rundown` is the only owner. -/
lemma Locks.rundown (hs : Locks s) {t t' : ι} {call : Acquire} (ht : (s.pc t).Owns .rundown)
    (ht' : (s.pc t').Owns call) : t' = t := by
  have hwriter := (hs.writer t).mp (.inr ht)
  have hempty := hs.exclusive t hwriter
  cases call with
  | shared =>
    have hmem := (hs.readers t').mp ht'
    rw [hempty] at hmem
    cases hmem
  | unique => exact Option.some.inj (((hs.writer t').mp (.inl ht')).symm.trans hwriter)
  | rundown => exact Option.some.inj (((hs.writer t').mp (.inr ht')).symm.trans hwriter)

/-- Once an `acquire_rundown` has returned, the flag is set and no other lock owns the mutex. -/
def Closed (s : State ι) : Prop :=
  0 < s.rundowns → s.requiredRundown = true ∧ ∀ t call, s.pc t = .returned call true → call = .rundown

/-- Another call than `acquire_rundown` returns: if the flag is set, its lock does not own the mutex. -/
lemma Closed.unlockSerial (hs : Closed s) (hflag : Flag s) {t : ι} {call : Acquire} {owns : Bool}
    (hpc : s.pc t = .unlockSerial call owns) (hcall : call ≠ .rundown) (hpos : 0 < s.rundowns)
    {t' : ι} {c : Acquire}
    (ht' : Function.update s.pc t (.returned call owns) t' = .returned c true) : c = .rundown := by
  obtain ⟨hreq, hothers⟩ := hs hpos
  have howns := hflag.owns t call
  grind -linarith

/-- `acquire_rundown` returns: who owns the mutex is alone. -/
lemma Locks.unlockSerial (hs : Locks s) {t : ι} (hpc : s.pc t = .unlockSerial .rundown true)
    {t' : ι} {c : Acquire}
    (ht' : Function.update s.pc t (.returned .rundown true) t' = .returned c true) :
    c = .rundown := by
  by_cases heq : t' = t
  · subst heq
    rw [Function.update_self, Pc.returned.injEq] at ht'
    exact ht'.1.symm
  · rw [Function.update_of_ne heq] at ht'
    have howns : (s.pc t').Owns c := by simp [ht', Pc.Owns]
    exact absurd (hs.rundown (by simp [hpc, Pc.Owns]) howns) heq

lemma Closed.step (hs : Closed s) (hlocks : Locks s) (hflag : Flag s) (h : Step s a s') :
    Closed s' := by
  intro hpos
  cases h with
  | @unlockSerial t call owns hpc =>
    by_cases hcall : call = .rundown
    · subst hcall
      have hrundown := hflag.rundown t
      cases owns with
      | true =>
        exact ⟨(hflag.owns t .rundown (.inr hpc)).mp rfl, fun t' c => hlocks.unlockSerial hpc⟩
      | false => exact absurd (.inl hpc) hrundown
    · dsimp only [State.setPc] at hpos
      rw [if_neg hcall] at hpos
      exact ⟨(hs hpos).1, fun t' c => hs.unlockSerial hflag hpc hcall hpos⟩
  | _ =>
    obtain ⟨hreq, hothers⟩ := hs hpos
    dsimp only [State.setPc]
    grind -linarith

/-! ### Every run -/

/-- All of this. -/
structure Inv (s : State ι) : Prop where
  locks : Locks s
  flag : Flag s
  closed : Closed s

lemma inv_of_reach (h : (machine ι).Reach s) : Inv s := by
  refine h.invariant (fun s hs => ?_) (fun s a s' _ hs _ hstep => ?_)
  · cases hs
    refine ⟨?_, ?_, fun hpos => absurd hpos (lt_irrefl 0)⟩
    · constructor <;> simp [Pc.Serial, Pc.Owns]
    · constructor <;> simp [Pc.Refused]
  · have hstep := Step.of_step hstep
    exact ⟨hs.locks.step hstep, hs.flag.step hs.locks hstep, hs.closed.step hs.locks hs.flag hstep⟩

omit [DecidableEq ι] in
/-- If nobody has a lock, the mutex is free for the caller that holds `_serial`. -/
lemma Locks.free (hs : Locks s) (hnone : ∀ t call, s.pc t ≠ .returned call true) {t : ι}
    {call : Acquire} (hpc : s.pc t = .lockMutex call) :
    s.mutex.writer = none ∧ s.mutex.readers = ∅ := by
  obtain ⟨hserial, hreaders, hwriter, -⟩ := hs
  have howner : ∀ t' c, ¬ (s.pc t').Owns c := by
    intro t' c howns
    rcases howns.cases with hpc' | hpc'
    · have ht : s.serial = some t := (hserial t).mp (by simp [hpc, Pc.Serial])
      have ht' : s.serial = some t' := (hserial t').mp (by simp [hpc', Pc.Serial])
      cases Option.some.inj (ht.symm.trans ht')
      cases hpc.symm.trans hpc'
    · exact hnone t' c hpc'
  constructor
  · refine Option.eq_none_iff_forall_ne_some.mpr fun t' ht' => ?_
    exact ((hwriter t').mpr ht').elim (howner t' _) (howner t' _)
  · exact Finset.eq_empty_of_forall_notMem fun t' ht' => howner t' _ ((hreaders t').mpr ht')

/-- The caller that holds `_serial` can go on, if nobody has a lock. -/
lemma Inv.step_of_serial (hs : Inv s) (hnone : ∀ t call, s.pc t ≠ .returned call true) {t : ι}
    (hserial : (s.pc t).Serial) : ∃ s', s.step (.step t) = some s' := by
  rw [State.step, State.threadStep]
  cases hpc : s.pc t with
  | testRequired call | setRequired | unlockSerial call owns => exact ⟨_, rfl⟩
  | lockMutex call =>
    obtain ⟨hwriter, hreaders⟩ := hs.locks.free hnone hpc
    cases call <;> simp [SharedMutex.lock, hwriter, hreaders]
  | _ => rw [hpc] at hserial; cases hserial

/-- If a caller has not returned and nobody has a lock, one of the callers that have not returned can
go on: the one that holds `_serial`, or, if it is free, the first. -/
lemma Inv.step_of_unfinished (hs : Inv s) (hnone : ∀ t call, s.pc t ≠ .returned call true) {t : ι}
    (hpc : (s.pc t).Unfinished) :
    ∃ t', (s.pc t').Unfinished ∧ ∃ s', s.step (.step t') = some s' := by
  cases hfree : s.serial with
  | some t' =>
    have hserial := (hs.locks.serial t').mpr hfree
    exact ⟨t', hserial.unfinished, hs.step_of_serial hnone hserial⟩
  | none =>
    refine ⟨t, hpc, ?_⟩
    have hnot : ¬ (s.pc t).Serial := fun h => by
      cases hfree.symm.trans ((hs.locks.serial t).mp h)
    cases hpc' : s.pc t with
    | lockSerial call =>
      rw [State.step, State.threadStep, hpc']
      exact ⟨_, if_pos hfree⟩
    | _ => simp [hpc', Pc.Unfinished, Pc.Serial] at hpc hnot

/-- A `rundown_protection` in any state that its callers can bring it to: the lock of an
`acquire_rundown` owns the mutex alone; after one has been returned no `acquire_shared` or
`acquire_unique` owns it; a lock that does not own it has found the flag set; and the callers cannot
block each other: a lock can be released, and when none is left a caller that has not returned goes
on. -/
theorem rundown_protects (h : (machine ι).Reach s) :
    (∀ t, s.pc t ≠ .returned .rundown false) ∧
    (∀ t, s.pc t = .returned .rundown true → s.mutex.writer = some t ∧ s.mutex.readers = ∅ ∧
      ∀ t' call, (s.pc t').Owns call → t' = t) ∧
    (0 < s.rundowns → ∀ t call, s.pc t = .returned call true → call = .rundown) ∧
    (∀ t call, s.pc t = .returned call false → s.requiredRundown = true) ∧
    (∀ t call owns, s.pc t = .returned call owns → ∃ s', s.step (.release t) = some s') ∧
    ((∃ t, (s.pc t).Unfinished) → (∀ t call, s.pc t ≠ .returned call true) →
      ∃ t, (s.pc t).Unfinished ∧ ∃ s', s.step (.step t) = some s') := by
  have hs := inv_of_reach h
  refine ⟨fun t hpc => hs.flag.rundown t (.inr hpc), fun t hpc => ?_, fun hpos => (hs.closed hpos).2,
    fun t call hpc => hs.flag.refused t (by simp [hpc, Pc.Refused]), fun t call owns hpc => ?_,
    fun ⟨t, ht⟩ hnone => hs.step_of_unfinished hnone ht⟩
  · have howns : (s.pc t).Owns .rundown := by simp [hpc, Pc.Owns]
    have hwriter := (hs.locks.writer t).mp (.inr howns)
    exact ⟨hwriter, hs.locks.exclusive t hwriter, fun t' call => hs.locks.rundown howns⟩
  · cases owns <;> simp [State.step, hpc]

/-- A reader has the lock when the rundown comes; a writer comes too late. -/
def readerThenRundown : List (Action ℕ) :=
  [.call 0 .shared, .step 0, .step 0, .step 0, .call 1 .rundown, .step 0, .step 1, .step 1,
    .call 2 .unique, .release 0, .step 1, .step 1, .step 2, .step 2, .step 2]

theorem rundown_protects_readerThenRundown : ∃ s, (machine ℕ).Reach s ∧ 0 < s.rundowns ∧
    s.pc 2 = .returned .unique false ∧ s.requiredRundown = true ∧
    s.mutex.writer = some 1 ∧ s.mutex.readers = ∅ := by
  have hrun : ((machine ℕ).run {} readerThenRundown).map
      (fun s => (s.rundowns, s.pc 1, s.pc 2)) =
        some (1, .returned .rundown true, .returned .unique false) := by decide +kernel
  obtain ⟨s, hs, hfields⟩ := Option.map_eq_some_iff.mp hrun
  simp only [Prod.mk.injEq] at hfields
  obtain ⟨hrundowns, hpc₁, hpc₂⟩ := hfields
  have hreach : (machine ℕ).Reach s := .of_run (.init rfl) hs
  obtain ⟨-, hexclusive, -, hrefused, -, -⟩ := rundown_protects hreach
  exact ⟨s, hreach, by simp [hrundowns], hpc₂, hrefused 2 _ hpc₂, (hexclusive 1 hpc₁).1,
    (hexclusive 1 hpc₁).2.1⟩

end RundownProtection

end Xcp
