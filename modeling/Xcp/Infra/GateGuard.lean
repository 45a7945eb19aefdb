import Xcp.Message

/-!
# Gates

`infra::gate_guard`: a counter of signals and an event that is set when the counter reaches its
target, or by force.
-/

namespace Xcp

open Outcome

/-- `INVALID_SIGNAL_COUNT`, the target of a gate without `init`. -/
def invalidSignalCount : ℕ := 2 ^ 64 - 1

/-- `infra::gate_guard`, with the state of its event. -/
structure GateGuard where
  currSignalCount : ℕ := 0
  atLeastSignal : ℕ := invalidSignalCount
  isSet : Bool := false
  deriving DecidableEq

namespace GateGuard

variable (g : GateGuard)

/-- `initialized`. -/
def initialized : Bool := g.atLeastSignal ≠ invalidSignalCount

/-- `init`. -/
def init {ε : Type} (atLeastSignal : ℕ) : Outcome ε GateGuard := do
  assert (g.currSignalCount = 0)
  assert (g.atLeastSignal = invalidSignalCount)
  assert (atLeastSignal ≠ invalidSignalCount)
  assert (0 < atLeastSignal)
  pure { g with atLeastSignal := atLeastSignal }

/-- `++_curr_signal_count`, the first half of `signal`. -/
def increment : GateGuard := { g with currSignalCount := toU64 (g.currSignalCount + 1) }

/-- `_curr_signal_count = _at_least_signal`, the first half of `force_signal_all`. -/
def force : GateGuard := { g with currSignalCount := g.atLeastSignal }

/-- `_mre.set()`, the second half of both. -/
def set : GateGuard := { g with isSet := true }

/-- Is it this signal that sets the event? -/
def reached : Bool := g.currSignalCount = g.atLeastSignal

@[simp] lemma atLeastSignal_increment : g.increment.atLeastSignal = g.atLeastSignal := rfl

@[simp] lemma isSet_increment : g.increment.isSet = g.isSet := rfl

@[simp] lemma atLeastSignal_force : g.force.atLeastSignal = g.atLeastSignal := rfl

@[simp] lemma isSet_force : g.force.isSet = g.isSet := rfl

@[simp] lemma atLeastSignal_set : g.set.atLeastSignal = g.atLeastSignal := rfl

@[simp] lemma currSignalCount_set : g.set.currSignalCount = g.currSignalCount := rfl

@[simp] lemma isSet_set : g.set.isSet = true := rfl

@[simp] lemma initialized_iff : g.initialized = true ↔ g.atLeastSignal ≠ invalidSignalCount := by
  simp [initialized]

@[simp] lemma reached_iff : g.reached = true ↔ g.currSignalCount = g.atLeastSignal := by
  simp [reached]

attribute [grind =] atLeastSignal_increment isSet_increment atLeastSignal_force isSet_force
  atLeastSignal_set isSet_set initialized_iff

/-- A gate is initialised with a positive target that is not the invalid one. -/
lemma init_eq_ok {ε : Type} {n : ℕ} {g' : GateGuard} :
    (({} : GateGuard).init n : Outcome ε GateGuard) = ok g' ↔
      n ≠ invalidSignalCount ∧ 0 < n ∧ { atLeastSignal := n } = g' := by
  simp only [init, assert_bind_eq_ok, pure_eq, ok.injEq, true_and]

/-- The gate for `n` signals has received `k` of them; it is set, or a thread is about to set it,
once these are enough. -/
structure Received (g : GateGuard) (n k : ℕ) (pending : Prop) : Prop where
  target : g.atLeastSignal = n
  count : g.currSignalCount = toU64 k
  isSet : g.isSet = true ∨ pending ↔ n ≤ k

variable {g : GateGuard} {n k : ℕ} {pending pending' : Prop}

/-- One more signal: the thread that reaches the target sets the gate. -/
lemma Received.increment (h : g.Received n k pending) (hn : n < 2 ^ 64)
    (hpending : pending' ↔ g.increment.reached = true ∨ pending) :
    g.increment.Received n (k + 1) pending' where
  target := h.target
  count := by rw [GateGuard.increment, h.count, toU64, toU64, toU64, Nat.mod_add_mod]
  isSet := by
    have hreached : g.increment.reached = true ↔ toU64 (k + 1) = n := by
      rw [reached_iff, atLeastSignal_increment, h.target, GateGuard.increment, h.count, toU64, toU64,
        Nat.mod_add_mod, toU64]
    rw [isSet_increment, hpending, hreached, or_left_comm, h.isSet]
    constructor
    · rintro (heq | hle)
      · rw [← heq]
        exact Nat.mod_le _ _
      · exact hle.trans (Nat.le_succ k)
    · intro hle
      rcases Nat.lt_or_eq_of_le hle with hlt | heq
      · exact .inr (Nat.le_of_lt_succ hlt)
      · exact .inl (by rw [← heq, toU64_of_lt hn])

/-- The thread that is about to set the gate sets it. -/
lemma Received.set (h : g.Received n k pending) (hpending : pending) :
    g.set.Received n k pending' where
  target := h.target
  count := h.count
  isSet := iff_of_true (.inl rfl) (h.isSet.mp (.inr hpending))

lemma Received.congr (h : g.Received n k pending) (hpending : pending' ↔ pending) :
    g.Received n k pending' where
  target := h.target
  count := h.count
  isSet := by rw [hpending, h.isSet]

end GateGuard

end Xcp
