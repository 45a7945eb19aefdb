import Mathlib

/-!
# Machines

A machine has initial states and a partial, executable step function on labelled actions. Threads,
processes and networks are all machines here: an action names the thread that moves and what its
surroundings answer, and `none` says that the thread cannot move in this way.

`ReachIf C` is reachability by steps that all satisfy `C`, so that one development covers the runs
without failures and the runs with them.
-/

/-- A machine: its initial states, and what an action does to a state (`none`: not enabled). -/
structure Machine (σ α : Type*) where
  init : σ → Prop
  step : σ → α → Option σ

namespace Machine

variable {σ τ α β : Type*} (M : Machine σ α)

/-- The states reached by steps that all satisfy `C`. -/
inductive ReachIf (C : σ → α → Prop) : σ → Prop where
  | init {s : σ} (h : M.init s) : ReachIf C s
  | step {s s' : σ} {a : α} (h : ReachIf C s) (hc : C s a) (hs : M.step s a = some s') :
      ReachIf C s'

/-- The states reached by any steps. -/
abbrev Reach : σ → Prop := M.ReachIf fun _ _ => True

/-- The states from which no action is enabled. -/
def Terminal (s : σ) : Prop := ∀ a, M.step s a = none

/-- Run a list of actions. -/
def run : σ → List α → Option σ
  | s, []      => some s
  | s, a :: as => (M.step s a).bind fun s' => run s' as

/-- `P` holds of every step that the list of actions takes from `s`. -/
def AllSteps (P : σ → α → σ → Prop) : σ → List α → Prop
  | _, []      => True
  | s, a :: as => ∀ s', M.step s a = some s' → P s a s' ∧ AllSteps P s' as

variable {M}

@[simp] lemma run_nil (s : σ) : M.run s [] = some s := rfl

@[simp] lemma run_cons (s : σ) (a : α) (as : List α) :
    M.run s (a :: as) = (M.step s a).bind fun s' => M.run s' as := rfl

lemma run_append (s : σ) (as bs : List α) :
    M.run s (as ++ bs) = (M.run s as).bind fun s' => M.run s' bs := by
  induction as generalizing s with
  | nil => rfl
  | cons a as ih =>
    simp only [List.cons_append, run_cons]
    cases M.step s a with
    | none => rfl
    | some s' => exact ih s'

lemma run_cons_of_step {s t : σ} {a : α} (h : M.step s a = some t) (as : List α) :
    M.run s (a :: as) = M.run t as := by
  rw [run_cons, h, Option.bind_some]

lemma run_append_of_run {s t : σ} {as : List α} (h : M.run s as = some t) (bs : List α) :
    M.run s (as ++ bs) = M.run t bs := by
  rw [run_append, h, Option.bind_some]

/-! ### Reachability -/

/-- An inductive invariant holds of every state reached. -/
lemma ReachIf.invariant {C : σ → α → Prop} {I : σ → Prop} (hinit : ∀ s, M.init s → I s)
    (hstep : ∀ s a s', M.ReachIf C s → I s → C s a → M.step s a = some s' → I s')
    {s : σ} (h : M.ReachIf C s) : I s := by
  induction h with
  | init h => exact hinit _ h
  | step h hc hs ih => exact hstep _ _ _ h ih hc hs

lemma ReachIf.mono {C D : σ → α → Prop} (hCD : ∀ s a, C s a → D s a) {s : σ}
    (h : M.ReachIf C s) : M.ReachIf D s := by
  induction h with
  | init h => exact .init h
  | step _ hc hs ih => exact .step ih (hCD _ _ hc) hs

lemma ReachIf.reach {C : σ → α → Prop} {s : σ} (h : M.ReachIf C s) : M.Reach s :=
  h.mono fun _ _ _ => trivial

/-- A run whose actions satisfy `C` in any state. -/
lemma ReachIf.of_run {C : σ → α → Prop} {s s' : σ} {as : List α} (h : M.ReachIf C s)
    (hc : ∀ a ∈ as, ∀ t, C t a) (hr : M.run s as = some s') : M.ReachIf C s' := by
  induction as generalizing s with
  | nil => cases hr; exact h
  | cons a as ih =>
    simp only [run_cons, Option.bind_eq_some_iff] at hr
    obtain ⟨t, hs, hr⟩ := hr
    exact ih (.step h (hc a List.mem_cons_self s) hs)
      (fun b hb => hc b (List.mem_cons_of_mem a hb)) hr

lemma Reach.of_run {s s' : σ} {as : List α} (h : M.Reach s) (hr : M.run s as = some s') :
    M.Reach s' :=
  ReachIf.of_run h (fun _ _ _ => trivial) hr

/-- A map that turns every step of `M` into a step of `M'` or into nothing carries the states
reached by `M` to states reached by `M'`. -/
lemma ReachIf.map {M' : Machine τ β} {C : σ → α → Prop} {D : τ → β → Prop} (f : σ → τ)
    (hinit : ∀ s, M.init s → M'.init (f s))
    (hstep : ∀ s a s', M.ReachIf C s → C s a → M.step s a = some s' →
      f s' = f s ∨ ∃ b, D (f s) b ∧ M'.step (f s) b = some (f s'))
    {s : σ} (h : M.ReachIf C s) : M'.ReachIf D (f s) := by
  induction h with
  | init h => exact .init (hinit _ h)
  | step h hc hs ih =>
    rcases hstep _ _ _ h hc hs with heq | ⟨b, hb, hs'⟩
    · rw [heq]; exact ih
    · exact .step ih hb hs'

/-! ### Runs -/

/-- A measure that every step decreases bounds the length of every run. -/
lemma run_length_add_le {μ : σ → ℕ} {s s' : σ} {as : List α} (hs : M.Reach s)
    (hμ : ∀ t a t', M.Reach t → M.step t a = some t' → μ t' < μ t)
    (h : M.run s as = some s') : as.length + μ s' ≤ μ s := by
  induction as generalizing s with
  | nil => cases h; simp
  | cons a as ih =>
    simp only [run_cons, Option.bind_eq_some_iff] at h
    obtain ⟨t, ha, h⟩ := h
    have h₁ := hμ s a t hs ha
    have h₂ := ih (.step hs trivial ha) h
    simp only [List.length_cons]
    omega

/-- Two properties of steps that agree wherever an invariant holds, the second of which keeps the
invariant, hold along the same runs. -/
lemma allSteps_congr {P Q : σ → α → σ → Prop} {I : σ → Prop} {s : σ} (hs : I s)
    (hiff : ∀ t a t', I t → M.step t a = some t' → (P t a t' ↔ Q t a t'))
    (hkeep : ∀ t a t', I t → M.step t a = some t' → Q t a t' → I t') (as : List α) :
    M.AllSteps P s as ↔ M.AllSteps Q s as := by
  induction as generalizing s with
  | nil => rfl
  | cons a as ih =>
    simp only [AllSteps]
    refine forall_congr' fun t => forall_congr' fun ha => ?_
    rw [hiff s a t hs ha]
    exact and_congr_right fun hq => ih (hkeep s a t hs ha hq)

end Machine
