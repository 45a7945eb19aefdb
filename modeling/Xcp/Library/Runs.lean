import Xcp.Library.Machine

/-!
# Runs that meet a condition

A machine restricted to the steps that meet a decidable condition is executable, so a concrete run of
it shows that every step of the run meets the condition.
-/

namespace Machine

variable {σ α : Type*} {M : Machine σ α}

/-- The machine that takes only the steps that meet the condition. -/
def restrict (M : Machine σ α) (C : σ → α → Prop) [∀ s a, Decidable (C s a)] : Machine σ α where
  init := M.init
  step s a := if C s a then M.step s a else none

section Restrict

variable {C : σ → α → Prop} [∀ s a, Decidable (C s a)] {s s' : σ} {as : List α}

lemma step_of_restrict {a : α} (h : (M.restrict C).step s a = some s') :
    C s a ∧ M.step s a = some s' := by
  unfold restrict at h
  dsimp only at h
  split_ifs at h with hc
  exact ⟨hc, h⟩

/-- A run of the restricted machine is a run, and goes through states that are reached by steps that
meet the condition. -/
lemma run_of_restrict (h : M.ReachIf C s) (hrun : (M.restrict C).run s as = some s') :
    M.run s as = some s' ∧ M.ReachIf C s' := by
  induction as generalizing s with
  | nil =>
    cases hrun
    exact ⟨rfl, h⟩
  | cons a as ih =>
    obtain ⟨t, hstep, hrun⟩ := Option.bind_eq_some_iff.mp hrun
    obtain ⟨hc, hstep⟩ := step_of_restrict hstep
    obtain ⟨hrun, hreach⟩ := ih (h.step hc hstep) hrun
    exact ⟨(run_cons_of_step hstep as).trans hrun, hreach⟩

/-- Every step of such a run meets the condition. -/
lemma allSteps_of_restrict (hrun : (M.restrict C).run s as = some s') :
    M.AllSteps (fun s a _ => C s a) s as := by
  induction as generalizing s with
  | nil => trivial
  | cons a as ih =>
    obtain ⟨t, hstep, hrun⟩ := Option.bind_eq_some_iff.mp hrun
    obtain ⟨hc, hstep⟩ := step_of_restrict hstep
    intro t' ha
    obtain rfl := Option.some.inj (hstep.symm.trans ha)
    exact ⟨hc, ih hrun⟩

end Restrict

/-- A condition that follows from another one in the states reached is met by the same runs. -/
lemma ReachIf.mono_of_reach {C D : σ → α → Prop} (hCD : ∀ s a, M.Reach s → C s a → D s a) {s : σ}
    (h : M.ReachIf C s) : M.ReachIf D s := by
  induction h with
  | init h => exact .init h
  | step h hc hs ih => exact .step ih (hCD _ _ h.reach hc) hs

/-- What holds of every step from a reachable state holds along every run. -/
lemma allSteps_of_reach {P : σ → α → σ → Prop} {s : σ} (hs : M.Reach s)
    (h : ∀ t a t', M.Reach t → M.step t a = some t' → P t a t') (as : List α) :
    M.AllSteps P s as := by
  induction as generalizing s with
  | nil => trivial
  | cons a as ih => exact fun t ha => ⟨h s a t hs ha, ih (.step hs trivial ha)⟩

/-- A run whose steps meet a condition has what follows from the condition in the states that are
reached by such steps. -/
lemma AllSteps.of_reachIf {C : σ → α → Prop} {P : σ → α → σ → Prop} {s : σ} {as : List α}
    (h : M.AllSteps (fun s a _ => C s a) s as) (hs : M.ReachIf C s)
    (hP : ∀ t a t', M.ReachIf C t → M.step t a = some t' → C t a → P t a t') :
    M.AllSteps P s as := by
  induction as generalizing s with
  | nil => trivial
  | cons a as ih =>
    intro t ha
    obtain ⟨hc, h⟩ := h t ha
    exact ⟨hP s a t hs ha hc, ih h (hs.step hc ha)⟩

end Machine
