import Xcp.Infra.Basic

/-!
# Functions that change a state

A member function that changes its object and can end in an exception. What has been changed before
the exception is thrown stays changed.
-/

namespace Xcp

/-- A function that changes a state `σ`. -/
def Effect (σ ε α : Type) : Type := σ → Outcome ε α × σ

namespace Effect

open Outcome

variable {σ ε α β : Type}

def bind (x : Effect σ ε α) (f : α → Effect σ ε β) : Effect σ ε β := fun s =>
  match x s with
  | (ok a, s')    => f a s'
  | (error e, s') => (error e, s')
  | (aborted, s') => (aborted, s')

instance instMonad : Monad (Effect σ ε) where
  pure a := fun s => (ok a, s)
  bind := bind

/-- A part that neither reads nor changes the state. -/
def lift (o : Outcome ε α) : Effect σ ε α := fun s => (o, s)

def modify (f : σ → σ) : Effect σ ε Unit := fun s => (ok (), f s)

/-- Go on with the state at this moment. -/
def read (f : σ → Effect σ ε α) : Effect σ ε α := fun s => f s s

variable {x : Effect σ ε α} {f : α → Effect σ ε β} {s s' : σ}

@[simp] lemma pure_apply (a : α) : (pure a : Effect σ ε α) s = (ok a, s) := rfl

@[simp] lemma lift_apply (o : Outcome ε α) : (lift o : Effect σ ε α) s = (o, s) := rfl

@[simp] lemma modify_apply (f : σ → σ) : (modify f : Effect σ ε Unit) s = (ok (), f s) := rfl

@[simp] lemma read_apply (f : σ → Effect σ ε α) : read f s = f s s := rfl

lemma bind_of_ok {a : α} (h : x s = (ok a, s')) : (x >>= f) s = f a s' := by
  change bind x f s = _
  rw [bind, h]

lemma bind_of_error {e : ε} (h : x s = (error e, s')) : (x >>= f) s = (error e, s') := by
  change bind x f s = _
  rw [bind, h]

lemma bind_of_aborted (h : x s = (aborted, s')) : (x >>= f) s = (aborted, s') := by
  change bind x f s = _
  rw [bind, h]

@[simp] lemma pure_bind (a : α) : ((pure a : Effect σ ε α) >>= f) = f a := rfl

@[simp] lemma lift_ok_bind (a : α) : ((lift (ok a) : Effect σ ε α) >>= f) = f a := rfl

@[simp] lemma lift_error_bind (e : ε) : ((lift (error e) : Effect σ ε α) >>= f) s = (error e, s) := rfl

@[simp] lemma lift_aborted_bind : ((lift aborted : Effect σ ε α) >>= f) s = (aborted, s) := rfl

@[simp] lemma modify_bind {β : Type} (g : σ → σ) (f : Unit → Effect σ ε β) :
    (modify g >>= f) s = f () (g s) := rfl

instance lawfulMonad : LawfulMonad (Effect σ ε) :=
  LawfulMonad.mk' _
    (fun x => funext fun s => by
      change bind x _ s = x s
      unfold bind
      rcases x s with ⟨_ | _ | _, t⟩ <;> rfl)
    (fun _ _ => rfl)
    (fun x f g => funext fun s => by
      change bind (bind x f) g s = bind x (fun a => bind (f a) g) s
      unfold bind
      rcases x s with ⟨_ | _ | _, t⟩ <;> rfl)

/-- A function that succeeds has a first part that succeeds. -/
lemma bind_eq_ok {b : β} : (x >>= f) s = (ok b, s') ↔
    ∃ a t, x s = (ok a, t) ∧ f a t = (ok b, s') := by
  rcases hx : x s with ⟨_ | _ | _, t⟩
  · rw [bind_of_ok hx]
    simp
  · rw [bind_of_error hx]
    simp
  · rw [bind_of_aborted hx]
    simp

/-- What does not succeed in its first part does not succeed. -/
lemma bind_ne_ok {x : Effect σ ε Unit} {f : Unit → Effect σ ε β} (h : (x s).1 ≠ ok ()) {b : β} :
    ((x >>= f) s).1 ≠ ok b := by
  intro hok
  obtain ⟨u, t, hu, -⟩ := bind_eq_ok.mp (Prod.ext hok rfl : (x >>= f) s = (ok b, _))
  exact h (by rw [hu])

/-! ### Loops -/

section Loop

variable {g : α → Effect σ ε Unit} {l : List α}

@[simp] lemma forM_nil : ([].forM g : Effect σ ε Unit) s = (ok (), s) := rfl

lemma forM_cons (a : α) : ((a :: l).forM g : Effect σ ε Unit) = g a >>= fun _ => l.forM g := rfl

/-- A loop succeeds if every element is good, and keeps an invariant about the elements that it is
through with; it does not succeed if an element is not good. -/
lemma forM_run {Good : α → Prop} {I : List α → σ → Prop}
    (h : ∀ before a after s, l = before ++ a :: after → (∀ b ∈ before, Good b) → I before s →
      (Good a ∧ ∃ s', g a s = (ok (), s') ∧ I (before ++ [a]) s') ∨
      (¬ Good a ∧ (g a s).1 ≠ ok ()))
    (hs : I [] s) :
    ((∀ a ∈ l, Good a) ∧ ∃ s', l.forM g s = (ok (), s') ∧ I l s') ∨
      (¬ (∀ a ∈ l, Good a) ∧ (l.forM g s).1 ≠ ok ()) := by
  suffices hrest : ∀ before after s, l = before ++ after → (∀ b ∈ before, Good b) → I before s →
      ((∀ a ∈ after, Good a) ∧ ∃ s', after.forM g s = (ok (), s') ∧ I l s') ∨
      (¬ (∀ a ∈ after, Good a) ∧ (after.forM g s).1 ≠ ok ()) from
    hrest [] l s rfl (by simp) hs
  intro before after
  induction after generalizing before with
  | nil =>
    rintro s rfl - hI
    exact .inl ⟨by simp, s, rfl, by rwa [List.append_nil]⟩
  | cons a after ih =>
    intro s hl hbefore hI
    rw [forM_cons, List.forall_mem_cons]
    rcases h before a after s hl hbefore hI with ⟨ha, s', hrun, hI'⟩ | ⟨ha, hne⟩
    · rw [bind_of_ok hrun]
      have hgood : ∀ b ∈ before ++ [a], Good b := by
        intro b hb
        rcases List.mem_append.mp hb with hb | hb
        · exact hbefore b hb
        · exact List.mem_singleton.mp hb ▸ ha
      rcases ih (before ++ [a]) s' (by simp [hl]) hgood hI' with ⟨hall, hend⟩ | ⟨hnot, hend⟩
      · exact .inl ⟨⟨ha, hall⟩, hend⟩
      · exact .inr ⟨fun hall => hnot hall.2, hend⟩
    · exact .inr ⟨fun hall => ha hall.1, bind_ne_ok hne⟩

end Loop

/-! ### Functions whose result does not depend on the state -/

/-- The function ends in this way, whatever the state. -/
def Yields (x : Effect σ ε α) (o : Outcome ε α) : Prop := ∀ s, (x s).1 = o

lemma yields_pure (a : α) : Yields (pure a : Effect σ ε α) (ok a) := fun _ => rfl

lemma yields_lift (o : Outcome ε α) : Yields (lift o : Effect σ ε α) o := fun _ => rfl

lemma yields_modify (f : σ → σ) : Yields (modify f : Effect σ ε Unit) (ok ()) := fun _ => rfl

lemma Yields.bind {o : Outcome ε α} {g : α → Outcome ε β} (hx : Yields x o)
    (hf : ∀ a, Yields (f a) (g a)) : Yields (x >>= f) (o >>= g) := by
  intro s
  have hs := hx s
  rcases h : x s with ⟨_ | _ | _, t⟩ <;> rw [h] at hs <;> subst hs
  · rw [bind_of_ok h]
    exact hf _ t
  · rw [bind_of_error h]
    rfl
  · rw [bind_of_aborted h]
    rfl

lemma Yields.forM {g : α → Effect σ ε Unit} {o : α → Outcome ε Unit} {l : List α}
    (h : ∀ a ∈ l, Yields (g a) (o a)) : Yields (l.forM g) (l.forM o) := by
  induction l with
  | nil => exact fun _ => rfl
  | cons a l ih =>
    exact (h a List.mem_cons_self).bind fun _ => ih fun a' ha' => h a' (List.mem_cons_of_mem a ha')

end Effect

end Xcp
