import Mathlib

/-!
# Common ground of the model

How a function of the program ends, the widths of its counters, and descriptors.
-/

namespace Xcp

/-- How a modelled function ends: with a value, with an exception or a `false` that carries `ε`,
or in `std::abort` through `ASSERT` or `PANIC_TERMINATE`. -/
inductive Outcome (ε α : Type) where
  | ok (a : α)
  | error (e : ε)
  | aborted
  deriving DecidableEq, Repr

namespace Outcome

variable {ε α β : Type}

def bind : Outcome ε α → (α → Outcome ε β) → Outcome ε β
  | ok a, f    => f a
  | error e, _ => error e
  | aborted, _ => aborted

instance : Monad (Outcome ε) where
  pure := ok
  bind := bind

@[simp] lemma pure_eq (a : α) : (pure a : Outcome ε α) = ok a := rfl

@[simp] lemma ok_bind (a : α) (f : α → Outcome ε β) : ((ok a : Outcome ε α) >>= f) = f a := rfl

@[simp] lemma error_bind (e : ε) (f : α → Outcome ε β) :
    ((error e : Outcome ε α) >>= f) = error e := rfl

@[simp] lemma aborted_bind (f : α → Outcome ε β) :
    ((aborted : Outcome ε α) >>= f) = aborted := rfl

instance : LawfulMonad (Outcome ε) :=
  LawfulMonad.mk' _ (fun x => by cases x <;> rfl) (fun _ _ => rfl)
    (fun x _ _ => by cases x <;> rfl)

/-- A computation that succeeds has a first part that succeeds. -/
lemma bind_eq_ok {x : Outcome ε α} {f : α → Outcome ε β} {b : β} :
    x >>= f = ok b ↔ ∃ a, x = ok a ∧ f a = ok b := by
  cases x <;> simp

/-- A computation that aborts does so in its first part, or behind it. -/
lemma bind_eq_aborted {x : Outcome ε α} {f : α → Outcome ε β} :
    x >>= f = aborted ↔ x = aborted ∨ ∃ a, x = ok a ∧ f a = aborted := by
  cases x <;> simp

lemma bind_ne_aborted {x : Outcome ε α} {f : α → Outcome ε β} (hx : x ≠ aborted)
    (hf : ∀ a, x = ok a → f a ≠ aborted) : x >>= f ≠ aborted := by
  rw [Ne, bind_eq_aborted]
  rintro (h | ⟨a, ha, h⟩)
  · exact hx h
  · exact hf a ha h

/-- A loop over elements of which none aborts does not abort. -/
lemma mapM_ne_aborted {f : α → Outcome ε β} {l : List α} (h : ∀ a ∈ l, f a ≠ aborted) :
    l.mapM f ≠ aborted := by
  induction l with
  | nil => nofun
  | cons a l ih =>
    rw [List.mapM_cons]
    apply bind_ne_aborted (h a List.mem_cons_self)
    intro b hb
    apply bind_ne_aborted (ih fun a' ha' => h a' (List.mem_cons_of_mem _ ha'))
    nofun

lemma forM_eq_ok {f : α → Outcome ε Unit} {l : List α} :
    l.forM f = ok () ↔ ∀ a ∈ l, f a = ok () := by
  induction l with
  | nil => exact iff_of_true rfl (by nofun)
  | cons a l ih =>
    change (f a >>= fun _ => l.forM f) = ok () ↔ _
    rw [bind_eq_ok, List.forall_mem_cons, ← ih]
    constructor
    · rintro ⟨u, ha, hl⟩
      exact ⟨ha, hl⟩
    · rintro ⟨ha, hl⟩
      exact ⟨(), ha, hl⟩

lemma forM_ne_aborted {f : α → Outcome ε Unit} {l : List α} (h : ∀ a ∈ l, f a ≠ aborted) :
    l.forM f ≠ aborted := by
  induction l with
  | nil => nofun
  | cons a l ih =>
    change (f a >>= fun _ => l.forM f) ≠ aborted
    apply bind_ne_aborted (h a List.mem_cons_self)
    intro _ _
    exact ih fun a' ha' => h a' (List.mem_cons_of_mem _ ha')

/-- A loop that succeeds has succeeded on every element. -/
lemma forall₂_of_mapM_eq_ok {f : α → Outcome ε β} {l : List α} {l' : List β}
    (h : l.mapM f = ok l') : List.Forall₂ (fun a b => f a = ok b) l l' := by
  induction l generalizing l' with
  | nil => cases h; exact .nil
  | cons a l ih =>
    rw [List.mapM_cons] at h
    obtain ⟨b, hb, h⟩ := bind_eq_ok.mp h
    obtain ⟨bs, hbs, h⟩ := bind_eq_ok.mp h
    cases h
    exact .cons hb (ih hbs)

lemma mem_of_mapM_eq_ok {f : α → Outcome ε β} {l : List α} {l' : List β} (h : l.mapM f = ok l') :
    (∀ a ∈ l, ∃ b ∈ l', f a = ok b) ∧ ∀ b ∈ l', ∃ a ∈ l, f a = ok b := by
  have hall := forall₂_of_mapM_eq_ok h
  clear h
  induction hall with
  | nil => exact ⟨by nofun, by nofun⟩
  | cons hab _ ih =>
    constructor
    · intro a ha
      rcases List.mem_cons.mp ha with rfl | ha
      · exact ⟨_, List.mem_cons_self, hab⟩
      · obtain ⟨b, hb, hfb⟩ := ih.1 a ha
        exact ⟨b, List.mem_cons_of_mem _ hb, hfb⟩
    · intro b hb
      rcases List.mem_cons.mp hb with rfl | hb
      · exact ⟨_, List.mem_cons_self, hab⟩
      · obtain ⟨a, ha, hfa⟩ := ih.2 b hb
        exact ⟨a, List.mem_cons_of_mem _ ha, hfa⟩

/-- A loop over the indices below `n`, in order. -/
def forFin : {n : ℕ} → (Fin n → Outcome ε α) → Outcome ε (Fin n → α)
  | 0, _     => ok fun i => i.elim0
  | _ + 1, f => do
    let a ← f 0
    let g ← forFin fun i => f i.succ
    pure (Fin.cons a g)

lemma forFin_eq_ok {n : ℕ} {f : Fin n → Outcome ε α} {g : Fin n → α} :
    forFin f = ok g ↔ ∀ i, f i = ok (g i) := by
  induction n with
  | zero => simp [forFin, funext_iff]
  | succ n ih =>
    simp only [forFin, bind_eq_ok, ih, pure_eq, ok.injEq]
    constructor
    · rintro ⟨a, ha, g, hg, rfl⟩ i
      cases i using Fin.cases with
      | zero => exact ha
      | succ i => exact hg i
    · intro h
      exact ⟨g 0, h 0, fun i => g i.succ, fun i => h i.succ, Fin.cons_self_tail g⟩

/-- A loop over the indices aborts at the first index that does not succeed. -/
lemma forFin_eq_aborted {n : ℕ} {f : Fin n → Outcome ε α} :
    forFin f = aborted ↔ ∃ i, f i = aborted ∧ ∀ j < i, ∃ a, f j = ok a := by
  induction n with
  | zero => simp [forFin]
  | succ n ih =>
    simp only [forFin, bind_eq_aborted, ih, pure_eq, reduceCtorEq, and_false, exists_false,
      or_false]
    constructor
    · rintro (h0 | ⟨a, h0, i, hi, hlt⟩)
      · exact ⟨0, h0, fun j hj => absurd hj (Fin.not_lt_zero j)⟩
      · refine ⟨i.succ, hi, fun j hj => ?_⟩
        cases j using Fin.cases with
        | zero => exact ⟨a, h0⟩
        | succ j => exact hlt j (Fin.succ_lt_succ_iff.mp hj)
    · rintro ⟨i, hi, hlt⟩
      cases i using Fin.cases with
      | zero => exact .inl hi
      | succ i =>
        obtain ⟨a, ha⟩ := hlt 0 (Fin.succ_pos i)
        exact .inr ⟨a, ha, i, hi, fun j hj => hlt j.succ (Fin.succ_lt_succ_iff.mpr hj)⟩

/-- The loop over the indices, without what it yields. -/
lemma forM_finRange {n : ℕ} (f : Fin n → Outcome ε α) :
    ((List.finRange n).forM fun i => f i >>= fun _ => ok ()) = (forFin f >>= fun _ => ok ()) := by
  induction n with
  | zero => rfl
  | succ n ih =>
    rw [List.finRange_succ]
    change ((f 0 >>= fun _ => ok ()) >>= fun _ => ((List.finRange n).map Fin.succ).forM _) = _
    have hmap : ((List.finRange n).map Fin.succ).forM (fun i => f i >>= fun _ => ok ()) =
        (List.finRange n).forM fun i => f i.succ >>= fun _ => (ok () : Outcome ε Unit) :=
      List.forM_map
    rw [hmap, ih fun i => f i.succ]
    simp only [forFin, bind_assoc, ok_bind, pure_eq]

/-- `ASSERT`. -/
def assert (p : Prop) [Decidable p] : Outcome ε Unit := if p then ok () else aborted

@[simp] lemma assert_eq_ok {p : Prop} [Decidable p] :
    (assert p : Outcome ε Unit) = ok () ↔ p := by
  unfold assert
  split_ifs with h <;> simp [h]

lemma assert_bind_eq_ok {p : Prop} [Decidable p] {f : Unit → Outcome ε β} {b : β} :
    (assert p >>= f) = ok b ↔ p ∧ f () = ok b := by
  unfold assert
  split_ifs with h <;> simp [h]

lemma assert_bind_eq_aborted {p : Prop} [Decidable p] {f : Unit → Outcome ε β} :
    (assert p >>= f) = aborted ↔ (p → f () = aborted) := by
  unfold assert
  split_ifs with h <;> simp [h]

lemma assert_of {p : Prop} [Decidable p] (h : p) : (assert p : Outcome ε Unit) = ok () :=
  assert_eq_ok.mpr h

end Outcome

/-- Conversion to `uint64_t`, the type of every size and counter of a transfer. -/
def toU64 (v : ℕ) : ℕ := v % 2 ^ 64

lemma toU64_of_lt {v : ℕ} (h : v < 2 ^ 64) : toU64 v = v := Nat.mod_eq_of_lt h

/-- `INT_MAX`, plus one. -/
abbrev intBound : ℕ := 2 ^ 31

/-- An open descriptor: a non-negative `int`. -/
abbrev Fd := Fin intBound

instance neZero_two : NeZero 2 := ⟨two_ne_zero⟩

instance neZero_intBound : NeZero intBound := ⟨by decide⟩

/-- The descriptors that a process has open at once are distinct, so there are at most
`intBound` of them. -/
lemma card_le_of_descriptors {ι : Type*} [Fintype ι] (fd : ι ↪ Fd) :
    Fintype.card ι ≤ intBound :=
  (Fintype.card_le_of_embedding fd).trans_eq (Fintype.card_fin _)

end Xcp
