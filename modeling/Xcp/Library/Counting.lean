import Mathlib

/-!
# Counting

`Counts P n` says that exactly `n` things have the property `P`. Where a counter is incremented by
every thread that passes some point, it is the invariant of the counter.
-/

/-- Exactly `n` things have the property `P`. -/
def Counts {α : Type*} (P : α → Prop) (n : ℕ) : Prop := {a | P a}.encard = n

namespace Counts

variable {α : Type*} {P Q : α → Prop} {n : ℕ}

lemma zero (h : ∀ a, ¬ P a) : Counts P 0 := by
  have hempty : {a | P a} = ∅ := Set.eq_empty_of_forall_notMem h
  rw [Counts, hempty, Set.encard_empty, Nat.cast_zero]

lemma congr (h : Counts P n) (hPQ : ∀ a, Q a ↔ P a) : Counts Q n := by
  have heq : {a | Q a} = {a | P a} := Set.ext hPQ
  rwa [Counts, heq]

/-- One more thing has the property. -/
lemma succ (h : Counts P n) {c : α} (hc : ¬ P c) (hQ : ∀ a, Q a ↔ a = c ∨ P a) :
    Counts Q (n + 1) := by
  have heq : {a | Q a} = insert c {a | P a} := Set.ext hQ
  have hc' : c ∉ {a | P a} := hc
  rw [Counts] at h
  rw [Counts, heq, Set.encard_insert_of_notMem hc', h, Nat.cast_add, Nat.cast_one]

/-- What is counted fits into a set that contains it. -/
lemma le_card (h : Counts P n) {s : Finset α} (hs : ∀ a, P a → a ∈ s) : n ≤ s.card := by
  have hle : {a | P a}.encard ≤ (s : Set α).encard := Set.encard_le_encard hs
  rwa [h, Set.encard_coe_eq_coe_finsetCard, Nat.cast_le] at hle

/-- A set of things with the property is no larger than their number. -/
lemma card_le (h : Counts P n) {s : Finset α} (hs : ∀ a ∈ s, P a) : s.card ≤ n := by
  have hle : (s : Set α).encard ≤ {a | P a}.encard := Set.encard_le_encard hs
  rwa [h, Set.encard_coe_eq_coe_finsetCard, Nat.cast_le] at hle

/-- If there are as many as fit, all of them have the property. -/
lemma forall_mem (h : Counts P n) {s : Finset α} (hs : ∀ a, P a → a ∈ s) (hcard : s.card ≤ n) :
    ∀ a ∈ s, P a := by
  have hfin : (s : Set α).encard ≤ {a | P a}.encard := by
    rwa [h, Set.encard_coe_eq_coe_finsetCard, Nat.cast_le]
  have heq : {a | P a} = (s : Set α) := by
    refine Set.Finite.eq_of_subset_of_encard_le ?_ hs hfin
    exact s.finite_toSet.subset hs
  intro a ha
  have hmem : a ∈ {a | P a} := heq ▸ ha
  exact hmem

/-! ### The things are threads, and one of them moves -/

section Update

variable [DecidableEq α] {β : Type*} {f : α → β} {p : β → Prop} {c : α} {b : β}

lemma update (h : Counts (fun a => p (f a)) n) (hb : p b ↔ p (f c)) :
    Counts (fun a => p (Function.update f c b a)) n := by
  refine h.congr fun a => ?_
  rw [Function.update_apply]
  split_ifs with ha
  · rw [ha, hb]
  · rfl

lemma update_succ (h : Counts (fun a => p (f a)) n) (hc : ¬ p (f c)) (hb : p b) :
    Counts (fun a => p (Function.update f c b a)) (n + 1) := by
  refine h.succ hc fun a => ?_
  rw [Function.update_apply]
  split_ifs with ha
  · exact iff_of_true hb (.inl ha)
  · exact (or_iff_right ha).symm

/-- Some thread is at a point, after one that was not has moved. -/
lemma exists_update (hc : ¬ p (f c)) :
    (∃ a, p (Function.update f c b a)) ↔ p b ∨ ∃ a, p (f a) := by
  constructor
  · rintro ⟨a, ha⟩
    rw [Function.update_apply] at ha
    split_ifs at ha
    · exact .inl ha
    · exact .inr ⟨a, ha⟩
  · rintro (hb | ⟨a, ha⟩)
    · exact ⟨c, by rwa [Function.update_self]⟩
    · have hne : a ≠ c := fun heq => hc (heq ▸ ha)
      exact ⟨a, by rwa [Function.update_of_ne hne]⟩

end Update

end Counts
