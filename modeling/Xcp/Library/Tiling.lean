import Mathlib

/-!
# Tilings of an initial segment

Several threads that take ranges from one shared counter cut an initial segment of the natural
numbers into blocks. `Tiles M n` says that the blocks of `M`, given by start and length, are the
consecutive pieces of `[0, n)` in whatever order they are listed. The last section sums what the
threads hold when one of them moves.
-/

namespace Tiling

/-- The blocks `(start, length)` of `M` are non-empty and cut `[0, n)` into consecutive pieces. -/
inductive Tiles : Multiset (ℕ × ℕ) → ℕ → Prop where
  | nil : Tiles 0 0
  | snoc {M : Multiset (ℕ × ℕ)} {n k : ℕ} (h : Tiles M n) (hk : 0 < k) :
      Tiles ((n, k) ::ₘ M) (n + k)

/-- The block covers position `p`. -/
def Covers (b : ℕ × ℕ) (p : ℕ) : Prop := b.1 ≤ p ∧ p < b.1 + b.2

/-- No position is covered by both blocks. -/
def Apart (b b' : ℕ × ℕ) : Prop := ∀ p, ¬ (Covers b p ∧ Covers b' p)

variable {M : Multiset (ℕ × ℕ)} {n : ℕ}

instance : Std.Symm Apart := ⟨fun _ _ h p hp => h p hp.symm⟩

lemma Tiles.pos (h : Tiles M n) {b : ℕ × ℕ} (hb : b ∈ M) : 0 < b.2 := by
  induction h with
  | nil => simp at hb
  | snoc _ hk ih =>
    rcases Multiset.mem_cons.mp hb with rfl | hb
    · exact hk
    · exact ih hb

lemma Tiles.add_le (h : Tiles M n) {b : ℕ × ℕ} (hb : b ∈ M) : b.1 + b.2 ≤ n := by
  induction h with
  | nil => simp at hb
  | snoc _ _ ih =>
    rcases Multiset.mem_cons.mp hb with rfl | hb
    · exact le_rfl
    · have := ih hb
      omega

/-- The lengths add up to the length of the segment. -/
lemma Tiles.sum_length (h : Tiles M n) : (M.map Prod.snd).sum = n := by
  induction h with
  | nil => rfl
  | snoc _ _ ih => rw [Multiset.map_cons, Multiset.sum_cons, ih, Nat.add_comm]

lemma Tiles.exists_covers (h : Tiles M n) {p : ℕ} (hp : p < n) : ∃ b ∈ M, Covers b p := by
  induction h with
  | nil => omega
  | @snoc M n k _ _ ih =>
    by_cases hpn : p < n
    · obtain ⟨b, hb, hbp⟩ := ih hpn
      exact ⟨b, Multiset.mem_cons_of_mem hb, hbp⟩
    · exact ⟨(n, k), Multiset.mem_cons_self _ _, by simp only [Covers]; omega⟩

lemma Tiles.lt_of_covers (h : Tiles M n) {b : ℕ × ℕ} (hb : b ∈ M) {p : ℕ}
    (hp : Covers b p) : p < n :=
  hp.2.trans_le (h.add_le hb)

/-- The blocks of a tiling do not overlap. -/
lemma Tiles.pairwise {l : List (ℕ × ℕ)} (h : Tiles l n) : l.Pairwise Apart := by
  have hM : ∀ {M : Multiset (ℕ × ℕ)} {n : ℕ}, Tiles M n → M.Pairwise Apart := by
    intro M n h
    induction h with
    | nil => exact ⟨[], rfl, .nil⟩
    | @snoc M n k h _ ih =>
      obtain ⟨l, rfl, hl⟩ := ih
      refine ⟨(n, k) :: l, rfl, List.pairwise_cons.mpr ⟨fun b hb p hp => ?_, hl⟩⟩
      have := h.lt_of_covers hb hp.2
      have := hp.1.1
      omega
  exact Multiset.pairwise_coe_iff_pairwise.mp (hM h)

/-- Some blocks of a tiling are together no longer than the segment. -/
lemma Tiles.sum_length_le {R : Multiset (ℕ × ℕ)} (h : Tiles M n) (hle : R ≤ M) :
    (R.map Prod.snd).sum ≤ n := by
  obtain ⟨rest, rfl⟩ := Multiset.le_iff_exists_add.mp hle
  rw [← h.sum_length, Multiset.map_add, Multiset.sum_add]
  exact Nat.le_add_right _ _

/-- Blocks of a tiling that are together as long as the segment are all of them. -/
lemma Tiles.of_le {R : Multiset (ℕ × ℕ)} (h : Tiles M n) (hle : R ≤ M)
    (hsum : (R.map Prod.snd).sum = n) : Tiles R n := by
  obtain ⟨rest, rfl⟩ := Multiset.le_iff_exists_add.mp hle
  have hlength := h.sum_length
  rw [Multiset.map_add, Multiset.sum_add, hsum, Nat.add_eq_left, Multiset.sum_eq_zero_iff] at hlength
  have hempty : rest = 0 := by
    apply Multiset.eq_zero_of_forall_notMem
    intro b hb
    have hpos := h.pos (Multiset.mem_add.mpr (.inr hb))
    have hzero := hlength b.2 (Multiset.mem_map_of_mem _ hb)
    omega
  rwa [hempty, add_zero] at h

/-! ### What several threads hold -/

section Sum

variable {N : ℕ} {A : Type*} [AddCommMonoid A] {f g : Fin N → A}

/-- When one thread's share changes from `g c` to `f c`, the total changes likewise. -/
lemma sum_add_eq_sum_add (c : Fin N) {x y : A} (hne : ∀ i, i ≠ c → f i = g i)
    (hc : f c + y = g c + x) : ∑ i, f i + y = ∑ i, g i + x := by
  have hrest : ∑ i ∈ Finset.univ.erase c, f i = ∑ i ∈ Finset.univ.erase c, g i :=
    Finset.sum_congr rfl fun i hi => hne i (Finset.ne_of_mem_erase hi)
  rw [← Finset.add_sum_erase _ f (Finset.mem_univ c), ← Finset.add_sum_erase _ g (Finset.mem_univ c),
    hrest, add_right_comm, hc, add_right_comm]

/-- When one thread's share grows by `x`, so does the total. -/
lemma sum_eq_add_sum (c : Fin N) {x : A} (hne : ∀ i, i ≠ c → f i = g i)
    (hc : f c = x + g c) : ∑ i, f i = x + ∑ i, g i := by
  have := sum_add_eq_sum_add c (x := x) (y := 0) hne (by rw [hc, add_zero, add_comm])
  rwa [add_zero, add_comm] at this

/-- The lists of the threads, one after the other, hold what all threads hold. -/
lemma coe_flatten_ofFn {α : Type*} {N : ℕ} (l : Fin N → List α) :
    ((List.ofFn l).flatten : Multiset α) = ∑ i, (l i : Multiset α) := by
  induction N with
  | zero => simp
  | succ N ih =>
    rw [List.ofFn_succ, List.flatten_cons, ← Multiset.coe_add, ih, Fin.sum_univ_succ]

end Sum

end Tiling
