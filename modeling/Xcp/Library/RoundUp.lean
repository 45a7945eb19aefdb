import Mathlib

/-!
# Rounding up to a multiple

`roundUp b n` is the least multiple of `b` that is at least `n`. As a map it is the lower adjoint of
the inclusion of the multiples, and what is needed of it follows from that.
-/

namespace Nat

/-- The least multiple of `b` that is at least `n`. -/
def roundUp (b n : ℕ) : ℕ := b * (n ⌈/⌉ b)

variable {b m n M : ℕ}

lemma dvd_roundUp : b ∣ roundUp b n := dvd_mul_right b _

/-- The adjunction with the multiples of `b`. -/
lemma roundUp_le_iff (hb : 0 < b) (hm : b ∣ m) : roundUp b n ≤ m ↔ n ≤ m := by
  obtain ⟨c, rfl⟩ := hm
  rw [roundUp, Nat.mul_le_mul_left_iff hb]
  exact ceilDiv_le_iff_le_mul hb

lemma le_roundUp (hb : 0 < b) : n ≤ roundUp b n := (roundUp_le_iff hb dvd_roundUp).mp le_rfl

lemma roundUp_mono (hb : 0 < b) (h : m ≤ n) : roundUp b m ≤ roundUp b n :=
  (roundUp_le_iff hb dvd_roundUp).mpr (h.trans (le_roundUp hb))

/-- Two numbers are rounded to the same multiple, up to the cap `M`, when no multiple below `M`
separates them. -/
lemma min_roundUp_eq_iff (hb : 0 < b) (h : m ≤ n) :
    min M (roundUp b n) = min M (roundUp b m) ↔ ∀ a, b ∣ a → a < M → m ≤ a → n ≤ a := by
  have hmono := roundUp_mono hb h
  constructor
  · intro heq a ha haM hma
    have hle : roundUp b m ≤ a := (roundUp_le_iff hb ha).mpr hma
    rw [min_eq_right (hle.trans haM.le)] at heq
    rcases min_le_iff.mp heq.le with hM | hn
    · exact absurd (hM.trans hle) (not_le.mpr haM)
    · exact (roundUp_le_iff hb ha).mp (hn.trans hle)
  · intro hsep
    rcases le_or_gt M (roundUp b m) with hM | hM
    · rw [min_eq_left hM, min_eq_left (hM.trans hmono)]
    · have hle := hsep _ dvd_roundUp hM (le_roundUp hb)
      rw [le_antisymm ((roundUp_le_iff hb dvd_roundUp).mpr hle) hmono]

/-- Rounding up to a power of two by shifts. -/
lemma shift_eq_roundUp (k : ℕ) : (n + (1 <<< k - 1)) >>> k <<< k = roundUp (1 <<< k) n := by
  have hpos : 0 < 2 ^ k := by positivity
  rw [roundUp, Nat.ceilDiv_eq_add_pred_div, shiftLeft_eq, shiftRight_eq_div_pow, shiftLeft_eq,
    one_mul, mul_comm, Nat.add_sub_assoc hpos]

end Nat
