import Mathlib

/-!
# Text as the C++ library reads it

White space of the classic locale, the numerals that `std::stoi` converts and `std::to_string`
writes, and the extraction of a word from a string stream. A string is a list of characters.
-/

namespace Text

variable {s w : List Char}

/-! ### White space -/

/-- `isspace` -/
def isSpace (c : Char) : Bool :=
  c = ' ' || c = '\t' || c = '\n' || c = '\x0b' || c = '\x0c' || c = '\r'

/-- There is no white space. -/
def NoSpace (s : List Char) : Prop := ∀ c ∈ s, isSpace c = false

/-- There is nothing but white space. -/
def Blank (s : List Char) : Prop := ∀ c ∈ s, isSpace c = true

instance instDecidableNoSpace (s : List Char) : Decidable (NoSpace s) := List.decidableBAll _ _

instance instDecidableBlank (s : List Char) : Decidable (Blank s) := List.decidableBAll _ _

/-! ### Numerals -/

/-- The exceptions of `std::stoi`. -/
inductive StoiError where
  | invalidArgument
  | outOfRange
  deriving DecidableEq

/-- The value of a sequence of decimal digits. -/
def value (s : List Char) : ℕ := Nat.ofDigitChars 10 s 0

/-- The sign that `std::stoi` accepts, and the digits behind it. -/
def sign : List Char → ℤ × List Char
  | '-' :: s => (-1, s)
  | '+' :: s => (1, s)
  | s        => (1, s)

/-- `std::stoi`: white space, a sign, and as many digits as there are. -/
def stoi (s : List Char) : Except StoiError ℤ :=
  let (sgn, s) := sign (s.dropWhile isSpace)
  let digits := s.takeWhile (·.isDigit)
  if digits = [] then .error .invalidArgument
  else
    let n := sgn * value digits
    if -2 ^ 31 ≤ n ∧ n < 2 ^ 31 then .ok n else .error .outOfRange

/-- A sequence of digits, at least one. -/
def IsNumeral (s : List Char) : Prop := s ≠ [] ∧ ∀ c ∈ s, c.isDigit = true

lemma isSpace_of_isDigit {c : Char} (h : c.isDigit = true) : isSpace c = false := by
  by_contra hspace
  rw [Bool.not_eq_false] at hspace
  simp only [isSpace, Bool.or_eq_true, decide_eq_true_eq] at hspace
  rcases hspace with ((((rfl | rfl) | rfl) | rfl) | rfl) | rfl <;> revert h <;> decide

lemma sign_of_isDigit {c : Char} (h : c.isDigit = true) (s : List Char) :
    sign (c :: s) = (1, c :: s) := by
  unfold sign
  split
  · next heq =>
    cases heq
    exact absurd h (by decide)
  · next heq =>
    cases heq
    exact absurd h (by decide)
  · rfl

/-- A numeral is converted unless it is too large for an `int`. -/
lemma stoi_numeral (h : IsNumeral s) :
    stoi s = if value s < 2 ^ 31 then .ok (value s : ℤ) else .error .outOfRange := by
  obtain ⟨hne, hdigits⟩ := h
  obtain ⟨c, t, rfl⟩ := List.exists_cons_of_ne_nil hne
  have hc : c.isDigit = true := hdigits c List.mem_cons_self
  have hdrop : (c :: t).dropWhile isSpace = c :: t :=
    List.dropWhile_cons_of_neg (by simp [isSpace_of_isDigit hc])
  have htake : (c :: t).takeWhile (·.isDigit) = c :: t := List.takeWhile_eq_self_iff.mpr hdigits
  simp only [stoi, hdrop, sign_of_isDigit hc, htake, if_neg hne, one_mul]
  by_cases hlt : value (c :: t) < 2 ^ 31
  · rw [if_pos hlt, if_pos ⟨by omega, by exact_mod_cast hlt⟩]
  · rw [if_neg hlt, if_neg]
    rintro ⟨-, hlt'⟩
    exact hlt (by exact_mod_cast hlt')

/-! ### Writing a number -/

/-- `std::to_string` -/
def ofNat (n : ℕ) : List Char := Nat.toDigits 10 n

@[simp] lemma value_ofNat (n : ℕ) : value (ofNat n) = n := Nat.ofDigitChars_ten_toDigits

lemma isNumeral_ofNat (n : ℕ) : IsNumeral (ofNat n) :=
  ⟨Nat.toDigits_ne_nil, fun _ hc => Nat.isDigit_of_mem_toDigits (by decide) le_rfl hc⟩

/-- Only zero is written with a leading zero. -/
lemma head_ofNat {n : ℕ} (h : 0 < n) : (ofNat n).head? ≠ some '0' := by
  induction n using Nat.strong_induction_on with
  | _ n ih =>
    unfold ofNat at ih ⊢
    rcases lt_or_ge n 10 with hlt | hge
    · rw [Nat.toDigits_of_lt_base hlt]
      interval_cases n <;> simp [Nat.digitChar]
    · rw [Nat.toDigits_of_base_le (by decide) hge, List.head?_append]
      have hdiv := ih (n / 10) (by omega) (by omega)
      have hsome : (Nat.toDigits 10 (n / 10)).head?.isSome := by
        simp [Nat.toDigits_ne_nil]
      rwa [Option.or_of_isSome hsome]

/-! ### String streams -/

/-- What `is >> word` leaves, for a stream with the characters `s`: the word, whether the stream
has failed, and the characters that are left. -/
structure Extracted where
  word : List Char
  fail : Bool
  rest : List Char

/-- `operator>>(std::istream&, std::string&)`: leading white space is skipped, and the word ends at
the next white space. -/
def extract (s : List Char) : Extracted where
  word := (s.dropWhile isSpace).takeWhile (!isSpace ·)
  fail := (s.dropWhile isSpace).isEmpty
  rest := (s.dropWhile isSpace).dropWhile (!isSpace ·)

lemma extract_of_blank (h : Blank s) : extract s = ⟨[], true, []⟩ := by
  have hdrop : s.dropWhile isSpace = [] := List.dropWhile_eq_nil_iff.mpr h
  simp [extract, hdrop]

/-- A string that is not blank is white space, a word, and what white space divides from it. -/
lemma exists_word (h : ¬ Blank s) : ∃ space w rest, s = space ++ (w ++ rest) ∧ Blank space ∧
    w ≠ [] ∧ NoSpace w ∧ (∀ c ∈ rest.head?, isSpace c = true) ∧ extract s = ⟨w, false, rest⟩ := by
  have hne : s.dropWhile isSpace ≠ [] := mt List.dropWhile_eq_nil_iff.mp h
  obtain ⟨c, t, hct⟩ := List.exists_cons_of_ne_nil hne
  have hc : isSpace c = false := by
    have := List.head_dropWhile_not (p := isSpace) hne
    simpa [hct] using this
  refine ⟨s.takeWhile isSpace, (s.dropWhile isSpace).takeWhile (!isSpace ·),
    (s.dropWhile isSpace).dropWhile (!isSpace ·), ?_, ?_, ?_, ?_, ?_, ?_⟩
  · rw [List.takeWhile_append_dropWhile, List.takeWhile_append_dropWhile]
  · intro d hd
    exact List.mem_takeWhile_imp hd
  · simp [hct, hc]
  · intro d hd
    simpa using List.mem_takeWhile_imp hd
  · intro d hd
    by_contra hspace
    have hrest := List.head?_dropWhile_not (!isSpace ·) (s.dropWhile isSpace)
    rw [Option.mem_def.mp hd] at hrest
    simp [hspace] at hrest
  · simp [extract, hne]

end Text
