import Mathlib

/-!
# Paths

The generic paths of C++17 on a POSIX system: an optional root directory and the filenames behind
it, where a trailing separator shows as an empty last filename. Besides the operations of the
standard there is the place that a path denotes lexically, and what it means for one path to lie
inside another.
-/

/-- A path. -/
structure FilePath where
  absolute : Bool := false
  elems : List String := []
  deriving DecidableEq, Repr

namespace FilePath

/-- A name that an entry of a directory can have. -/
def Plain (n : String) : Prop := n ≠ "" ∧ n ≠ "." ∧ n ≠ ".."

/-- The text of a sequence of bytes, with one character for each byte. -/
def text (bytes : List UInt8) : String := String.ofList (bytes.map fun b => Char.ofNat b.toNat)

/-- The path that a string denotes on a POSIX system: separators that follow each other count as
one, and a separator at the end shows as an empty last filename. -/
def ofBytes (bytes : List UInt8) : FilePath where
  absolute := bytes.head? = some 47
  elems :=
    let names := (bytes.splitOn 47).filter (· ≠ [])
    names.map text ++ if names ≠ [] ∧ bytes.getLast? = some 47 then [""] else []

/-- The path of a single filename. -/
def ofName (n : String) : FilePath := ⟨false, if n = "" then [] else [n]⟩

section Operations

variable (p q : FilePath)

/-- The last filename: empty for a path that ends in a separator, or has no filenames. -/
def filename : String := p.elems.getLastD ""

/-- The filenames without the empty one that stands for a trailing separator. -/
def names : List String := p.elems.filter (· ≠ "")

/-- The filenames that a resolution goes along: a trailing separator asks for a directory. -/
def steps : List String := p.names ++ if p.elems.getLast? = some "" then ["."] else []

/-- `p / q`. -/
def append : FilePath :=
  if q.absolute then q
  else if q.elems = [] ∧ p.names ≠ [] then ⟨p.absolute, p.names ++ [""]⟩
  else ⟨p.absolute, p.names ++ q.elems⟩

instance : HDiv FilePath FilePath FilePath := ⟨append⟩

/-- The native format. -/
def toString : String := (if p.absolute then "/" else "") ++ "/".intercalate p.elems

/-- What is left of two lists behind their longest common prefix. -/
def mismatch : List String → List String → List String × List String
  | a :: as, b :: bs => if a = b then mismatch as bs else (a :: as, b :: bs)
  | as, bs => (as, bs)

/-- `p.lexically_relative(q)`. -/
def lexicallyRelative : FilePath :=
  if p.absolute = q.absolute then
    let (a, b) := mismatch p.elems q.elems
    let ups := (b.filter fun n => n ≠ "" ∧ n ≠ "." ∧ n ≠ "..").length
    let downs := b.count ".."
    if a = [] ∧ b = [] then ⟨false, ["."]⟩
    else if ups < downs then {}
    else if ups = downs ∧ (a = [] ∨ a.head? = some "") then ⟨false, ["."]⟩
    else ⟨false, List.replicate (ups - downs) ".." ++ a⟩
  else {}

/-- Go on to the filename `n`. -/
def push (absolute : Bool) (place : List String) (n : String) : List String :=
  if n = "." then place
  else if n = ".." then
    match place.getLast? with
    | none => if absolute then [] else [".."]
    | some m => if m = ".." then place ++ [".."] else place.dropLast
  else place ++ [n]

/-- The filenames of the path in normal form. -/
def normal : List String := p.names.foldl (push p.absolute) []

/-- The path `q` lies lexically inside `p`. -/
def Inside : Prop := q.absolute = p.absolute ∧ ∃ rest, q.normal = p.normal ++ rest ∧ ".." ∉ rest

end Operations

variable {p : FilePath} {l l' : List String}

@[simp] lemma names_mk (absolute : Bool) (l : List String) :
    (⟨absolute, l⟩ : FilePath).names = l.filter (· ≠ "") := rfl

lemma append_eq {absolute : Bool} (h : l ≠ []) :
    ((⟨absolute, l'⟩ : FilePath) / (⟨false, l⟩ : FilePath)) = ⟨absolute, l'.filter (· ≠ "") ++ l⟩ := by
  change append _ _ = _
  simp [append, h]

/-- Behind a path come the filenames of a relative one. -/
lemma names_append {q : FilePath} (hq : q.absolute = false) : (p / q).names = p.names ++ q.names := by
  change (append p q).names = _
  unfold append
  rw [hq]
  simp only [Bool.false_eq_true, if_false]
  split_ifs with hempty
  · simp [names, hempty.1]
  · simp [names]

lemma filter_plain (h : ∀ n ∈ l, Plain n) : l.filter (· ≠ "") = l :=
  List.filter_eq_self.mpr fun n hn => by simpa using (h n hn).1

/-! ### Relative paths -/

lemma mismatch_append (l l' : List String) : ∃ common, l = common ++ (mismatch l l').1 ∧
    l' = common ++ (mismatch l l').2 := by
  induction l generalizing l' with
  | nil => exact ⟨[], by simp [mismatch]⟩
  | cons a l ih =>
    cases l' with
    | nil => exact ⟨[], by simp [mismatch]⟩
    | cons b l' =>
      unfold mismatch
      split_ifs with hab
      · obtain ⟨common, hl, hl'⟩ := ih l'
        exact ⟨a :: common, by rw [List.cons_append, ← hl], by rw [List.cons_append, ← hl', hab]⟩
      · exact ⟨[], rfl, rfl⟩

lemma mismatch_self_append (l l' : List String) : mismatch (l ++ l') l = (l', []) := by
  induction l with
  | nil => cases l' <;> rfl
  | cons a l ih => simpa [mismatch] using ih

/-- The relative path of something below a directory. -/
lemma lexicallyRelative_append (h : ∀ n ∈ l', Plain n) (hne : l' ≠ []) :
    lexicallyRelative ⟨true, l ++ l'⟩ ⟨true, l⟩ = ⟨false, l'⟩ := by
  have hhead : l'.head? ≠ some "" := fun heq => (h "" (List.mem_of_mem_head? heq)).1 rfl
  simp [lexicallyRelative, mismatch_self_append, hne, hhead]

/-- Nothing else has a relative path of plain names. -/
lemma eq_append_of_lexicallyRelative {q : List String} (hl' : ∀ n ∈ l', Plain n)
    (hq : ∀ n ∈ q, Plain n)
    (h : (lexicallyRelative ⟨true, l⟩ ⟨true, l'⟩).elems = q) : l = l' ++ q := by
  obtain ⟨common, ha, hb⟩ := mismatch_append l l'
  unfold lexicallyRelative at h
  simp only [if_true] at h
  generalize (mismatch l l').1 = a at ha h
  generalize (mismatch l l').2 = b at hb h
  have hplain : ∀ n ∈ b, Plain n := fun n hn => hl' n (by rw [hb]; simp [hn])
  have hups : (b.filter fun n => n ≠ "" ∧ n ≠ "." ∧ n ≠ "..") = b :=
    List.filter_eq_self.mpr fun n hn => by simpa [Plain] using hplain n hn
  have hdowns : b.count ".." = 0 :=
    List.count_eq_zero.mpr fun hmem => (hplain _ hmem).2.2 rfl
  have hdot : ["."] ≠ q := fun heq => (hq "." (by simp [← heq])).2.1 rfl
  simp only [hups, hdowns, Nat.not_lt_zero, if_false, Nat.sub_zero] at h
  split_ifs at h with h₁ h₂
  · exact absurd h hdot
  · exact absurd h hdot
  · cases b with
    | nil =>
      rw [List.append_nil] at hb
      rw [ha, hb, ← h]
      rfl
    | cons n b =>
      -- the relative path goes up first
      exact absurd rfl (hq ".." (by simp [← h, List.replicate_succ])).2.2

@[simp] lemma absolute_lexicallyRelative (p q : FilePath) : (lexicallyRelative p q).absolute = false := by
  unfold lexicallyRelative
  simp only
  split_ifs <;> rfl

/-- A relative path that is joined as plain names consists of them. -/
lemma elems_eq_of_append_eq {q : FilePath} (hq : q.absolute = false) (hl : ∀ n ∈ l, Plain n)
    (hne : l ≠ []) (h : p / q = p / ⟨false, l⟩) : q.elems = l := by
  obtain ⟨absolute, elems⟩ := p
  rw [append_eq hne] at h
  change append _ _ = _ at h
  unfold append at h
  rw [hq] at h
  simp only [Bool.false_eq_true, if_false] at h
  split_ifs at h with hempty
  · have heq : [""] = l := by simpa using h
    exact absurd rfl (hl "" (by simp [← heq])).1
  · simpa using h

/-! ### Normal forms -/

lemma foldl_push_plain (absolute : Bool) (place : List String) (h : ".." ∉ l) :
    l.foldl (push absolute) place = place ++ l.filter (· ≠ ".") := by
  induction l generalizing place with
  | nil => simp
  | cons n l ih =>
    obtain ⟨hn, hl⟩ := not_or.mp (mt List.mem_cons.mpr h)
    rw [List.foldl_cons, ih _ hl]
    by_cases hdot : n = "."
    · simp [push, hdot]
    · simp [push, hdot, Ne.symm hn]

/-- A path that does not go up leads inside. -/
lemma inside_append (dst : FilePath) (hne : l ≠ []) (h : ".." ∉ l) : Inside dst (dst / ⟨false, l⟩) := by
  obtain ⟨absolute, elems⟩ := dst
  rw [append_eq hne]
  refine ⟨rfl, (l.filter (· ≠ "")).filter (· ≠ "."), ?_, ?_⟩
  · have hl : ".." ∉ l.filter (· ≠ "") := fun hmem => h (List.mem_filter.mp hmem).1
    simp only [normal, names_mk, List.filter_append, List.foldl_append, List.filter_filter,
      Bool.and_self]
    rw [foldl_push_plain _ _ hl, List.filter_filter]
  · intro hmem
    exact h (List.mem_filter.mp (List.mem_filter.mp hmem).1).1

/-- The parent of a directory is not inside it. -/
lemma not_inside_up : ¬ Inside ⟨false, ["d"]⟩ ((⟨false, ["d"]⟩ : FilePath) / ofName "..") := by
  rintro ⟨-, rest, h, -⟩
  have hnormal : normal ((⟨false, ["d"]⟩ : FilePath) / ofName "..") = [] := by decide
  rw [hnormal] at h
  exact absurd h (by simp [normal, push])

end FilePath
