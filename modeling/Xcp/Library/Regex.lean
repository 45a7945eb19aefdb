import Mathlib

/-!
# Regular expressions that capture

The regular expressions of ECMAScript with greedy quantifiers, anchors and capturing groups, and a
backtracking matcher: `run` lists the ways in which an expression matches at a place of the input,
in the order in which a matcher tries them, and `fullMatch` takes the first that ends at the end.
There is no bound on the length of the input: a matcher is taken as it is documented, however deep it
may have to recur.

An expression without anchors and groups is known by its language, which is the one of Kleene.
Around such parts, `mem_run` unfolds an expression into the pieces that it cuts the input into.
-/

/-- A regular expression. -/
inductive Regex (α : Type*) where
  | empty
  | set (p : α → Bool)
  | bol
  | eol
  | seq (r s : Regex α)
  | alt (r s : Regex α)
  | star (r : Regex α)
  | group (n : ℕ) (r : Regex α)

namespace Regex

variable {α : Type*}

instance instMulRegex : Mul (Regex α) := ⟨seq⟩

instance instAddRegex : Add (Regex α) := ⟨alt⟩

/-! ### Abbreviations -/

/-- The character `a`. -/
def lit [DecidableEq α] (a : α) : Regex α := set fun b => b = a

/-- `r?` -/
def opt (r : Regex α) : Regex α := r + empty

/-- `r+` -/
def plus (r : Regex α) : Regex α := r * star r

/-- `r` repeated `n` times. -/
def copies (r : Regex α) : ℕ → Regex α
  | 0     => empty
  | n + 1 => r * copies r n

/-- `r` repeated up to `n` times. -/
def upTo (r : Regex α) : ℕ → Regex α
  | 0     => empty
  | n + 1 => opt (r * upTo r n)

/-- `r{m,n}` -/
def rep (r : Regex α) (m n : ℕ) : Regex α := copies r m * upTo r (n - m)

/-! ### The matcher -/

/-- A place in the input: whether it is the beginning, what lies ahead, and what the groups have
captured on the way. -/
@[ext]
structure Place (α : Type*) where
  atBegin : Bool
  rest : List α
  groups : ℕ → Option (List α)

namespace Place

/-- The place behind the word `w`. -/
def advance (c : Place α) (w rest : List α) : Place α where
  atBegin := c.atBegin && w.isEmpty
  rest := rest
  groups := c.groups

/-- Group `n` has captured `w`. -/
def capture (c : Place α) (n : ℕ) (w : List α) : Place α :=
  { c with groups := Function.update c.groups n (some w) }

/-- The beginning of the input `s`. -/
def start (s : List α) : Place α where
  atBegin := true
  rest := s
  groups _ := none

@[simp] lemma rest_advance (c : Place α) (w rest : List α) : (c.advance w rest).rest = rest := rfl
@[simp] lemma groups_advance (c : Place α) (w rest : List α) :
    (c.advance w rest).groups = c.groups := rfl
@[simp] lemma rest_capture (c : Place α) (n : ℕ) (w : List α) : (c.capture n w).rest = c.rest := rfl
@[simp] lemma groups_capture (c : Place α) (n : ℕ) (w : List α) :
    (c.capture n w).groups = Function.update c.groups n (some w) := rfl
@[simp] lemma atBegin_capture (c : Place α) (n : ℕ) (w : List α) :
    (c.capture n w).atBegin = c.atBegin := rfl

lemma groups_capture_self (c : Place α) (n : ℕ) (w : List α) :
    (c.capture n w).groups n = some w := Function.update_self ..

lemma groups_capture_of_ne (c : Place α) {n k : ℕ} (w : List α) (h : k ≠ n) :
    (c.capture n w).groups k = c.groups k := Function.update_of_ne h _ _

@[simp] lemma rest_start (s : List α) : (start s).rest = s := rfl
@[simp] lemma groups_start (s : List α) : (start s).groups = fun _ => none := rfl
@[simp] lemma atBegin_start (s : List α) : (start s).atBegin = true := rfl

@[simp] lemma advance_nil (c : Place α) : c.advance [] c.rest = c := by
  simp [advance]

@[simp] lemma advance_advance (c : Place α) (v w rest rest' : List α) :
    (c.advance v rest).advance w rest' = c.advance (v ++ w) rest' := by
  cases v <;> simp [advance]

end Place

open Place

/-- The iterations of a star: another one that consumes something, or none. -/
def iterate (f : Place α → List (Place α)) : ℕ → Place α → List (Place α)
  | 0, c        => [c]
  | fuel + 1, c =>
    ((f c).filter fun c' => c'.rest.length < c.rest.length).flatMap (iterate f fuel) ++ [c]

/-- The places to which the expression can match from a place, by priority. -/
def run : Regex α → Place α → List (Place α)
  | empty, c     => [c]
  | set p, c     =>
    match c.rest with
    | []        => []
    | a :: rest => if p a then [c.advance [a] rest] else []
  | bol, c       => if c.atBegin then [c] else []
  | eol, c       => if c.rest.isEmpty then [c] else []
  | seq r s, c   => (run r c).flatMap (run s)
  | alt r s, c   => run r c ++ run s c
  | star r, c    => iterate (run r) c.rest.length c
  | group n r, c =>
    (run r c).map fun c' => c'.capture n (c.rest.take (c.rest.length - c'.rest.length))

/-- What the groups capture when the expression matches the whole input: the first match counts. -/
def fullMatch (r : Regex α) (s : List α) : Option (ℕ → Option (List α)) :=
  ((run r (start s)).find? (·.rest.isEmpty)).map (·.groups)

/-! ### Languages -/

/-- There are no anchors and no groups. -/
def Plain : Regex α → Prop
  | empty | set _ => True
  | bol | eol | group _ _ => False
  | seq r s | alt r s => Plain r ∧ Plain s
  | star r => Plain r

/-- The words that a plain expression matches. -/
def lang : Regex α → Language α
  | empty | bol | eol => 1
  | set p => {w | ∃ a, p a = true ∧ w = [a]}
  | seq r s => lang r * lang s
  | alt r s => lang r + lang s
  | star r => KStar.kstar (lang r)
  | group _ r => lang r

section Plain

variable {r s : Regex α}

@[simp] lemma plain_empty : Plain (empty : Regex α) := trivial

@[simp] lemma plain_set (p : α → Bool) : Plain (set p) := trivial

@[simp] lemma plain_lit [DecidableEq α] (a : α) : Plain (lit a) := trivial

@[simp] lemma plain_star : Plain (star r) ↔ Plain r := Iff.rfl

@[simp] lemma plain_mul : Plain (r * s) ↔ Plain r ∧ Plain s := Iff.rfl

@[simp] lemma plain_add : Plain (r + s) ↔ Plain r ∧ Plain s := Iff.rfl

@[simp] lemma plain_opt : Plain (opt r) ↔ Plain r := by simp [opt]

@[simp] lemma plain_plus : Plain (plus r) ↔ Plain r := by simp [plus]

lemma Plain.rep (h : Plain r) (m n : ℕ) : Plain (rep r m n) := by
  rw [Regex.rep, plain_mul]
  constructor
  · induction m with
    | zero => exact plain_empty
    | succ m ih => exact ⟨h, ih⟩
  · induction n - m with
    | zero => exact plain_empty
    | succ n ih => exact plain_opt.mpr ⟨h, ih⟩

end Plain

@[simp] lemma mem_lang_set {p : α → Bool} {w : List α} :
    w ∈ lang (set p) ↔ ∃ a, p a = true ∧ w = [a] := Iff.rfl

@[simp] lemma mem_lang_lit [DecidableEq α] {a : α} {w : List α} : w ∈ lang (lit a) ↔ w = [a] := by
  simp [lit]

@[simp] lemma lang_mul (r s : Regex α) : lang (r * s) = lang r * lang s := rfl

@[simp] lemma lang_add (r s : Regex α) : lang (r + s) = lang r + lang s := rfl

@[simp] lemma lang_opt (r : Regex α) : lang (opt r) = lang r + 1 := rfl

@[simp] lemma lang_star (r : Regex α) : lang (star r) = KStar.kstar (lang r) := rfl

@[simp] lemma lang_plus (r : Regex α) : lang (plus r) = lang r * KStar.kstar (lang r) := rfl

/-- The words of a starred character set. -/
lemma mem_lang_star_set {p : α → Bool} {w : List α} :
    w ∈ lang (star (set p)) ↔ ∀ a ∈ w, p a = true := by
  rw [lang_star, Language.mem_kstar]
  constructor
  · rintro ⟨words, rfl, hwords⟩ a ha
    obtain ⟨y, hy, hay⟩ := List.mem_flatten.mp ha
    obtain ⟨b, hb, rfl⟩ := hwords y hy
    rwa [List.mem_singleton.mp hay]
  · intro h
    refine ⟨w.map fun a => [a], ?_, ?_⟩
    · rw [← List.flatMap_def, List.flatMap_singleton']
    intro y hy
    obtain ⟨a, ha, rfl⟩ := List.mem_map.mp hy
    exact ⟨a, h a ha, rfl⟩

lemma mem_lang_plus_set {p : α → Bool} {w : List α} :
    w ∈ lang (plus (set p)) ↔ w ≠ [] ∧ ∀ a ∈ w, p a = true := by
  rw [lang_plus, ← lang_star, Language.mem_mul]
  constructor
  · rintro ⟨_, ⟨a, ha, rfl⟩, v, hv, rfl⟩
    simpa using ⟨ha, mem_lang_star_set.mp hv⟩
  · rintro ⟨hne, h⟩
    obtain ⟨a, v, rfl⟩ := List.exists_cons_of_ne_nil hne
    rw [List.forall_mem_cons] at h
    exact ⟨[a], ⟨a, h.1, rfl⟩, v, mem_lang_star_set.mpr h.2, rfl⟩

lemma append_mem_lang_mul {r s : Regex α} {u v : List α} (hu : u ∈ lang r) (hv : v ∈ lang s) :
    u ++ v ∈ lang (r * s) := Language.mem_mul.mpr ⟨u, hu, v, hv, rfl⟩

lemma mem_lang_opt {r : Regex α} {w : List α} : w ∈ lang (opt r) ↔ w ∈ lang r ∨ w = [] := Iff.rfl

/-- Between `m` and `n` words in a row. -/
lemma flatten_mem_lang_rep {r : Regex α} {m n : ℕ} {words : List (List α)}
    (hwords : ∀ w ∈ words, w ∈ lang r) (hm : m ≤ words.length) (hn : words.length ≤ n) :
    words.flatten ∈ lang (rep r m n) := by
  have hcopies : ∀ {k : ℕ} {us : List (List α)}, (∀ w ∈ us, w ∈ lang r) → us.length = k →
      us.flatten ∈ lang (copies r k) := by
    rintro k us hus rfl
    induction us with
    | nil => exact rfl
    | cons u us ih =>
      rw [List.forall_mem_cons] at hus
      exact append_mem_lang_mul hus.1 (ih hus.2)
  have hupTo : ∀ {us : List (List α)} {k : ℕ}, (∀ w ∈ us, w ∈ lang r) → us.length ≤ k →
      us.flatten ∈ lang (upTo r k) := by
    intro us k hus hk
    induction us generalizing k with
    | nil =>
      cases k with
      | zero => exact rfl
      | succ k => exact mem_lang_opt.mpr (.inr rfl)
    | cons u us ih =>
      rw [List.forall_mem_cons] at hus
      obtain ⟨k, rfl⟩ : ∃ j, k = j + 1 := ⟨k - 1, (Nat.succ_pred_eq_of_pos (by
        simp only [List.length_cons] at hk; omega)).symm⟩
      exact mem_lang_opt.mpr
        (.inl (append_mem_lang_mul hus.1 (ih hus.2 (Nat.le_of_succ_le_succ hk))))
  rw [← List.take_append_drop m words, List.flatten_append]
  refine append_mem_lang_mul (hcopies (fun w hw => hwords w (List.mem_of_mem_take hw)) ?_)
    (hupTo (fun w hw => hwords w (List.mem_of_mem_drop hw)) ?_)
  · rw [List.length_take, min_eq_left hm]
  · rw [List.length_drop]
    omega

/-- Every character that the expression matches satisfies `p`. -/
def Over (p : α → Prop) : Regex α → Prop
  | empty | bol | eol => True
  | set q => ∀ a, q a = true → p a
  | seq r s | alt r s => Over p r ∧ Over p s
  | star r | group _ r => Over p r

section Over

variable {p : α → Prop} {r s : Regex α}

@[simp] lemma over_empty : Over p (empty : Regex α) := trivial

@[simp] lemma over_set {q : α → Bool} : Over p (set q) ↔ ∀ a, q a = true → p a := Iff.rfl

@[simp] lemma over_lit [DecidableEq α] {a : α} : Over p (lit a) ↔ p a := by simp [lit]

@[simp] lemma over_star : Over p (star r) ↔ Over p r := Iff.rfl

@[simp] lemma over_mul : Over p (r * s) ↔ Over p r ∧ Over p s := Iff.rfl

@[simp] lemma over_add : Over p (r + s) ↔ Over p r ∧ Over p s := Iff.rfl

@[simp] lemma over_opt : Over p (opt r) ↔ Over p r := by simp [opt]

lemma Over.rep (h : Over p r) (m n : ℕ) : Over p (rep r m n) := by
  rw [Regex.rep, over_mul]
  constructor
  · induction m with
    | zero => exact over_empty
    | succ m ih => exact ⟨h, ih⟩
  · induction n - m with
    | zero => exact over_empty
    | succ n ih => exact over_opt.mpr ⟨h, ih⟩

lemma Over.forall_mem (h : Over p r) {w : List α} (hw : w ∈ lang r) : ∀ a ∈ w, p a := by
  induction r generalizing w with
  | empty | bol | eol =>
    obtain rfl : w = [] := hw
    simp
  | set q =>
    obtain ⟨a, ha, rfl⟩ := hw
    simpa using h a ha
  | seq r s ihr ihs =>
    obtain ⟨u, hu, v, hv, rfl⟩ := Language.mem_mul.mp hw
    intro a ha
    rcases List.mem_append.mp ha with ha | ha
    · exact ihr h.1 hu a ha
    · exact ihs h.2 hv a ha
  | alt r s ihr ihs =>
    rcases hw with hw | hw
    · exact ihr h.1 hw
    · exact ihs h.2 hw
  | star r ih =>
    obtain ⟨words, rfl, hwords⟩ := Language.mem_kstar.mp hw
    intro a ha
    obtain ⟨y, hy, hay⟩ := List.mem_flatten.mp ha
    exact ih h (hwords y hy) a hay
  | group n r ih => exact ih h hw

end Over

/-! ### Matching along words -/

/-- `c'` is behind a word of the language at `c`. -/
def Reaches (l : Language α) (c c' : Place α) : Prop :=
  ∃ w ∈ l, ∃ rest, c.rest = w ++ rest ∧ c' = c.advance w rest

lemma reaches_one {c c' : Place α} : Reaches (1 : Language α) c c' ↔ c' = c := by
  constructor
  · rintro ⟨w, rfl, rest, hrest, rfl⟩
    rw [List.nil_append] at hrest
    rw [← hrest, advance_nil]
  · rintro rfl
    exact ⟨[], rfl, c'.rest, rfl, (advance_nil c').symm⟩

lemma reaches_add {l m : Language α} {c c' : Place α} :
    Reaches (l + m) c c' ↔ Reaches l c c' ∨ Reaches m c c' := by
  simp only [Reaches, Language.mem_add, or_and_right, exists_or]

lemma reaches_mul {l m : Language α} {c c' : Place α} :
    Reaches (l * m) c c' ↔ ∃ d, Reaches l c d ∧ Reaches m d c' := by
  constructor
  · rintro ⟨w, hw, rest, hrest, rfl⟩
    obtain ⟨u, hu, v, hv, rfl⟩ := Language.mem_mul.mp hw
    rw [List.append_assoc] at hrest
    exact ⟨c.advance u (v ++ rest), ⟨u, hu, _, hrest, rfl⟩, v, hv, rest, rfl, by simp⟩
  · rintro ⟨d, ⟨u, hu, rest, hrest, rfl⟩, v, hv, rest', hrest', rfl⟩
    rw [rest_advance] at hrest'
    refine ⟨u ++ v, Language.mem_mul.mpr ⟨u, hu, v, hv, rfl⟩, rest', ?_, by simp⟩
    rw [hrest, hrest', List.append_assoc]

lemma Reaches.mono {l m : Language α} {c c' : Place α} (h : Reaches l c c') (hle : l ≤ m) :
    Reaches m c c' := by
  obtain ⟨w, hw, hrest⟩ := h
  exact ⟨w, hle hw, hrest⟩

lemma Reaches.length_le {l : Language α} {c c' : Place α} (h : Reaches l c c') :
    c'.rest.length ≤ c.rest.length := by
  obtain ⟨w, -, rest, hrest, rfl⟩ := h
  simp [hrest]

/-- The iterations of a star go along the words of the star of the language. -/
lemma mem_iterate {f : Place α → List (Place α)} {l : Language α}
    (hf : ∀ c c', c' ∈ f c ↔ Reaches l c c') {fuel : ℕ} {c c' : Place α}
    (hfuel : c.rest.length ≤ fuel) :
    c' ∈ iterate f fuel c ↔ Reaches (KStar.kstar l) c c' := by
  induction fuel generalizing c with
  | zero =>
    have hempty : c.rest = [] := List.length_eq_zero_iff.mp (Nat.le_zero.mp hfuel)
    rw [iterate, List.mem_singleton, ← reaches_one]
    constructor
    · intro h
      exact h.mono one_le_kstar
    · rintro ⟨w, -, rest, hrest, rfl⟩
      rw [hempty] at hrest
      obtain ⟨rfl, rfl⟩ := List.append_eq_nil_iff.mp hrest.symm
      exact ⟨[], rfl, [], hempty, rfl⟩
  | succ fuel ih =>
    rw [iterate, List.mem_append, List.mem_flatMap, List.mem_singleton]
    constructor
    · rintro (⟨d, hd, hc'⟩ | rfl)
      · obtain ⟨hmem, hlt⟩ := List.mem_filter.mp hd
        have hlt : d.rest.length < c.rest.length := of_decide_eq_true hlt
        have hstar := reaches_mul.mpr ⟨d, (hf c d).mp hmem, (ih (by omega)).mp hc'⟩
        exact hstar.mono mul_kstar_le_kstar
      · exact (reaches_one.mpr rfl).mono one_le_kstar
    · rintro ⟨w, hw, rest, hrest, rfl⟩
      obtain ⟨words, rfl, hwords⟩ := Language.mem_kstar_iff_exists_nonempty.mp hw
      cases words with
      | nil => exact .inr (reaches_one.mp ⟨_, rfl, rest, hrest, rfl⟩)
      | cons y words =>
        obtain ⟨hy, hne⟩ := hwords y List.mem_cons_self
        have hpos := List.length_pos_iff.mpr hne
        rw [List.flatten_cons, List.append_assoc] at hrest
        have hlen := congrArg List.length hrest
        rw [List.length_append] at hlen
        have hrec := (ih (c := c.advance y (words.flatten ++ rest)) (by rw [rest_advance]; omega)).mpr
          ⟨words.flatten, Language.mem_kstar.mpr ⟨words, rfl, fun z hz =>
            (hwords z (List.mem_cons_of_mem _ hz)).1⟩, rest, rfl, (advance_advance ..).symm⟩
        refine .inl ⟨_, List.mem_filter.mpr ⟨(hf _ _).mpr ⟨y, hy, _, hrest, rfl⟩, ?_⟩, hrec⟩
        rw [rest_advance]
        exact decide_eq_true (by omega)

/-- A plain expression matches the words of its language, and nothing else. -/
lemma mem_run_plain {r : Regex α} (h : r.Plain) {c c' : Place α} :
    c' ∈ run r c ↔ Reaches r.lang c c' := by
  induction r generalizing c c' with
  | empty => rw [run, List.mem_singleton, lang, reaches_one]
  | set p =>
    rw [run]
    constructor
    · intro hmem
      split at hmem
      · cases hmem
      · next a rest hrest =>
        split_ifs at hmem with ha
        · rw [List.mem_singleton] at hmem
          exact ⟨[a], ⟨a, ha, rfl⟩, rest, hrest, hmem⟩
        · cases hmem
    · rintro ⟨w, ⟨a, ha, rfl⟩, rest, hrest, rfl⟩
      rw [hrest]
      simp [ha]
  | bol | eol => exact h.elim
  | seq r s ihr ihs =>
    rw [run, List.mem_flatMap, lang, reaches_mul]
    exact exists_congr fun d => and_congr (ihr h.1) (ihs h.2)
  | alt r s ihr ihs =>
    rw [run, List.mem_append, lang, reaches_add, ihr h.1, ihs h.2]
  | star r ih => exact mem_iterate (fun c c' => ih h) le_rfl
  | group n r ih => exact h.elim

/-! ### Unfolding a match -/

lemma mem_run_mul {r s : Regex α} {c c' : Place α} :
    c' ∈ run (r * s) c ↔ ∃ d, d ∈ run r c ∧ c' ∈ run s d := List.mem_flatMap

lemma mem_run_add {r s : Regex α} {c c' : Place α} :
    c' ∈ run (r + s) c ↔ c' ∈ run r c ∨ c' ∈ run s c := List.mem_append

lemma mem_run_empty {c c' : Place α} : c' ∈ run empty c ↔ c' = c := by
  rw [run, List.mem_singleton]

lemma mem_run_opt {r : Regex α} {c c' : Place α} :
    c' ∈ run (opt r) c ↔ c' ∈ run r c ∨ c' = c := by
  rw [opt, mem_run_add, mem_run_empty]

lemma mem_run_bol {c c' : Place α} : c' ∈ run bol c ↔ c.atBegin = true ∧ c' = c := by
  rw [run]
  split_ifs with h <;> simp [h]

lemma mem_run_eol {c c' : Place α} : c' ∈ run eol c ↔ c.rest = [] ∧ c' = c := by
  rw [run]
  split_ifs with h <;> simp [List.isEmpty_iff.symm, h]

lemma mem_run_lit [DecidableEq α] {a : α} {c c' : Place α} :
    c' ∈ run (lit a) c ↔ ∃ rest, c.rest = a :: rest ∧ c' = c.advance [a] rest := by
  rw [mem_run_plain (plain_lit a)]
  constructor
  · rintro ⟨w, ⟨b, hb, rfl⟩, rest, hrest, rfl⟩
    obtain rfl := of_decide_eq_true hb
    exact ⟨rest, hrest, rfl⟩
  · rintro ⟨rest, hrest, rfl⟩
    exact ⟨[a], ⟨a, by simp, rfl⟩, rest, hrest, rfl⟩

/-- A group around an expression that matches the words of a language captures them. -/
lemma mem_run_group_of {n : ℕ} {r : Regex α} {l : Language α}
    (h : ∀ c c', c' ∈ run r c ↔ Reaches l c c') {c c' : Place α} :
    c' ∈ run (group n r) c ↔
      ∃ w ∈ l, ∃ rest, c.rest = w ++ rest ∧ c' = (c.advance w rest).capture n w := by
  rw [run, List.mem_map]
  constructor
  · rintro ⟨d, hd, rfl⟩
    obtain ⟨w, hw, rest, hrest, rfl⟩ := (h c d).mp hd
    refine ⟨w, hw, rest, hrest, ?_⟩
    simp [hrest]
  · rintro ⟨w, hw, rest, hrest, rfl⟩
    refine ⟨c.advance w rest, (h _ _).mpr ⟨w, hw, rest, hrest, rfl⟩, ?_⟩
    simp [hrest]

lemma mem_run_group {n : ℕ} {r : Regex α} (h : r.Plain) {c c' : Place α} :
    c' ∈ run (group n r) c ↔
      ∃ w ∈ r.lang, ∃ rest, c.rest = w ++ rest ∧ c' = (c.advance w rest).capture n w :=
  mem_run_group_of fun _ _ => mem_run_plain h

/-- What an optional suffix behind `a` adds to a word. -/
def suffix (a : α) : Option (List α) → List α
  | none   => []
  | some w => a :: w

/-- Group `n` has captured what was there. -/
def Place.captureOpt (c : Place α) (n : ℕ) : Option (List α) → Place α
  | none   => c
  | some w => c.capture n w

@[simp] lemma Place.rest_captureOpt (c : Place α) (n : ℕ) (o : Option (List α)) :
    (c.captureOpt n o).rest = c.rest := by
  cases o <;> rfl

lemma Place.groups_captureOpt_of_ne (c : Place α) {n k : ℕ} (o : Option (List α)) (h : k ≠ n) :
    (c.captureOpt n o).groups k = c.groups k := by
  cases o with
  | none => rfl
  | some w => exact c.groups_capture_of_ne w h

lemma Place.groups_captureOpt_self (c : Place α) {n : ℕ} (o : Option (List α))
    (h : c.groups n = none) : (c.captureOpt n o).groups n = o := by
  cases o with
  | none => exact h
  | some w => exact c.groups_capture_self n w

/-- An optional group behind a character. -/
lemma mem_run_suffix [DecidableEq α] {a : α} {n : ℕ} {r : Regex α} (h : r.Plain)
    {c c' : Place α} :
    c' ∈ run (opt (lit a * group n r)) c ↔ ∃ o : Option (List α), (∀ w ∈ o, w ∈ r.lang) ∧
      ∃ rest, c.rest = suffix a o ++ rest ∧
        c' = (c.advance (suffix a o) rest).captureOpt n o := by
  rw [mem_run_opt, mem_run_mul]
  constructor
  · rintro (⟨d, hd, hc'⟩ | rfl)
    · obtain ⟨rest, hrest, rfl⟩ := mem_run_lit.mp hd
      obtain ⟨w, hw, rest', hrest', rfl⟩ := (mem_run_group h).mp hc'
      rw [rest_advance] at hrest'
      refine ⟨some w, by simpa using hw, rest', by simp [suffix, hrest, hrest'], ?_⟩
      rw [advance_advance]
      rfl
    · exact ⟨none, by simp, c'.rest, rfl, (advance_nil c').symm⟩
  · rintro ⟨_ | w, hw, rest, hrest, rfl⟩
    · refine .inr ?_
      rw [suffix, List.nil_append] at hrest
      rw [← hrest]
      exact advance_nil c
    · refine .inl ⟨c.advance [a] (w ++ rest), mem_run_lit.mpr ⟨_, hrest, rfl⟩,
        (mem_run_group h).mpr ⟨w, hw w rfl, rest, rfl, ?_⟩⟩
      rw [advance_advance]
      rfl

/-- What an optional prefix in front of `a` adds to a word. -/
def lead (a : α) : Option (List α) → List α
  | none   => []
  | some w => w ++ [a]

/-- An optional group in front of a character. -/
lemma mem_run_lead [DecidableEq α] {a : α} {n : ℕ} {r : Regex α} (h : r.Plain)
    {c c' : Place α} :
    c' ∈ run (opt (group n r * lit a)) c ↔ ∃ o : Option (List α), (∀ w ∈ o, w ∈ r.lang) ∧
      ∃ rest, c.rest = lead a o ++ rest ∧ c' = (c.advance (lead a o) rest).captureOpt n o := by
  have hcomm (w : List α) (rest rest' : List α) :
      ((c.advance w rest).capture n w).advance [a] rest' =
        (c.advance (w ++ [a]) rest').captureOpt n (some w) := by
    rw [← advance_advance c w [a] rest rest']
    rfl
  rw [mem_run_opt, mem_run_mul]
  constructor
  · rintro (⟨d, hd, hc'⟩ | rfl)
    · obtain ⟨w, hw, rest, hrest, rfl⟩ := (mem_run_group h).mp hd
      obtain ⟨rest', hrest', rfl⟩ := mem_run_lit.mp hc'
      rw [rest_capture, rest_advance] at hrest'
      refine ⟨some w, by simpa using hw, rest', by simp [lead, hrest, hrest'], ?_⟩
      exact hcomm w rest rest'
    · exact ⟨none, by simp, c'.rest, rfl, (advance_nil c').symm⟩
  · rintro ⟨_ | w, hw, rest, hrest, rfl⟩
    · refine .inr ?_
      rw [lead, List.nil_append] at hrest
      rw [← hrest]
      exact advance_nil c
    · refine .inl ⟨(c.advance w (a :: rest)).capture n w,
        (mem_run_group h).mpr ⟨w, hw w rfl, _, by simpa [lead] using hrest, rfl⟩,
        mem_run_lit.mpr ⟨rest, rfl, (hcomm w (a :: rest) rest).symm⟩⟩

/-! ### Matching the whole input -/

lemma fullMatch_eq_none {r : Regex α} {s : List α} :
    fullMatch r s = none ↔ ∀ c ∈ run r (start s), c.rest ≠ [] := by
  simp [fullMatch, List.isEmpty_iff]

lemma exists_of_fullMatch {r : Regex α} {s : List α} {g : ℕ → Option (List α)}
    (h : fullMatch r s = some g) : ∃ c ∈ run r (start s), c.rest = [] ∧ c.groups = g := by
  obtain ⟨c, hc, rfl⟩ := Option.map_eq_some_iff.mp h
  exact ⟨c, List.mem_of_find?_eq_some hc, by simpa using List.find?_some hc, rfl⟩

/-- When every way to match the whole input captures the same, that is what is captured. -/
lemma fullMatch_of_unique {r : Regex α} {s : List α} {c : Place α} (hc : c ∈ run r (start s))
    (hrest : c.rest = [])
    (hunique : ∀ d ∈ run r (start s), d.rest = [] → d.groups = c.groups) :
    fullMatch r s = some c.groups := by
  cases h : fullMatch r s with
  | none => exact absurd hrest (fullMatch_eq_none.mp h c hc)
  | some g =>
    obtain ⟨d, hd, hdrest, rfl⟩ := exists_of_fullMatch h
    rw [hunique d hd hdrest]

lemma fullMatch_bol_mul (r : Regex α) (s : List α) : fullMatch (bol * r) s = fullMatch r s := by
  have hrun : run (bol * r) (start s) = run r (start s) := List.flatMap_singleton (run r) (start s)
  rw [fullMatch, hrun, fullMatch]

/-- An alternative that can match the whole input goes before those behind it. -/
lemma fullMatch_add_mul {r s t : Regex α} {w : List α} {c : Place α}
    (hc : c ∈ run (r * t) (start w)) (hrest : c.rest = []) :
    fullMatch ((r + s) * t) w = fullMatch (r * t) w := by
  have hsome : ((run (r * t) (start w)).find? (·.rest.isEmpty)).isSome := by
    rw [List.find?_isSome]
    exact ⟨c, hc, by simp [hrest]⟩
  have hrun : run ((r + s) * t) (start w) = run (r * t) (start w) ++ run (s * t) (start w) :=
    List.flatMap_append
  rw [fullMatch, fullMatch, hrun, List.find?_append, Option.or_of_isSome hsome]

end Regex
