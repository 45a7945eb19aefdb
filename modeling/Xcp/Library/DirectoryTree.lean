import Mathlib

/-!
# Directory trees

The tree below a directory whose owner creates entries in it: a name can be looked up in a directory
with the search bit, and an entry created in one that also has the write bit. Errors are given by
their numbers. A listing names every directory before what it holds; whether all of it can be
created in this order is decided by the modes of the directories in the finished tree.
-/

/-- What a location holds. -/
inductive TreeEntry where
  | directory (mode : ℕ)
  | file (mode : ℕ)
  deriving DecidableEq, Repr

/-- The same entry with another mode. -/
def TreeEntry.withMode (mode : ℕ) : TreeEntry → TreeEntry
  | directory _ => directory mode
  | file _      => file mode

/-- What there is below a directory, by the names on the way. -/
abbrev DirectoryTree : Type := List String → Option TreeEntry

namespace DirectoryTree

/-- The owner may look up names in a directory with this mode. -/
def Searchable (mode : ℕ) : Prop := mode &&& 0o100 = 0o100

/-- The owner may also create entries. -/
def Writable (mode : ℕ) : Prop := mode &&& 0o300 = 0o300

instance decidableSearchable (mode : ℕ) : Decidable (Searchable mode) :=
  inferInstanceAs (Decidable (_ = _))

instance decidableWritable (mode : ℕ) : Decidable (Writable mode) :=
  inferInstanceAs (Decidable (_ = _))

lemma Writable.searchable {mode : ℕ} (h : Writable mode) : Searchable mode := by
  calc
    mode &&& 0o100 = mode &&& 0o300 &&& 0o100 := by rw [Nat.land_assoc]; rfl
    _ = 0o100 := by rw [h]; rfl

/-- The mode without the bits of a mask. -/
def masked (mask mode : ℕ) : ℕ := mode - (mode &&& mask)

lemma masked_le (mask mode : ℕ) : masked mask mode ≤ mode := Nat.sub_le ..

/-- Where a name leads from a location. -/
def enter (loc : List String) (n : String) : List String := if n = "." then loc else loc ++ [n]

/-- The directory alone. -/
def empty (mode : ℕ) : DirectoryTree := fun loc => if loc = [] then some (.directory mode) else none

section Operations

variable (T : DirectoryTree) (umask : ℕ)

/-- A name is looked up in the directory at this location. -/
def search (loc : List String) : Except ℕ Unit :=
  match T loc with
  | some (.directory mode) => if Searchable mode then .ok () else .error 13
  | some (.file _)         => .error 20
  | none                   => .error 2

/-- Where names lead. -/
def resolve : List String → List String → Except ℕ (List String)
  | loc, [] => .ok loc
  | loc, n :: names => do
    T.search loc
    resolve (enter loc n) names

/-- An entry that is not there is created. -/
def create (loc : List String) (entry : TreeEntry) : Except ℕ DirectoryTree :=
  match T loc.dropLast with
  | some (.directory mode) =>
    if Writable mode then .ok (Function.update T loc (some entry)) else .error 13
  | some (.file _)         => .error 20
  | none                   => .error 2

/-- The mode of what is at a location is set. -/
def setMode (loc : List String) (mode : ℕ) : Except ℕ DirectoryTree :=
  match T loc with
  | some entry => .ok (Function.update T loc (some (entry.withMode mode)))
  | none       => .error 2

/-- `mkdir` for every directory on the way that is not there. What has been created before it fails
is not kept. -/
def createDirectories : DirectoryTree → List String → List String → Except ℕ DirectoryTree
  | T, _, [] => .ok T
  | T, loc, n :: names => do
    T.search loc
    match T (enter loc n) with
    | some (.directory _) => createDirectories T (enter loc n) names
    | some (.file _)      => .error 20
    | none => do
      let T' ← T.create (enter loc n) (.directory (masked umask 0o777))
      createDirectories T' (enter loc n) names

/-- `chmod`. -/
def chmod (names : List String) (mode : ℕ) : Except ℕ DirectoryTree := do
  let loc ← T.resolve [] names
  T.setMode loc mode

/-- A directory is created with all on the way, and gets its mode. -/
def makeDirectory (names : List String) (mode : ℕ) : Except ℕ DirectoryTree := do
  let T' ← T.createDirectories umask [] names
  T'.chmod names mode

/-- `open` for reading and writing, where a file that is not there is created. -/
def openFile (names : List String) (mode : ℕ) : Except ℕ (List String × DirectoryTree) := do
  let loc ← T.resolve [] names
  match T loc with
  | some (.directory _) => .error 21
  | some (.file mode')  => if mode' &&& 0o600 = 0o600 then .ok (loc, T) else .error 13
  | none => do
    let T' ← T.create loc (.file (masked umask mode))
    .ok (loc, T')

/-- A new entry in a directory that is there. -/
def add (loc : List String) (entry : TreeEntry) : Except ℕ DirectoryTree := do
  let loc ← T.resolve [] loc
  T.create loc entry

/-- The tree with these entries. -/
def plant (entries : List (List String × TreeEntry)) : DirectoryTree :=
  entries.foldl (fun T a => Function.update T a.1 (some a.2)) T

/-- Entries can be created next to this location. -/
def ParentWritable (loc : List String) : Prop :=
  ∃ mode, T loc.dropLast = some (.directory mode) ∧ Writable mode

end Operations

/-- A listing of what is below a directory: nothing is listed after what it holds or a second time,
and what holds something is listed as a directory. -/
structure Listing (items : List (List String × TreeEntry)) : Prop where
  ne_nil : ∀ a ∈ items, a.1 ≠ []
  before : items.Pairwise fun a b => ¬ b.1 <+: a.1
  parent : ∀ a ∈ items, a.1.dropLast ≠ [] → ∃ mode, (a.1.dropLast, .directory mode) ∈ items

variable {T T' : DirectoryTree} {umask m : ℕ} {loc l l' names : List String} {n : String}

/-! ### Looking up names -/

lemma enter_of_ne (hn : n ≠ ".") : enter loc n = loc ++ [n] := if_neg hn

lemma search_eq_ok {u : Unit} :
    T.search loc = .ok u ↔ ∃ mode, T loc = some (.directory mode) ∧ Searchable mode := by
  unfold search
  split <;> simp_all

lemma search_congr (h : T loc = T' loc) : T.search loc = T'.search loc := by
  unfold search
  rw [h]

/-- Names without `.` lead to the location that they spell. -/
lemma resolve_eq_ok (hl : "." ∉ l) {r : List String} : T.resolve loc l = .ok r ↔
    r = loc ++ l ∧ ∀ l', l' <+: l → l' ≠ l → T.search (loc ++ l') = .ok () := by
  induction l generalizing loc with
  | nil =>
    have hnil : (∀ l' : List String, l' <+: [] → l' ≠ [] → T.search (loc ++ l') = .ok ()) ↔ True := by
      simp
    rw [hnil, and_true, List.append_nil, resolve, Except.ok.injEq, eq_comm]
  | cons n l ih =>
    obtain ⟨hn, hl⟩ := not_or.mp (mt List.mem_cons.mpr hl)
    have hsplit : (∀ l', l' <+: n :: l → l' ≠ n :: l → T.search (loc ++ l') = .ok ()) ↔
        T.search loc = .ok () ∧
          ∀ l', l' <+: l → l' ≠ l → T.search (loc ++ [n] ++ l') = .ok () := by
      constructor
      · intro h
        refine ⟨by simpa using h [] List.nil_prefix (by simp), fun l' hl' hne => ?_⟩
        simpa using h (n :: l') ((List.prefix_cons_inj n).mpr hl') (by simpa using hne)
      · rintro ⟨hloc, h⟩ l' hl' hne
        cases l' with
        | nil => simpa using hloc
        | cons n' l' =>
          obtain ⟨rfl, hrest⟩ := List.cons_prefix_cons.mp hl'
          simpa using h l' hrest (by simpa using hne)
    rw [hsplit, resolve, enter_of_ne (Ne.symm hn)]
    cases hloc : T.search loc with
    | error e => simp [bind, Except.bind]
    | ok u => simpa [bind, Except.bind] using @ih (loc ++ [n]) hl

/-- A resolution depends on the directories that it goes through. -/
lemma resolve_congr (hl : "." ∉ l) (h : ∀ l', l' <+: l → l' ≠ l → T (loc ++ l') = T' (loc ++ l')) :
    T.resolve loc l = T'.resolve loc l := by
  induction l generalizing loc with
  | nil => rfl
  | cons n l ih =>
    obtain ⟨hn, hl⟩ := not_or.mp (mt List.mem_cons.mpr hl)
    have hloc : T.search loc = T'.search loc := by
      have := h [] List.nil_prefix (by simp)
      exact search_congr (by simpa using this)
    have hrest : T.resolve (loc ++ [n]) l = T'.resolve (loc ++ [n]) l := ih hl fun l' hl' hne => by
      simpa using h (n :: l') ((List.prefix_cons_inj n).mpr hl') (by simpa using hne)
    rw [resolve, resolve, enter_of_ne (Ne.symm hn), hloc, hrest]

/-- A `.` in front changes nothing where another name is looked up. -/
lemma resolve_dot (hne : names ≠ []) : T.resolve loc ("." :: names) = T.resolve loc names := by
  obtain ⟨n, names, rfl⟩ := List.exists_cons_of_ne_nil hne
  simp only [resolve, enter, if_true]
  cases T.search loc <;> rfl

/-! ### New entries -/

lemma create_of_parentWritable (h : T.ParentWritable loc) (entry : TreeEntry) :
    T.create loc entry = .ok (Function.update T loc (some entry)) := by
  obtain ⟨mode, hmode, hwritable⟩ := h
  simp [create, hmode, hwritable]

lemma parentWritable_of_create {entry : TreeEntry} (h : T.create loc entry = .ok T') :
    T.ParentWritable loc ∧ T' = Function.update T loc (some entry) := by
  unfold create at h
  split at h
  · next mode hmode =>
    split_ifs at h with hwritable
    exact ⟨⟨mode, hmode, hwritable⟩, (Except.ok.inj h).symm⟩
  · cases h
  · cases h

lemma add_eq_ok (hl : "." ∉ l) {entry : TreeEntry} : T.add l entry = .ok T' ↔
    (∀ l', l' <+: l → l' ≠ l → T.search l' = .ok ()) ∧ T.ParentWritable l ∧
      T' = Function.update T l (some entry) := by
  unfold add
  constructor
  · intro h
    cases hresolve : T.resolve [] l with
    | error e =>
      rw [hresolve] at h
      cases h
    | ok r =>
      rw [hresolve] at h
      obtain ⟨rfl, hsearch⟩ := (resolve_eq_ok hl).mp hresolve
      exact ⟨by simpa using hsearch, by simpa using parentWritable_of_create h⟩
  · rintro ⟨hsearch, hwritable, rfl⟩
    have hresolve : T.resolve [] l = .ok l := (resolve_eq_ok hl).mpr (by simpa using hsearch)
    rw [hresolve]
    exact create_of_parentWritable hwritable entry

lemma setMode_update (T : DirectoryTree) (loc : List String) (entry : TreeEntry) (mode : ℕ) :
    setMode (Function.update T loc (some entry)) loc mode =
      .ok (Function.update T loc (some (entry.withMode mode))) := by
  simp [setMode]

/-- Where the directories on the way are there, only the last one is created. -/
lemma createDirectories_append (hl : "." ∉ l) (hn : n ≠ ".")
    (hdirs : ∀ l', l' <+: l → l' ≠ [] → ∃ mode, T (loc ++ l') = some (.directory mode))
    (hfresh : T (loc ++ l ++ [n]) = none) :
    createDirectories umask T loc (l ++ [n]) = (do
      let loc ← T.resolve loc (l ++ [n])
      T.create loc (.directory (masked umask 0o777))) := by
  induction l generalizing loc with
  | nil =>
    rw [List.append_nil] at hfresh
    simp only [List.nil_append, createDirectories, resolve, enter_of_ne hn, hfresh]
    cases T.search loc with
    | error e => rfl
    | ok u =>
      change (T.create _ _ >>= Except.ok) = T.create _ _
      cases T.create (loc ++ [n]) (.directory (masked umask 0o777)) <;> rfl
  | cons k l ih =>
    obtain ⟨hk, hl⟩ := not_or.mp (mt List.mem_cons.mpr hl)
    obtain ⟨mode, hmode⟩ := hdirs [k] (by simp) (by simp)
    have hrest := @ih (loc ++ [k]) hl
      (fun l' hl' hne => by
        simpa using hdirs (k :: l') ((List.prefix_cons_inj k).mpr hl') (by simp))
      (by simpa using hfresh)
    simp only [List.cons_append, createDirectories, resolve, enter_of_ne (Ne.symm hk), hmode]
    cases T.search loc with
    | error e => rfl
    | ok u => exact hrest

/-- A `.` in front changes nothing where a directory is created. -/
lemma createDirectories_dot {mode : ℕ} (hloc : T loc = some (.directory mode)) (hne : names ≠ []) :
    createDirectories umask T loc ("." :: names) = createDirectories umask T loc names := by
  obtain ⟨n, names, rfl⟩ := List.exists_cons_of_ne_nil hne
  simp only [createDirectories, enter, if_true, hloc]
  cases T.search loc <;> rfl

/-- How names with a leading `.`, or without, lead to a location that is not the top. -/
def Leads (names l : List String) : Prop := l ≠ [] ∧ "." ∉ l ∧ (names = l ∨ names = "." :: l)

/-- There is room for an entry: the directories on the way are there. -/
def Vacant (T : DirectoryTree) (l : List String) : Prop :=
  T l = none ∧ ∀ l', l' <+: l → l' ≠ l → ∃ mode, T l' = some (.directory mode)

lemma Leads.resolve_eq (h : Leads names l) : T.resolve [] names = T.resolve [] l := by
  obtain ⟨hne, -, rfl | rfl⟩ := h
  · rfl
  · exact resolve_dot hne

lemma resolve_update (hl : "." ∉ l) (entry : TreeEntry) :
    resolve (Function.update T l (some entry)) [] l = T.resolve [] l := by
  refine resolve_congr hl fun l' _ hne => ?_
  simp [Function.update_of_ne hne]

/-- Where there is room, the directory with its mode is a new entry. -/
lemma makeDirectory_eq (umask : ℕ) (h : Leads names l) (hvacant : T.Vacant l) (mode : ℕ) :
    T.makeDirectory umask names mode = T.add l (.directory mode) := by
  obtain ⟨hne, hl, hnames⟩ := h
  have hcreate : T.createDirectories umask [] names = T.add l (.directory (masked umask 0o777)) := by
    obtain ⟨top, htop⟩ := hvacant.2 [] List.nil_prefix hne.symm
    have hplain : T.createDirectories umask [] l = T.add l (.directory (masked umask 0o777)) := by
      obtain ⟨q, n, rfl⟩ : ∃ q n, l = q ++ [n] := ⟨_, _, (List.dropLast_append_getLast hne).symm⟩
      have hq : "." ∉ q ∧ n ≠ "." := by simpa [eq_comm] using hl
      refine createDirectories_append hq.1 hq.2 (fun l' hl' _ => ?_) (by simpa using hvacant.1)
      refine hvacant.2 l' (hl'.trans (List.prefix_append _ _)) fun heq => ?_
      have hlength := hl'.length_le
      simp [heq] at hlength
    rcases hnames with rfl | rfl
    · exact hplain
    · rw [createDirectories_dot htop hne, hplain]
  rw [makeDirectory, hcreate]
  unfold add
  cases hresolve : T.resolve [] l with
  | error e => rfl
  | ok r =>
    obtain ⟨rfl, -⟩ := (resolve_eq_ok hl).mp hresolve
    change (T.create r _ >>= fun T' => T'.chmod names mode) = T.create r _
    unfold create
    split
    · split_ifs
      · change chmod _ names mode = _
        rw [chmod, Leads.resolve_eq ⟨hne, hl, hnames⟩, resolve_update hl, hresolve]
        change setMode _ _ _ = _
        rw [setMode_update]
        rfl
      · rfl
    · rfl
    · rfl

/-- Where there is room, a file that is opened is a new entry. -/
lemma openFile_eq (umask : ℕ) (h : Leads names l) (hvacant : T.Vacant l) (mode : ℕ) :
    T.openFile umask names mode = (do
      let T' ← T.add l (.file (masked umask mode))
      .ok (l, T')) := by
  rw [openFile, h.resolve_eq, add]
  cases hresolve : T.resolve [] l with
  | error e => rfl
  | ok r =>
    obtain ⟨rfl, -⟩ := (resolve_eq_ok h.2.1).mp hresolve
    simp only [bind, Except.bind, hvacant.1]

/-! ### Listings -/

variable {items done rest : List (List String × TreeEntry)} {a b : List String × TreeEntry}

lemma plant_append (T : DirectoryTree) (done rest : List (List String × TreeEntry)) :
    T.plant (done ++ rest) = (T.plant done).plant rest := List.foldl_append

lemma plant_cons (T : DirectoryTree) (a : List String × TreeEntry)
    (rest : List (List String × TreeEntry)) :
    T.plant (a :: rest) = plant (Function.update T a.1 (some a.2)) rest := rfl

lemma plant_of_ne (h : ∀ a ∈ items, a.1 ≠ loc) : T.plant items loc = T loc := by
  induction items generalizing T with
  | nil => rfl
  | cons a items ih =>
    rw [plant_cons, ih fun b hb => h b (List.mem_cons_of_mem a hb),
      Function.update_of_ne (h a List.mem_cons_self).symm]

namespace Listing

/-- A listing of the same locations in which directories stay what they are. -/
lemma of_map_fst {items' : List (List String × TreeEntry)} (h : Listing items)
    (hfst : items'.map Prod.fst = items.map Prod.fst)
    (hdir : ∀ loc mode, (loc, TreeEntry.directory mode) ∈ items →
      ∃ mode', (loc, .directory mode') ∈ items') :
    Listing items' := by
  have hmem : ∀ a ∈ items', ∃ b ∈ items, b.1 = a.1 := fun a ha => by
    have ha' := List.mem_map_of_mem (f := Prod.fst) ha
    rw [hfst] at ha'
    exact List.mem_map.mp ha'
  refine ⟨fun a ha => ?_, ?_, fun a ha hne => ?_⟩
  · obtain ⟨b, hb, heq⟩ := hmem a ha
    exact heq ▸ h.ne_nil b hb
  · have hbefore : (items.map Prod.fst).Pairwise fun l l' => ¬ l' <+: l :=
      List.pairwise_map.mpr h.before
    rw [← hfst] at hbefore
    exact List.pairwise_map.mp hbefore
  · obtain ⟨b, hb, heq⟩ := hmem a ha
    obtain ⟨mode, hp⟩ := h.parent b hb (heq ▸ hne)
    exact heq ▸ hdir _ _ hp

/-- What is listed later does not hold what is listed now. -/
lemma not_prefix (h : Listing (done ++ a :: rest)) (hb : b ∈ rest) : ¬ b.1 <+: a.1 :=
  List.rel_of_pairwise_cons (List.pairwise_append.mp h.before).2.1 hb

lemma not_prefix_done (h : Listing (done ++ a :: rest)) (hb : b ∈ done) : ¬ a.1 <+: b.1 :=
  (List.pairwise_append.mp h.before).2.2 b hb a List.mem_cons_self

lemma plant_mem (h : Listing items) (ha : a ∈ items) : T.plant items a.1 = some a.2 := by
  obtain ⟨done, rest, rfl⟩ := List.append_of_mem ha
  rw [plant_append, plant_cons, plant_of_ne, Function.update_self]
  intro b hb heq
  exact h.not_prefix hb (heq ▸ List.prefix_rfl)

lemma plant_nil (h : Listing items) : T.plant items [] = T [] := plant_of_ne h.ne_nil

/-- The directories above an entry are final when it is created. -/
lemma plant_above (h : Listing (done ++ a :: rest)) (hl' : l' <+: a.1) (hne : l' ≠ a.1) :
    T.plant (done ++ a :: rest) l' = T.plant done l' := by
  rw [plant_append]
  refine plant_of_ne fun b hb heq => ?_
  rcases List.mem_cons.mp hb with rfl | hb
  · exact hne heq.symm
  · exact h.not_prefix hb (heq ▸ hl')

/-- On the way to an entry every directory holds one that is listed. -/
lemma exists_child (h : Listing items) (ha : a ∈ items) (hl' : l' <+: a.1) (hne : l' ≠ a.1) :
    ∃ b ∈ items, b.1 <+: a.1 ∧ b.1.dropLast = l' := by
  induction hk : a.1.length using Nat.strong_induction_on generalizing a with
  | h k ih =>
    have hsplit : a.1 = a.1.dropLast ++ [a.1.getLast (h.ne_nil a ha)] :=
      (List.dropLast_append_getLast _).symm
    by_cases hparent : l' = a.1.dropLast
    · exact ⟨a, ha, List.prefix_rfl, hparent.symm⟩
    · have habove : l' <+: a.1.dropLast := by
        rw [hsplit, List.prefix_concat_iff] at hl'
        exact hl'.resolve_left fun heq => hne (heq.trans hsplit.symm)
      have hdrop : a.1.dropLast ≠ [] := by
        rintro heq
        rw [heq] at habove hparent
        exact hparent (List.prefix_nil.mp habove)
      obtain ⟨mode, hp⟩ := h.parent a ha hdrop
      have hlength : a.1.dropLast.length < k := by
        rw [List.length_dropLast]
        have := List.length_pos_iff.mpr (h.ne_nil a ha)
        omega
      obtain ⟨b, hb, hpre, heq⟩ := ih _ hlength hp habove hparent rfl
      exact ⟨b, hb, hpre.trans (List.dropLast_prefix _), heq⟩

/-- What holds something is a directory. -/
lemma directory_above (h : Listing items) (ha : a ∈ items) (hl' : l' <+: a.1) (hne : l' ≠ a.1) :
    ∃ mode, (empty m).plant items l' = some (.directory mode) := by
  obtain ⟨b, hb, -, rfl⟩ := h.exists_child ha hl' hne
  by_cases hdrop : b.1.dropLast = []
  · exact ⟨m, by rw [hdrop, h.plant_nil]; rfl⟩
  · obtain ⟨mode, hp⟩ := h.parent b hb hdrop
    exact ⟨mode, h.plant_mem hp⟩

lemma vacant (h : Listing items) (hitems : items = done ++ a :: rest) :
    ((empty m).plant done).Vacant a.1 := by
  subst hitems
  have ha : a ∈ done ++ a :: rest := by simp
  refine ⟨?_, fun l' hl' hne => ?_⟩
  · rw [plant_of_ne fun b hb heq => h.not_prefix_done hb (heq ▸ List.prefix_rfl)]
    exact if_neg (h.ne_nil a ha)
  · rw [← h.plant_above hl' hne]
    exact h.directory_above ha hl' hne

/-- When everything before it has been created, an entry can be created exactly if its directory is
writable in the finished tree. -/
lemma add_iff (h : Listing items) (T' : DirectoryTree) (hitems : items = done ++ a :: rest) (hdot : "." ∉ a.1)
    (hdone : ∀ b ∈ done, ((empty m).plant items).ParentWritable b.1) :
    ((empty m).plant done).add a.1 a.2 = .ok T' ↔
      ((empty m).plant items).ParentWritable a.1 ∧ T' = (empty m).plant (done ++ [a]) := by
  have hplant : (empty m).plant (done ++ [a]) =
      Function.update ((empty m).plant done) a.1 (some a.2) := plant_append ..
  subst hitems
  have ha : a ∈ done ++ a :: rest := by simp
  have hparent : ((empty m).plant done).ParentWritable a.1 ↔
      ((empty m).plant (done ++ a :: rest)).ParentWritable a.1 := by
    have hne : a.1.dropLast ≠ a.1 := fun heq => by
      have hlength := congrArg List.length heq
      have hpos := List.length_pos_iff.mpr (h.ne_nil a ha)
      rw [List.length_dropLast] at hlength
      omega
    rw [ParentWritable, ParentWritable, h.plant_above (List.dropLast_prefix _) hne]
  rw [add_eq_ok hdot, hparent, hplant]
  refine and_iff_right_of_imp fun ⟨hwritable, _⟩ l' hl' hne => ?_
  -- the way there leads through directories in which something has been created
  obtain ⟨b, hb, hpre, heq⟩ := h.exists_child ha hl' hne
  have hb' : ((empty m).plant (done ++ a :: rest)).ParentWritable b.1 := by
    rcases List.mem_append.mp hb with hb | hb
    · exact hdone b hb
    · rcases List.mem_cons.mp hb with rfl | hb
      · exact hwritable
      · exact absurd hpre (h.not_prefix hb)
  obtain ⟨mode, hmode, hw⟩ := hb'
  rw [heq, h.plant_above hl' hne] at hmode
  exact search_eq_ok.mpr ⟨mode, hmode, hw.searchable⟩

end Listing

end DirectoryTree
