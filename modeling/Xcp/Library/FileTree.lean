import Mathlib
import Xcp.Library.Path

/-!
# File trees

What a file system holds, how a path leads to a location in it, and what a recursive walk over a
directory visits. A location is the list of the names on the way from the root, without links.
-/

/-- The type that `status` reports; it follows symbolic links. -/
inductive FileType where
  | regular
  | directory
  | notFound
  | block
  | character
  | fifo
  | socket
  | unknown
  deriving DecidableEq, Repr

instance neZero_fileBound : NeZero (2 ^ 63) := ⟨by decide⟩

mutual

/-- What a name of a directory stands for; a size is an `off_t`. -/
inductive Node where
  | regular (size : Fin (2 ^ 63)) (mode : ℕ) (readable : Bool)
  | special
  | link (target : FilePath)
  | directory (mode : ℕ) (readable : Bool) (entries : Entries)

/-- The entries of a directory, in the order in which they are read. -/
inductive Entries where
  | nil
  | cons (name : String) (node : Node) (rest : Entries)

end

open FilePath (Plain)

/-- The entry of the name `n`. -/
def Entries.lookup : Entries → String → Option Node
  | nil, _ => none
  | cons name node rest, n => if name = n then some node else rest.lookup n

/-- The node behind a list of names, without following links. -/
def Node.find : Node → List String → Option Node
  | node, [] => some node
  | directory _ _ entries, n :: l => (entries.lookup n).bind (·.find l)
  | _, _ :: _ => none

mutual

/-- The names in a directory are plain and differ. -/
def Node.WellFormed : Node → Prop
  | .directory _ _ entries => entries.WellFormed
  | _ => True

def Entries.WellFormed : Entries → Prop
  | .nil => True
  | .cons name node rest =>
    Plain name ∧ rest.lookup name = none ∧ node.WellFormed ∧ rest.WellFormed

end

mutual

/-- What `recursive_directory_iterator` visits below a node, with the names that lead there behind
`l`: it does not descend into links, and skips directories that it may not read. -/
def Node.visited : Node → List String → List (List String × Node)
  | .directory _ true entries, l => entries.visited l
  | _, _ => []

def Entries.visited : Entries → List String → List (List String × Node)
  | .nil, _ => []
  | .cons name node rest, l =>
    (l ++ [name], node) :: (node.visited (l ++ [name]) ++ rest.visited l)

end

namespace Node

/-- A directory. -/
def IsDirectory : Node → Prop
  | directory _ _ _ => True
  | _ => False

/-- A symbolic link. -/
def IsLink : Node → Prop
  | link _ => True
  | _ => False

end Node

/-! ### Finding nodes -/

namespace Entries

lemma lookup_wellFormed {es : Entries} (h : es.WellFormed) {n : String} {node : Node}
    (hn : es.lookup n = some node) : Plain n ∧ node.WellFormed := by
  match es with
  | nil => cases hn
  | cons name node' rest =>
    obtain ⟨hname, -, hnode, hrest⟩ := h
    unfold lookup at hn
    split_ifs at hn with heq
    · cases hn
      exact ⟨heq ▸ hname, hnode⟩
    · exact lookup_wellFormed hrest hn

end Entries

namespace Node

variable {node m : Node} {l : List String} {n : String}

@[simp] lemma find_nil (node : Node) : node.find [] = some node := by
  cases node <;> rfl

lemma find_cons_eq_some : node.find (n :: l) = some m ↔ ∃ mode readable entries,
    node = directory mode readable entries ∧ ∃ child, entries.lookup n = some child ∧
      child.find l = some m := by
  cases node with
  | directory mode readable entries => simp [find, Option.bind_eq_some_iff]
  | regular | special | link => simp [find]

lemma find_append (node : Node) (l l' : List String) :
    node.find (l ++ l') = (node.find l).bind (·.find l') := by
  induction l generalizing node with
  | nil => simp
  | cons n l ih =>
    cases node with
    | directory mode readable entries =>
      simp only [List.cons_append, find]
      cases entries.lookup n with
      | none => rfl
      | some child => simpa using ih child
    | regular | special | link => rfl

/-- The names on the way to a node are plain. -/
lemma find_plain (h : node.WellFormed) (hm : node.find l = some m) : ∀ n ∈ l, Plain n := by
  induction l generalizing node with
  | nil => nofun
  | cons n l ih =>
    obtain ⟨mode, readable, entries, rfl, child, hchild, hm⟩ := find_cons_eq_some.mp hm
    have hentries : entries.WellFormed := h
    obtain ⟨hn, hwf⟩ := Entries.lookup_wellFormed hentries hchild
    intro n' hn'
    rcases List.mem_cons.mp hn' with rfl | hn'
    · exact hn
    · exact ih hwf hm n' hn'

lemma find_wellFormed (h : node.WellFormed) (hm : node.find l = some m) : m.WellFormed := by
  induction l generalizing node with
  | nil =>
    obtain rfl : node = m := by simpa using hm
    exact h
  | cons n l ih =>
    obtain ⟨mode, readable, entries, rfl, child, hchild, hm⟩ := find_cons_eq_some.mp hm
    have hentries : entries.WellFormed := h
    exact ih (Entries.lookup_wellFormed hentries hchild).2 hm

/-- The way to a node leads over directories. -/
lemma isDirectory_of_find_append (hm : node.find (l ++ [n]) = some m) :
    ∃ d, node.find l = some d ∧ d.IsDirectory := by
  rw [find_append, Option.bind_eq_some_iff] at hm
  obtain ⟨d, hd, hm⟩ := hm
  obtain ⟨mode, readable, entries, rfl, -⟩ := find_cons_eq_some.mp hm
  exact ⟨_, hd, trivial⟩

/-- The parent of a location is a directory, like the root. -/
lemma isDirectory_dropLast {d : Node} (hroot : node.IsDirectory) (hd : node.find l = some d) :
    ∃ d, node.find l.dropLast = some d ∧ d.IsDirectory := by
  rcases List.eq_nil_or_concat l with rfl | ⟨l, n, rfl⟩
  · exact ⟨node, by simp, hroot⟩
  · rw [List.concat_eq_append, List.dropLast_concat]
    rw [List.concat_eq_append] at hd
    exact isDirectory_of_find_append hd

end Node

/-! ### Walks -/

mutual

/-- What is visited is there. -/
lemma Node.mem_visited (node : Node) (h : node.WellFormed) {l : List String}
    {e : List String × Node} (he : e ∈ node.visited l) :
    ∃ q, q ≠ [] ∧ e.1 = l ++ q ∧ node.find q = some e.2 := by
  match node with
  | .directory mode true entries =>
    obtain ⟨n, q, child, heq, hn, hq⟩ := entries.mem_visited h he
    exact ⟨n :: q, by nofun, heq, Node.find_cons_eq_some.mpr ⟨_, _, _, rfl, child, hn, hq⟩⟩
  | .directory _ false _ | .regular _ _ _ | .special | .link _ => cases he

lemma Entries.mem_visited (es : Entries) (h : es.WellFormed) {l : List String}
    {e : List String × Node} (he : e ∈ es.visited l) :
    ∃ n q child, e.1 = l ++ n :: q ∧ es.lookup n = some child ∧ child.find q = some e.2 := by
  match es with
  | .nil => cases he
  | .cons name node rest =>
    obtain ⟨-, hfresh, hnode, hrest⟩ := h
    rcases List.mem_cons.mp he with rfl | he
    · exact ⟨name, [], node, rfl, by simp [Entries.lookup], by simp⟩
    · rcases List.mem_append.mp he with he | he
      · obtain ⟨q, -, heq, hq⟩ := node.mem_visited hnode he
        exact ⟨name, q, node, by simp [heq], by simp [Entries.lookup], hq⟩
      · obtain ⟨n, q, child, heq, hn, hq⟩ := rest.mem_visited hrest he
        have hne : name ≠ n := by
          rintro rfl
          rw [hfresh] at hn
          cases hn
        exact ⟨n, q, child, heq, by simpa [Entries.lookup, hne] using hn, hq⟩

end

mutual

/-- Nothing is visited twice. -/
lemma Node.visited_pairwise (node : Node) (h : node.WellFormed) (l : List String) :
    (node.visited l).Pairwise fun e e' => e.1 ≠ e'.1 := by
  match node with
  | .directory mode true entries => exact entries.visited_pairwise h l
  | .directory _ false _ | .regular _ _ _ | .special | .link _ => exact .nil

lemma Entries.visited_pairwise (es : Entries) (h : es.WellFormed) (l : List String) :
    (es.visited l).Pairwise fun e e' => e.1 ≠ e'.1 := by
  match es with
  | .nil => exact .nil
  | .cons name node rest =>
    obtain ⟨-, hfresh, hnode, hrest⟩ := h
    -- what is behind another name has another path
    have hother : ∀ e ∈ rest.visited l, ∀ q, l ++ name :: q ≠ e.1 := by
      intro e he q heq
      obtain ⟨n, q', child, heq', hn, -⟩ := rest.mem_visited hrest he
      rw [heq', List.append_cancel_left_eq, List.cons.injEq] at heq
      rw [← heq.1, hfresh] at hn
      cases hn
    refine List.pairwise_cons.mpr ⟨fun e he => ?_, List.pairwise_append.mpr
      ⟨node.visited_pairwise hnode _, rest.visited_pairwise hrest l, fun e he e' he' => ?_⟩⟩
    · rcases List.mem_append.mp he with he | he
      · obtain ⟨q, hne, heq, -⟩ := node.mem_visited hnode he
        rw [heq]
        simpa using hne
      · exact hother e he []
    · obtain ⟨q, -, heq, -⟩ := node.mem_visited hnode he
      rw [heq, List.append_assoc]
      exact hother e' he' q

end

mutual

/-- A directory is visited before what is in it. -/
lemma Node.visited_before (node : Node) (h : node.WellFormed) (l : List String) :
    (node.visited l).Pairwise fun e e' => ¬ e'.1 <+: e.1 := by
  match node with
  | .directory mode true entries => exact entries.visited_before h l
  | .directory _ false _ | .regular _ _ _ | .special | .link _ => exact .nil

lemma Entries.visited_before (es : Entries) (h : es.WellFormed) (l : List String) :
    (es.visited l).Pairwise fun e e' => ¬ e'.1 <+: e.1 := by
  match es with
  | .nil => exact .nil
  | .cons name node rest =>
    obtain ⟨-, hfresh, hnode, hrest⟩ := h
    -- what is behind another name is not on the way to what is behind this one
    have hother : ∀ e ∈ rest.visited l, ∀ q, ¬ e.1 <+: l ++ name :: q := by
      intro e he q hpre
      obtain ⟨n, q', child, heq, hn, -⟩ := rest.mem_visited hrest he
      rw [heq, List.prefix_append_right_inj] at hpre
      obtain ⟨rfl, -⟩ := List.cons_prefix_cons.mp hpre
      rw [hfresh] at hn
      cases hn
    refine List.pairwise_cons.mpr ⟨fun e he => ?_, List.pairwise_append.mpr
      ⟨node.visited_before hnode _, rest.visited_before hrest l, fun e he e' he' => ?_⟩⟩
    · rcases List.mem_append.mp he with he | he
      · obtain ⟨q, hne, heq, -⟩ := node.mem_visited hnode he
        intro hpre
        have hlength : (l ++ [name] ++ q).length ≤ (l ++ [name]).length := heq ▸ hpre.length_le
        rw [List.length_append, List.length_append] at hlength
        exact hne (List.length_eq_zero_iff.mp (by omega))
      · exact hother e he []
    · obtain ⟨q, -, heq, -⟩ := node.mem_visited hnode he
      rw [heq, List.append_assoc]
      exact hother e' he' q

end

mutual

/-- What holds something that is visited is visited. -/
lemma Node.parent_visited (node : Node) {l : List String} {e : List String × Node}
    (he : e ∈ node.visited l) : e.1.dropLast = l ∨ ∃ d, (e.1.dropLast, d) ∈ node.visited l := by
  match node with
  | .directory mode true entries => exact entries.parent_visited he
  | .directory _ false _ | .regular _ _ _ | .special | .link _ => cases he

lemma Entries.parent_visited (es : Entries) {l : List String} {e : List String × Node}
    (he : e ∈ es.visited l) : e.1.dropLast = l ∨ ∃ d, (e.1.dropLast, d) ∈ es.visited l := by
  match es with
  | .nil => cases he
  | .cons name node rest =>
    rcases List.mem_cons.mp he with rfl | he
    · exact .inl (by simp)
    · rcases List.mem_append.mp he with he | he
      · refine .inr ?_
        rcases node.parent_visited he with heq | ⟨d, hd⟩
        · exact ⟨node, heq ▸ List.mem_cons_self⟩
        · exact ⟨d, List.mem_cons_of_mem _ (List.mem_append_left _ hd)⟩
      · refine (rest.parent_visited he).imp_right fun ⟨d, hd⟩ => ⟨d, ?_⟩
        exact List.mem_cons_of_mem _ (List.mem_append_right _ hd)

end

/-- Only a directory holds something. -/
lemma Node.isDirectory_of_find {node m d : Node} {l l' : List String} (hl' : node.find l' = some d)
    (hm : node.find l = some m) (hpre : l' <+: l) (hne : l' ≠ l) : d.IsDirectory := by
  obtain ⟨t, rfl⟩ := hpre
  rw [find_append, hl'] at hm
  cases t with
  | nil => simp at hne
  | cons n t =>
    obtain ⟨mode, readable, entries, rfl, -⟩ := find_cons_eq_some.mp hm
    trivial

/-! ### Resolving paths -/

/-- Why a path leads nowhere. -/
inductive ResolveError where
  | notFound
  | tooManyLinks
  deriving DecidableEq, Repr

/-- A file system, with the working directory of the process and the number of links that a
resolution follows at most. -/
structure FileSystem where
  root : Node
  workingDirectory : List String
  linkLimit : ℕ
  isDirectory : root.IsDirectory
  wellFormed : root.WellFormed
  workingDirectory_isDirectory : ∃ d, root.find workingDirectory = some d ∧ d.IsDirectory

/-- Go from a location along a list of filenames; `follow` goes on behind a link. -/
def Node.resolveWith (root : Node)
    (follow : List String → List String → Except ResolveError (List String)) :
    List String → List String → Except ResolveError (List String)
  | loc, [] => .ok loc
  | loc, n :: rest =>
    if n = "." then root.resolveWith follow loc rest
    else if n = ".." then root.resolveWith follow loc.dropLast rest
    else
      match root.find (loc ++ [n]) with
      | none => .error .notFound
      | some (.link target) => follow (if target.absolute then [] else loc) (target.steps ++ rest)
      | some (.directory _ _ _) => root.resolveWith follow (loc ++ [n]) rest
      | some (.regular _ _ _) | some .special =>
        if rest = [] then .ok (loc ++ [n]) else .error .notFound

/-- Go from a location along a list of filenames, over at most so many links. -/
def Node.resolve (root : Node) : ℕ → List String → List String → Except ResolveError (List String)
  | 0 => root.resolveWith fun _ _ => .error .tooManyLinks
  | k + 1 => root.resolveWith (root.resolve k)

namespace FileSystem

variable (fs : FileSystem)

/-- Where the resolution of a path starts. -/
def start (p : FilePath) : List String := if p.absolute then [] else fs.workingDirectory

/-- `canonical(p)`. -/
def canonical (p : FilePath) : Except ResolveError (List String) :=
  if p = {} then .error .notFound else fs.root.resolve fs.linkLimit (fs.start p) p.steps

/-- `status(p)`, as the node that it tells the type and the permissions of. -/
def status (p : FilePath) : Except ResolveError Node := do
  let loc ← fs.canonical p
  match fs.root.find loc with
  | some node => .ok node
  | none      => .error .notFound

/-- What a recursive walk over a directory visits, with the names below it. -/
def visited (dirPath : FilePath) : List (List String × Node) :=
  match fs.status dirPath with
  | .ok node => node.visited []
  | .error _ => []

/-- `relative(p, base)` for paths that exist. -/
def relative (p base : FilePath) : Except ResolveError FilePath := do
  let loc ← fs.canonical p
  let dir ← fs.canonical base
  pure (FilePath.lexicallyRelative ⟨true, loc⟩ ⟨true, dir⟩)

end FileSystem

namespace Node

variable {root : Node} {loc l q : List String}
  {follow : List String → List String → Except ResolveError (List String)}

/-- The location is one of a directory. -/
def DirectoryAt (root : Node) (loc : List String) : Prop :=
  ∃ d, root.find loc = some d ∧ d.IsDirectory

lemma resolve_eq (root : Node) (k : ℕ) : ∃ follow, root.resolve k = root.resolveWith follow ∧
    ((∀ loc l, follow loc l = .error .tooManyLinks) ∨ ∃ j, j < k ∧ follow = root.resolve j) := by
  cases k with
  | zero => exact ⟨_, rfl, .inl fun _ _ => rfl⟩
  | succ k => exact ⟨_, rfl, .inr ⟨k, Nat.lt_succ_self k, rfl⟩⟩

/-- Along plain names without links a path leads where it says. -/
lemma resolveWith_find {m : Node} (hplain : ∀ n ∈ q, Plain n)
    (hm : root.find (loc ++ q) = some m) (hlink : ¬ m.IsLink) :
    root.resolveWith follow loc q = .ok (loc ++ q) := by
  induction q generalizing loc with
  | nil => simp [resolveWith]
  | cons n q ih =>
    obtain ⟨-, hdot, hdots⟩ := hplain n List.mem_cons_self
    have hsplit : loc ++ n :: q = (loc ++ [n]) ++ q := by simp
    rw [hsplit] at hm ⊢
    have hm' := hm
    rw [find_append, Option.bind_eq_some_iff] at hm
    obtain ⟨child, hchild, hm⟩ := hm
    have hrest := ih (fun n' hn' => hplain n' (List.mem_cons_of_mem n hn')) hm'
    cases child with
    | directory => simpa [resolveWith, hdot, hdots, hchild] using hrest
    | regular | special =>
      cases q with
      | nil => simp [resolveWith, hdot, hdots, hchild]
      | cons => cases hm
    | link target =>
      cases q with
      | nil =>
        obtain rfl : link target = m := by simpa using hm
        exact absurd trivial hlink
      | cons => cases hm

/-- A resolution does not end at a link. -/
lemma resolve_not_link (hroot : root.IsDirectory) {k : ℕ} (hloc : root.DirectoryAt loc)
    (h : root.resolve k loc l = .ok q) : ∃ m, root.find q = some m ∧ ¬ m.IsLink := by
  induction k using Nat.strongRecOn generalizing loc l with
  | ind k ihk =>
  obtain ⟨follow, hk, hfollow⟩ := resolve_eq root k
  rw [hk] at h
  induction l generalizing loc with
  | nil =>
    cases h
    obtain ⟨d, hd, hdir⟩ := hloc
    refine ⟨d, hd, fun hlink => ?_⟩
    cases d <;> first | exact hdir | exact hlink
  | cons n l ih =>
    unfold resolveWith at h
    by_cases hdot : n = "."
    · rw [if_pos hdot] at h
      exact ih hloc h
    · rw [if_neg hdot] at h
      by_cases hdots : n = ".."
      · rw [if_pos hdots] at h
        obtain ⟨d, hd, -⟩ := hloc
        exact ih (isDirectory_dropLast hroot hd) h
      · rw [if_neg hdots] at h
        cases hfind : root.find (loc ++ [n]) with
        | none =>
          rw [hfind] at h
          cases h
        | some child =>
          rw [hfind] at h
          cases child with
          | link target =>
            simp only at h
            rcases hfollow with hnone | ⟨j, hj, rfl⟩
            · rw [hnone] at h
              cases h
            · refine ihk j hj ?_ h
              split_ifs
              · exact ⟨root, by simp, hroot⟩
              · exact hloc
          | directory => exact ih ⟨_, hfind, trivial⟩ h
          | regular | special =>
            simp only at h
            split_ifs at h
            cases h
            exact ⟨_, hfind, id⟩

/-- A path either leads to a directory, from where its continuations go on, or has none. -/
lemma resolve_append (hroot : root.IsDirectory) (k : ℕ) (hloc : root.DirectoryAt loc)
    (l : List String) :
    (∀ q r, root.resolve k loc (l ++ q) = .ok r → q = [] ∧ ¬ root.DirectoryAt r) ∨
      ∃ dir j, root.DirectoryAt dir ∧ ∀ q, root.resolve k loc (l ++ q) = root.resolve j dir q := by
  induction k using Nat.strongRecOn generalizing loc l with
  | ind k ihk =>
  obtain ⟨follow, hk, hfollow⟩ := resolve_eq root k
  induction l generalizing loc with
  | nil => exact .inr ⟨loc, k, hloc, fun _ => rfl⟩
  | cons n l ih =>
    simp only [hk, List.cons_append, resolveWith] at ih ⊢
    by_cases hdot : n = "."
    · simpa only [if_pos hdot] using ih hloc
    · by_cases hdots : n = ".."
      · obtain ⟨d, hd, -⟩ := hloc
        simpa only [if_neg hdot, if_pos hdots] using ih (isDirectory_dropLast hroot hd)
      · simp only [if_neg hdot, if_neg hdots]
        cases hfind : root.find (loc ++ [n]) with
        | none => exact .inl (by nofun)
        | some child =>
          cases child with
          | link target =>
            rcases hfollow with hnone | ⟨j, hj, rfl⟩
            · exact .inl (by simp [hnone])
            · have hstart : root.DirectoryAt (if target.absolute then [] else loc) := by
                split_ifs
                · exact ⟨root, by simp, hroot⟩
                · exact hloc
              have := ihk j hj hstart (target.steps ++ l)
              simpa only [List.append_assoc] using this
          | directory => exact ih ⟨_, hfind, trivial⟩
          | regular | special =>
            refine .inl fun q r h => ?_
            split_ifs at h with hrest
            cases h
            refine ⟨(List.append_eq_nil_iff.mp hrest).2, ?_⟩
            rintro ⟨d, hd, hdir⟩
            cases hd.symm.trans hfind
            exact hdir

end Node

namespace FileSystem

variable {fs : FileSystem} {dirPath : FilePath} {dir q : List String} {d m : Node}

lemma start_directoryAt (fs : FileSystem) (p : FilePath) : fs.root.DirectoryAt (fs.start p) := by
  unfold start
  split_ifs
  · exact ⟨fs.root, by simp, fs.isDirectory⟩
  · exact fs.workingDirectory_isDirectory

/-- What is below a directory is resolved from there. -/
lemma canonical_below (hdir : fs.canonical dirPath = .ok dir) (hd : fs.root.find dir = some d)
    (hd' : d.IsDirectory) (hq : ∀ n ∈ q, Plain n) (hne : q ≠ []) :
    ∃ j, fs.canonical (dirPath / ⟨false, q⟩) = fs.root.resolve j dir q := by
  obtain ⟨absolute, elems⟩ := dirPath
  have hsteps : FilePath.steps ((⟨absolute, elems⟩ : FilePath) / ⟨false, q⟩) =
      (⟨absolute, elems⟩ : FilePath).names ++ q := by
    have hlast : (elems.filter (· ≠ "") ++ q).getLast? ≠ some "" := fun heq => by
      rw [List.getLast?_append_of_ne_nil _ hne] at heq
      exact (hq "" (List.mem_of_mem_getLast? heq)).1 rfl
    rw [FilePath.append_eq hne, FilePath.steps, if_neg hlast, FilePath.names_mk, FilePath.names_mk,
      List.filter_append, List.filter_filter, FilePath.filter_plain hq]
    simp
  have hpath : (⟨absolute, elems⟩ : FilePath) / ⟨false, q⟩ ≠ {} := by
    rw [FilePath.append_eq hne]
    simp [FilePath.mk.injEq, hne]
  have hstart : fs.start (⟨absolute, elems⟩ / ⟨false, q⟩) = fs.start ⟨absolute, elems⟩ := by
    rw [FilePath.append_eq hne]
    rfl
  unfold canonical at hdir ⊢
  rw [if_neg hpath, hsteps, hstart]
  by_cases hempty : (⟨absolute, elems⟩ : FilePath) = {}
  · rw [if_pos hempty] at hdir
    cases hdir
  · rw [if_neg hempty, FilePath.steps] at hdir
    rcases Node.resolve_append fs.isDirectory fs.linkLimit (fs.start_directoryAt _)
      (⟨absolute, elems⟩ : FilePath).names with hnone | ⟨dir', j, -, heq⟩
    · exact absurd ⟨d, hd, hd'⟩ (hnone _ _ hdir).2
    · refine ⟨j, ?_⟩
      rw [heq] at hdir ⊢
      -- a trailing separator does not lead away from the directory
      have hself : fs.root.resolve j dir' (if elems.getLast? = some "" then ["."] else []) =
          .ok dir' := by
        obtain ⟨follow, hfollow, -⟩ := Node.resolve_eq fs.root j
        rw [hfollow]
        split_ifs <;> simp [Node.resolveWith]
      rw [hself] at hdir
      cases hdir
      rfl

/-- The canonical path of an entry that is not a link is its own. -/
lemma canonical_of_find (hdir : fs.canonical dirPath = .ok dir) (hd : fs.root.find dir = some d)
    (hd' : d.IsDirectory) (hne : q ≠ []) (hm : d.find q = some m) (hlink : ¬ m.IsLink) :
    fs.canonical (dirPath / ⟨false, q⟩) = .ok (dir ++ q) := by
  have hq := Node.find_plain (Node.find_wellFormed fs.wellFormed hd) hm
  obtain ⟨j, hj⟩ := canonical_below hdir hd hd' hq hne
  obtain ⟨follow, hfollow, -⟩ := Node.resolve_eq fs.root j
  rw [hj, hfollow]
  refine Node.resolveWith_find hq ?_ hlink
  rwa [Node.find_append, hd]

/-- The canonical path of a link is not its own. -/
lemma canonical_of_link (hdir : fs.canonical dirPath = .ok dir) (hd : fs.root.find dir = some d)
    (hd' : d.IsDirectory) (hne : q ≠ []) (hm : d.find q = some m) (hlink : m.IsLink)
    {r : List String} (hr : fs.canonical (dirPath / ⟨false, q⟩) = .ok r) :
    r ≠ dir ++ q ∧ ∃ m, fs.root.find r = some m := by
  have hq := Node.find_plain (Node.find_wellFormed fs.wellFormed hd) hm
  obtain ⟨j, hj⟩ := canonical_below hdir hd hd' hq hne
  rw [hj] at hr
  obtain ⟨m', hm', hnot⟩ := Node.resolve_not_link fs.isDirectory ⟨d, hd, hd'⟩ hr
  refine ⟨?_, m', hm'⟩
  rintro rfl
  rw [Node.find_append, hd] at hm'
  cases hm.symm.trans hm'
  exact hnot hlink

/-- The node that a path leads to is where its canonical path says. -/
lemma status_of_canonical {p : FilePath} {loc : List String} (h : fs.canonical p = .ok loc)
    (hm : fs.root.find loc = some m) : fs.status p = .ok m := by
  rw [status, h]
  simp only [bind, Except.bind, hm]

lemma status_eq_ok {p : FilePath} (h : fs.status p = .ok m) :
    ∃ loc, fs.canonical p = .ok loc ∧ fs.root.find loc = some m := by
  unfold status at h
  cases hloc : fs.canonical p with
  | error e =>
    rw [hloc] at h
    cases h
  | ok loc =>
    rw [hloc] at h
    refine ⟨loc, rfl, ?_⟩
    change (match fs.root.find loc with | some node => Except.ok node | none => _) = _ at h
    split at h
    · next hfind => cases h; exact hfind
    · cases h

end FileSystem
