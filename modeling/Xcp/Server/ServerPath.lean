import Mathlib
import Xcp.Library.PathBytes
import Xcp.Server.HandshakeAborts

/-!
# Where a relative path on the server leads

`fn_portal` tests the requested path for being relative, then cuts a leading `~` off and joins the
rest to the home directory. What is left after the cut need not be relative any more, and the cut is
also made before a backslash, which does not separate filenames on a POSIX system.
-/

namespace Xcp

open FilePath

namespace Server

/-- The filenames without a leading `~`. -/
def dropTilde (names : List String) : List String :=
  if names.head? = some "~" then names.tail else names

/-- A relative path is resolved as it should: to the home directory followed by its filenames, and
so to a place in the home directory unless it goes up. -/
structure BelowHome (home : FilePath) (path : List UInt8) (resolved : FilePath) : Prop where
  absolute : resolved.absolute = true
  names : resolved.names = home.names ++ dropTilde (ofBytes path).names
  isPrefix : home.names <+: resolved.names
  inside : ".." ∉ (ofBytes path).names → Inside home resolved

variable {home resolved : FilePath} {path : List UInt8}

lemma mem_of_mem_dropTilde {n : String} {names : List String} (h : n ∈ dropTilde names) :
    n ∈ names := by
  unfold dropTilde at h
  split_ifs at h
  · exact List.mem_of_mem_tail h
  · exact h

/-- The filenames decide. -/
lemma belowHome_of_names (hhome : home.absolute = true) (habs : resolved.absolute = true)
    (hnames : resolved.names = home.names ++ dropTilde (ofBytes path).names) :
    BelowHome home path resolved where
  absolute := habs
  names := hnames
  isPrefix := ⟨_, hnames.symm⟩
  inside hup := inside_of_names (habs.trans hhome.symm) hnames fun h => hup (mem_of_mem_dropTilde h)

lemma belowHome_div_iff (hhome : home.absolute = true) {rest : List UInt8} :
    BelowHome home path (home / ofBytes rest) ↔
      (if (ofBytes rest).absolute then components rest else home.names ++ components rest) =
        home.names ++ dropTilde (components path) := by
  rw [← names_ofBytes rest, ← names_div, ← names_ofBytes path]
  constructor
  · intro h
    exact h.names
  · intro h
    exact belowHome_of_names hhome (by simp [absolute_div, hhome]) h

/-! ### The leading filename -/

lemma text_tilde : text [126] = "~" := by decide

lemma components_tilde_sep (rest : List UInt8) :
    components (126 :: 47 :: rest) = "~" :: components rest := by
  have h : components ([126] ++ 47 :: rest) = _ := components_append_sep (by decide) rest
  have htilde : components [126] = ["~"] := by rfl
  rwa [htilde] at h

/-- Only `~` itself, or `~` in front of a separator, has `~` for its first filename. -/
lemma dropTilde_components (hrel : ∀ rest, path ≠ 47 :: rest) (hself : path ≠ [126])
    (hsep : ∀ rest, path ≠ 126 :: 47 :: rest) :
    dropTilde (components path) = components path := by
  obtain ⟨comp, tail, rfl, hcomp, htail⟩ := exists_component path
  rw [dropTilde, if_neg]
  intro hhead
  rw [components_append hcomp htail] at hhead
  by_cases hne : comp = []
  · subst hne
    rcases htail with rfl | ⟨rest, rfl⟩
    · simp at hhead
    · exact hrel rest rfl
  · rw [components_of_not_mem hcomp hne, List.singleton_append, List.head?_cons,
      Option.some.injEq, ← text_tilde] at hhead
    obtain rfl := text_injective hhead
    rcases htail with rfl | ⟨rest, rfl⟩
    · exact hself rfl
    · exact hsep rest rfl

/-- In front of a backslash the `~` belongs to a longer filename, which the cut has shortened. -/
lemma not_belowHome_backslash (hhome : home.absolute = true) (rest : List UInt8) :
    ¬ BelowHome home (126 :: 92 :: rest) (home / ofBytes rest) := by
  rw [belowHome_div_iff hhome, dropTilde_components (by simp) (by simp) (by simp)]
  obtain ⟨comp, tail, rfl, hcomp, htail⟩ := exists_component rest
  have hlong : 47 ∉ 126 :: 92 :: comp := by simpa using hcomp
  have hpath : components (126 :: 92 :: (comp ++ tail)) =
      text (126 :: 92 :: comp) :: components tail := by
    have h := components_append hlong htail
    rwa [components_of_not_mem hlong (by simp)] at h
  rw [hpath, components_append hcomp htail]
  intro h
  by_cases hne : comp = []
  · -- a whole filename has gone
    have hlen := congrArg List.length h
    subst hne
    split_ifs at hlen with habs
    · simp only [components_nil, List.nil_append, List.length_append, List.length_cons] at hlen
      omega
    · simp only [components_nil, List.nil_append, List.length_append, List.length_cons] at hlen
      omega
  · rw [components_of_not_mem hcomp hne] at h
    split_ifs at h with habs
    · obtain ⟨rest, hrest⟩ := absolute_ofBytes.mp habs
      cases comp with
      | nil => exact hne rfl
      | cons b comp =>
        cases hrest
        exact hcomp List.mem_cons_self
    · have hhead := (List.cons.inj (List.append_cancel_left h)).1
      have hlen := congrArg List.length (text_injective hhead)
      simp only [List.length_cons] at hlen
      omega

lemma dropTilde_cons (names : List String) : dropTilde ("~" :: names) = names := rfl

/-- The cut path resolves as it should unless the cut was made before a backslash, or has left an
absolute path where the home directory is not the root. -/
lemma belowHome_stripTilde_iff (hhome : home.absolute = true) (hrel : ∀ rest, path ≠ 47 :: rest) :
    BelowHome home path (home / ofBytes (stripTilde path)) ↔
      ¬ [126, 92] <+: path ∧ ([126, 47, 47] <+: path → home.names = []) := by
  unfold stripTilde
  split
  · have htilde : components [126] = ["~"] := rfl
    refine iff_of_true ?_ (by simp)
    rw [belowHome_div_iff hhome, htilde, dropTilde_cons]
    rfl
  · next rest =>
    rw [belowHome_div_iff hhome, components_tilde_sep, dropTilde_cons]
    have hsep : [126, 47, 47] <+: 126 :: 47 :: rest ↔ (ofBytes rest).absolute = true := by
      rw [absolute_ofBytes]
      simp [List.cons_prefix_iff]
    rw [hsep]
    by_cases habs : (ofBytes rest).absolute = true
    · rw [if_pos habs]
      simp [habs]
    · rw [if_neg habs]
      simp [habs]
  · next rest =>
    refine iff_of_false (not_belowHome_backslash hhome rest) ?_
    intro h
    exact h.1 ⟨rest, rfl⟩
  · next hself hsep hback =>
    refine iff_of_true ?_ ⟨?_, ?_⟩
    · have habs : ¬ (ofBytes path).absolute = true := by
        rw [absolute_ofBytes]
        rintro ⟨rest, rfl⟩
        exact hrel rest rfl
      rw [belowHome_div_iff hhome, if_neg habs, dropTilde_components hrel hself hsep]
    · rintro ⟨rest, rfl⟩
      exact hback rest rfl
    · rintro ⟨rest, rfl⟩
      exact absurd rfl (hsep (47 :: rest))

/-- A relative path on the server resolves below the home directory exactly when it does not begin
with `~\`, and begins with `~//` only if the home directory is the root. -/
theorem belowHome_iff {env : Environment} {req : Wire.MessageClientTransferRequest}
    (hrel : (ofBytes req.serverPath).absolute = false)
    (hhome : (ofBytes (homePath env req)).absolute = true) :
    BelowHome (ofBytes (homePath env req)) req.serverPath (serverPath env req) ↔
      ¬ [126, 92] <+: req.serverPath ∧
        ([126, 47, 47] <+: req.serverPath → (ofBytes (homePath env req)).names = []) := by
  have hpath : serverPath env req =
      ofBytes (homePath env req) / ofBytes (stripTilde req.serverPath) := by
    simp [serverPath, hrel]
  rw [hpath]
  refine belowHome_stripTilde_iff hhome fun rest heq => ?_
  rw [absolute_ofBytes.mpr ⟨rest, heq⟩] at hrel
  cases hrel

/-- The surroundings of a server where every user lives in `/h`. -/
def homeEnvironment : Environment :=
  { exampleEnvironment with tryGetHomeByName := fun _ => some [47, 104] }

/-- A download of the given path by the user `u`. -/
def homeRequest (path : List UInt8) : Wire.MessageClientTransferRequest :=
  { downloadRequest 0 with
    serverPath := path
    user := { userName := [117] } }

/-- `~/f` is `/h/f`. -/
theorem belowHome_homeRequest :
    BelowHome (ofBytes (homePath homeEnvironment (homeRequest [126, 47, 102]))) [126, 47, 102]
      (serverPath homeEnvironment (homeRequest [126, 47, 102])) :=
  (@belowHome_iff homeEnvironment (homeRequest [126, 47, 102]) rfl rfl).mpr
    ⟨by decide, by decide⟩

/-- `~//f` is `/f`. -/
theorem not_belowHome_homeRequest :
    serverPath homeEnvironment (homeRequest [126, 47, 47, 102]) = ⟨true, ["f"]⟩ ∧
      ¬ BelowHome (ofBytes (homePath homeEnvironment (homeRequest [126, 47, 47, 102])))
        [126, 47, 47, 102] (serverPath homeEnvironment (homeRequest [126, 47, 47, 102])) := by
  refine ⟨by decide, fun h => absurd h.names ?_⟩
  decide

end Server

end Xcp
