import Mathlib
import Xcp.Infra.HostPattern
import Xcp.Library.Text

/-!
# Paths on hosts

`host_path`, as the Linux build parses it, and the way in which it comes from the command line. A
path is remote when it begins with a host and a colon, perhaps with a user in front of them; that is
found out in only one way. The command line does not reach the parser directly: the arguments
are extracted from a stream, word by word.
-/

namespace Xcp

open Regex HostPattern Text

/-- `host_path` -/
@[ext]
structure HostPath where
  user : Option String := none
  host : Option String := none
  path : String := ""
  deriving DecidableEq

namespace HostPath

/-! ### The parser -/

/-- `.`, which is no line terminator. -/
def any : Regex Char := set fun c => c ≠ '\n' && c ≠ '\r'

/-- `[^@:]+` -/
def userPattern : Regex Char := plus (set fun c => c ≠ '@' && c ≠ ':')

/-- `re_valid_host` -/
def validHost : Regex Char := validHostname + validIpv6

/-- `(?:([^@:]+)@)?(host):` -/
def remotePattern : Regex Char := opt (group 1 userPattern * lit '@') * group 2 validHost * lit ':'

/-- `(?:^.+)|(?:.*)` -/
def pathPattern : Regex Char := bol * plus any + star any

/-- `re_valid_host_path` -/
def validHostPath : Regex Char :=
  bol * (opt remotePattern * (group 3 pathPattern * eol))

/-- `is_remote` -/
def isRemote (hp : HostPath) : Bool := hp.host.isSome

/-- What group `n` has captured. -/
def captured (m : ℕ → Option (List Char)) (n : ℕ) : String := String.ofList ((m n).getD [])

/-- `host_path::parse`: the path that is left, and what is returned. -/
def parse (hp : HostPath) (value : String) : HostPath × Bool :=
  if value = "" then (hp, false)
  else
    match fullMatch validHostPath value.toList with
    | none   => (hp, false)
    | some m =>
      let hp := { hp with user := if captured m 1 = "" then none else some (captured m 1) }
      let hp := { hp with host := if captured m 2 = "" then none else some (captured m 2) }
      let hp := { hp with path := captured m 3 }
      if hp.path = "" then
        if hp.host = none then (hp, false) else ({ hp with path := "~" }, true)
      else (hp, true)

/-! ### Remote paths -/

/-- There is no line terminator. -/
def OneLine (s : List Char) : Prop := ∀ c ∈ s, c ≠ '\n' ∧ c ≠ '\r'

instance instDecidableOneLine (s : List Char) : Decidable (OneLine s) := List.decidableBAll _ _

/-- `s` is a host `H` and a path `R` behind a colon, with a user `U` in front. -/
structure Remote (s : List Char) (U : Option (List Char)) (H R : List Char) : Prop where
  eq : s = lead '@' U ++ (H ++ ':' :: R)
  user : ∀ u ∈ U, u ≠ [] ∧ ∀ c ∈ u, c ≠ '@' ∧ c ≠ ':'
  host : IsHostname H ∨ H ∈ lang validIpv6

/-- The path that stands for the text behind the colon. -/
def remotePath (R : List Char) : String := if R = [] then "~" else String.ofList R

variable {s H H' R R' : List Char} {U U' : Option (List Char)}

lemma Remote.delimited (h : Remote s U H R) : Delimited H := by
  rcases h.host with hname | hipv6
  · exact delimited_validHostname (mem_lang_validHostname.mpr hname)
  · exact delimited_validIpv6 hipv6

/-- A host in front of a colon does not begin with a user. -/
lemma ne_lead_at (hH : '@' ∉ H) {u v : List Char} (hu : ∀ c ∈ u, c ≠ '@' ∧ c ≠ ':') :
    H ++ ':' :: R ≠ u ++ '@' :: v := by
  intro heq
  rcases List.append_eq_append_iff.mp heq with ⟨t, rfl, ht⟩ | ⟨t, rfl, ht⟩
  · cases t with
    | nil => exact absurd (List.cons.inj ht).1 (by decide)
    | cons c t =>
      obtain ⟨rfl, -⟩ := List.cons.inj ht
      exact (hu ':' (by simp)).2 rfl
  · cases t with
    | nil => exact absurd (List.cons.inj ht).1 (by decide)
    | cons c t =>
      obtain ⟨rfl, -⟩ := List.cons.inj ht
      exact hH (by simp)

/-- A remote path is cut into user, host and path in only one way. -/
lemma Remote.unique (h : Remote s U H R) (h' : Remote s U' H' R') : U = U' ∧ H = H' ∧ R = R' := by
  have heq := h.eq.symm.trans h'.eq
  cases U with
  | none =>
    cases U' with
    | none =>
      obtain ⟨rfl, rfl⟩ := h.delimited.append_colon_inj h'.delimited heq
      exact ⟨rfl, rfl, rfl⟩
    | some u' =>
      simp only [lead, List.nil_append, List.append_assoc, List.singleton_append] at heq
      exact absurd heq (ne_lead_at h.delimited.at_not_mem (h'.user u' rfl).2)
  | some u =>
    cases U' with
    | none =>
      simp only [lead, List.nil_append, List.append_assoc, List.singleton_append] at heq
      exact absurd heq.symm (ne_lead_at h'.delimited.at_not_mem (h.user u rfl).2)
    | some u' =>
      simp only [lead, List.append_assoc, List.singleton_append] at heq
      obtain ⟨rfl, hhost⟩ := append_cons_inj (fun hm => ((h.user u rfl).2 _ hm).1 rfl)
        (fun hm => ((h'.user u' rfl).2 _ hm).1 rfl) heq
      obtain ⟨rfl, rfl⟩ := h.delimited.append_colon_inj h'.delimited hhost
      exact ⟨rfl, rfl, rfl⟩

/-! ### The expression -/

/-- The two last groups of the expression. -/
def tailPattern : Regex Char := group 3 pathPattern * eol

lemma plain_userPattern : Plain userPattern := by
  simp [userPattern]

lemma plain_validHost : Plain validHost := by
  simp [validHost, plain_validHostname, plain_validIpv6]

lemma mem_lang_validHost : H ∈ lang validHost ↔ IsHostname H ∨ H ∈ lang validIpv6 := by
  rw [validHost, lang_add, Language.mem_add, mem_lang_validHostname]

lemma mem_lang_userPattern {u : List Char} :
    u ∈ lang userPattern ↔ u ≠ [] ∧ ∀ c ∈ u, c ≠ '@' ∧ c ≠ ':' := by
  simp [userPattern, mem_lang_plus_set, -lang_plus]

lemma mem_lang_star_any : R ∈ lang (star any) ↔ OneLine R := by
  simp [any, mem_lang_star_set, OneLine, -lang_star]

/-- Both alternatives of the path match within a line. -/
lemma mem_run_pathPattern {c c' : Place Char} :
    c' ∈ run pathPattern c ↔ Reaches (lang (star any)) c c' := by
  have hplus : Plain (plus any) := by simp [any]
  have hstar : Plain (star any) := by simp [any]
  rw [pathPattern, mem_run_add, mem_run_mul, mem_run_plain hstar]
  constructor
  · rintro (⟨d, hd, hc'⟩ | h)
    · obtain ⟨-, rfl⟩ := mem_run_bol.mp hd
      exact ((mem_run_plain hplus).mp hc').mono mul_kstar_le_kstar
    · exact h
  · exact .inr

/-- The last groups take the rest of the line. -/
lemma mem_run_tailPattern {c c' : Place Char} :
    c' ∈ run tailPattern c ∧ c'.rest = [] ↔
      OneLine c.rest ∧ c' = (c.advance c.rest []).capture 3 c.rest := by
  rw [tailPattern, mem_run_mul]
  constructor
  · rintro ⟨⟨d, hd, hc'⟩, hrest⟩
    obtain ⟨-, rfl⟩ := mem_run_eol.mp hc'
    obtain ⟨w, hw, rest, hw', rfl⟩ := (mem_run_group_of fun _ _ => mem_run_pathPattern).mp hd
    obtain rfl : rest = [] := hrest
    rw [List.append_nil] at hw'
    exact ⟨hw' ▸ mem_lang_star_any.mp hw, by rw [hw']⟩
  · rintro ⟨hline, rfl⟩
    refine ⟨⟨_, (mem_run_group_of fun _ _ => mem_run_pathPattern).mpr ⟨c.rest,
      mem_lang_star_any.mpr hline, [], (List.append_nil _).symm, rfl⟩, ?_⟩, rfl⟩
    exact mem_run_eol.mpr ⟨rfl, rfl⟩

/-- The place behind a user `U` and a host `H`. -/
def behindHost (s : List Char) (U : Option (List Char)) (H R : List Char) : Place Char :=
  (((((Place.start s).advance (lead '@' U) (H ++ ':' :: R)).captureOpt 1 U).advance H
    (':' :: R)).capture 2 H).advance [':'] R

lemma mem_run_remotePattern {c : Place Char} :
    c ∈ run remotePattern (.start s) ↔ ∃ U H R, Remote s U H R ∧ c = behindHost s U H R := by
  rw [remotePattern, mem_run_mul]
  simp only [mem_run_mul]
  constructor
  · rintro ⟨d₂, ⟨d₁, h₁, h₂⟩, h₃⟩
    obtain ⟨U, hU, rest₁, hrest₁, rfl⟩ := (mem_run_lead plain_userPattern).mp h₁
    obtain ⟨H, hH, rest₂, hrest₂, rfl⟩ := (mem_run_group plain_validHost).mp h₂
    obtain ⟨R, hR, rfl⟩ := mem_run_lit.mp h₃
    rw [Place.rest_start] at hrest₁
    rw [Place.rest_captureOpt, Place.rest_advance] at hrest₂
    rw [Place.rest_capture, Place.rest_advance] at hR
    subst hrest₂ hR
    exact ⟨U, H, R, ⟨hrest₁, fun u hu => mem_lang_userPattern.mp (hU u hu),
      mem_lang_validHost.mp hH⟩, rfl⟩
  · rintro ⟨U, H, R, h, rfl⟩
    refine ⟨_, ⟨_, (mem_run_lead plain_userPattern).mpr ⟨U,
      fun u hu => mem_lang_userPattern.mpr (h.user u hu), _, h.eq, rfl⟩,
      (mem_run_group plain_validHost).mpr ⟨H, mem_lang_validHost.mpr h.host, ':' :: R, ?_, rfl⟩⟩,
      mem_run_lit.mpr ⟨R, rfl, rfl⟩⟩
    rw [Place.rest_captureOpt, Place.rest_advance]

lemma groups_behindHost (s : List Char) (U : Option (List Char)) (H R : List Char) :
    (behindHost s U H R).groups 1 = U ∧ (behindHost s U H R).groups 2 = some H := by
  constructor
  · rw [behindHost, Place.groups_advance, Place.groups_capture_of_ne _ _ (by decide),
      Place.groups_advance, Place.groups_captureOpt_self _ _ rfl]
  · rw [behindHost, Place.groups_advance, Place.groups_capture_self]

/-- What the groups hold when the path is remote. -/
lemma Remote.fullMatch (h : Remote s U H R) (hline : OneLine R) :
    ∃ m, fullMatch validHostPath s = some m ∧ m 1 = U ∧ m 2 = some H ∧ m 3 = some R := by
  obtain ⟨hmem, hrest⟩ := (mem_run_tailPattern (c := behindHost s U H R)).mpr ⟨hline, rfl⟩
  have hrun := mem_run_mul.mpr ⟨_, mem_run_remotePattern.mpr ⟨U, H, R, h, rfl⟩, hmem⟩
  have hmatch : Regex.fullMatch validHostPath s =
      Regex.fullMatch (remotePattern * tailPattern) s := by
    rw [validHostPath, fullMatch_bol_mul]
    exact fullMatch_add_mul hrun hrest
  rw [hmatch]
  cases hm : Regex.fullMatch (remotePattern * tailPattern) s with
  | none => exact absurd hrest (fullMatch_eq_none.mp hm _ hrun)
  | some m =>
    obtain ⟨c, hc, hcrest, rfl⟩ := exists_of_fullMatch hm
    obtain ⟨d, hd, hcd⟩ := mem_run_mul.mp hc
    obtain ⟨U', H', R', h', rfl⟩ := mem_run_remotePattern.mp hd
    obtain ⟨rfl, rfl, rfl⟩ := h.unique h'
    obtain ⟨-, rfl⟩ := mem_run_tailPattern.mp ⟨hcd, hcrest⟩
    obtain ⟨h₁, h₂⟩ := groups_behindHost s U H R
    refine ⟨_, rfl, ?_, ?_, Place.groups_capture_self ..⟩
    · rw [Place.groups_capture_of_ne _ _ (by decide), Place.groups_advance, h₁]
    · rw [Place.groups_capture_of_ne _ _ (by decide), Place.groups_advance, h₂]

/-- Some remote path with a rest within a line is written so. -/
def IsRemoteText (s : List Char) : Prop := ∃ U H R, Remote s U H R ∧ OneLine R

/-- How the expression can match a path that is not remote. -/
lemma mem_run_of_local (h : ¬ IsRemoteText s) {c : Place Char} :
    c ∈ run (opt remotePattern * tailPattern) (.start s) ∧ c.rest = [] ↔
      OneLine s ∧ c = ((Place.start s).advance s []).capture 3 s := by
  rw [mem_run_mul]
  constructor
  · rintro ⟨⟨d, hd, hc⟩, hrest⟩
    rcases mem_run_opt.mp hd with hd | rfl
    · obtain ⟨U, H, R, hremote, rfl⟩ := mem_run_remotePattern.mp hd
      exact absurd ⟨U, H, R, hremote, (mem_run_tailPattern.mp ⟨hc, hrest⟩).1⟩ h
    · exact mem_run_tailPattern.mp ⟨hc, hrest⟩
  · intro hline
    obtain ⟨hc, hrest⟩ := (mem_run_tailPattern (c := .start s)).mpr hline
    exact ⟨⟨_, mem_run_opt.mpr (.inr rfl), hc⟩, hrest⟩

lemma fullMatch_of_local (h : ¬ IsRemoteText s) (hline : OneLine s) :
    ∃ m, fullMatch validHostPath s = some m ∧ m 1 = none ∧ m 2 = none ∧ m 3 = some s := by
  obtain ⟨hmem, hrest⟩ := (mem_run_of_local h).mpr ⟨hline, rfl⟩
  have hunique := fullMatch_of_unique hmem hrest fun d hd hdrest => by
    rw [((mem_run_of_local h).mp ⟨hd, hdrest⟩).2]
  refine ⟨_, (fullMatch_bol_mul _ _).trans hunique, ?_, ?_, Place.groups_capture_self ..⟩
  · exact Place.groups_capture_of_ne _ _ (by decide)
  · exact Place.groups_capture_of_ne _ _ (by decide)

lemma fullMatch_eq_none_of_local (h : ¬ IsRemoteText s) (hline : ¬ OneLine s) :
    fullMatch validHostPath s = none := by
  rw [validHostPath, fullMatch_bol_mul, fullMatch_eq_none]
  intro c hc hrest
  exact hline ((mem_run_of_local h).mp ⟨hc, hrest⟩).1

/-! ### Parsing -/

variable {hp : HostPath} {t : String}

lemma toList_ne_nil (h : t ≠ "") : t.toList ≠ [] := by
  simpa using h

lemma parse_of_remote (h : Remote t.toList U H R) (hline : OneLine R) :
    hp.parse t = (⟨U.map String.ofList, some (String.ofList H), remotePath R⟩, true) := by
  obtain ⟨m, hm, h₁, h₂, h₃⟩ := h.fullMatch hline
  have hne : t ≠ "" := by
    rintro rfl
    simpa using h.eq
  have huser : (if captured m 1 = "" then none else some (captured m 1)) =
      U.map String.ofList := by
    cases U with
    | none => simp [captured, h₁]
    | some u => simp [captured, h₁, (h.user u rfl).1]
  have hhost : captured m 2 ≠ "" := by simp [captured, h₂, h.delimited.ne_nil]
  simp only [parse, if_neg hne, hm, huser, if_neg hhost]
  by_cases hR : R = []
  · simp [captured, h₂, h₃, hR, remotePath]
  · simp [captured, h₂, h₃, hR, remotePath]

lemma parse_of_local (hne : t ≠ "") (h : ¬ IsRemoteText t.toList) (hline : OneLine t.toList) :
    hp.parse t = (⟨none, none, t⟩, true) := by
  obtain ⟨m, hm, h₁, h₂, h₃⟩ := fullMatch_of_local h hline
  simp [parse, hne, hm, captured, h₁, h₂, h₃]

/-- What the parser refuses: the empty text, and a text of several lines that does not begin with
a host whose path is the rest of a line. -/
lemma parse_eq_false_iff : (hp.parse t).2 = false ↔
    t = "" ∨ ¬ OneLine t.toList ∧ ¬ IsRemoteText t.toList := by
  by_cases hne : t = ""
  · simp [parse, hne]
  by_cases hremote : IsRemoteText t.toList
  · obtain ⟨U, H, R, h, hline⟩ := hremote
    have hremote : IsRemoteText t.toList := ⟨U, H, R, h, hline⟩
    simp [parse_of_remote h hline, hne, hremote]
  · by_cases hline : OneLine t.toList
    · simp [parse_of_local hne hremote hline, hne, hline]
    · simp [parse, hne, fullMatch_eq_none_of_local hremote hline, hline, hremote]

/-- What the parser makes of a text that it accepts. -/
lemma parse_cases (h : (hp.parse t).2 = true) : (hp.parse t).1 = ⟨none, none, t⟩ ∨
    ∃ U H R, Remote t.toList U H R ∧
      (hp.parse t).1 = ⟨U.map String.ofList, some (String.ofList H), remotePath R⟩ := by
  have hnot := mt parse_eq_false_iff.mpr (Bool.not_eq_false _ ▸ h)
  rw [not_or, not_and, not_not] at hnot
  by_cases hremote : IsRemoteText t.toList
  · obtain ⟨U, H, R, hr, hline⟩ := hremote
    exact .inr ⟨U, H, R, hr, by rw [parse_of_remote hr hline]⟩
  · have hline : OneLine t.toList := by
      by_contra hline
      exact hremote (hnot.2 hline)
    exact .inl (by rw [parse_of_local hnot.1 hremote hline])

lemma Remote.head?_eq (h : Remote s U H R) : s.head? = (lead '@' U ++ H).head? := by
  rw [h.eq, ← List.append_assoc, List.head?_append_of_ne_nil]
  simp [h.delimited.ne_nil]

lemma Remote.oneLine (h : Remote s U H R) (hs : OneLine s) : OneLine R := by
  intro c hc
  exact hs c (by rw [h.eq]; simp [hc])

/-- The text of a path: user, host and path. -/
def text (hp : HostPath) : String :=
  (hp.user.elim "" fun user => user ++ "@") ++ (hp.host.elim "" fun host => host ++ ":") ++ hp.path

lemma text_of_remote (h : Remote t.toList U H R) (hR : R ≠ []) :
    text ⟨U.map String.ofList, some (String.ofList H), remotePath R⟩ = t := by
  rw [← String.toList_inj, h.eq, text, remotePath, if_neg hR]
  cases U <;> simp [lead]

/-- Within a line, a path is remote exactly when it begins with a host and a colon, and its parts are
then the ones it is written with; anything else is a local path. -/
theorem parse_hostPath (hp : HostPath) (t : String) (hne : t ≠ "") (hline : OneLine t.toList) :
    (hp.parse t).2 = true ∧
    (∀ U H R, Remote t.toList U H R →
      (hp.parse t).1 = ⟨U.map String.ofList, some (String.ofList H), remotePath R⟩) ∧
    (∀ U H R U' H' R', Remote t.toList U H R → Remote t.toList U' H' R' →
      U = U' ∧ H = H' ∧ R = R') ∧
    ((¬ ∃ U H R, Remote t.toList U H R) → (hp.parse t).1 = ⟨none, none, t⟩) ∧
    ((hp.parse t).1.isRemote = true ↔ ∃ U H R, Remote t.toList U H R) ∧
    (∀ U H R, Remote t.toList U H R → R ≠ [] → (hp.parse t).1.text = t) := by
  have hremote : ∀ {U H R}, Remote t.toList U H R →
      hp.parse t = (⟨U.map String.ofList, some (String.ofList H), remotePath R⟩, true) :=
    fun h => parse_of_remote h (h.oneLine hline)
  have hlocal : (¬ ∃ U H R, Remote t.toList U H R) → hp.parse t = (⟨none, none, t⟩, true) := by
    intro h
    refine parse_of_local hne ?_ hline
    rintro ⟨U, H, R, hr, -⟩
    exact h ⟨U, H, R, hr⟩
  refine ⟨?_, ?_, ?_, ?_, ⟨?_, ?_⟩, ?_⟩
  · rw [← Bool.not_eq_false, parse_eq_false_iff, not_or, not_and]
    exact ⟨hne, absurd hline⟩
  · intro U H R h
    rw [hremote h]
  · intro U H R U' H' R' h h'
    exact h.unique h'
  · intro h
    rw [hlocal h]
  · intro h
    by_contra hnone
    rw [hlocal hnone] at h
    cases h
  · rintro ⟨U, H, R, h⟩
    rw [hremote h]
    rfl
  · intro U H R h hR
    rw [hremote h]
    exact text_of_remote h hR

/-- `u@h:x` is the path `x` of the user `u` on the host `h`. -/
theorem parse_hostPath_userHost :
    (parse {} "u@h:x").2 = true ∧
    (∀ U H R, Remote "u@h:x".toList U H R →
      (parse {} "u@h:x").1 = ⟨U.map String.ofList, some (String.ofList H), remotePath R⟩) ∧
    (∀ U H R U' H' R', Remote "u@h:x".toList U H R → Remote "u@h:x".toList U' H' R' →
      U = U' ∧ H = H' ∧ R = R') ∧
    ((¬ ∃ U H R, Remote "u@h:x".toList U H R) → (parse {} "u@h:x").1 = ⟨none, none, "u@h:x"⟩) ∧
    ((parse {} "u@h:x").1.isRemote = true ↔ ∃ U H R, Remote "u@h:x".toList U H R) ∧
    (∀ U H R, Remote "u@h:x".toList U H R → R ≠ [] → (parse {} "u@h:x").1.text = "u@h:x") :=
  parse_hostPath {} "u@h:x" (by decide) (by decide)

end HostPath

end Xcp
