import Mathlib
import Xcp.HostPath

/-!
# Paths on the command line

CLI11 feeds an argument to a string stream and extracts the `host_path` from it. The extraction reads
a word: white space in front of it is lost, and white space behind it ends it.
-/

namespace Xcp

open HostPath Text

namespace HostArgument

/-- `operator>>(std::istream&, host_path&)`, with what the stream has left; the error is the
`ConversionError` that it throws. -/
def extractHostPath (s : List Char) : Except Unit (HostPath × Extracted) :=
  let value := extract s
  match ({} : HostPath).parse (String.ofList value.word) with
  | (hp, true) => .ok (hp, value)
  | (_, false) => .error ()

/-- `lexical_cast`: the value that is stored, unless the argument is rejected. -/
def lexicalCast (input : String) : Option HostPath :=
  match extractHostPath input.toList with
  | .error _       => none
  | .ok (hp, rest) => if !rest.fail && rest.rest.isEmpty then some hp else none

/-- What `host_path::parse` makes of a string. -/
def parsed (t : String) : Option HostPath :=
  match ({} : HostPath).parse t with
  | (hp, true) => some hp
  | (_, false) => none

/-- White space stands behind a character that is none. -/
def SpaceBehind (s : List Char) : Prop := ∃ u c v, s = u ++ c :: v ∧ isSpace c = true ∧ ¬ Blank u

variable {t : String} {s w u v : List Char}

/-! ### Words -/

lemma NoSpace.oneLine (h : NoSpace s) : OneLine s := by
  intro c hc
  constructor
  · rintro rfl
    exact absurd (h _ hc) (by decide)
  · rintro rfl
    exact absurd (h _ hc) (by decide)

lemma parsed_eq_none_iff : parsed t = none ↔ (({} : HostPath).parse t).2 = false := by
  unfold parsed
  split
  · next heq => simp [heq]
  · next heq => simp [heq]

lemma parsed_of_true (h : (({} : HostPath).parse t).2 = true) :
    parsed t = some (({} : HostPath).parse t).1 := by
  unfold parsed
  split
  · next heq => rw [heq]
  · next heq =>
    rw [heq] at h
    cases h

/-- A word is always parsed. -/
lemma parsed_word (hw : NoSpace w) (hne : w ≠ []) :
    (({} : HostPath).parse (String.ofList w)).2 = true := by
  rw [← Bool.not_eq_false, parse_eq_false_iff, not_or, not_and]
  refine ⟨by simpa using hne, fun hline => absurd ?_ hline⟩
  rw [String.toList_ofList]
  exact NoSpace.oneLine hw

lemma lexicalCast_blank (h : Blank t.toList) : lexicalCast t = none := by
  simp [lexicalCast, extractHostPath, extract_of_blank h, parse]

/-- Behind the first word nothing may follow. -/
lemma lexicalCast_of_extract {rest : List Char} (h : extract t.toList = ⟨w, false, rest⟩)
    (hw : NoSpace w) (hne : w ≠ []) :
    lexicalCast t = if rest = [] then parsed (String.ofList w) else none := by
  have hword := parsed_word hw hne
  unfold lexicalCast extractHostPath parsed
  simp only [h]
  generalize ({} : HostPath).parse (String.ofList w) = r at hword ⊢
  obtain ⟨hp, ok⟩ := r
  obtain rfl : ok = true := hword
  cases rest <;> simp

/-- White space in front of a word is not lost to the parser. -/
lemma parsed_ne (ht : t.toList = u ++ w) (hu : Blank u) (hune : u ≠ []) (hw : NoSpace w)
    (hne : w ≠ []) : parsed t ≠ parsed (String.ofList w) := by
  -- the white space is the first character of one text and not of the other
  have hhead : t.toList.head? ≠ w.head? := by
    obtain ⟨c, u, rfl⟩ := List.exists_cons_of_ne_nil hune
    obtain ⟨d, w, rfl⟩ := List.exists_cons_of_ne_nil hne
    rw [ht]
    intro heq
    obtain rfl : c = d := by simpa using heq
    exact absurd (hu c List.mem_cons_self) (by simp [hw c List.mem_cons_self])
  intro heq
  have hword := parsed_word hw hne
  have ht : (({} : HostPath).parse t).2 = true := by
    rw [← Bool.not_eq_false, ← parsed_eq_none_iff, heq, parsed_eq_none_iff, Bool.not_eq_false]
    exact hword
  rw [parsed_of_true ht, parsed_of_true hword, Option.some.injEq] at heq
  rcases parse_cases ht with hlocal | ⟨U, H, R, hremote, hparse⟩ <;>
    rcases parse_cases hword with hlocal' | ⟨U', H', R', hremote', hparse'⟩
  · rw [hlocal, hlocal'] at heq
    obtain rfl : t = String.ofList w := congrArg HostPath.path heq
    simp at hhead
  · rw [hlocal, hparse'] at heq
    exact absurd (congrArg HostPath.host heq) (by simp)
  · rw [hparse, hlocal'] at heq
    exact absurd (congrArg HostPath.host heq) (by simp)
  · rw [hparse, hparse'] at heq
    have hU : U = U' :=
      Option.map_injective (fun _ _ => String.ofList_injective) (congrArg HostPath.user heq)
    have hH : H = H' :=
      String.ofList_injective (Option.some.inj (congrArg HostPath.host heq))
    rw [String.toList_ofList] at hremote'
    exact hhead (by rw [hremote.head?_eq, hremote'.head?_eq, hU, hH])

/-! ### The two ways -/

/-- The argument is stored as the parser understands it, or rejected because the parser refuses. -/
def Unchanged (t : String) : Prop := lexicalCast t = parsed t

lemma parsed_eq_none_iff_text (h : t ≠ "") :
    parsed t = none ↔ ¬ OneLine t.toList ∧ ¬ IsRemoteText t.toList := by
  rw [parsed_eq_none_iff, parse_eq_false_iff, or_iff_right h]

lemma not_spaceBehind (hu : Blank u) (hw : NoSpace w) : ¬ SpaceBehind (u ++ w) := by
  rintro ⟨a, c, b, heq, hc, ha⟩
  rcases List.append_eq_append_iff.mp heq with ⟨v, rfl, hv⟩ | ⟨v, rfl, hv⟩
  · have hmem : c ∈ w := by simp [hv]
    exact absurd hc (by simp [hw c hmem])
  · exact ha fun d hd => hu d (List.mem_append_left _ hd)

lemma spaceBehind_of_rest {rest : List Char} (hw : NoSpace w) (hne : w ≠ [])
    (hrest : ∀ c ∈ rest.head?, isSpace c = true) (hrne : rest ≠ []) :
    SpaceBehind (u ++ (w ++ rest)) := by
  obtain ⟨c, v, rfl⟩ := List.exists_cons_of_ne_nil hrne
  refine ⟨u ++ w, c, v, by simp, hrest c rfl, fun hblank => ?_⟩
  obtain ⟨d, hd⟩ := List.exists_mem_of_ne_nil w hne
  exact absurd (hblank d (List.mem_append_right _ hd)) (by simp [hw d hd])

/-- An argument reaches the parser unchanged exactly if it has no white space, or both refuse it:
the stream because it is blank or has white space behind something else, and the parser because it
has several lines and does not begin with a host whose path is the rest of a line. -/
theorem unchanged_iff (t : String) : Unchanged t ↔ NoSpace t.toList ∨
    (Blank t.toList ∨ SpaceBehind t.toList) ∧ ¬ OneLine t.toList ∧ ¬ IsRemoteText t.toList := by
  by_cases hempty : t = ""
  · subst hempty
    exact iff_of_true rfl (.inl (by decide))
  rw [Unchanged, ← parsed_eq_none_iff_text hempty]
  by_cases hblank : Blank t.toList
  · -- nothing is extracted
    have hspace : ¬ NoSpace t.toList := by
      intro hno
      obtain ⟨c, hc⟩ := List.exists_mem_of_ne_nil _ (toList_ne_nil hempty)
      exact absurd (hblank c hc) (by simp [hno c hc])
    simp [lexicalCast_blank hblank, hblank, hspace, eq_comm]
  obtain ⟨u, w, rest, ht, hu, hne, hw, hrest, hextract⟩ := exists_word hblank
  rw [lexicalCast_of_extract hextract hw hne]
  by_cases hrne : rest = []
  · -- the word is all that is left behind the white space
    subst hrne
    rw [List.append_nil] at ht
    rw [if_pos rfl]
    by_cases hune : u = []
    · have htw : String.ofList w = t := by
        rw [← String.toList_inj, String.toList_ofList, ht, hune, List.nil_append]
      rw [htw]
      exact iff_of_true rfl (.inl (by rw [ht, hune]; exact hw))
    · refine iff_of_false (parsed_ne ht hu hune hw hne).symm ?_
      rintro (hno | ⟨hstream, -⟩)
      · obtain ⟨c, hc⟩ := List.exists_mem_of_ne_nil u hune
        exact absurd (hu c hc) (by simp [hno c (by simp [ht, hc])])
      · rw [ht] at hstream hblank
        exact hstream.elim hblank (not_spaceBehind hu hw)
  · -- characters are left in the stream
    have hbehind : SpaceBehind t.toList := by
      rw [ht]
      exact spaceBehind_of_rest hw hne hrest hrne
    have hspace : ¬ NoSpace t.toList := by
      obtain ⟨a, c, b, heq, hc, -⟩ := hbehind
      intro hno
      exact absurd hc (by simp [hno c (by simp [heq])])
    simp [hrne, hbehind, hspace, eq_comm]

/-- A path with a blank inside is refused, and a blank in front is cut off. -/
theorem not_unchanged_blank :
    (parsed "a b" = some ⟨none, none, "a b"⟩ ∧ lexicalCast "a b" = none ∧ ¬ Unchanged "a b") ∧
      parsed " a" = some ⟨none, none, " a"⟩ ∧ lexicalCast " a" = some ⟨none, none, "a"⟩ ∧
        ¬ Unchanged " a" := by
  have hinner : parsed "a b" = some ⟨none, none, "a b"⟩ := by decide +kernel
  have hinner' : lexicalCast "a b" = none := by decide +kernel
  have hleading : parsed " a" = some ⟨none, none, " a"⟩ := by decide +kernel
  have hleading' : lexicalCast " a" = some ⟨none, none, "a"⟩ := by decide +kernel
  refine ⟨⟨hinner, hinner', ?_⟩, hleading, hleading', ?_⟩
  · rw [Unchanged, hinner, hinner']
    decide
  · rw [Unchanged, hleading, hleading']
    decide

end HostArgument

end Xcp
