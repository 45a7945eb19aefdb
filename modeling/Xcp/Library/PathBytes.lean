import Mathlib
import Xcp.Library.Path

/-!
# Paths as strings of bytes

The filenames of the path that a string denotes, and of what two paths are joined to. They are read
off the string at its separators; repeated separators and one at the end leave no trace.
-/

namespace FilePath

variable {bytes comp rest : List UInt8} {p q : FilePath}

/-! ### The filenames of a string -/

/-- The filenames in a string: what stands between the separators. -/
def components (bytes : List UInt8) : List String := ((bytes.splitOn 47).filter (· ≠ [])).map text

@[simp] lemma length_text (bytes : List UInt8) : (text bytes).length = bytes.length := by
  simp [text]

lemma text_ne_empty (h : bytes ≠ []) : text bytes ≠ "" := by
  intro heq
  have hlen := congrArg String.length heq
  rw [length_text] at hlen
  exact h (List.length_eq_zero_iff.mp hlen)

lemma toNat_ofNat_byte (b : UInt8) : (Char.ofNat b.toNat).toNat = b.toNat := by
  have hvalid : b.toNat.isValidChar := .inl (b.toNat_lt.trans (by decide))
  simp only [Char.ofNat, dif_pos hvalid]
  rfl

/-- A string is known by its text. -/
lemma text_injective : Function.Injective text := by
  intro l l' h
  have hmap := String.ofList_injective h
  refine List.map_injective_iff.mpr ?_ hmap
  intro b b' hb
  have := congrArg Char.toNat hb
  rw [toNat_ofNat_byte, toNat_ofNat_byte] at this
  exact UInt8.toNat_inj.mp this

@[simp] lemma components_nil : components [] = [] := rfl

@[simp] lemma components_sep (rest : List UInt8) : components (47 :: rest) = components rest := by
  simp [components, List.splitOn_cons_eq_if_modifyHead]

lemma components_of_not_mem (h : 47 ∉ comp) (hne : comp ≠ []) : components comp = [text comp] := by
  simp [components, List.splitOn_eq_singleton h, hne]

lemma components_append_sep (h : 47 ∉ comp) (rest : List UInt8) :
    components (comp ++ 47 :: rest) = components comp ++ components rest := by
  rw [components, List.splitOn_append_cons_self_of_not_mem h, components,
    List.splitOn_eq_singleton h]
  by_cases hne : comp = [] <;> simp [hne, components]

/-- What follows a filename: nothing, or a separator. -/
def Ends (tail : List UInt8) : Prop := tail = [] ∨ ∃ rest, tail = 47 :: rest

/-- The filename in front of what follows it. -/
lemma components_append {tail : List UInt8} (h : 47 ∉ comp) (htail : Ends tail) :
    components (comp ++ tail) = components comp ++ components tail := by
  rcases htail with rfl | ⟨rest, rfl⟩
  · simp
  · rw [components_append_sep h, components_sep]

/-- Every string is a filename, perhaps empty, and what follows it. -/
lemma exists_component (bytes : List UInt8) :
    ∃ comp tail, bytes = comp ++ tail ∧ 47 ∉ comp ∧ Ends tail := by
  by_cases hmem : 47 ∈ bytes
  · obtain ⟨comp, rest, rfl, hcomp⟩ := List.eq_append_cons_of_mem hmem
    exact ⟨comp, 47 :: rest, rfl, hcomp, .inr ⟨rest, rfl⟩⟩
  · exact ⟨bytes, [], by simp, hmem, .inl rfl⟩

lemma absolute_ofBytes : (ofBytes bytes).absolute = true ↔ ∃ rest, bytes = 47 :: rest := by
  cases bytes with
  | nil => simp [ofBytes]
  | cons b bytes => simp [ofBytes]

lemma names_ofBytes (bytes : List UInt8) : (ofBytes bytes).names = components bytes := by
  have htext : ∀ n ∈ components bytes, n ≠ "" := by
    intro n hn
    obtain ⟨l, hl, rfl⟩ := List.mem_map.mp hn
    exact text_ne_empty (by simpa using (List.mem_filter.mp hl).2)
  have hfilter : (components bytes).filter (· ≠ "") = components bytes :=
    List.filter_eq_self.mpr fun n hn => by simpa using htext n hn
  simp only [ofBytes, names, List.filter_append]
  change (components bytes).filter (· ≠ "") ++ _ = _
  rw [hfilter]
  split_ifs <;> simp

/-! ### Joined paths -/

lemma names_div (p q : FilePath) :
    (p / q).names = if q.absolute then q.names else p.names ++ q.names := by
  have hself : p.names.filter (· ≠ "") = p.names := List.filter_filter .. |>.trans (by simp [names])
  change (append p q).names = _
  unfold append
  split_ifs with habs hempty
  · rfl
  · simp only [names_mk, List.filter_append, hself]
    simp [names, hempty.1]
  · simp only [names_mk, List.filter_append, hself]
    rfl

lemma absolute_div (p q : FilePath) : (p / q).absolute = (q.absolute || p.absolute) := by
  change (append p q).absolute = _
  unfold append
  split_ifs with habs
  · simp [habs]
  all_goals simp [Bool.eq_false_iff.mpr habs]

/-- A path whose filenames go on from those of another, and never up, lies inside that one. -/
lemma inside_of_names {l : List String} (habs : q.absolute = p.absolute)
    (hnames : q.names = p.names ++ l) (hup : ".." ∉ l) : Inside p q := by
  refine ⟨habs, l.filter (· ≠ "."), ?_, ?_⟩
  · simp only [normal, hnames, habs, List.foldl_append]
    exact foldl_push_plain _ _ hup
  · intro hmem
    exact hup (List.mem_filter.mp hmem).1

end FilePath
