import Mathlib
import Xcp.Library.Regex

/-!
# The pattern of a host

`re_valid_hostname` and `re_valid_ipv6`, the two parts of the expressions by which endpoints and
paths on hosts are parsed. A hostname is a sequence of labels with dots between them; an IPv6
address stands in brackets, and what stands in the brackets has neither a bracket nor an `@`.
-/

namespace Xcp

open Regex

namespace HostPattern

/-! ### The expressions -/

/-- `[a-zA-Z0-9]` -/
def alnum : Regex Char := set fun c => c.isAlphanum

/-- `[a-zA-Z0-9\-]` -/
def alnumHyphen : Regex Char := set fun c => c.isAlphanum || c = '-'

/-- `[0-9]` -/
def digit : Regex Char := set fun c => c.isDigit

def isHexDigit (c : Char) : Bool :=
  c.isDigit || ('a' ≤ c && c ≤ 'f') || ('A' ≤ c && c ≤ 'F')

/-- `[0-9a-fA-F]` -/
def hexDigit : Regex Char := set isHexDigit

/-- `(?:[a-zA-Z0-9]|[a-zA-Z0-9][a-zA-Z0-9\-]*[a-zA-Z0-9])` -/
def label : Regex Char := alnum + alnum * star alnumHyphen * alnum

/-- `(?:label\.)*label` -/
def validHostname : Regex Char := star (label * lit '.') * label

/-- `[0-9a-fA-F]{1,4}` -/
def hextet : Regex Char := rep hexDigit 1 4

/-- `(?:hextet:){m,n}` -/
def hextetColon (m n : ℕ) : Regex Char := rep (hextet * lit ':') m n

/-- `(?::hextet){m,n}` -/
def colonHextet (m n : ℕ) : Regex Char := rep (lit ':' * hextet) m n

/-- `(?:25[0-5]|(?:2[0-4]|1?[0-9])?[0-9])` -/
def decimalOctet : Regex Char :=
  lit '2' * lit '5' * set (fun c => '0' ≤ c && c ≤ '5') +
    opt (lit '2' * set (fun c => '0' ≤ c && c ≤ '4') + opt (lit '1') * digit) * digit

/-- `(?:octet\.){3,3}octet` -/
def dottedQuad : Regex Char := rep (decimalOctet * lit '.') 3 3 * decimalOctet

/-- What stands in the brackets. -/
def ipv6Text : Regex Char :=
  hextetColon 7 7 * hextet +
  hextetColon 1 7 * lit ':' +
  hextetColon 1 6 * lit ':' * hextet +
  hextetColon 1 5 * colonHextet 1 2 +
  hextetColon 1 4 * colonHextet 1 3 +
  hextetColon 1 3 * colonHextet 1 4 +
  hextetColon 1 2 * colonHextet 1 5 +
  hextet * lit ':' * colonHextet 1 6 +
  lit ':' * (colonHextet 1 7 + lit ':') +
  lit ':' * lit ':' * opt (rep (set fun c => c = 'F' || c = 'f') 4 4 *
    opt (lit ':' * rep (lit '0') 1 4) * lit ':') * dottedQuad +
  hextetColon 1 4 * lit ':' * dottedQuad

/-- `re_valid_ipv6` -/
def validIpv6 : Regex Char := lit '[' * ipv6Text * lit ']'

lemma plain_label : Plain label := by
  simp [label, alnum, alnumHyphen]

lemma plain_validHostname : Plain validHostname := by
  simp [validHostname, plain_label]

lemma plain_hextet : Plain hextet := Plain.rep (plain_set _) 1 4

lemma plain_hextetColon (m n : ℕ) : Plain (hextetColon m n) :=
  Plain.rep (plain_mul.mpr ⟨plain_hextet, plain_lit _⟩) m n

lemma plain_colonHextet (m n : ℕ) : Plain (colonHextet m n) :=
  Plain.rep (plain_mul.mpr ⟨plain_lit _, plain_hextet⟩) m n

lemma plain_decimalOctet : Plain decimalOctet := by
  simp [decimalOctet, digit]

lemma plain_dottedQuad : Plain dottedQuad :=
  plain_mul.mpr ⟨Plain.rep (plain_mul.mpr ⟨plain_decimalOctet, plain_lit _⟩) 3 3,
    plain_decimalOctet⟩

lemma plain_ipv6Text : Plain ipv6Text := by
  simp [ipv6Text, plain_hextet, plain_hextetColon, plain_colonHextet, plain_dottedQuad, Plain.rep]

lemma plain_validIpv6 : Plain validIpv6 := by
  simp [validIpv6, plain_ipv6Text]

/-! ### Hostnames -/

/-- Letters and digits with hyphens inside. -/
structure IsLabel (l : List Char) : Prop where
  chars : ∀ c ∈ l, c.isAlphanum = true ∨ c = '-'
  head : ∃ c, l.head? = some c ∧ c.isAlphanum = true
  last : ∃ c, l.getLast? = some c ∧ c.isAlphanum = true

/-- Labels with dots between them. -/
def IsHostname (s : List Char) : Prop :=
  ∃ labels : List (List Char), labels ≠ [] ∧ (∀ l ∈ labels, IsLabel l) ∧
    s = ['.'].intercalate labels

lemma mem_lang_label {l : List Char} : l ∈ lang label ↔ IsLabel l := by
  simp only [label, alnum, alnumHyphen, lang_add, lang_mul, Language.mem_add, Language.mem_mul,
    mem_lang_set, mem_lang_star_set]
  constructor
  · rintro (⟨a, ha, rfl⟩ | ⟨_, ⟨_, ⟨a, ha, rfl⟩, v, hv, rfl⟩, _, ⟨b, hb, rfl⟩, rfl⟩)
    · exact ⟨by simp [ha], ⟨a, rfl, ha⟩, ⟨a, rfl, ha⟩⟩
    · refine ⟨?_, ⟨a, rfl, ha⟩, ⟨b, List.getLast?_concat, hb⟩⟩
      intro c hc
      simp only [List.cons_append, List.nil_append, List.mem_cons, List.mem_append,
        List.not_mem_nil, or_false] at hc
      rcases hc with rfl | hc | rfl
      · exact .inl ha
      · simpa using hv c hc
      · exact .inl hb
  · rintro ⟨hchars, ⟨a, ha, haa⟩, b, hb, hbb⟩
    obtain ⟨l, rfl⟩ := List.head?_eq_some_iff.mp ha
    rcases List.eq_nil_or_concat' l with rfl | ⟨v, b', rfl⟩
    · exact .inl ⟨a, haa, rfl⟩
    · rw [← List.cons_append, List.getLast?_concat] at hb
      obtain rfl : b' = b := Option.some.inj hb
      refine .inr ⟨a :: v, ⟨[a], ⟨a, haa, rfl⟩, v, ?_, rfl⟩, [b'], ⟨b', hbb, rfl⟩, rfl⟩
      intro c hc
      simpa using hchars c (by simp [hc])

lemma intercalate_concat (dots : List Char) (labels : List (List Char)) (l : List Char) :
    dots.intercalate (labels ++ [l]) = (labels.map (· ++ dots)).flatten ++ l := by
  induction labels with
  | nil => simp [List.intercalate]
  | cons k labels ih =>
    have hne : labels ++ [l] ≠ [] := by simp
    obtain ⟨m, ms, hms⟩ := List.exists_cons_of_ne_nil hne
    rw [List.cons_append, hms]
    rw [hms] at ih
    simp only [List.intercalate, List.intersperse, List.flatten_cons, List.map_cons] at ih ⊢
    rw [ih]
    simp

/-- The words in front of the last label are the labels there, each with its dot. -/
lemma exists_labels {words : List (List Char)}
    (h : ∀ y ∈ words, ∃ l ∈ lang label, ∃ dot ∈ lang (lit '.'), l ++ dot = y) :
    ∃ labels : List (List Char), (∀ l ∈ labels, IsLabel l) ∧
      labels.map (· ++ ['.']) = words := by
  induction words with
  | nil => exact ⟨[], by simp⟩
  | cons y words ih =>
    rw [List.forall_mem_cons] at h
    obtain ⟨⟨l, hl, dot, hdot, rfl⟩, hwords⟩ := h
    obtain ⟨labels, hlabels, rfl⟩ := ih hwords
    obtain rfl := mem_lang_lit.mp hdot
    exact ⟨l :: labels, List.forall_mem_cons.mpr ⟨mem_lang_label.mp hl, hlabels⟩, rfl⟩

/-- The expression matches exactly the hostnames. -/
lemma mem_lang_validHostname {s : List Char} : s ∈ lang validHostname ↔ IsHostname s := by
  rw [validHostname, lang_mul, lang_star, lang_mul]
  constructor
  · intro h
    obtain ⟨u, hu, l, hl, rfl⟩ := Language.mem_mul.mp h
    obtain ⟨words, rfl, hwords⟩ := Language.mem_kstar.mp hu
    obtain ⟨labels, hlabels, rfl⟩ := exists_labels fun y hy => Language.mem_mul.mp (hwords y hy)
    refine ⟨labels ++ [l], by simp, ?_, (intercalate_concat ..).symm⟩
    intro k hk
    rcases List.mem_append.mp hk with hk | hk
    · exact hlabels k hk
    · rw [List.mem_singleton.mp hk]
      exact mem_lang_label.mp hl
  · rintro ⟨labels, hne, hlabels, rfl⟩
    obtain ⟨labels, l, rfl⟩ := (List.eq_nil_or_concat' labels).resolve_left hne
    rw [intercalate_concat]
    refine Language.mem_mul.mpr ⟨_, Language.mem_kstar.mpr ⟨_, rfl, ?_⟩, l,
      mem_lang_label.mpr (hlabels l (by simp)), rfl⟩
    intro y hy
    obtain ⟨k, hk, rfl⟩ := List.mem_map.mp hy
    exact Language.mem_mul.mpr
      ⟨k, mem_lang_label.mpr (hlabels k (by simp [hk])), _, mem_lang_lit.mpr rfl, rfl⟩

/-! ### Where a host ends -/

/-- What tells a host from what follows it: it has no colon and no bracket, or stands in brackets;
and it has no `@`. -/
def Delimited (H : List Char) : Prop :=
  (H ≠ [] ∧ ∀ c ∈ H, c ≠ '@' ∧ c ≠ ':' ∧ c ≠ '[' ∧ c ≠ ']') ∨
    ∃ t, H = '[' :: (t ++ [']']) ∧ ∀ c ∈ t, c ≠ '@' ∧ c ≠ ']'

lemma ne_of_isAlphanum {c d : Char} (h : c.isAlphanum = true) (hd : d.isAlphanum = false) :
    c ≠ d := by
  rintro rfl
  rw [h] at hd
  cases hd

lemma ne_of_isHexDigit {c d : Char} (h : isHexDigit c = true) (hd : isHexDigit d = false) :
    c ≠ d := by
  rintro rfl
  rw [h] at hd
  cases hd

lemma over_ipv6Text : Over (fun c => c ≠ '@' ∧ c ≠ ']') ipv6Text := by
  have hhextet : Over (fun c => c ≠ '@' ∧ c ≠ ']') hextet :=
    Over.rep (fun c hc => ⟨ne_of_isHexDigit hc rfl, ne_of_isHexDigit hc rfl⟩) 1 4
  have hhextetColon (m n : ℕ) : Over (fun c => c ≠ '@' ∧ c ≠ ']') (hextetColon m n) :=
    Over.rep (over_mul.mpr ⟨hhextet, by simp⟩) m n
  have hcolonHextet (m n : ℕ) : Over (fun c => c ≠ '@' ∧ c ≠ ']') (colonHextet m n) :=
    Over.rep (over_mul.mpr ⟨by simp, hhextet⟩) m n
  have hdigit {p : Char → Bool} (hp : p '@' = false) (hp' : p ']' = false) :
      ∀ c, p c = true → c ≠ '@' ∧ c ≠ ']' := by
    intro c hc
    refine ⟨?_, ?_⟩ <;> rintro rfl <;> simp_all
  have hoctet : Over (fun c => c ≠ '@' ∧ c ≠ ']') decimalOctet := by
    simp only [decimalOctet, digit, over_add, over_mul, over_lit, over_set, over_opt]
    refine ⟨⟨⟨?_, ?_⟩, ?_⟩, ⟨⟨?_, ?_⟩, ?_, ?_⟩, ?_⟩
    all_goals first | exact hdigit rfl rfl | decide
  have hquad : Over (fun c => c ≠ '@' ∧ c ≠ ']') dottedQuad :=
    over_mul.mpr ⟨Over.rep (over_mul.mpr ⟨hoctet, by simp⟩) 3 3, hoctet⟩
  have hff : Over (fun c => c ≠ '@' ∧ c ≠ ']') (rep (set fun c => c = 'F' || c = 'f') 4 4) :=
    Over.rep (over_set.mpr (hdigit rfl rfl)) 4 4
  have hzero : Over (fun c => c ≠ '@' ∧ c ≠ ']') (rep (lit '0') 1 4) := Over.rep (by simp) 1 4
  simp [ipv6Text, hhextet, hhextetColon, hcolonHextet, hquad, hff, hzero]

lemma delimited_validIpv6 {H : List Char} (h : H ∈ lang validIpv6) : Delimited H := by
  rw [validIpv6, lang_mul, lang_mul] at h
  obtain ⟨_, hfront, _, hclose, rfl⟩ := Language.mem_mul.mp h
  obtain ⟨_, hopen, t, ht, rfl⟩ := Language.mem_mul.mp hfront
  rw [mem_lang_lit] at hopen hclose
  subst hopen hclose
  exact .inr ⟨t, by simp, over_ipv6Text.forall_mem ht⟩

lemma delimited_validHostname {H : List Char} (h : H ∈ lang validHostname) : Delimited H := by
  have hover : Over (fun c => c ≠ '@' ∧ c ≠ ':' ∧ c ≠ '[' ∧ c ≠ ']') validHostname := by
    have halnum : ∀ c : Char, c.isAlphanum = true → c ≠ '@' ∧ c ≠ ':' ∧ c ≠ '[' ∧ c ≠ ']' :=
      fun c hc => ⟨ne_of_isAlphanum hc rfl, ne_of_isAlphanum hc rfl, ne_of_isAlphanum hc rfl,
        ne_of_isAlphanum hc rfl⟩
    have hlabel : Over (fun c => c ≠ '@' ∧ c ≠ ':' ∧ c ≠ '[' ∧ c ≠ ']') label := by
      simp only [label, alnum, alnumHyphen, over_add, over_mul, over_star, over_set]
      refine ⟨halnum, ⟨halnum, ?_⟩, halnum⟩
      intro c hc
      rcases Bool.or_eq_true_iff.mp hc with hc | hc
      · exact halnum c hc
      · obtain rfl := of_decide_eq_true hc
        decide
    simp [validHostname, hlabel]
  refine .inl ⟨?_, hover.forall_mem h⟩
  rintro rfl
  obtain ⟨u, -, l, hl, hnil⟩ := Language.mem_mul.mp h
  obtain ⟨c, hc, -⟩ := (mem_lang_label.mp hl).head
  rw [(List.append_eq_nil_iff.mp hnil).2] at hc
  cases hc

lemma append_cons_inj {a : Char} {u u' v v' : List Char} (hu : a ∉ u) (hu' : a ∉ u')
    (h : u ++ a :: v = u' ++ a :: v') : u = u' ∧ v = v' := by
  induction u generalizing u' with
  | nil =>
    cases u' with
    | nil => exact ⟨rfl, (List.cons.inj h).2⟩
    | cons b u' =>
      obtain ⟨rfl, -⟩ := List.cons.inj h
      exact absurd List.mem_cons_self hu'
  | cons b u ih =>
    cases u' with
    | nil =>
      obtain ⟨rfl, -⟩ := List.cons.inj h
      exact absurd List.mem_cons_self hu
    | cons b' u' =>
      obtain ⟨rfl, htail⟩ := List.cons.inj h
      obtain ⟨rfl, rfl⟩ := ih (fun hm => hu (List.mem_cons_of_mem _ hm))
        (fun hm => hu' (List.mem_cons_of_mem _ hm)) htail
      exact ⟨rfl, rfl⟩

namespace Delimited

variable {H H' R R' : List Char}

lemma ne_nil (h : Delimited H) : H ≠ [] := by
  rcases h with ⟨hne, -⟩ | ⟨t, rfl, -⟩
  · exact hne
  · simp

lemma at_not_mem (h : Delimited H) : '@' ∉ H := by
  rcases h with ⟨-, hchars⟩ | ⟨t, rfl, hchars⟩
  · intro hmem
    exact (hchars _ hmem).1 rfl
  · intro hmem
    have hmem : '@' ∈ t := by simpa using hmem
    exact (hchars _ hmem).1 rfl

/-- A host with a colon ends in a bracket. -/
lemma getLast_of_colon (h : Delimited H) (hmem : ':' ∈ H) : H.getLast? = some ']' := by
  rcases h with ⟨-, hchars⟩ | ⟨t, rfl, -⟩
  · exact absurd rfl (hchars _ hmem).2.1
  · rw [← List.cons_append]
    exact List.getLast?_concat

/-- The colon behind a host is found. -/
lemma append_colon_inj (h : Delimited H) (h' : Delimited H') (heq : H ++ ':' :: R = H' ++ ':' :: R') :
    H = H' ∧ R = R' := by
  have hleft {H t R R' : List Char} (hne : H ≠ [])
      (hchars : ∀ c ∈ H, c ≠ '@' ∧ c ≠ ':' ∧ c ≠ '[' ∧ c ≠ ']')
      (heq : H ++ ':' :: R = '[' :: (t ++ [']']) ++ ':' :: R') : False := by
    obtain ⟨c, u, rfl⟩ := List.exists_cons_of_ne_nil hne
    obtain ⟨rfl, -⟩ := List.cons.inj heq
    exact (hchars _ List.mem_cons_self).2.2.1 rfl
  rcases h with ⟨hne, hchars⟩ | ⟨t, rfl, hchars⟩ <;>
    rcases h' with ⟨hne', hchars'⟩ | ⟨t', rfl, hchars'⟩
  · exact append_cons_inj (fun hm => (hchars _ hm).2.1 rfl) (fun hm => (hchars' _ hm).2.1 rfl) heq
  · exact (hleft hne hchars heq).elim
  · exact (hleft hne' hchars' heq.symm).elim
  · simp only [List.cons_append, List.append_assoc, List.nil_append, List.cons.injEq,
      true_and] at heq
    obtain ⟨rfl, h⟩ := append_cons_inj (fun hm => (hchars _ hm).2 rfl)
      (fun hm => (hchars' _ hm).2 rfl) heq
    exact ⟨rfl, (List.cons.inj h).2⟩

end Delimited

end HostPattern

end Xcp
