import Mathlib
import Xcp.Infra.EndpointParse
import Xcp.Infra.Sockaddr

/-!
# Printing addresses

`tcp_sockaddr::to_string`, over any `inet_ntop` that prints IPv6 addresses in one of their usual
forms. Whatever it prints is matched by one of the alternatives of `re_valid_ipv6`, so the text is
parsed as an endpoint with the address as its host.
-/

namespace Xcp

open Archive Bytes Regex HostPattern Text TcpEndpoint

/-! ### The texts of addresses -/

namespace InetText

/-- `%x` -/
def hex (n : ℕ) : List Char := Nat.toDigits 16 n

/-- Groups with colons between them. -/
def groupsText (groups : List ℕ) : List Char := [':'].intercalate (groups.map hex)

/-- Octets with dots between them. -/
def dottedText (bytes : List UInt8) : List Char :=
  ['.'].intercalate (bytes.map fun b => ofNat b.toNat)

/-- The groups of an IPv6 address. -/
def groups : List UInt8 → List ℕ
  | [] | [_] => []
  | high :: low :: bytes => (256 * high.toNat + low.toNat) :: groups bytes

/-- The texts of an IPv6 address: all groups; `::` for two or more zeros in a row; and for an
embedded IPv4 address its dotted form behind `::` or `::ffff:`. -/
inductive Ipv6Text (bytes : List UInt8) : List Char → Prop where
  | full : Ipv6Text bytes (groupsText (groups bytes))
  | gap {front back n} (hn : 2 ≤ n)
      (hgroups : groups bytes = front ++ (List.replicate n 0 ++ back)) :
      Ipv6Text bytes (groupsText front ++ ':' :: ':' :: groupsText back)
  | compatible {tail} (hgroups : groups bytes = List.replicate 6 0 ++ tail) :
      Ipv6Text bytes (':' :: ':' :: dottedText (bytes.drop 12))
  | mapped {tail} (hgroups : groups bytes = List.replicate 5 0 ++ 0xffff :: tail) :
      Ipv6Text bytes (':' :: ':' :: (hex 0xffff ++ ':' :: dottedText (bytes.drop 12)))

end InetText

open InetText

/-- `inet_ntop`, with its text for IPv6 addresses. -/
structure InetNtop where
  ipv6 : Vector UInt8 16 → List Char
  text : ∀ a, Ipv6Text a.toList (ipv6 a)

namespace Sockaddr

variable (ntop : InetNtop) (h : Host)

/-- The text of the address. -/
def addressText : Sockaddr → List Char
  | inet p a      => dottedText ((inet p a).addressBytes h)
  | inet6 _ _ a _ => ntop.ipv6 a

/-- What `inet_ntop` writes to a buffer, if the text and its zero byte fit. -/
def inetNtop (a : Sockaddr) (size : ℕ) : Option (List Char) :=
  if (a.addressText ntop h).length < size then some (a.addressText ntop h) else none

/-- `tcp_sockaddr::to_string` -/
def toString (a : Sockaddr) : String :=
  match a.inetNtop ntop h 64 with
  | none        => "FAILED_TO_STRING"
  | some buffer =>
    match a with
    | inet _ _      => String.ofList buffer ++ ":" ++ String.ofList (ofNat (a.port h))
    | inet6 _ _ _ _ => "[" ++ String.ofList buffer ++ "]:" ++ String.ofList (ofNat (a.port h))

/-- The host that an address is printed as. -/
def hostText (a : Sockaddr) : List Char :=
  match a with
  | inet _ _      => a.addressText ntop h
  | inet6 _ _ _ _ => '[' :: (a.addressText ntop h ++ [']'])

end Sockaddr

/-! ### Groups and octets match -/

namespace InetText

lemma isHexDigit_of_mem_hex {n : ℕ} {c : Char} (hc : c ∈ hex n) : isHexDigit c = true := by
  have hdigit : ∀ d < 16, isHexDigit d.digitChar = true := by decide
  induction n using Nat.strong_induction_on with
  | _ n ih =>
    unfold hex at ih hc
    rcases lt_or_ge n 16 with hlt | hge
    · rw [Nat.toDigits_of_lt_base hlt, List.mem_singleton] at hc
      exact hc ▸ hdigit n hlt
    · rw [Nat.toDigits_of_base_le (by decide) hge, List.mem_append, List.mem_singleton] at hc
      rcases hc with hc | rfl
      · exact ih (n / 16) (by omega) hc
      · exact hdigit _ (Nat.mod_lt _ (by decide))

lemma length_hex_le {n : ℕ} (hn : n < 65536) : (hex n).length ≤ 4 :=
  (Nat.length_toDigits_le_iff (by decide) (by decide)).mpr hn

lemma hex_mem_lang_hextet {n : ℕ} (hn : n < 65536) : hex n ∈ lang hextet := by
  have hflatten : ((hex n).map fun c => [c]).flatten = hex n := by
    rw [← List.flatMap_def, List.flatMap_singleton']
  rw [← hflatten]
  refine flatten_mem_lang_rep (fun w hw => ?_) ?_ ?_
  · obtain ⟨c, hc, rfl⟩ := List.mem_map.mp hw
    exact ⟨c, isHexDigit_of_mem_hex hc, rfl⟩
  · rw [List.length_map]
    exact Nat.length_toDigits_pos
  · rw [List.length_map]
    exact length_hex_le hn

/-- The expression for octets is tried on all of them. -/
lemma octet_mem_lang_decimalOctet (b : UInt8) : ofNat b.toNat ∈ lang decimalOctet := by
  have hall : ∀ n < 256, (fullMatch decimalOctet (ofNat n)).isSome := by decide +kernel
  obtain ⟨g, hg⟩ := Option.isSome_iff_exists.mp (hall b.toNat b.toNat_lt)
  obtain ⟨c, hc, hrest, -⟩ := exists_of_fullMatch hg
  obtain ⟨w, hw, rest, heq, rfl⟩ := (mem_run_plain plain_decimalOctet).mp hc
  rw [Place.rest_advance] at hrest
  rw [Place.rest_start, hrest, List.append_nil] at heq
  rwa [heq]

lemma dottedText_mem_lang {bytes : List UInt8} (hlength : bytes.length = 4) :
    dottedText bytes ∈ lang dottedQuad := by
  obtain ⟨front, b, rfl⟩ := (List.eq_nil_or_concat' bytes).resolve_left (by
    rintro rfl
    cases hlength)
  rw [dottedText, List.map_append, List.map_singleton, intercalate_concat]
  refine append_mem_lang_mul (flatten_mem_lang_rep (fun w hw => ?_) ?_ ?_)
    (octet_mem_lang_decimalOctet b)
  · obtain ⟨u, hu, rfl⟩ := List.mem_map.mp hw
    obtain ⟨b', -, rfl⟩ := List.mem_map.mp hu
    exact append_mem_lang_mul (octet_mem_lang_decimalOctet b') (mem_lang_lit.mpr rfl)
  all_goals simp_all

/-! ### Every form matches -/

variable {bytes : List UInt8} {gs : List ℕ}

lemma lt_of_mem_groups {g : ℕ} (hg : g ∈ groups bytes) : g < 65536 := by
  induction bytes using groups.induct with
  | case1 | case2 => cases hg
  | case3 high low bytes ih =>
    rw [groups, List.mem_cons] at hg
    rcases hg with rfl | hg
    · have hhigh := high.toNat_lt
      have hlow := low.toNat_lt
      omega
    · exact ih hg

lemma length_groups (bytes : List UInt8) : (groups bytes).length = bytes.length / 2 := by
  induction bytes using groups.induct with
  | case1 | case2 => simp [groups]
  | case3 high low bytes ih =>
    simp only [groups, List.length_cons, ih]
    omega

/-- Each group with a colon behind it. -/
def groupsColon (gs : List ℕ) : List Char := (gs.map fun g => hex g ++ [':']).flatten

/-- Each group with a colon in front of it. -/
def colonGroups (gs : List ℕ) : List Char := (gs.map fun g => ':' :: hex g).flatten

lemma groupsText_concat (gs : List ℕ) (g : ℕ) : groupsText (gs ++ [g]) = groupsColon gs ++ hex g := by
  rw [groupsText, List.map_append, List.map_singleton, intercalate_concat, groupsColon, List.map_map]
  rfl

lemma groupsText_colon (hne : gs ≠ []) (t : List Char) :
    groupsText gs ++ ':' :: t = groupsColon gs ++ t := by
  obtain ⟨gs, g, rfl⟩ := (List.eq_nil_or_concat' gs).resolve_left hne
  rw [groupsText_concat]
  simp [groupsColon]

lemma colon_groupsText (hne : gs ≠ []) : ':' :: groupsText gs = colonGroups gs := by
  induction gs with
  | nil => exact absurd rfl hne
  | cons g gs ih =>
    cases gs with
    | nil => simp [groupsText, colonGroups, List.intercalate]
    | cons g' gs =>
      have htail := ih (List.cons_ne_nil g' gs)
      simp only [groupsText, colonGroups, List.map_cons, List.intercalate, List.intersperse,
        List.flatten_cons] at htail ⊢
      rw [← htail]
      simp

lemma groupsColon_mem_lang {m n : ℕ} (hgs : ∀ g ∈ gs, g < 65536) (hm : m ≤ gs.length)
    (hn : gs.length ≤ n) : groupsColon gs ∈ lang (hextetColon m n) := by
  refine flatten_mem_lang_rep (fun w hw => ?_) (by rwa [List.length_map]) (by rwa [List.length_map])
  obtain ⟨g, hg, rfl⟩ := List.mem_map.mp hw
  exact append_mem_lang_mul (hex_mem_lang_hextet (hgs g hg)) (mem_lang_lit.mpr rfl)

lemma colonGroups_mem_lang {m n : ℕ} (hgs : ∀ g ∈ gs, g < 65536) (hm : m ≤ gs.length)
    (hn : gs.length ≤ n) : colonGroups gs ∈ lang (colonHextet m n) := by
  refine flatten_mem_lang_rep (fun w hw => ?_) (by rwa [List.length_map]) (by rwa [List.length_map])
  obtain ⟨g, hg, rfl⟩ := List.mem_map.mp hw
  exact append_mem_lang_mul (u := [':']) (mem_lang_lit.mpr rfl) (hex_mem_lang_hextet (hgs g hg))

/-- All eight groups: the first alternative. -/
lemma full_mem_lang (hgs : ∀ g ∈ gs, g < 65536) (hlength : gs.length = 8) :
    groupsText gs ∈ lang ipv6Text := by
  obtain ⟨gs, g, rfl⟩ := (List.eq_nil_or_concat' gs).resolve_left (by
    rintro rfl
    cases hlength)
  rw [List.length_append, List.length_singleton] at hlength
  rw [groupsText_concat]
  have hfront : ∀ g ∈ gs, g < 65536 := fun g hg => hgs g (List.mem_append_left _ hg)
  have hmem := append_mem_lang_mul
    (groupsColon_mem_lang (m := 7) (n := 7) hfront (by omega) (by omega))
    (hex_mem_lang_hextet (hgs g (by simp)))
  simp only [ipv6Text, lang_add, Language.mem_add, hmem, true_or]

/-- Nothing in front of the gap: the ninth alternative. -/
lemma leading_gap_mem_lang (hgs : ∀ g ∈ gs, g < 65536) (hlength : gs.length ≤ 6) :
    ':' :: ':' :: groupsText gs ∈ lang ipv6Text := by
  have hmem : ':' :: ':' :: groupsText gs ∈ lang (lit ':' * (colonHextet 1 7 + lit ':')) := by
    refine append_mem_lang_mul (u := [':']) (mem_lang_lit.mpr rfl) ?_
    by_cases hne : gs = []
    · subst hne
      exact .inr (mem_lang_lit.mpr rfl)
    · rw [colon_groupsText hne]
      exact .inl (colonGroups_mem_lang hgs (List.length_pos_iff.mpr hne) (by omega))
  simp only [ipv6Text, lang_add, Language.mem_add] at hmem ⊢
  simp only [hmem, true_or, or_true]

/-- Nothing behind the gap: the second alternative. -/
lemma trailing_gap_mem_lang (hgs : ∀ g ∈ gs, g < 65536) (hne : gs ≠ []) (hlength : gs.length ≤ 6) :
    groupsText gs ++ [':', ':'] ∈ lang ipv6Text := by
  rw [groupsText_colon hne]
  have hmem := append_mem_lang_mul
    (groupsColon_mem_lang (n := 7) hgs (List.length_pos_iff.mpr hne) (by omega))
    (mem_lang_lit (a := ':').mpr rfl)
  simp only [ipv6Text, lang_add, Language.mem_add, hmem, true_or, or_true]

/-- One to five groups behind the gap: the third to seventh alternative. -/
lemma inner_gap_mem_lang {front back : List ℕ} (hfront : ∀ g ∈ front, g < 65536)
    (hback : ∀ g ∈ back, g < 65536) (hne : front ≠ []) (hne' : back ≠ [])
    (hlength : front.length + back.length ≤ 6) :
    groupsText front ++ ':' :: ':' :: groupsText back ∈ lang ipv6Text := by
  have hpos := List.length_pos_iff.mpr hne
  have hpos' := List.length_pos_iff.mpr hne'
  rw [groupsText_colon hne]
  rcases Nat.eq_or_lt_of_le (Nat.succ_le_of_lt hpos') with hone | htwo
  · obtain ⟨g, rfl⟩ := List.length_eq_one_iff.mp hone.symm
    have hmem := append_mem_lang_mul (append_mem_lang_mul
      (groupsColon_mem_lang (n := 6) hfront hpos (by omega)) (mem_lang_lit (a := ':').mpr rfl))
      (hex_mem_lang_hextet (hback g (by simp)))
    rw [List.append_assoc] at hmem
    have htext : ':' :: groupsText [g] = [':'] ++ hex g := by
      simp [groupsText, List.intercalate]
    rw [htext]
    simp only [ipv6Text, lang_add, Language.mem_add, hmem, true_or, or_true]
  · rw [colon_groupsText hne']
    have hmem : ∀ k, 2 ≤ k → k ≤ 5 → back.length = k → groupsColon front ++ colonGroups back ∈
        lang (hextetColon 1 (7 - k) * colonHextet 1 k) := fun k _ _ hk =>
      append_mem_lang_mul (groupsColon_mem_lang hfront hpos (by omega))
        (colonGroups_mem_lang hback hpos' hk.le)
    have hlength' : back.length = 2 ∨ back.length = 3 ∨ back.length = 4 ∨ back.length = 5 := by
      omega
    rcases hlength' with hk | hk | hk | hk
    all_goals
      have hmem := hmem _ (by omega) (by omega) rfl
      simp only [hk, Nat.reduceSub] at hmem
      simp only [ipv6Text, lang_add, Language.mem_add, hmem, true_or, or_true]

lemma gap_mem_lang {front back : List ℕ} {n : ℕ} (hgs : ∀ g ∈ gs, g < 65536)
    (hlength : gs.length = 8) (hn : 2 ≤ n) (heq : gs = front ++ (List.replicate n 0 ++ back)) :
    groupsText front ++ ':' :: ':' :: groupsText back ∈ lang ipv6Text := by
  have hfront : ∀ g ∈ front, g < 65536 := fun g hg => hgs g (by simp [heq, hg])
  have hback : ∀ g ∈ back, g < 65536 := fun g hg => hgs g (by simp [heq, hg])
  have hle : front.length + back.length ≤ 6 := by
    simp only [heq, List.length_append, List.length_replicate] at hlength
    omega
  by_cases hne : front = []
  · subst hne
    exact leading_gap_mem_lang hback (by omega)
  · by_cases hne' : back = []
    · subst hne'
      exact trailing_gap_mem_lang hfront hne (by omega)
    · exact inner_gap_mem_lang hfront hback hne hne' hle

/-- An embedded IPv4 address: the tenth alternative, with or without its optional part. -/
lemma embedded_mem_lang {quad : List Char} (hquad : quad ∈ lang dottedQuad) :
    ':' :: ':' :: quad ∈ lang ipv6Text ∧
      ':' :: ':' :: (hex 0xffff ++ ':' :: quad) ∈ lang ipv6Text := by
  have hcolons : [':', ':'] ∈ lang (lit ':' * lit ':') :=
    append_mem_lang_mul (u := [':']) (mem_lang_lit.mpr rfl) (mem_lang_lit.mpr rfl)
  have hembedded : ∀ w ∈ lang (opt (rep (set fun c => c = 'F' || c = 'f') 4 4 *
      opt (lit ':' * rep (lit '0') 1 4) * lit ':')),
        [':', ':'] ++ w ++ quad ∈ lang ipv6Text := by
    intro w hw
    have hmem := append_mem_lang_mul (append_mem_lang_mul hcolons hw) hquad
    simp only [ipv6Text, lang_add, Language.mem_add, hmem, true_or, or_true]
  have hffff : List.flatten (List.replicate 4 ['f']) ∈
      lang (rep (set fun c => c = 'F' || c = 'f') 4 4) := by
    refine flatten_mem_lang_rep (fun w hw => ?_) le_rfl le_rfl
    exact ⟨'f', rfl, List.eq_of_mem_replicate hw⟩
  have hmapped := hembedded _ (mem_lang_opt.mpr (.inl (append_mem_lang_mul
    (append_mem_lang_mul hffff (mem_lang_opt.mpr (.inr rfl))) (mem_lang_lit.mpr rfl))))
  exact ⟨hembedded [] (mem_lang_opt.mpr (.inr rfl)), hmapped⟩

/-- Whatever is printed for an address stands in the expression. -/
lemma Ipv6Text.mem_lang {t : List Char} (h : Ipv6Text bytes t) (hlength : bytes.length = 16) :
    t ∈ lang ipv6Text := by
  have hgroups : (groups bytes).length = 8 := by rw [length_groups, hlength]
  have hlt : ∀ g ∈ groups bytes, g < 65536 := fun g => lt_of_mem_groups
  have hquad : dottedText (bytes.drop 12) ∈ lang dottedQuad :=
    dottedText_mem_lang (by rw [List.length_drop, hlength])
  cases h with
  | full => exact full_mem_lang hlt hgroups
  | gap hn heq => exact gap_mem_lang hlt hgroups hn heq
  | compatible => exact (embedded_mem_lang hquad).1
  | mapped => exact (embedded_mem_lang hquad).2

/-! ### Every text fits -/

lemma length_intercalate_le {c : Char} {words : List (List Char)} {k : ℕ}
    (hwords : ∀ w ∈ words, w.length ≤ k) :
    ([c].intercalate words).length ≤ (k + 1) * words.length := by
  induction words with
  | nil => simp [List.intercalate]
  | cons w words ih =>
    rw [List.forall_mem_cons] at hwords
    have htail := ih hwords.2
    cases words with
    | nil => simp only [List.intercalate, List.intersperse, List.flatten_cons, List.flatten_nil,
        List.append_nil, List.length_singleton]; omega
    | cons w' words =>
      simp only [List.intercalate, List.intersperse, List.flatten_cons, List.length_append,
        List.length_cons, List.length_nil] at htail ⊢
      have hw := hwords.1
      rw [Nat.mul_succ (k + 1) (words.length + 1)]
      omega

lemma length_groupsText_le (hgs : ∀ g ∈ gs, g < 65536) :
    (groupsText gs).length ≤ 5 * gs.length := by
  refine (length_intercalate_le (k := 4) fun w hw => ?_).trans_eq (by rw [List.length_map])
  obtain ⟨g, hg, rfl⟩ := List.mem_map.mp hw
  exact length_hex_le (hgs g hg)

lemma length_dottedText_le (bytes : List UInt8) :
    (dottedText bytes).length ≤ 4 * bytes.length := by
  refine (length_intercalate_le (k := 3) fun w hw => ?_).trans_eq (by rw [List.length_map])
  obtain ⟨b, -, rfl⟩ := List.mem_map.mp hw
  have hb : b.toNat < 10 ^ 3 := b.toNat_lt.trans (by decide)
  exact (Nat.length_toDigits_le_iff (by decide) (by decide)).mpr hb

lemma Ipv6Text.length_lt {t : List Char} (h : Ipv6Text bytes t) (hlength : bytes.length = 16) :
    t.length < 64 := by
  have hgroups : (groups bytes).length = 8 := by rw [length_groups, hlength]
  have hlt : ∀ g ∈ groups bytes, g < 65536 := fun g => lt_of_mem_groups
  have hquad : (dottedText (bytes.drop 12)).length ≤ 16 := by
    refine (length_dottedText_le _).trans ?_
    rw [List.length_drop, hlength]
  cases h with
  | full =>
    have hle := length_groupsText_le hlt
    omega
  | @gap front back n hn heq =>
    have hfront : (groupsText front).length ≤ 5 * front.length :=
      length_groupsText_le fun g hg => hlt g (by simp [heq, hg])
    have hback : (groupsText back).length ≤ 5 * back.length :=
      length_groupsText_le fun g hg => hlt g (by simp [heq, hg])
    simp only [heq, List.length_append, List.length_replicate] at hgroups
    simp only [List.length_append, List.length_cons]
    omega
  | compatible =>
    simp only [List.length_cons]
    omega
  | mapped =>
    have hffff : (hex 0xffff).length = 4 := by decide
    simp only [List.length_append, List.length_cons, hffff]
    omega

end InetText

/-! ### An `inet_ntop` -/

namespace InetText

/-- How many zeros the groups begin with. -/
def zeroRun (gs : List ℕ) : ℕ := (gs.takeWhile fun g => g = 0).length

/-- Where the first of the longest runs of zeros begins. -/
def longestRun (gs : List ℕ) : ℕ :=
  (List.range gs.length).foldl
    (fun base i => if zeroRun (gs.drop base) < zeroRun (gs.drop i) then i else base) 0

/-- The longest run of at least two zeros becomes `::`, unless it precedes an IPv4 address. -/
def printIpv6 (bytes : List UInt8) : List Char :=
  let gs := groups bytes
  let base := longestRun gs
  let len := zeroRun (gs.drop base)
  if len < 2 then groupsText gs
  else if base = 0 ∧ len = 6 then ':' :: ':' :: dottedText (bytes.drop 12)
  else if base = 0 ∧ len = 5 ∧ gs[5]? = some 0xffff then
    ':' :: ':' :: (hex 0xffff ++ ':' :: dottedText (bytes.drop 12))
  else groupsText (gs.take base) ++ ':' :: ':' :: groupsText (gs.drop (base + len))

lemma eq_replicate_append (gs : List ℕ) :
    gs = List.replicate (zeroRun gs) 0 ++ gs.drop (zeroRun gs) := by
  have hsplit : gs.takeWhile (fun g => g = 0) ++ gs.dropWhile (fun g => g = 0) = gs :=
    List.takeWhile_append_dropWhile
  have hzeros : gs.takeWhile (fun g => g = 0) = List.replicate (zeroRun gs) 0 := by
    refine List.eq_replicate_iff.mpr ⟨rfl, fun g hg => ?_⟩
    have hzero := List.mem_takeWhile_imp hg
    simpa using hzero
  have hrest : gs.drop (zeroRun gs) = gs.dropWhile (fun g => g = 0) :=
    (congrArg (List.drop (zeroRun gs)) hsplit).symm.trans (List.drop_left' rfl)
  rw [← hzeros, hrest, hsplit]

lemma printIpv6_text (bytes : List UInt8) : Ipv6Text bytes (printIpv6 bytes) := by
  unfold printIpv6
  simp only
  have hrun := eq_replicate_append ((groups bytes).drop (longestRun (groups bytes)))
  split_ifs with hshort hcompatible hmapped
  · exact .full
  · rw [hcompatible.1, List.drop_zero] at hrun hcompatible
    exact .compatible (by rw [← hcompatible.2]; exact hrun)
  · obtain ⟨hbase, hlen, hffff⟩ := hmapped
    rw [hbase, List.drop_zero] at hrun hlen
    rw [hlen] at hrun
    obtain ⟨hlt, heq⟩ := List.getElem?_eq_some_iff.mp hffff
    rw [List.drop_eq_getElem_cons hlt, heq] at hrun
    exact .mapped hrun
  · refine .gap (not_lt.mp hshort) ?_
    rw [← List.drop_drop, ← hrun, List.take_append_drop]

end InetText

/-- An `inet_ntop` that replaces the first of the longest runs. -/
def InetNtop.ofLongestRun : InetNtop where
  ipv6 a := printIpv6 a.toList
  text a := printIpv6_text a.toList

namespace Sockaddr

variable (ntop : InetNtop) (h : Host) (a : Sockaddr)

lemma inetNtop_eq : a.inetNtop ntop h 64 = some (a.addressText ntop h) := by
  refine if_pos ?_
  cases a with
  | inet p a =>
    refine (length_dottedText_le _).trans_lt ?_
    rw [addressBytes, length_store]
    decide
  | inet6 p f a s => exact (ntop.text a).length_lt (by simp)

lemma toList_toString : (a.toString ntop h).toList =
    a.hostText ntop h ++ suffix ':' (some (ofNat (a.port h))) ++ suffix '@' none := by
  rw [toString, inetNtop_eq]
  cases a <;> simp [hostText, suffix]

/-! ### Printed addresses are endpoints -/

lemma isLabel_of_isNumeral {l : List Char} (hl : IsNumeral l) : IsLabel l := by
  obtain ⟨hne, hdigits⟩ := hl
  have halnum : ∀ c ∈ l, c.isAlphanum = true := fun c hc => by
    rw [Char.isAlphanum, hdigits c hc, Bool.or_true]
  refine ⟨fun c hc => .inl (halnum c hc), ?_, ?_⟩
  · exact ⟨l.head hne, List.head?_eq_some_head hne, halnum _ (List.head_mem hne)⟩
  · exact ⟨l.getLast hne, List.getLast?_eq_some_getLast hne, halnum _ (List.getLast_mem hne)⟩

lemma isHost_hostText : IsHost (a.hostText ntop h) := by
  cases a with
  | inet p a =>
    refine .inr (.inl ⟨_, ?_, fun l hl => ?_, rfl⟩)
    · have hlength : (addressBytes h (inet p a)).length = 4 := length_store _ _ _
      rw [ne_eq, List.map_eq_nil_iff]
      exact List.ne_nil_of_length_pos (by rw [hlength]; decide)
    · obtain ⟨b, -, rfl⟩ := List.mem_map.mp hl
      exact isLabel_of_isNumeral (isNumeral_ofNat _)
  | inet6 p f a s =>
    have hmem := (ntop.text a).mem_lang (by simp)
    exact .inr (.inr (append_mem_lang_mul (u := '[' :: ntop.ipv6 a) (append_mem_lang_mul (u := ['['])
      (mem_lang_lit.mpr rfl) hmem) (mem_lang_lit.mpr rfl)))

lemma port_lt : a.port h < 65536 := by
  rw [port, ntoh_eq h.endian (UInt16.toNat_lt _)]
  have hlt := load_lt .big (store h.endian 2 a.portField.toNat)
  rwa [length_store] at hlt

lemma endpointText : EndpointText (a.toString ntop h).toList (a.hostText ntop h)
    (some (ofNat (a.port h))) none where
  eq := toList_toString ntop h a
  host := isHost_hostText ntop h a
  port p hp := by
    obtain rfl := Option.mem_some.mp hp
    refine .inr ⟨isNumeral_ofNat _, ?_⟩
    rw [value_ofNat]
    exact Nat.le_of_lt_succ (port_lt h a)
  repeats r hr := by cases hr

/-- A printed address is parsed as an endpoint without repeats, with the address as its host and the
port of the address. -/
theorem parse_toString (ep : TcpEndpoint) :
    ep.parse (a.toString ntop h) = ({ ep with
      host := String.ofList (a.hostText ntop h)
      port := some (a.port h)
      repeats := none }, true) := by
  rw [parse_of_text (endpointText ntop h a), Option.map_some, portValue_ofNat, Option.map_none]

/-- An address with two runs of zeros, on a host in little-endian order. -/
def twoRuns : Sockaddr :=
  inet6 (UInt16.ofNat 0xf50a) 0 ⟨#[0x20, 0x01, 0, 0, 0, 0, 0x0d, 0xb8, 0, 0, 0, 0, 0, 0, 0, 1], rfl⟩ 0

theorem parse_toString_twoRuns : ({} : TcpEndpoint).parse "[2001:0:0:db8::1]:2805" =
    ({ host := "[2001:0:0:db8::1]", port := some 2805 }, true) := by
  have htext : twoRuns.toString .ofLongestRun ⟨.little, .w64, 1⟩ = "[2001:0:0:db8::1]:2805" := by
    decide +kernel
  have hhost : twoRuns.hostText .ofLongestRun ⟨.little, .w64, 1⟩ = "[2001:0:0:db8::1]".toList := by
    decide +kernel
  have hport : twoRuns.port ⟨.little, .w64, 1⟩ = 2805 := by decide +kernel
  have hparse := parse_toString .ofLongestRun ⟨.little, .w64, 1⟩ twoRuns {}
  rwa [htext, hhost, hport, String.ofList_toList] at hparse

end Sockaddr

end Xcp
