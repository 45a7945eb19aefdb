import Mathlib
import Xcp.Infra.HostPattern
import Xcp.Infra.Network
import Xcp.Library.Text

/-!
# Parsing endpoints

`tcp_endpoint::parse` and `to_string`. The expression cuts the text into the host, the port and the
repeats, in only one way; the numbers are converted behind it, with the errors of `std::stoi`.
-/

namespace Xcp

open Regex HostPattern Text

namespace TcpEndpoint

/-! ### The parser -/

/-- `re_valid_host`, where `*` is a hostname. -/
def validHost : Regex Char := validHostname + lit '*' + validIpv6

/-- `[0-9]+|\*` -/
def portPattern : Regex Char := plus digit + lit '*'

/-- `[1-9][0-9]*` -/
def repeatsPattern : Regex Char := set (fun c => '1' ≤ c && c ≤ '9') * star digit

/-- `re_valid_endpoint` -/
def validEndpoint : Regex Char :=
  bol * group 1 validHost * opt (lit ':' * group 2 portPattern) *
    opt (lit '@' * group 3 repeatsPattern) * eol

/-- The port in the text of group 2; `none` is a return of `false`. -/
def readPort (portStr : List Char) : Except StoiError (Option (Option ℕ)) :=
  if portStr = [] then .ok (some none)
  else if portStr = ['*'] then .ok (some (some 0))
  else do
    let portInt ← stoi portStr
    if portInt < 0 ∨ 65536 ≤ portInt then .ok none
    else .ok (some (some portInt.toNat))

/-- The repeats in the text of group 3. -/
def readRepeats (repeatsStr : List Char) : Except StoiError (Option (Option ℕ)) :=
  if repeatsStr = [] then .ok (some none)
  else do
    let repeatsInt ← stoi repeatsStr
    if repeatsInt ≤ 0 then .ok none
    else .ok (some (some repeatsInt.toNat))

/-- `tcp_endpoint::parse`: the endpoint that is left, and what is returned. Both exceptions of
`std::stoi` are caught. -/
def parse (ep : TcpEndpoint) (value : String) : TcpEndpoint × Bool :=
  match fullMatch validEndpoint value.toList with
  | none   => (ep, false)
  | some m =>
    let ep := { ep with host := String.ofList ((m 1).getD []) }
    match readPort ((m 2).getD []) with
    | .error .invalidArgument | .error .outOfRange | .ok none => (ep, false)
    | .ok (some port) =>
      let ep := { ep with port := port }
      match readRepeats ((m 3).getD []) with
      | .error .invalidArgument | .error .outOfRange | .ok none => (ep, false)
      | .ok (some repeats) => ({ ep with repeats := repeats }, true)

/-- `tcp_endpoint::to_string` -/
def toString (ep : TcpEndpoint) : String :=
  let result := ep.host
  let result := match ep.port with
    | some port => result ++ ":" ++ String.ofList (ofNat port)
    | none      => result
  match ep.repeats with
  | some repeats => result ++ "@" ++ String.ofList (ofNat repeats)
  | none         => result

/-! ### The grammar -/

/-- What can stand for the host. -/
def IsHost (H : List Char) : Prop := H = ['*'] ∨ IsHostname H ∨ H ∈ lang validIpv6

/-- What can stand for the port. -/
def IsPort (P : List Char) : Prop := P = ['*'] ∨ IsNumeral P ∧ value P ≤ 65535

/-- What can stand for the repeats. -/
def IsRepeats (R : List Char) : Prop :=
  IsNumeral R ∧ R.head? ≠ some '0' ∧ 1 ≤ value R ∧ value R < intBound

/-- `s` is the host `H`, the port `P` behind a colon, and the repeats `R` behind an `@`. -/
structure EndpointText (s H : List Char) (P R : Option (List Char)) : Prop where
  eq : s = H ++ suffix ':' P ++ suffix '@' R
  host : IsHost H
  port : ∀ p ∈ P, IsPort p
  repeats : ∀ r ∈ R, IsRepeats r

/-- The number of a port. -/
def portValue (P : List Char) : ℕ := if P = ['*'] then 0 else value P

/-! ### The expression -/

variable {s H H' : List Char} {P P' R R' : Option (List Char)}

lemma mem_lang_validHost : H ∈ lang validHost ↔ IsHost H := by
  rw [validHost, lang_add, lang_add, Language.mem_add, Language.mem_add, mem_lang_validHostname,
    mem_lang_lit, IsHost, or_comm (b := H = ['*']), or_assoc]

lemma delimited_of_isHost (h : IsHost H) : Delimited H := by
  rcases h with rfl | hname | hipv6
  · exact .inl ⟨by simp, by simp⟩
  · exact delimited_validHostname (mem_lang_validHostname.mpr hname)
  · exact delimited_validIpv6 hipv6

/-- The pieces that the expression cuts a text into. -/
structure Pieces (s H : List Char) (P R : Option (List Char)) : Prop where
  eq : s = H ++ suffix ':' P ++ suffix '@' R
  host : IsHost H
  port : ∀ p ∈ P, p ∈ lang portPattern
  repeats : ∀ r ∈ R, r ∈ lang repeatsPattern

lemma plain_validHost : Plain validHost := by
  simp [validHost, plain_validHostname, plain_validIpv6]

lemma plain_portPattern : Plain portPattern := by
  simp [portPattern, digit]

lemma plain_repeatsPattern : Plain repeatsPattern := by
  simp [repeatsPattern, digit]

lemma exists_pieces {c : Place Char} (hc : c ∈ run validEndpoint (.start s)) (hrest : c.rest = []) :
    ∃ H P R, Pieces s H P R ∧ c.groups 1 = some H ∧ c.groups 2 = P ∧ c.groups 3 = R := by
  simp only [validEndpoint, mem_run_mul, mem_run_bol, mem_run_eol] at hc
  obtain ⟨c₃, ⟨c₂, ⟨c₁, ⟨c₀, ⟨-, rfl⟩, h₁⟩, h₂⟩, h₃⟩, -, rfl⟩ := hc
  obtain ⟨H, hH, rest₁, hrest₁, rfl⟩ := (mem_run_group plain_validHost).mp h₁
  obtain ⟨P, hP, rest₂, hrest₂, rfl⟩ := (mem_run_suffix plain_portPattern).mp h₂
  obtain ⟨R, hR, rest₃, hrest₃, rfl⟩ := (mem_run_suffix plain_repeatsPattern).mp h₃
  simp only [Place.rest_start, Place.rest_capture, Place.rest_advance, Place.rest_captureOpt]
    at hrest hrest₁ hrest₂ hrest₃
  refine ⟨H, P, R, ⟨?_, mem_lang_validHost.mp hH, hP, hR⟩, ?_, ?_, ?_⟩
  · rw [hrest₁, hrest₂, hrest₃, hrest, List.append_nil, List.append_assoc]
  · rw [Place.groups_captureOpt_of_ne _ _ (by decide), Place.groups_advance,
      Place.groups_captureOpt_of_ne _ _ (by decide)]
    simp
  · rw [Place.groups_captureOpt_of_ne _ _ (by decide), Place.groups_advance,
      Place.groups_captureOpt_self]
    simp
  · rw [Place.groups_captureOpt_self]
    rw [Place.groups_advance, Place.groups_captureOpt_of_ne _ _ (by decide)]
    simp

lemma Pieces.exists_run (h : Pieces s H P R) :
    ∃ c ∈ run validEndpoint (.start s), c.rest = [] := by
  simp only [validEndpoint, mem_run_mul, mem_run_bol, mem_run_eol]
  have h₁ := (mem_run_group (n := 1) (c := .start s) plain_validHost).mpr
    ⟨H, mem_lang_validHost.mpr h.host, suffix ':' P ++ suffix '@' R,
      by rw [Place.rest_start, h.eq, List.append_assoc], rfl⟩
  have h₂ := (mem_run_suffix (a := ':') (n := 2) (c := ((Place.start s).advance H
    (suffix ':' P ++ suffix '@' R)).capture 1 H) plain_portPattern).mpr
      ⟨P, h.port, suffix '@' R, rfl, rfl⟩
  have h₃ := (mem_run_suffix (a := '@') (n := 3) (c := ((((Place.start s).advance H
    (suffix ':' P ++ suffix '@' R)).capture 1 H).advance (suffix ':' P)
      (suffix '@' R)).captureOpt 2 P) plain_repeatsPattern).mpr
        ⟨R, h.repeats, [], by simp, rfl⟩
  exact ⟨_, ⟨_, ⟨_, ⟨_, ⟨_, ⟨rfl, rfl⟩, h₁⟩, h₂⟩, h₃⟩, by simp, rfl⟩, by simp⟩

/-! ### There is only one way to cut -/

lemma not_mem_of_port {p : List Char} (h : p ∈ lang portPattern) :
    p ≠ [] ∧ ∀ c ∈ p, c ≠ '@' ∧ c ≠ ':' ∧ c ≠ ']' := by
  rw [portPattern, lang_add, Language.mem_add, digit, mem_lang_plus_set, mem_lang_lit] at h
  rcases h with ⟨hne, hdigits⟩ | rfl
  · refine ⟨hne, fun c hc => ⟨?_, ?_, ?_⟩⟩ <;> rintro rfl <;> exact absurd (hdigits _ hc) (by decide)
  · simp

lemma Pieces.at_not_mem (h : Pieces s H P R) : '@' ∉ H ++ suffix ':' P := by
  rw [List.mem_append, not_or]
  refine ⟨(delimited_of_isHost h.host).at_not_mem, ?_⟩
  cases P with
  | none => simp [suffix]
  | some p =>
    intro hmem
    have hmem : '@' ∈ p := by simpa [suffix] using hmem
    exact ((not_mem_of_port (h.port p rfl)).2 _ hmem).1 rfl

/-- A host is no host with a port behind it. -/
lemma isHost_ne_append {p : List Char} (h : IsHost H) (hp : p ∈ lang portPattern) :
    H ≠ H' ++ ':' :: p := by
  rintro rfl
  obtain ⟨hne, hchars⟩ := not_mem_of_port hp
  obtain ⟨v, b, rfl⟩ := (List.eq_nil_or_concat' p).resolve_left hne
  have hlast := (delimited_of_isHost h).getLast_of_colon (by simp)
  rw [← List.cons_append, ← List.append_assoc, List.getLast?_concat] at hlast
  exact (hchars b (by simp)).2.2 (Option.some.inj hlast)

lemma host_port_unique (hH : IsHost H) (hH' : IsHost H') (hP : ∀ p ∈ P, p ∈ lang portPattern)
    (hP' : ∀ p ∈ P', p ∈ lang portPattern) (h : H ++ suffix ':' P = H' ++ suffix ':' P') :
    H = H' ∧ P = P' := by
  cases P with
  | none =>
    cases P' with
    | none => exact ⟨by simpa [suffix] using h, rfl⟩
    | some p' =>
      rw [suffix, List.append_nil] at h
      exact absurd h (isHost_ne_append hH (hP' p' rfl))
  | some p =>
    cases P' with
    | none =>
      rw [suffix, suffix, List.append_nil] at h
      exact absurd h.symm (isHost_ne_append hH' (hP p rfl))
    | some p' =>
      obtain ⟨rfl, rfl⟩ :=
        (delimited_of_isHost hH).append_colon_inj (delimited_of_isHost hH') h
      exact ⟨rfl, rfl⟩

lemma Pieces.unique (h : Pieces s H P R) (h' : Pieces s H' P' R') : H = H' ∧ P = P' ∧ R = R' := by
  have heq : (H ++ suffix ':' P) ++ suffix '@' R = (H' ++ suffix ':' P') ++ suffix '@' R' :=
    h.eq.symm.trans h'.eq
  have hfront : H ++ suffix ':' P = H' ++ suffix ':' P' ∧ R = R' := by
    cases R with
    | none =>
      cases R' with
      | none => exact ⟨by simpa [suffix] using heq, rfl⟩
      | some r' =>
        refine absurd ?_ h.at_not_mem
        rw [suffix, List.append_nil] at heq
        rw [heq]
        simp [suffix]
    | some r =>
      cases R' with
      | none =>
        refine absurd ?_ h'.at_not_mem
        rw [suffix.eq_def _ none, List.append_nil] at heq
        rw [← heq]
        simp [suffix]
      | some r' =>
        obtain ⟨hfront, rfl⟩ := append_cons_inj h.at_not_mem h'.at_not_mem heq
        exact ⟨hfront, rfl⟩
  obtain ⟨rfl, rfl⟩ := host_port_unique h.host h'.host h.port h'.port hfront.1
  exact ⟨rfl, rfl, hfront.2⟩

/-- What the groups hold. -/
lemma Pieces.fullMatch (h : Pieces s H P R) :
    ∃ m, fullMatch validEndpoint s = some m ∧ m 1 = some H ∧ m 2 = P ∧ m 3 = R := by
  obtain ⟨c, hc, hrest⟩ := h.exists_run
  cases hm : Regex.fullMatch validEndpoint s with
  | none => exact absurd hrest (fullMatch_eq_none.mp hm c hc)
  | some m =>
    obtain ⟨d, hd, hdrest, rfl⟩ := exists_of_fullMatch hm
    obtain ⟨H', P', R', h', h₁, h₂, h₃⟩ := exists_pieces hd hdrest
    obtain ⟨rfl, rfl, rfl⟩ := h.unique h'
    exact ⟨d.groups, rfl, h₁, h₂, h₃⟩

/-! ### The numbers -/

lemma readPort_numeral {p : List Char} (hp : IsNumeral p) {port : Option ℕ} :
    readPort p = .ok (some port) ↔ value p ≤ 65535 ∧ port = some (value p) := by
  have hstar : p ≠ ['*'] := by
    rintro rfl
    exact absurd (hp.2 '*' (by simp)) (by decide)
  rw [readPort, if_neg hp.1, if_neg hstar, stoi_numeral hp]
  by_cases hint : value p < 2 ^ 31
  · rw [if_pos hint]
    change (if (value p : ℤ) < 0 ∨ 65536 ≤ (value p : ℤ) then Except.ok none
      else Except.ok (some (some (value p)))) = _ ↔ _
    by_cases hlt : value p ≤ 65535
    · rw [if_neg (by omega)]
      simp [hlt, eq_comm]
    · rw [if_pos (by omega)]
      simp [hlt]
  · rw [if_neg hint]
    refine iff_of_false ?_ (fun h => hint (by omega))
    intro h
    cases h

lemma readRepeats_numeral {r : List Char} (hr : IsNumeral r) (hpos : 1 ≤ value r)
    {repeats : Option ℕ} : readRepeats r = .ok (some repeats) ↔
      value r < intBound ∧ repeats = some (value r) := by
  rw [readRepeats, if_neg hr.1, stoi_numeral hr]
  by_cases hint : value r < 2 ^ 31
  · rw [if_pos hint]
    change (if (value r : ℤ) ≤ 0 then Except.ok none
      else Except.ok (some (some (value r)))) = _ ↔ _
    rw [if_neg (by omega)]
    have hlt : value r < intBound := hint
    simp [hlt, eq_comm]
  · rw [if_neg hint]
    refine iff_of_false ?_ (fun h => hint h.1)
    intro h
    cases h

/-- The port is read if and only if it is one. -/
lemma readPort_eq (h : ∀ p ∈ P, p ∈ lang portPattern) {port : Option ℕ} :
    readPort (P.getD []) = .ok (some port) ↔
      (∀ p ∈ P, IsPort p) ∧ port = P.map portValue := by
  cases P with
  | none => simp [readPort, eq_comm]
  | some p =>
    have hp := h p rfl
    rw [portPattern, lang_add, Language.mem_add, digit, mem_lang_plus_set, mem_lang_lit] at hp
    rcases hp with hp | rfl
    · have hstar : p ≠ ['*'] := by
        rintro rfl
        exact absurd (hp.2 '*' (by simp)) (by decide)
      have hnumeral : IsNumeral p := hp
      simp [readPort_numeral hnumeral, IsPort, portValue, hstar, hnumeral]
    · simp [readPort, portValue, IsPort, eq_comm]

lemma isDigit_iff {c : Char} : c.isDigit = true ↔ '0' ≤ c ∧ c ≤ '9' := by
  simp [Char.isDigit, Char.le_def]

lemma one_le_iff {c : Char} : '1' ≤ c ↔ '0' ≤ c ∧ c ≠ '0' := by
  simp only [Char.le_def, ne_eq, Char.ext_iff, UInt32.le_iff_toNat_le, ← UInt32.toNat_inj]
  have h₀ : '0'.val.toNat = 48 := rfl
  have h₁ : '1'.val.toNat = 49 := rfl
  omega

/-- The repeats are numerals without a leading zero. -/
lemma mem_lang_repeatsPattern {r : List Char} :
    r ∈ lang repeatsPattern ↔ IsNumeral r ∧ r.head? ≠ some '0' := by
  rw [repeatsPattern, lang_mul, digit, Language.mem_mul]
  constructor
  · rintro ⟨_, ⟨c, hc, rfl⟩, v, hv, rfl⟩
    rw [mem_lang_star_set] at hv
    have hc : '1' ≤ c ∧ c ≤ '9' := by simpa using hc
    obtain ⟨hlo, hne⟩ := one_le_iff.mp hc.1
    refine ⟨⟨by simp, ?_⟩, by simpa using hne⟩
    intro d hd
    rcases List.mem_cons.mp hd with rfl | hd
    · exact isDigit_iff.mpr ⟨hlo, hc.2⟩
    · exact hv d hd
  · rintro ⟨⟨hne, hdigits⟩, hhead⟩
    obtain ⟨c, v, rfl⟩ := List.exists_cons_of_ne_nil hne
    rw [List.forall_mem_cons] at hdigits
    obtain ⟨hlo, hhi⟩ := isDigit_iff.mp hdigits.1
    have hone : '1' ≤ c := one_le_iff.mpr ⟨hlo, by simpa using hhead⟩
    exact ⟨[c], ⟨c, by simp [hone, hhi], rfl⟩, v, mem_lang_star_set.mpr hdigits.2, rfl⟩

/-- A numeral without a leading zero is positive. -/
lemma one_le_value {r : List Char} (hr : IsNumeral r) (hhead : r.head? ≠ some '0') :
    1 ≤ value r := by
  obtain ⟨c, v, rfl⟩ := List.exists_cons_of_ne_nil hr.1
  have hc := isDigit_iff.mp (hr.2 c List.mem_cons_self)
  have hone := one_le_iff.mpr ⟨hc.1, by simpa using hhead⟩
  rw [Char.le_def, UInt32.le_iff_toNat_le] at hone
  have h₁ : '1'.val.toNat = 49 := rfl
  have h₀ : '0'.toNat = 48 := rfl
  have hval : 1 ≤ c.toNat - '0'.toNat := by
    change 1 ≤ c.val.toNat - _
    omega
  have hpow : 1 ≤ 10 ^ v.length := Nat.one_le_pow _ _ (by decide)
  rw [value, Nat.ofDigitChars_cons, Nat.ofDigitChars_eq_ofDigitChars_zero, Nat.mul_zero,
    Nat.zero_add]
  exact (Nat.mul_le_mul hpow hval).trans (Nat.le_add_right _ _)

/-- The repeats are read if and only if they are ones. -/
lemma readRepeats_eq (h : ∀ r ∈ R, r ∈ lang repeatsPattern) {repeats : Option ℕ} :
    readRepeats (R.getD []) = .ok (some repeats) ↔
      (∀ r ∈ R, IsRepeats r) ∧ repeats = R.map value := by
  cases R with
  | none => simp [readRepeats, eq_comm]
  | some r =>
    obtain ⟨hnumeral, hhead⟩ := mem_lang_repeatsPattern.mp (h r rfl)
    have hpos := one_le_value hnumeral hhead
    simp [readRepeats_numeral hnumeral hpos, IsRepeats, hnumeral, hhead, hpos]

/-! ### Parsing -/

lemma EndpointText.pieces (h : EndpointText s H P R) : Pieces s H P R where
  eq := h.eq
  host := h.host
  port p hp := by
    rw [portPattern, lang_add, Language.mem_add, digit, mem_lang_plus_set, mem_lang_lit]
    exact (h.port p hp).symm.imp And.left id
  repeats r hr := mem_lang_repeatsPattern.mpr ⟨(h.repeats r hr).1, (h.repeats r hr).2.1⟩

lemma parse_of_text {ep : TcpEndpoint} {s : String} (h : EndpointText s.toList H P R) :
    ep.parse s = ({ ep with
      host := String.ofList H
      port := P.map portValue
      repeats := R.map value }, true) := by
  obtain ⟨m, hm, h₁, rfl, rfl⟩ := h.pieces.fullMatch
  have hport := (readPort_eq h.pieces.port).mpr ⟨h.port, rfl⟩
  have hrepeats := (readRepeats_eq h.pieces.repeats).mpr ⟨h.repeats, rfl⟩
  simp only [parse, hm, hport, hrepeats, h₁, Option.getD_some]

lemma exists_text_of_parse {ep : TcpEndpoint} {s : String} (h : (ep.parse s).2 = true) :
    ∃ H P R, EndpointText s.toList H P R := by
  unfold parse at h
  split at h
  · cases h
  · next m hm =>
    obtain ⟨c, hc, hrest, rfl⟩ := exists_of_fullMatch hm
    obtain ⟨H, P, R, hpieces, -, h₂, h₃⟩ := exists_pieces hc hrest
    rw [h₂, h₃] at h
    simp only at h
    split at h
    iterate 3 cases h
    next port hport =>
    split at h
    iterate 3 cases h
    next repeats hrepeats =>
    exact ⟨H, P, R, hpieces.eq, hpieces.host, ((readPort_eq hpieces.port).mp hport).1,
      ((readRepeats_eq hpieces.repeats).mp hrepeats).1⟩

/-! ### Writing -/

lemma toList_toString (ep : TcpEndpoint) : ep.toString.toList =
    ep.host.toList ++ suffix ':' (ep.port.map ofNat) ++ suffix '@' (ep.repeats.map ofNat) := by
  obtain ⟨host, port, repeats, resolved⟩ := ep
  cases port <;> cases repeats <;> simp [toString, suffix]

lemma portValue_ofNat (n : ℕ) : portValue (ofNat n) = n := by
  rw [portValue, if_neg, value_ofNat]
  intro h
  have hdigit := (isNumeral_ofNat n).2
  rw [h] at hdigit
  exact absurd (hdigit '*' (by simp)) (by decide)

lemma portValue_le {p : List Char} (h : IsPort p) : portValue p ≤ 65535 := by
  unfold portValue
  split_ifs with hstar
  · exact Nat.zero_le _
  · exact (h.resolve_left hstar).2

/-- What an endpoint that has been parsed is written as. -/
lemma EndpointText.written {ep : TcpEndpoint} {s : String} (h : EndpointText s.toList H P R) :
    EndpointText (ep.parse s).1.toString.toList H (P.map fun p => ofNat (portValue p))
      (R.map fun r => ofNat (value r)) where
  eq := by
    rw [parse_of_text h, toList_toString]
    simp [Function.comp_def]
  host := h.host
  port p hp := by
    obtain ⟨q, hq, rfl⟩ := Option.mem_map.mp hp
    exact .inr ⟨isNumeral_ofNat _, by rw [value_ofNat]; exact portValue_le (h.port q hq)⟩
  repeats r hr := by
    obtain ⟨q, hq, rfl⟩ := Option.mem_map.mp hr
    obtain ⟨-, -, hpos, hlt⟩ := h.repeats q hq
    exact ⟨isNumeral_ofNat _, head_ofNat hpos, by simpa using hpos, by simpa using hlt⟩

/-- Parsing accepts exactly the endpoints of the grammar, whose parts are determined, and an
endpoint that has been parsed is parsed again from its text. -/
theorem parse_endpoint (ep : TcpEndpoint) (s : String) :
    ((ep.parse s).2 = true ↔ ∃ H P R, EndpointText s.toList H P R) ∧
    (∀ H P R, EndpointText s.toList H P R → (ep.parse s).1.host.toList = H ∧
      (ep.parse s).1.port = P.map portValue ∧ (ep.parse s).1.repeats = R.map value) ∧
    (∀ H P R H' P' R', EndpointText s.toList H P R → EndpointText s.toList H' P' R' →
      H = H' ∧ P = P' ∧ R = R') ∧
    ((ep.parse s).2 = true → ∀ ep' : TcpEndpoint,
      (ep'.parse (ep.parse s).1.toString).2 = true ∧
        (ep'.parse (ep.parse s).1.toString).1.host = (ep.parse s).1.host ∧
        (ep'.parse (ep.parse s).1.toString).1.port = (ep.parse s).1.port ∧
        (ep'.parse (ep.parse s).1.toString).1.repeats = (ep.parse s).1.repeats) := by
  refine ⟨⟨exists_text_of_parse, ?_⟩, ?_, ?_, ?_⟩
  · rintro ⟨H, P, R, h⟩
    rw [parse_of_text h]
  · intro H P R h
    rw [parse_of_text h]
    exact ⟨String.toList_ofList, rfl, rfl⟩
  · intro H P R H' P' R' h h'
    exact h.pieces.unique h'.pieces
  · intro hparse ep'
    obtain ⟨H, P, R, h⟩ := exists_text_of_parse hparse
    have hwritten : EndpointText (ep.parse s).1.toString.toList H _ _ := h.written
    rw [parse_of_text hwritten, parse_of_text h]
    simp [Function.comp_def, portValue_ofNat]

/-- What has been parsed is what the servers expect of their arguments. -/
theorem parsed_of_parse {ep : TcpEndpoint} {s : String} (h : (ep.parse s).2 = true) :
    (ep.parse s).1.Parsed := by
  obtain ⟨H, P, R, h⟩ := exists_text_of_parse h
  rw [parse_of_text h]
  intro r hr
  obtain ⟨q, hq, rfl⟩ := Option.mem_map.mp hr
  obtain ⟨-, -, hpos, hlt⟩ := h.repeats q hq
  exact ⟨hpos, hlt⟩

end TcpEndpoint

end Xcp
