import Xcp.Wire.Stream

/-!
# Server information between different hosts

The archive converts numbers between hosts of different byte orders, but the port and the IPv4
address of a `tcp_sockaddr` are numbers whose bytes are already in network order: swapped, they mean
another port and another address. The repeats are a `size_t`, whose width the archive does not
convert, so hosts of different widths lose each other within the list.
-/

namespace Xcp

open Archive Bytes

namespace Sockaddr

/-- An address that does not change when the host swaps it. -/
def SymmetricAddress (h : Host) : Sockaddr → Prop
  | inet _ a      => swap 4 a.toNat = a.toNat
  | inet6 _ _ a _ => addrOfBytes (swapElements h.binaryElement a.toList) = a

/-- Neither the port nor the address changes when the host swaps it. -/
def Symmetric (h : Host) (a : Sockaddr) : Prop :=
  swap 2 a.portField.toNat = a.portField.toNat ∧ a.SymmetricAddress h

/-- The same family, port, address and scope, each as its own host understands it. -/
structure SameMeaning (w h : Host) (a a' : Sockaddr) : Prop where
  isInet6 : a'.isInet6 = a.isInet6
  port : a'.port h = a.port w
  addressBytes : a'.addressBytes h = a.addressBytes w
  scopeId : a'.scopeId = a.scopeId

variable {w h : Host}

/-- Hosts of different byte orders read a field in network order as the same number exactly if it
is symmetric. -/
lemma ntoh_eq_ntoh_iff {e₁ e₂ : Endian} (hne : e₁ ≠ e₂) (n v : ℕ) :
    ntoh e₂ n v = ntoh e₁ n v ↔ swap n v = v := by
  cases e₁ <;> cases e₂
  · exact absurd rfl hne
  · exact eq_comm
  · rfl
  · exact absurd rfl hne

lemma store_eq_store_iff {e₁ e₂ : Endian} (hne : e₁ ≠ e₂) {n v : ℕ} (hv : v < 256 ^ n) :
    store e₂ n v = store e₁ n v ↔ swap n v = v := by
  have hiff : (leBytes n v).reverse = leBytes n v ↔ swap n v = v := by
    constructor
    · intro heq
      rw [swap, heq, ofLeBytes_leBytes hv]
    · intro heq
      rw [← leBytes_swap, heq]
  cases e₁ <;> cases e₂
  · exact absurd rfl hne
  · exact hiff
  · exact eq_comm.trans hiff
  · exact absurd rfl hne

/-- An address means the same to both hosts exactly if they have one byte order or the address is
symmetric. -/
lemma sameMeaning_loaded_iff {a : Sockaddr} :
    SameMeaning w h a (a.loaded w h) ↔ w.endian = h.endian ∨ a.Symmetric h := by
  by_cases heq : w.endian = h.endian
  · simp only [heq, true_or, iff_true]
    have hself : a.loaded w h = a := by cases a <;> simp only [loaded, heq, if_true]
    rw [hself]
    refine ⟨rfl, by rw [port, port, heq], ?_, rfl⟩
    cases a <;> simp only [addressBytes, heq]
  · simp only [heq, false_or]
    have hport : ∀ a : Sockaddr, (a.loaded w h).port h = a.port w ↔
        swap 2 a.portField.toNat = a.portField.toNat := by
      intro a
      have hfield : (a.loaded w h).portField = a.portField := by cases a <;> rfl
      rw [port, port, hfield]
      exact ntoh_eq_ntoh_iff heq _ _
    have haddr : (a.loaded w h).addressBytes h = a.addressBytes w ↔ a.SymmetricAddress h := by
      cases a with
      | inet p a => exact store_eq_store_iff heq a.toNat_lt
      | inet6 p f a s =>
        simp only [loaded, heq, if_false, addressBytes, SymmetricAddress, Vector.toList_inj]
    constructor
    · intro hsame
      exact ⟨(hport a).mp hsame.port, haddr.mp hsame.addressBytes⟩
    · rintro ⟨hp, ha⟩
      exact ⟨by cases a <;> rfl, (hport a).mpr hp, haddr.mpr ha, by cases a <;> rfl⟩

end Sockaddr

namespace Wire

/-- An entry means the same to the server's host `w` and to the client's host `h`. -/
def SameChannel (w h : Host) (e e' : Sockaddr × Size) : Prop :=
  Sockaddr.SameMeaning w h e.1 e'.1 ∧ e'.2 = e.2

/-- The client receives a list of the same length whose entries mean the same. -/
def ChannelsMeanSame (w h : Host) (msg : MessageServerInformation) (bytes : List UInt8) : Prop :=
  ∀ out : Msg .serverInformation, ∃ msg' : MessageServerInformation,
    messageRecv h out bytes = .ok ⟨true, msg', []⟩ ∧
      List.Forall₂ (SameChannel w h) msg.serverChannels msg'.serverChannels

/-- The list is empty; or every address is symmetric unless the hosts have one byte order, and the
sizes have one width unless a single entry is sent by a 64-bit server to a 32-bit client, with the
significant half of the repeats first. -/
def Portable (w h : Host) (l : List (Sockaddr × Size)) : Prop :=
  l = [] ∨
    (w.endian = h.endian ∨ ∀ e ∈ l, e.1.Symmetric h) ∧
      (w.sizeWidth = h.sizeWidth ∨
        w.sizeWidth = .w64 ∧ h.sizeWidth = .w32 ∧ ∃ e, l = [e] ∧ (w.endian = .little ∨ e.2.toNat = 0))

section

variable {w h : Host} {l : List (Sockaddr × Size)} {bytes : List UInt8}

/-- The entries that the client loads, if it does not fail. -/
def loadChannels (w h : Host) (l : List (Sockaddr × Size)) :
    Option (List (Sockaddr × Size) × List UInt8) :=
  (Serial.load (h.input (isLittleEndian w)) : Reader (Sockaddr × Size)).times l.length
    (l.flatMap (save w))

lemma save_channel_ne_nil (e : Sockaddr × Size) : save w e ≠ [] := by
  intro hnil
  exact (Sockaddr.arrives w w e.1).save_ne_nil (List.append_eq_nil_iff.mp hnil).1

lemma read_channels (hlt : (l.flatMap (save w)).length < 2 ^ 64) :
    read h (write w (MessageServerInformation.mk l)) =
      (loadChannels w h l).map fun p => MessageServerInformation.mk p.1 := by
  have hcount : l.length < 256 ^ 8 :=
    (length_le_length_flatMap fun e _ => save_channel_ne_nil e).trans_lt hlt
  have hsize := reads_loadWord (w := w) (h := h) hcount (l.flatMap (save w))
  have hload : Serial.load (h.input (isLittleEndian w)) (save w l) = loadChannels w h l := by
    change (loadWord (h.input (isLittleEndian w)) 8
      (store w.endian 8 l.length ++ l.flatMap (save w))).bind _ = _
    rw [hsize, Option.bind_some]
    rfl
  change ((MessageServerInformation.mk <$> Serial.load (h.input (isLittleEndian w)) :
    Reader MessageServerInformation) (save w l)).map Prod.fst = _
  rw [Reader.map_apply, hload, Option.map_map]
  rfl

/-- The client's list is what it loads from the entries. -/
lemma channelsMeanSame_iff_load
    (hsend : messageSend w (t := .serverInformation) (MessageServerInformation.mk l) = some bytes) :
    ChannelsMeanSame w h ⟨l⟩ bytes ↔
      ∃ p, loadChannels w h l = some p ∧ List.Forall₂ (SameChannel w h) l p.1 := by
  have hle : (write w (MessageServerInformation.mk l)).length ≤ int32Max :=
    (messageSend_eq_some.mp hsend).1
  have hlen : (write w (MessageServerInformation.mk l)).length =
      1 + ((store w.endian 8 l.length).length + (l.flatMap (save w)).length) := by
    rw [← List.length_append, Nat.add_comm]
    rfl
  have hmax : int32Max < 2 ^ 64 := by decide
  have hread := read_channels (h := h) (l := l) (w := w) (by omega)
  constructor
  · intro hsame
    obtain ⟨msg', hmsg, hall⟩ := hsame (MessageServerInformation.mk [])
    have hload := (messageRecv_eq_ok_iff hsend).mp hmsg
    obtain ⟨p, hp, rfl⟩ := Option.map_eq_some_iff.mp (hread.symm.trans hload)
    exact ⟨p, hp, hall⟩
  · rintro ⟨p, hload, hall⟩ out
    rw [hload] at hread
    exact ⟨MessageServerInformation.mk p.1, (messageRecv_eq_ok_iff hsend).mpr hread, hall⟩

/-! ### Loading the entries -/

/-- The bytes of an entry are those of its address, then those of its repeats. -/
lemma loadChannels_cons (e : Sockaddr × Size) (l : List (Sockaddr × Size)) :
    loadChannels w h (e :: l) =
      (loadWord (h.input (isLittleEndian w)) h.sizeBytes
          (store w.endian w.sizeBytes e.2.toNat ++ l.flatMap (save w))).bind fun p =>
        ((Serial.load (h.input (isLittleEndian w)) : Reader (Sockaddr × Size)).times l.length
          p.2).map fun q => ((e.1.loaded w h, ⟨p.1⟩) :: q.1, q.2) := by
  have haddr := Sockaddr.reads_load w h e.1
    (store w.endian w.sizeBytes e.2.toNat ++ l.flatMap (save w))
  have hbytes : (e :: l).flatMap (save w) =
      save w e.1 ++ (store w.endian w.sizeBytes e.2.toNat ++ l.flatMap (save w)) := by
    rw [List.flatMap_cons, ← List.append_assoc]
    rfl
  have hentry : (Serial.load (h.input (isLittleEndian w)) : Reader (Sockaddr × Size))
      ((e :: l).flatMap (save w)) =
        (loadWord (h.input (isLittleEndian w)) h.sizeBytes
          (store w.endian w.sizeBytes e.2.toNat ++ l.flatMap (save w))).map
            fun p => ((e.1.loaded w h, ⟨p.1⟩), p.2) := by
    rw [hbytes]
    change ((Serial.load (h.input (isLittleEndian w)) : Reader Sockaddr) _).bind _ = _
    rw [haddr, Option.bind_some]
    change ((Size.mk <$> loadWord (h.input (isLittleEndian w)) h.sizeBytes : Reader Size)
      (store w.endian w.sizeBytes e.2.toNat ++ l.flatMap (save w))).bind _ = _
    rw [Reader.map_apply]
    cases loadWord (h.input (isLittleEndian w)) h.sizeBytes
      (store w.endian w.sizeBytes e.2.toNat ++ l.flatMap (save w)) <;> rfl
  rw [loadChannels, List.length_cons, Reader.times_succ_apply, hentry]
  cases loadWord (h.input (isLittleEndian w)) h.sizeBytes
    (store w.endian w.sizeBytes e.2.toNat ++ l.flatMap (save w)) <;> rfl

/-- Between hosts whose sizes have one width, the entries arrive with the numbers of their fields. -/
lemma loadChannels_of_width (hwidth : w.sizeBytes = h.sizeBytes)
    (hr : ∀ e ∈ l, e.2.toNat < 256 ^ w.sizeBytes) :
    loadChannels w h l = some (l.map fun e => (e.1.loaded w h, e.2), []) := by
  induction l with
  | nil => rfl
  | cons e l ih =>
    have hload := ih fun e he => hr e (List.mem_cons_of_mem _ he)
    have hsize := reads_loadWord (w := w) (h := h) (hr e List.mem_cons_self) (l.flatMap (save w))
    rw [hwidth] at hsize
    rw [loadChannels_cons, hwidth, hsize, Option.bind_some]
    change (loadChannels w h l).map _ = _
    rw [hload]
    rfl

/-- A 64-bit host sends the repeats as two numbers, of which a 32-bit host takes the first. -/
lemma loadChannels_of_w64 (hw : w.sizeWidth = .w64) (hh : h.sizeWidth = .w32)
    {e : Sockaddr × Size} (hr : e.2.toNat < 2 ^ 31) :
    loadChannels w h (e :: l) =
      ((Serial.load (h.input (isLittleEndian w)) : Reader (Sockaddr × Size)).times l.length
          (store w.endian 4 (if w.endian = .little then 0 else e.2.toNat) ++
            l.flatMap (save w))).map fun q =>
        ((e.1.loaded w h, ⟨if w.endian = .little then e.2.toNat else 0⟩) :: q.1, q.2) := by
  have hlt : e.2.toNat < 256 ^ 4 := hr.trans (by norm_num)
  have hstore : store w.endian 8 e.2.toNat =
      store w.endian 4 (if w.endian = .little then e.2.toNat else 0) ++
        store w.endian 4 (if w.endian = .little then 0 else e.2.toNat) := by
    have htwo := store_two_mul w.endian hlt
    cases hend : w.endian <;> rw [hend] at htwo <;> exact htwo
  have hfirst : (if w.endian = .little then e.2.toNat else 0) < 256 ^ 4 := by
    split_ifs
    · exact hlt
    · exact Nat.pow_pos (by decide)
  have hw8 : w.sizeBytes = 8 := by rw [Host.sizeBytes, hw]
  have hh4 : h.sizeBytes = 4 := by rw [Host.sizeBytes, hh]
  rw [loadChannels_cons, hw8, hh4, hstore, List.append_assoc, reads_loadWord hfirst,
    Option.bind_some]

/-- So the next entry begins with the other number. -/
lemma loadChannels_of_w64_cons (hw : w.sizeWidth = .w64) (hh : h.sizeWidth = .w32)
    {e e' : Sockaddr × Size} (hr : e.2.toNat < 2 ^ 31)
    (hzero : w.endian = .little ∨ e.2.toNat = 0) : loadChannels w h (e :: e' :: l) = none := by
  have hnext : (if w.endian = .little then 0 else e.2.toNat) = 0 := by
    rcases hzero with hlittle | hzero
    · rw [if_pos hlittle]
    · rw [hzero, ite_self]
  rw [loadChannels_of_w64 hw hh hr, hnext, List.length_cons, Reader.times_succ_apply]
  change ((((Serial.load (h.input (isLittleEndian w)) : Reader Sockaddr) _).bind _).bind _).map _ = _
  rw [Sockaddr.load_zero]
  rfl

/-- A 32-bit host sends the repeats as one number, after which a 64-bit host takes another one. -/
lemma loadChannels_of_w32 (hw : w.sizeWidth = .w32) (hh : h.sizeWidth = .w64)
    {e : Sockaddr × Size} (hr : e.2.toNat < 2 ^ 31) {p : List (Sockaddr × Size) × List UInt8}
    (hload : loadChannels w h (e :: l) = some p) : ¬ List.Forall₂ (SameChannel w h) (e :: l) p.1 := by
  have hw4 : w.sizeBytes = 4 := by rw [Host.sizeBytes, hw]
  have hh8 : h.sizeBytes = 8 := by rw [Host.sizeBytes, hh]
  rw [loadChannels_cons, hw4, hh8] at hload
  cases l with
  | nil =>
    rw [loadWord_of_lt (by simp)] at hload
    cases hload
  | cons e' l =>
    obtain ⟨fam, rest, hpos, hfam, hsave⟩ := Sockaddr.save_eq w e'.1
    have hbytes : (e' :: l).flatMap (save w) = store w.endian 4 fam ++
        (rest ++ (store w.endian w.sizeBytes e'.2.toNat ++ l.flatMap (save w))) := by
      rw [List.flatMap_cons]
      change (save w e'.1 ++ store w.endian w.sizeBytes e'.2.toNat) ++ _ = _
      rw [hsave, List.append_assoc, List.append_assoc]
    have hlen : (store w.endian 4 e.2.toNat ++ store w.endian 4 fam).length = 8 := by simp
    rw [hbytes, ← List.append_assoc, loadWord_apply (by rw [List.length_append, hlen]; omega),
      List.take_left' hlen, Option.bind_some] at hload
    obtain ⟨q, -, rfl⟩ := Option.map_eq_some_iff.mp hload
    intro hall
    have hsize : load w.endian (store w.endian 4 e.2.toNat ++ store w.endian 4 fam) =
        e.2.toNat := congrArg Size.toNat (List.forall₂_cons.mp hall).1.2
    have hlt : e.2.toNat < 256 ^ 4 := hr.trans (by norm_num)
    cases hend : w.endian <;>
      simp only [hend, load, store, List.reverse_append, List.reverse_reverse, ofLeBytes_append,
        length_leBytes, ofLeBytes_leBytes hlt, ofLeBytes_leBytes hfam] at hsize <;>
      omega

lemma sameChannel_loaded_iff {e : Sockaddr × Size} {v : Size} :
    SameChannel w h e (e.1.loaded w h, v) ↔ (w.endian = h.endian ∨ e.1.Symmetric h) ∧ v = e.2 := by
  rw [SameChannel, Sockaddr.sameMeaning_loaded_iff]

/-- Between hosts whose sizes have one width, only the byte order matters. -/
lemma forall₂_loadChannels_of_width (hwidth : w.sizeWidth = h.sizeWidth)
    (hr : ∀ e ∈ l, e.2.toNat < 2 ^ 31) :
    (∃ p, loadChannels w h l = some p ∧ List.Forall₂ (SameChannel w h) l p.1) ↔
      w.endian = h.endian ∨ ∀ e ∈ l, e.1.Symmetric h := by
  have hpow : 2 ^ 31 ≤ 256 ^ w.sizeBytes := by
    unfold Host.sizeBytes
    split <;> norm_num
  have hload := loadChannels_of_width (l := l) (w := w) (h := h)
    (by simp only [Host.sizeBytes, hwidth]) fun e he => (hr e he).trans_le hpow
  have hall : List.Forall₂ (SameChannel w h) l (l.map fun e => (e.1.loaded w h, e.2)) ↔
      w.endian = h.endian ∨ ∀ e ∈ l, e.1.Symmetric h := by
    rw [List.forall₂_map_right_iff, List.forall₂_same]
    simp only [sameChannel_loaded_iff, and_true, ← forall_or_left]
  rw [hload, ← hall]
  constructor
  · rintro ⟨p, hp, hall⟩
    cases hp
    exact hall
  · intro hall
    exact ⟨_, rfl, hall⟩

/-- From a 64-bit host to a 32-bit host, only a single entry can arrive. -/
lemma forall₂_loadChannels_of_w64 (hw : w.sizeWidth = .w64) (hh : h.sizeWidth = .w32)
    {e : Sockaddr × Size} (hr : e.2.toNat < 2 ^ 31) :
    (∃ p, loadChannels w h (e :: l) = some p ∧ List.Forall₂ (SameChannel w h) (e :: l) p.1) ↔
      (w.endian = h.endian ∨ e.1.Symmetric h) ∧ l = [] ∧
        (w.endian = .little ∨ e.2.toNat = 0) := by
  have hfirst : (⟨if w.endian = .little then e.2.toNat else 0⟩ : Size) = e.2 ↔
      w.endian = .little ∨ e.2.toNat = 0 := by
    have hmk : (⟨if w.endian = .little then e.2.toNat else 0⟩ : Size) = e.2 ↔
        (if w.endian = .little then e.2.toNat else 0) = e.2.toNat := by
      constructor
      · exact fun heq => congrArg Size.toNat heq
      · exact fun heq => congrArg Size.mk heq
    rw [hmk]
    split_ifs with hlittle
    · simp only [hlittle, true_or]
    · simp only [hlittle, false_or]
      exact eq_comm
  cases l with
  | nil =>
    rw [loadChannels_of_w64 hw hh hr]
    change (∃ p, some ([(e.1.loaded w h, _)], _) = some p ∧ _) ↔ _
    constructor
    · rintro ⟨p, hp, hall⟩
      cases hp
      obtain ⟨hsame, hsize⟩ := sameChannel_loaded_iff.mp (List.forall₂_cons.mp hall).1
      exact ⟨hsame, rfl, hfirst.mp hsize⟩
    · rintro ⟨hsame, -, hsize⟩
      exact ⟨_, rfl, .cons (sameChannel_loaded_iff.mpr ⟨hsame, hfirst.mpr hsize⟩) .nil⟩
  | cons e' l =>
    simp only [reduceCtorEq, false_and, and_false, iff_false, not_exists, not_and]
    intro p hp hall
    by_cases hzero : w.endian = .little ∨ e.2.toNat = 0
    · rw [loadChannels_of_w64_cons hw hh hr hzero] at hp
      cases hp
    · rw [loadChannels_of_w64 hw hh hr] at hp
      obtain ⟨q, -, rfl⟩ := Option.map_eq_some_iff.mp hp
      exact hzero (hfirst.mp (sameChannel_loaded_iff.mp (List.forall₂_cons.mp hall).1).2)

/-- The entries that the client loads mean the same exactly if the list is portable. -/
lemma forall₂_loadChannels_iff (hr : ∀ e ∈ l, e.2.toNat < 2 ^ 31) :
    (∃ p, loadChannels w h l = some p ∧ List.Forall₂ (SameChannel w h) l p.1) ↔
      Portable w h l := by
  cases l with
  | nil => exact ⟨fun _ => .inl rfl, fun _ => ⟨([], []), rfl, .nil⟩⟩
  | cons e l =>
    simp only [Portable, reduceCtorEq, false_or]
    by_cases hwidth : w.sizeWidth = h.sizeWidth
    · simp only [hwidth, true_or, and_true]
      exact forall₂_loadChannels_of_width hwidth hr
    · simp only [hwidth, false_or]
      cases hw : w.sizeWidth <;> cases hh : h.sizeWidth
      · exact absurd (hw.trans hh.symm) hwidth
      · simp only [reduceCtorEq, false_and, and_false, iff_false, not_exists, not_and]
        intro p hp
        exact loadChannels_of_w32 hw hh (hr e List.mem_cons_self) hp
      · rw [forall₂_loadChannels_of_w64 hw hh (hr e List.mem_cons_self)]
        simp only [true_and, List.cons.injEq]
        constructor
        · rintro ⟨hsame, rfl, hzero⟩
          exact ⟨hsame.imp_right fun hsym => List.forall_mem_singleton.mpr hsym, e, ⟨rfl, rfl⟩, hzero⟩
        · rintro ⟨hsame, e', ⟨rfl, rfl⟩, hzero⟩
          exact ⟨hsame.imp_right fun hsym => hsym e List.mem_cons_self, rfl, hzero⟩
      · exact absurd (hw.trans hh.symm) hwidth

/-- The client understands the server's channels exactly if the list is portable between their
hosts. -/
theorem channelsMeanSame_iff
    (hsend : messageSend w (t := .serverInformation) (MessageServerInformation.mk l) = some bytes)
    (hr : ∀ e ∈ l, e.2.toNat < 2 ^ 31) : ChannelsMeanSame w h ⟨l⟩ bytes ↔ Portable w h l := by
  rw [channelsMeanSame_iff_load hsend, forall₂_loadChannels_iff hr]

end

/-- A server on 127.0.0.1 port 62581 with 12 channels, in the memory of a little-endian host. -/
def exampleChannels : List (Sockaddr × Size) := [(.inet 0x75f4 0x0100007f, ⟨12⟩)]

/-- A 64-bit big-endian host. -/
def big64 : Host := ⟨.big, .w64, 16⟩

/-- Two channels with ports and addresses that are the same read from either end. -/
def symmetricChannels : List (Sockaddr × Size) :=
  [(.inet 0x7575 0x7f00007f, ⟨12⟩), (.inet 0x1111 0x0a01010a, ⟨3⟩)]

lemma symmetricChannels_symmetric : ∀ e ∈ symmetricChannels, e.1.Symmetric big64 := by
  intro e he
  fin_cases he
  · exact ⟨rfl, rfl⟩
  · exact ⟨rfl, rfl⟩

/-- They mean the same to a big-endian client of a little-endian server. -/
theorem channelsMeanSame_symmetric :
    ∃ bytes, messageSend linux64 (t := .serverInformation)
        (MessageServerInformation.mk symmetricChannels) = some bytes ∧
      ChannelsMeanSame linux64 big64 ⟨symmetricChannels⟩ bytes :=
  ⟨_, rfl, (channelsMeanSame_iff (w := linux64) rfl (by decide)).mpr
    (.inr ⟨.inr symmetricChannels_symmetric, .inl rfl⟩)⟩

/-- A big-endian client connects to port 30196 of 1.0.0.127. -/
theorem not_channelsMeanSame_big64 :
    ∃ bytes, messageSend linux64 (t := .serverInformation)
        (MessageServerInformation.mk exampleChannels) = some bytes ∧
      messageRecv big64 (t := .serverInformation) (MessageServerInformation.mk []) bytes =
        .ok ⟨true, MessageServerInformation.mk exampleChannels, []⟩ ∧
      exampleChannels.map (fun e => (e.1.port linux64, e.1.addressBytes linux64)) =
        [(62581, [127, 0, 0, 1])] ∧
      exampleChannels.map (fun e => (e.1.port big64, e.1.addressBytes big64)) =
        [(30196, [1, 0, 0, 127])] ∧
      ¬ ChannelsMeanSame linux64 big64 ⟨exampleChannels⟩ bytes := by
  refine ⟨_, rfl, rfl, by decide, by decide, ?_⟩
  rw [channelsMeanSame_iff_load (w := linux64) rfl, forall₂_loadChannels_iff (by decide)]
  rintro (hnil | ⟨hend | hsym, -⟩)
  · cases hnil
  · cases hend
  · exact absurd (hsym _ List.mem_cons_self).1 (by decide)

end Wire

end Xcp
