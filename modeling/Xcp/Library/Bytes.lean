import Mathlib

/-!
# Words in memory and in network order

A 32-bit word is a natural number below `2 ^ 32`. A host keeps it in memory in its own byte order;
`htonl` and `ntohl` turn it into network order and back, so that what two hosts of any byte order
exchange through them is the value itself.

Words of any width are stored by `store` and read by `load`; `swap` reverses their bytes, and `hton`
and `ntoh` convert them.
-/

namespace Bytes

/-- The byte order of a host. -/
inductive Endian where
  | little
  | big
  deriving DecidableEq, Repr

/-- Conversion to a 32-bit unsigned integer. -/
def toU32 (v : ℕ) : ℕ := v % 2 ^ 32

/-- Byte `i` of a word, counted from the least significant one. -/
def byteAt (v i : ℕ) : UInt8 := UInt8.ofNat (v / 256 ^ i)

/-- The four bytes of a word as the host writes them to memory. -/
def storeU32 : Endian → ℕ → List UInt8
  | .little, v => [byteAt v 0, byteAt v 1, byteAt v 2, byteAt v 3]
  | .big, v    => [byteAt v 3, byteAt v 2, byteAt v 1, byteAt v 0]

/-- The word with the given bytes, least significant first. -/
def ofBytes (a b c d : ℕ) : ℕ := a + b * 2 ^ 8 + c * 2 ^ 16 + d * 2 ^ 24

/-- The word that the host reads from the first four bytes. -/
def loadU32 : Endian → List UInt8 → ℕ
  | .little, a :: b :: c :: d :: _ => ofBytes a.toNat b.toNat c.toNat d.toNat
  | .big, a :: b :: c :: d :: _    => ofBytes d.toNat c.toNat b.toNat a.toNat
  | _, _ => 0

/-- Reverse the bytes of a word. -/
def byteSwap (v : ℕ) : ℕ :=
  ofBytes (v / 2 ^ 24 % 256) (v / 2 ^ 16 % 256) (v / 2 ^ 8 % 256) (v % 256)

/-- Host to network order. -/
def htonl : Endian → ℕ → ℕ
  | .little, v => byteSwap v
  | .big, v    => v

/-- Network to host order. -/
def ntohl : Endian → ℕ → ℕ
  | .little, v => byteSwap v
  | .big, v    => v

@[simp] lemma toU32_of_lt {v : ℕ} (h : v < 2 ^ 32) : toU32 v = v := Nat.mod_eq_of_lt h

@[simp] lemma toNat_byteAt (v i : ℕ) : (byteAt v i).toNat = v / 256 ^ i % 256 := by
  simp [byteAt, UInt8.toNat_ofNat']

@[simp] lemma length_storeU32 (e : Endian) (v : ℕ) : (storeU32 e v).length = 4 := by
  cases e <;> rfl

/-- The bytes of a word built from bytes. -/
lemma bytes_ofBytes {a b c d : ℕ} (ha : a < 256) (hb : b < 256) (hc : c < 256) (hd : d < 256) :
    ofBytes a b c d % 256 = a ∧ ofBytes a b c d / 2 ^ 8 % 256 = b ∧
      ofBytes a b c d / 2 ^ 16 % 256 = c ∧ ofBytes a b c d / 2 ^ 24 % 256 = d := by
  simp only [ofBytes]
  omega

lemma ofBytes_bytes {v : ℕ} (h : v < 2 ^ 32) :
    ofBytes (v % 256) (v / 2 ^ 8 % 256) (v / 2 ^ 16 % 256) (v / 2 ^ 24 % 256) = v := by
  simp only [ofBytes]
  omega

/-- The bytes of a word after reversing it. -/
lemma bytes_byteSwap (v : ℕ) :
    byteSwap v % 256 = v / 2 ^ 24 % 256 ∧ byteSwap v / 2 ^ 8 % 256 = v / 2 ^ 16 % 256 ∧
      byteSwap v / 2 ^ 16 % 256 = v / 2 ^ 8 % 256 ∧ byteSwap v / 2 ^ 24 % 256 = v % 256 :=
  bytes_ofBytes (Nat.mod_lt _ (by decide)) (Nat.mod_lt _ (by decide))
    (Nat.mod_lt _ (by decide)) (Nat.mod_lt _ (by decide))

/-- Reading back a stored word, whatever follows it in memory. -/
lemma loadU32_storeU32_append (e : Endian) {v : ℕ} (h : v < 2 ^ 32) (rest : List UInt8) :
    loadU32 e (storeU32 e v ++ rest) = v := by
  cases e <;>
    simpa only [storeU32, loadU32, List.cons_append, List.nil_append, toNat_byteAt,
      Nat.reducePow, Nat.div_one] using ofBytes_bytes h

/-- In network order the bytes of a word do not depend on the host. -/
lemma storeU32_htonl (e : Endian) (v : ℕ) : storeU32 e (htonl e v) = storeU32 .big v := by
  cases e with
  | big => rfl
  | little =>
    obtain ⟨h₀, h₁, h₂, h₃⟩ := bytes_byteSwap v
    simp only [storeU32, htonl, List.cons.injEq, and_true, ← UInt8.toNat_inj, toNat_byteAt,
      Nat.reducePow, Nat.div_one] at h₀ h₁ h₂ h₃ ⊢
    exact ⟨h₀, h₁, h₂, h₃⟩

lemma ntohl_loadU32 (e : Endian) (bytes : List UInt8) :
    ntohl e (loadU32 e bytes) = loadU32 .big bytes := by
  cases e with
  | big => rfl
  | little =>
    match bytes with
    | a :: b :: c :: d :: _ =>
      obtain ⟨h₀, h₁, h₂, h₃⟩ := bytes_ofBytes a.toNat_lt b.toNat_lt c.toNat_lt d.toNat_lt
      simp only [ntohl, loadU32, byteSwap, h₀, h₁, h₂, h₃]
    | [] | [_] | [_, _] | [_, _, _] => simp [ntohl, loadU32, byteSwap, ofBytes]

/-- Storing a word that was read from memory. -/
lemma storeU32_loadU32 (e : Endian) {bytes : List UInt8} (h : 4 ≤ bytes.length) :
    storeU32 e (loadU32 e bytes) = bytes.take 4 := by
  match bytes, h with
  | a :: b :: c :: d :: _, _ =>
    obtain ⟨h₀, h₁, h₂, h₃⟩ := bytes_ofBytes a.toNat_lt b.toNat_lt c.toNat_lt d.toNat_lt
    obtain ⟨r₀, r₁, r₂, r₃⟩ := bytes_ofBytes d.toNat_lt c.toNat_lt b.toNat_lt a.toNat_lt
    cases e <;>
    · simp only [storeU32, loadU32, List.take_succ_cons, List.take_zero, List.cons.injEq, and_true,
        ← UInt8.toNat_inj, toNat_byteAt, Nat.reducePow, Nat.div_one] at *
      exact ⟨by assumption, by assumption, by assumption, by assumption⟩

/-- A word sent in network order arrives as it was, between hosts of any byte orders. -/
lemma ntohl_loadU32_storeU32_htonl (e₁ e₂ : Endian) {v : ℕ} (h : v < 2 ^ 32)
    (rest : List UInt8) :
    ntohl e₂ (loadU32 e₂ (storeU32 e₁ (htonl e₁ v) ++ rest)) = v := by
  rw [ntohl_loadU32, storeU32_htonl, loadU32_storeU32_append _ h]

/-- Splitting a 64-bit value into its high and low words and joining them again. -/
lemma joinU64_split {v : ℕ} :
    (v >>> 32) <<< 32 ||| (v &&& 0xFFFFFFFF) = v := by
  have hlow : v &&& 0xFFFFFFFF = v % 2 ^ 32 := Nat.and_two_pow_sub_one_eq_mod v 32
  rw [hlow, ← Nat.shiftLeft_add_eq_or_of_lt (Nat.mod_lt _ (Nat.two_pow_pos 32)),
    Nat.shiftLeft_eq, Nat.shiftRight_eq_div_pow]
  omega

/-! ### Words of any width -/

/-- The first `n` bytes of a value, least significant first. -/
def leBytes : ℕ → ℕ → List UInt8
  | 0, _     => []
  | n + 1, v => UInt8.ofNat v :: leBytes n (v / 256)

/-- The value with the given bytes, least significant first. -/
def ofLeBytes : List UInt8 → ℕ
  | []      => 0
  | b :: bs => b.toNat + 256 * ofLeBytes bs

/-- A word of `n` bytes as the host writes it to memory. -/
def store : Endian → ℕ → ℕ → List UInt8
  | .little, n, v => leBytes n v
  | .big, n, v    => (leBytes n v).reverse

/-- The word that the host reads from bytes in memory. -/
def load : Endian → List UInt8 → ℕ
  | .little, bs => ofLeBytes bs
  | .big, bs    => ofLeBytes bs.reverse

/-- Reverse the bytes of a word of `n` bytes. -/
def swap (n v : ℕ) : ℕ := ofLeBytes (leBytes n v).reverse

/-- Host to network order, for a word of `n` bytes. -/
def hton : Endian → ℕ → ℕ → ℕ
  | .little, n, v => swap n v
  | .big, _, v    => v

/-- Network to host order, for a word of `n` bytes. -/
def ntoh : Endian → ℕ → ℕ → ℕ
  | .little, n, v => swap n v
  | .big, _, v    => v

@[simp] lemma length_leBytes (n v : ℕ) : (leBytes n v).length = n := by
  induction n generalizing v with
  | zero => rfl
  | succ n ih => simp [leBytes, ih]

@[simp] lemma length_store (e : Endian) (n v : ℕ) : (store e n v).length = n := by
  cases e <;> simp [store]

lemma ofLeBytes_leBytes {n v : ℕ} (h : v < 256 ^ n) : ofLeBytes (leBytes n v) = v := by
  induction n generalizing v with
  | zero =>
    rw [pow_zero] at h
    simp only [leBytes, ofLeBytes]
    omega
  | succ n ih =>
    have hdiv : v / 256 < 256 ^ n := Nat.div_lt_of_lt_mul (by rwa [pow_succ, mul_comm] at h)
    rw [leBytes, ofLeBytes, ih hdiv, UInt8.toNat_ofNat']
    exact Nat.mod_add_div v 256

lemma leBytes_ofLeBytes (bs : List UInt8) : leBytes bs.length (ofLeBytes bs) = bs := by
  induction bs with
  | nil => rfl
  | cons b bs ih =>
    have hb := b.toNat_lt
    have hdiv : (b.toNat + 256 * ofLeBytes bs) / 256 = ofLeBytes bs := by omega
    have hlow : UInt8.ofNat (b.toNat + 256 * ofLeBytes bs) = b := by
      rw [← UInt8.toNat_inj, UInt8.toNat_ofNat']
      omega
    rw [ofLeBytes, List.length_cons, leBytes, hdiv, ih, hlow]

lemma leBytes_add (m n v : ℕ) : leBytes (m + n) v = leBytes m v ++ leBytes n (v / 256 ^ m) := by
  induction m generalizing v with
  | zero => simp [leBytes]
  | succ m ih =>
    rw [Nat.add_right_comm, leBytes, leBytes, ih, Nat.div_div_eq_div_mul, ← pow_succ',
      List.cons_append]

lemma ofLeBytes_append (bs bs' : List UInt8) :
    ofLeBytes (bs ++ bs') = ofLeBytes bs + 256 ^ bs.length * ofLeBytes bs' := by
  induction bs with
  | nil => simp [ofLeBytes]
  | cons b bs ih => rw [List.cons_append, ofLeBytes, ofLeBytes, ih, List.length_cons]; ring

/-- A word of twice `n` bytes that fits into `n` of them, with its significant half first or last. -/
lemma store_two_mul (e : Endian) {n v : ℕ} (hv : v < 256 ^ n) :
    store e (n + n) v =
      match e with
      | .little => store e n v ++ store e n 0
      | .big    => store e n 0 ++ store e n v := by
  have hadd := leBytes_add n n v
  rw [Nat.div_eq_of_lt hv] at hadd
  cases e with
  | little => exact hadd
  | big => simp only [store, hadd, List.reverse_append]

lemma ofLeBytes_lt (bs : List UInt8) : ofLeBytes bs < 256 ^ bs.length := by
  induction bs with
  | nil => simp [ofLeBytes]
  | cons b bs ih =>
    have hb := b.toNat_lt
    rw [ofLeBytes, List.length_cons, pow_succ]
    omega

/-- Reading back a stored word. -/
lemma load_store (e : Endian) {n v : ℕ} (h : v < 256 ^ n) : load e (store e n v) = v := by
  cases e with
  | little => exact ofLeBytes_leBytes h
  | big => rw [load, store, List.reverse_reverse, ofLeBytes_leBytes h]

/-- Storing what has been read. -/
lemma store_load (e : Endian) (bs : List UInt8) : store e bs.length (load e bs) = bs := by
  cases e with
  | little => exact leBytes_ofLeBytes bs
  | big =>
    have h := leBytes_ofLeBytes bs.reverse
    rw [List.length_reverse] at h
    rw [store, load, h, List.reverse_reverse]

lemma load_lt (e : Endian) (bs : List UInt8) : load e bs < 256 ^ bs.length := by
  cases e with
  | little => exact ofLeBytes_lt bs
  | big =>
    have h := ofLeBytes_lt bs.reverse
    rwa [List.length_reverse] at h

/-- A host of the other byte order reads the same number from the reversed bytes. -/
lemma load_reverse {e₁ e₂ : Endian} (hne : e₁ ≠ e₂) (bs : List UInt8) :
    load e₂ bs.reverse = load e₁ bs := by
  cases e₁ <;> cases e₂
  · exact absurd rfl hne
  · rw [load, load, List.reverse_reverse]
  · rfl
  · exact absurd rfl hne

lemma leBytes_swap (n v : ℕ) : leBytes n (swap n v) = (leBytes n v).reverse := by
  have h := leBytes_ofLeBytes (leBytes n v).reverse
  rwa [List.length_reverse, length_leBytes] at h

@[simp] lemma swap_swap {n v : ℕ} (h : v < 256 ^ n) : swap n (swap n v) = v := by
  rw [swap, leBytes_swap, List.reverse_reverse, ofLeBytes_leBytes h]

/-- `ntoh` reads a word in network order. -/
lemma ntoh_eq (e : Endian) {n v : ℕ} (h : v < 256 ^ n) : ntoh e n v = load .big (store e n v) := by
  cases e with
  | little => rfl
  | big => rw [load_store _ h, ntoh]

/-- The value of a word in network order does not depend on the host. -/
lemma ntoh_load (e : Endian) (bs : List UInt8) : ntoh e bs.length (load e bs) = load .big bs := by
  rw [ntoh_eq e (load_lt e bs), store_load]

end Bytes
