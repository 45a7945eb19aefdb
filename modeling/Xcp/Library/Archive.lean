import Mathlib
import Xcp.Library.Bytes

/-!
# Portable binary archives

An archive is a sequence of bytes: first the byte order of its writer, then the values, one after
the other. Numbers are written as they lie in memory, and a reader of the other byte order swaps
each of them; sizes of containers are 64-bit numbers on every host. Nothing in the archive tells
how wide a number is.

`Reads r bytes a` says that the reader `r` takes exactly `bytes` off its input and returns `a`,
whatever follows them; it is composed along the structure of the reader. `Arrives w h a b` says
that the value `a`, saved by the host `w`, is loaded as `b` by the host `h`.
-/

namespace Archive

open Bytes

/-- The width of a `size_t`. -/
inductive Width where
  | w32
  | w64
  deriving DecidableEq, Repr

/-- A host: its byte order, the width of its `size_t`, and the size of the elements that it swaps
binary data by. -/
structure Host where
  endian : Endian
  sizeWidth : Width
  binaryElement : ℕ
  deriving DecidableEq

/-- `sizeof(size_t)`. -/
def Host.sizeBytes (h : Host) : ℕ :=
  match h.sizeWidth with
  | .w32 => 4
  | .w64 => 8

lemma Host.sizeBytes_ne_zero (h : Host) : h.sizeBytes ≠ 0 := by
  unfold sizeBytes
  split <;> decide

/-! ### Readers -/

/-- A reader takes a value off the front of the bytes, or fails. -/
def Reader (α : Type) : Type := List UInt8 → Option (α × List UInt8)

namespace Reader

variable {α β : Type}

/-- Return a value without reading. -/
def pure (a : α) : Reader α := fun bytes => some (a, bytes)

/-- Read, and go on with the value. -/
def bind (r : Reader α) (f : α → Reader β) : Reader β := fun bytes =>
  (r bytes).bind fun p => f p.1 p.2

instance : Monad Reader where
  pure := pure
  bind := bind

/-- Take `n` bytes. -/
def take (n : ℕ) : Reader (List UInt8) := fun bytes =>
  if n ≤ bytes.length then some (bytes.take n, bytes.drop n) else none

/-- Read `n` values. -/
def times (r : Reader α) : ℕ → Reader (List α)
  | 0     => pure []
  | n + 1 => do
    let a ← r
    let as ← times r n
    return a :: as

lemma pure_apply (a : α) (bytes : List UInt8) :
    (Pure.pure a : Reader α) bytes = some (a, bytes) := rfl

lemma bind_apply (r : Reader α) (f : α → Reader β) (bytes : List UInt8) :
    (r >>= f) bytes = (r bytes).bind fun p => f p.1 p.2 := rfl

lemma map_apply (r : Reader α) (f : α → β) (bytes : List UInt8) :
    (f <$> r) bytes = (r bytes).map fun p => (f p.1, p.2) := by
  change (r bytes).bind (fun p => some (f p.1, p.2)) = _
  rw [Option.map_eq_bind]
  rfl

lemma times_succ_apply (r : Reader α) (n : ℕ) (bytes : List UInt8) :
    r.times (n + 1) bytes =
      (r bytes).bind fun p => (r.times n p.2).map fun q => (p.1 :: q.1, q.2) := by
  change (r bytes).bind (fun p => (r.times n p.2).bind fun q => some (p.1 :: q.1, q.2)) = _
  simp only [Option.map_eq_bind, Function.comp_def]

end Reader

/-- The reader takes exactly these bytes off its input and returns the value. -/
def Reads {α : Type} (r : Reader α) (bytes : List UInt8) (a : α) : Prop :=
  ∀ rest, r (bytes ++ rest) = some (a, rest)

namespace Reads

variable {α β : Type} {r : Reader α} {bytes bytes' : List UInt8} {a : α}

lemma pure (a : α) : Reads (Pure.pure a) [] a := fun _ => rfl

lemma bind {f : α → Reader β} {b : β} (hr : Reads r bytes a) (hf : Reads (f a) bytes' b) :
    Reads (r >>= f) (bytes ++ bytes') b := by
  intro rest
  rw [Reader.bind_apply, List.append_assoc, hr, Option.bind_some, hf]

lemma bind_pure {f : α → β} (hr : Reads r bytes a) :
    Reads (r >>= fun a => Pure.pure (f a)) bytes (f a) := by
  have h := hr.bind (f := fun a => Pure.pure (f a)) (pure (f a))
  rwa [List.append_nil] at h

lemma map {f : α → β} (hr : Reads r bytes a) : Reads (f <$> r) bytes (f a) := by
  intro rest
  rw [Reader.map_apply, hr, Option.map_some]

lemma take (bytes : List UInt8) : Reads (Reader.take bytes.length) bytes bytes := by
  intro rest
  simp [Reader.take]

/-- What a reader returns on given bytes is unique. -/
lemma unique {b : α} (ha : Reads r bytes a) (hb : Reads r bytes b) : a = b := by
  have h := (ha []).symm.trans (hb [])
  simpa using h

end Reads

/-! ### Values -/

/-- The archive as a host reads it: `convert` tells that it swaps numbers. -/
structure Input where
  host : Host
  convert : Bool

/-- Values that an archive can hold. -/
class Serial (α : Type) where
  save : Host → α → List UInt8
  load : Input → Reader α

export Serial (save)

/-- Load a number of `n` bytes, swapped if need be. -/
def loadWord (i : Input) (n : ℕ) : Reader ℕ :=
  (fun bytes => load i.host.endian (if i.convert then bytes.reverse else bytes)) <$> Reader.take n

/-- Swap every element of `n` bytes. -/
def swapElements (n : ℕ) (bytes : List UInt8) : List UInt8 :=
  List.ofFn fun i : Fin bytes.length => bytes.getD (i / n * n + (n - 1 - i % n)) 0

/-- Elements of one byte are copied unchanged. -/
lemma swapElements_one (bytes : List UInt8) : swapElements 1 bytes = bytes := by
  apply List.ext_getElem
  · simp [swapElements]
  · intro i hi hi'
    simp [swapElements, Nat.mod_one, List.getD_eq_getElem?_getD]

/-- Load `n` bytes of binary data. -/
def loadBinary (i : Input) (n : ℕ) : Reader (List UInt8) :=
  (fun bytes => if i.convert then swapElements i.host.binaryElement bytes else bytes) <$>
    Reader.take n

/-- A `size_t`. -/
structure Size where
  toNat : ℕ
  deriving DecidableEq

section Instances

variable {α β : Type} [Serial α] [Serial β]

instance : Serial UInt8 where
  save h v := store h.endian 1 v.toNat
  load i := UInt8.ofNat <$> loadWord i 1

instance : Serial UInt16 where
  save h v := store h.endian 2 v.toNat
  load i := UInt16.ofNat <$> loadWord i 2

instance : Serial UInt32 where
  save h v := store h.endian 4 v.toNat
  load i := UInt32.ofNat <$> loadWord i 4

instance : Serial UInt64 where
  save h v := store h.endian 8 v.toNat
  load i := UInt64.ofNat <$> loadWord i 8

/-- A size is saved with the width that it has on the host. -/
instance : Serial Size where
  save h v := store h.endian h.sizeBytes v.toNat
  load i := Size.mk <$> loadWord i i.host.sizeBytes

instance : Serial Int32 where
  save h v := save h v.toUInt32
  load i := UInt32.toInt32 <$> Serial.load i

instance : Serial Bool where
  save h v := save h (if v then (1 : UInt8) else 0)
  load i := (fun v : UInt8 => decide (v ≠ 0)) <$> Serial.load i

/-- A container: its size, then its elements. A string is the container of its bytes. -/
instance : Serial (List α) where
  save h as := store h.endian 8 as.length ++ as.flatMap (save h)
  load i := do
    let size ← loadWord i 8
    (Serial.load i).times size

instance : Serial (α × β) where
  save h p := save h p.1 ++ save h p.2
  load i := do
    let a ← Serial.load i
    let b ← Serial.load i
    return (a, b)

/-- An optional value: whether it is absent, then the value. -/
instance : Serial (Option α) where
  save h
    | none   => save h true
    | some a => save h false ++ save h a
  load i := do
    let nullopt : Bool ← Serial.load i
    if nullopt then return none else return some (← Serial.load i)

/-- A structure whose listed fields are `get`; loading sets them, by `set`, in a structure that
has been default constructed. -/
@[reducible] def Serial.fields (get : β → α) (set : α → β) : Serial β where
  save h b := save h (get b)
  load i := set <$> Serial.load i

end Instances

/-! ### Archives -/

/-- The first byte of an archive. -/
def isLittleEndian (h : Host) : UInt8 := if h.endian = .little then 1 else 0

/-- How the host reads an archive that begins with the given byte. -/
def Host.input (h : Host) (streamLittleEndian : UInt8) : Input where
  host := h
  convert := isLittleEndian h ≠ streamLittleEndian

/-- Write a value to an archive of its own. -/
def write {α : Type} [Serial α] (h : Host) (a : α) : List UInt8 := isLittleEndian h :: save h a

/-- Read the value of an archive; what follows it is not looked at. -/
def read {α : Type} [Serial α] (h : Host) (bytes : List UInt8) : Option α :=
  match bytes with
  | [] => none
  | streamLittleEndian :: bytes => (Serial.load (h.input streamLittleEndian) bytes).map Prod.fst

/-! ### What arrives -/

/-- The value `a`, saved by the host `w`, takes some bytes, and is loaded as `b` by the host `h`. -/
structure Arrives {α : Type} [Serial α] (w h : Host) (a b : α) : Prop where
  save_ne_nil : save w a ≠ []
  reads : (save w a).length < 2 ^ 64 →
    Reads (Serial.load (h.input (isLittleEndian w))) (save w a) b

section Arrives

variable {α β : Type} [Serial α] [Serial β] {w h : Host}

lemma convert_input : (h.input (isLittleEndian w)).convert = decide (w.endian ≠ h.endian) := by
  unfold Host.input isLittleEndian
  cases w.endian <;> cases h.endian <;> rfl

/-- A number is loaded as its writer would load it. -/
lemma loadWord_apply {n : ℕ} {bytes : List UInt8} (hlen : n ≤ bytes.length) :
    loadWord (h.input (isLittleEndian w)) n bytes =
      some (load w.endian (bytes.take n), bytes.drop n) := by
  have hload : load h.endian (if (h.input (isLittleEndian w)).convert
      then (bytes.take n).reverse else bytes.take n) = load w.endian (bytes.take n) := by
    rw [convert_input]
    by_cases heq : w.endian = h.endian
    · rw [decide_eq_false (not_not_intro heq), if_neg Bool.false_ne_true, heq]
    · rw [decide_eq_true heq, if_pos rfl]
      exact load_reverse heq _
  rw [loadWord, Reader.map_apply, Reader.take, if_pos hlen, Option.map_some, ← hload]
  rfl

lemma loadWord_of_lt {i : Input} {n : ℕ} {bytes : List UInt8} (hlen : bytes.length < n) :
    loadWord i n bytes = none := by
  rw [loadWord, Reader.map_apply, Reader.take, if_neg (not_le.mpr hlen), Option.map_none]

lemma reads_loadWord {n v : ℕ} (hv : v < 256 ^ n) :
    Reads (loadWord (h.input (isLittleEndian w)) n) (store w.endian n v) v := by
  intro rest
  have hlen := length_store w.endian n v
  rw [loadWord_apply (by rw [List.length_append, hlen]; exact Nat.le_add_right _ _),
    List.take_left' hlen, List.drop_left' hlen, load_store _ hv]

/-- Binary data arrives with its elements swapped on a host of another byte order. -/
lemma reads_loadBinary (bytes : List UInt8) :
    Reads (loadBinary (h.input (isLittleEndian w)) bytes.length) bytes
      (if w.endian = h.endian then bytes else swapElements h.binaryElement bytes) := by
  have hread := (Reads.take bytes).map (f := fun bytes =>
    if (h.input (isLittleEndian w)).convert then swapElements h.binaryElement bytes else bytes)
  have hbytes : (if (h.input (isLittleEndian w)).convert then swapElements h.binaryElement bytes
      else bytes) = if w.endian = h.endian then bytes else swapElements h.binaryElement bytes := by
    rw [convert_input]
    by_cases heq : w.endian = h.endian <;> simp [heq]
  rw [hbytes] at hread
  exact hread

/-- A fixed-width number, saved by `n` bytes and loaded by `ofNat`. -/
lemma Arrives.word {n v : ℕ} {a : α} {ofNat : ℕ → α} (hn : n ≠ 0) (hv : v < 256 ^ n)
    (hsave : save w a = store w.endian n v)
    (hload : ∀ i, (Serial.load i : Reader α) = ofNat <$> loadWord i n) (ha : ofNat v = a) :
    Arrives w h a a where
  save_ne_nil := by
    intro hnil
    apply hn
    rw [← length_store w.endian n v, ← hsave, hnil, List.length_nil]
  reads _ := by
    rw [hsave, hload, ← ha]
    exact (reads_loadWord hv).map

lemma Arrives.uint8 (v : UInt8) : Arrives w h v v :=
  .word one_ne_zero v.toNat_lt rfl (fun _ => rfl) (UInt8.ofNat_toNat)

lemma Arrives.uint16 (v : UInt16) : Arrives w h v v :=
  .word two_ne_zero v.toNat_lt rfl (fun _ => rfl) (UInt16.ofNat_toNat)

lemma Arrives.uint32 (v : UInt32) : Arrives w h v v :=
  .word four_ne_zero v.toNat_lt rfl (fun _ => rfl) (UInt32.ofNat_toNat)

lemma Arrives.uint64 (v : UInt64) : Arrives w h v v :=
  .word (by decide) v.toNat_lt rfl (fun _ => rfl) (UInt64.ofNat_toNat)

/-- Between hosts whose sizes have the same width. -/
lemma Arrives.size (hwidth : w.sizeBytes = h.sizeBytes) {v : Size}
    (hv : v.toNat < 256 ^ w.sizeBytes) : Arrives w h v v where
  save_ne_nil := by
    intro hnil
    apply w.sizeBytes_ne_zero
    rw [← length_store w.endian w.sizeBytes v.toNat]
    exact List.length_eq_zero_iff.mpr hnil
  reads _ := by
    have hread := (reads_loadWord (w := w) (h := h) hv).map (f := Size.mk)
    rw [hwidth] at hread
    have hsave : save w v = store w.endian h.sizeBytes v.toNat := hwidth ▸ rfl
    rw [hsave]
    exact hread

/-- A value saved and loaded through another one. -/
lemma Arrives.map {f : α → β} {a a' : α} {b b' : β} (hsave : save w b = save w a)
    (hload : ∀ i, (Serial.load i : Reader β) = f <$> Serial.load i) (ha : Arrives w h a a')
    (hb : f a' = b') : Arrives w h b b' where
  save_ne_nil := hsave ▸ ha.save_ne_nil
  reads hlt := by
    rw [hsave] at hlt ⊢
    rw [hload, ← hb]
    exact (ha.reads hlt).map

lemma Arrives.int32 (v : Int32) : Arrives w h v v :=
  .map (a := v.toUInt32) rfl (fun _ => rfl) (.uint32 _) (Int32.toInt32_toUInt32 v)

lemma Arrives.bool (v : Bool) : Arrives w h v v :=
  .map (a := if v then (1 : UInt8) else 0) rfl (fun _ => rfl) (.uint8 _) (by cases v <;> rfl)

lemma Arrives.prod {a a' : α} {b b' : β} (ha : Arrives w h a a') (hb : Arrives w h b b') :
    Arrives w h (a, b) (a', b') where
  save_ne_nil := by
    intro hnil
    exact ha.save_ne_nil (List.append_eq_nil_iff.mp hnil).1
  reads hlt := by
    have hlen : (save w (a, b)).length = (save w a).length + (save w b).length :=
      List.length_append
    exact (ha.reads (by omega)).bind (hb.reads (by omega)).bind_pure

lemma Arrives.none : Arrives w h (none : Option α) none where
  save_ne_nil := (Arrives.bool (w := w) (h := w) true).save_ne_nil
  reads hlt := by
    have hread : Reads (Serial.load (h.input (isLittleEndian w))) (save w true ++ [])
        (Option.none : Option α) := ((Arrives.bool true).reads hlt).bind (Reads.pure _)
    rwa [List.append_nil] at hread

lemma Arrives.some {a a' : α} (ha : Arrives w h a a') :
    Arrives w h (some a) (some a') where
  save_ne_nil := by
    intro hnil
    exact ha.save_ne_nil (List.append_eq_nil_iff.mp hnil).2
  reads hlt := by
    have hlen : (save w (Option.some a)).length = (save w false).length + (save w a).length :=
      List.length_append
    have hread := (ha.reads (by omega)).bind_pure (f := Option.some)
    exact ((Arrives.bool false).reads (by omega)).bind hread

/-- An optional value arrives as its value does. -/
lemma Arrives.option {o : Option α} (ho : ∀ a ∈ o, Arrives w h a a) : Arrives w h o o := by
  cases o with
  | none => exact .none
  | some a => exact .some (ho a rfl)

/-- Every element takes some bytes. -/
lemma length_le_length_flatMap {as : List α} (hne : ∀ a ∈ as, save w a ≠ []) :
    as.length ≤ (as.flatMap (save w)).length := by
  induction as with
  | nil => exact Nat.zero_le _
  | cons a as ih =>
    have hpos := List.length_pos_of_ne_nil (hne a List.mem_cons_self)
    have htail := ih fun a ha => hne a (List.mem_cons_of_mem _ ha)
    rw [List.flatMap_cons, List.length_append, List.length_cons]
    omega

lemma save_ne_nil_of_forall₂ {as bs : List α} (hall : List.Forall₂ (Arrives w h) as bs) :
    ∀ a ∈ as, save w a ≠ [] := by
  induction hall with
  | nil => nofun
  | cons hab _ ih => exact List.forall_mem_cons.mpr ⟨hab.save_ne_nil, ih⟩

lemma reads_times {as bs : List α} (hall : List.Forall₂ (Arrives w h) as bs)
    (hlt : (as.flatMap (save w)).length < 2 ^ 64) :
    Reads ((Serial.load (h.input (isLittleEndian w))).times as.length) (as.flatMap (save w))
      bs := by
  induction hall with
  | nil => exact Reads.pure []
  | cons hab _ ih =>
    rw [List.flatMap_cons, List.length_append] at hlt
    exact (hab.reads (by omega)).bind (ih (by omega)).bind_pure

/-- A container arrives as its elements do. -/
lemma Arrives.list {as bs : List α} (hall : List.Forall₂ (Arrives w h) as bs) :
    Arrives w h as bs where
  save_ne_nil := by
    intro hnil
    have hlen := congrArg List.length (List.append_eq_nil_iff.mp hnil).1
    rw [length_store] at hlen
    exact absurd hlen (by decide)
  reads hlt := by
    have hlen : (save w as).length =
        (store w.endian 8 as.length).length + (as.flatMap (save w)).length :=
      List.length_append
    have hcount := length_le_length_flatMap (save_ne_nil_of_forall₂ hall)
    exact (reads_loadWord (by omega)).bind (reads_times hall (by omega))

lemma Arrives.list_self {as : List α} (hall : ∀ a ∈ as, Arrives w h a a) : Arrives w h as as :=
  .list (List.forall₂_same.mpr hall)

/-- A string. -/
lemma Arrives.string (bytes : List UInt8) : Arrives w h bytes bytes :=
  .list_self fun b _ => .uint8 b

/-! ### Archives -/

lemma read_write {a b : α} (ha : Arrives w h a b) (hlt : (write w a).length < 2 ^ 64) :
    read h (write w a) = Option.some b := by
  have hread := ha.reads (Nat.lt_of_succ_lt hlt) []
  rw [List.append_nil] at hread
  simp only [read, write, hread, Option.map_some]

end Arrives

end Archive
