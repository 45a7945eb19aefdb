import Mathlib
import Xcp.Library.Bytes
import Xcp.Message

/-!
# The stream of a channel

A channel carries blocks, each a header of 16 bytes and a body, and ends with a tail of 16 bytes.
The source writes the headers field by field and the destination reads them field by field; what is
read is what was written, whatever the byte orders of the two hosts.
-/

namespace Xcp

open Bytes

/-- A piece of file `nFile` at `offset`. -/
structure Block (F : ℕ) where
  nFile : Fin F
  offset : ℕ
  body : List UInt8
  deriving DecidableEq

/-- The header of a block as `transfer_source::invoke_channel` fills it. -/
def blockHeader (e : Endian) (curr blockSize nFile : ℕ) : List UInt8 :=
  storeU32 e (htonl e (toU32 (curr >>> 32))) ++ storeU32 e (htonl e (toU32 (curr &&& 0xFFFFFFFF))) ++
    storeU32 e (htonl e blockSize) ++ storeU32 e (htonl e (toU32 nFile))

/-- The final tail as `transfer_source::invoke_channel` fills it. -/
def finalTail (e : Endian) : List UInt8 :=
  storeU32 e (htonl e 0xFFFFFFFF) ++ storeU32 e (htonl e 0xFFFFFFFF) ++
    storeU32 e (htonl e 0) ++ storeU32 e (htonl e 0xFFFFFFFF)

/-- What `transfer_destination::invoke_channel` reads from a header. -/
structure DecodedHeader where
  offset : ℕ
  blockSize : ℕ
  nFile : ℕ
  deriving DecidableEq

/-- The decoding in `transfer_destination::invoke_channel`. -/
def decodeHeader (e : Endian) (header : List UInt8) : DecodedHeader where
  offset := toU64 (ntohl e (loadU32 e header) <<< 32) ||| ntohl e (loadU32 e (header.drop 4))
  blockSize := ntohl e (loadU32 e (header.drop 8))
  nFile := ntohl e (loadU32 e (header.drop 12))

namespace Block

variable {F : ℕ}

/-- The block on the wire: header and body. -/
def encode (e : Endian) (b : Block F) : List UInt8 :=
  blockHeader e b.offset b.body.length b.nFile ++ b.body

/-- The block fits the fields of a header, and is not empty. -/
structure Encodable (b : Block F) : Prop where
  offset_lt : b.offset < 2 ^ 64
  pos : 0 < b.body.length
  length_lt : b.body.length < 2 ^ 32
  nFile_lt : (b.nFile : ℕ) < 2 ^ 32

/-- The range of its file that the block fills. -/
def range (b : Block F) : ℕ × ℕ := (b.offset, b.body.length)

end Block

/-! ### Lists of blocks -/

section Blocks

variable {F : ℕ}

/-- The bytes of a list of blocks. -/
def encodeBlocks (e : Endian) (bs : List (Block F)) : List UInt8 := bs.flatMap (·.encode e)

/-- The blocks of file `n`. -/
def blocksOf (bs : List (Block F)) (n : Fin F) : List (Block F) := bs.filter (·.nFile = n)

/-- How much of file `n` is in the blocks. -/
def amount (bs : List (Block F)) (n : Fin F) : ℕ := ((blocksOf bs n).map (·.body.length)).sum

@[simp] lemma amount_nil (n : Fin F) : amount ([] : List (Block F)) n = 0 := rfl

lemma amount_cons (b : Block F) (bs : List (Block F)) (n : Fin F) :
    amount (b :: bs) n = (if b.nFile = n then b.body.length else 0) + amount bs n := by
  simp only [amount, blocksOf, List.filter_cons]
  split_ifs <;> simp_all

lemma amount_append (bs bs' : List (Block F)) (n : Fin F) :
    amount (bs ++ bs') n = amount bs n + amount bs' n := by
  simp [amount, blocksOf]

lemma length_le_amount {bs : List (Block F)} {b : Block F} (hb : b ∈ bs) :
    b.body.length ≤ amount bs b.nFile :=
  List.single_le_sum (fun _ _ => Nat.zero_le _) _
    (List.mem_map_of_mem (List.mem_filter.mpr ⟨hb, by simp⟩))

/-- What the blocks hold of all files together. -/
lemma sum_amount (bs : List (Block F)) :
    ∑ n, amount bs n = (bs.map (·.body.length)).sum := by
  induction bs with
  | nil => simp
  | cons b bs ih => simp [amount_cons, Finset.sum_add_distrib, ih]

end Blocks

/-! ### Reading a header -/

@[simp] lemma length_blockHeader (e : Endian) (curr blockSize nFile : ℕ) :
    (blockHeader e curr blockSize nFile).length = 16 := by
  simp [blockHeader]

@[simp] lemma length_finalTail (e : Endian) : (finalTail e).length = 16 := by
  simp [finalTail]

/-- Four words in network order, read as a header. -/
lemma decodeHeader_words (e₁ e₂ : Endian) {hi lo size n : ℕ} (hhi : hi < 2 ^ 32)
    (hlo : lo < 2 ^ 32) (hsize : size < 2 ^ 32) (hn : n < 2 ^ 32) :
    decodeHeader e₂ (storeU32 e₁ (htonl e₁ hi) ++ storeU32 e₁ (htonl e₁ lo) ++
      storeU32 e₁ (htonl e₁ size) ++ storeU32 e₁ (htonl e₁ n)) =
      ⟨toU64 (hi <<< 32) ||| lo, size, n⟩ := by
  have hdrop : ∀ v (rest : List UInt8), (storeU32 e₁ v ++ rest).drop 4 = rest := fun v rest =>
    List.drop_left' (length_storeU32 e₁ v)
  simp only [decodeHeader, List.append_assoc, ntohl_loadU32_storeU32_htonl e₁ e₂ hhi]
  rw [show (8 : ℕ) = 4 + 4 from rfl, show (12 : ℕ) = 4 + (4 + 4) from rfl]
  simp only [← List.drop_drop, hdrop, ntohl_loadU32_storeU32_htonl e₁ e₂ hlo,
    ntohl_loadU32_storeU32_htonl e₁ e₂ hsize]
  rw [← List.append_nil (storeU32 e₁ (htonl e₁ n)), ntohl_loadU32_storeU32_htonl e₁ e₂ hn]

/-- The header of a block is read back as it was written. -/
lemma decodeHeader_blockHeader (e₁ e₂ : Endian) {curr blockSize nFile : ℕ} (hcurr : curr < 2 ^ 64)
    (hsize : blockSize < 2 ^ 32) (hn : nFile < 2 ^ 32) :
    decodeHeader e₂ (blockHeader e₁ curr blockSize nFile) = ⟨curr, blockSize, nFile⟩ := by
  have hhi : curr >>> 32 < 2 ^ 32 := by
    rw [Nat.shiftRight_eq_div_pow]
    omega
  have hlo : curr &&& 0xFFFFFFFF < 2 ^ 32 := Nat.and_lt_two_pow _ (by decide)
  have hshift : curr >>> 32 <<< 32 < 2 ^ 64 := by
    rw [Nat.shiftLeft_eq]
    omega
  rw [blockHeader, toU32_of_lt hhi, toU32_of_lt hlo, toU32_of_lt hn,
    decodeHeader_words e₁ e₂ hhi hlo hsize hn, toU64_of_lt hshift, joinU64_split]

/-- The tail is read back as the header that ends a stream. -/
lemma decodeHeader_finalTail (e₁ e₂ : Endian) :
    decodeHeader e₂ (finalTail e₁) = ⟨2 ^ 64 - 1, 0, 2 ^ 32 - 1⟩ := by
  rw [finalTail, decodeHeader_words e₁ e₂ (by decide) (by decide) (by decide) (by decide)]
  rfl

end Xcp
