import Xcp.Infra.Network
import Xcp.Library.Archive

/-!
# Addresses in memory

`infra::tcp_sockaddr` by the fields of its `sockaddr_in` or `sockaddr_in6`. Ports and addresses lie
in memory in network order, so the number that a host reads from such a field depends on its byte
order; `save` and `load` treat the field as that number.
-/

namespace Xcp

open Archive Bytes

/-- `infra::tcp_sockaddr` of family `AF_INET` or `AF_INET6`, with the numbers that the host reads
from the fields. -/
inductive Sockaddr where
  | inet (sinPort : UInt16) (sAddr : UInt32)
  | inet6 (sin6Port : UInt16) (sin6Flowinfo : UInt32) (sin6Addr : Vector UInt8 16)
      (sin6ScopeId : UInt32)
  deriving DecidableEq

namespace Sockaddr

/-- `sa_family`: `AF_INET6` or not. -/
def isInet6 : Sockaddr → Bool
  | inet _ _      => false
  | inet6 _ _ _ _ => true

/-- The port field. -/
def portField : Sockaddr → UInt16
  | inet p _      => p
  | inet6 p _ _ _ => p

/-- `port()` on a host. -/
def port (h : Host) (a : Sockaddr) : ℕ := ntoh h.endian 2 a.portField.toNat

/-- The bytes of the address in the memory of the host, which is network order. -/
def addressBytes (h : Host) : Sockaddr → List UInt8
  | inet _ a      => store h.endian 4 a.toNat
  | inet6 _ _ a _ => a.toList

/-- `sin6_scope_id`. -/
def scopeId : Sockaddr → Option UInt32
  | inet _ _      => none
  | inet6 _ _ _ s => some s

/-- The address that the fields mean on the host. -/
def toTcpSockaddr (h : Host) : Sockaddr → TcpSockaddr
  | inet p a      => .ipv4 (ntoh h.endian 2 p.toNat) ⟨(store h.endian 4 a.toNat).toArray, by simp⟩
  | inet6 p f a s => .ipv6 (ntoh h.endian 2 p.toNat) f.toNat a s.toNat

@[simp] lemma port_toTcpSockaddr (h : Host) (a : Sockaddr) :
    (a.toTcpSockaddr h).port = a.port h := by
  cases a <;> rfl

/-! ### Serialisation -/

/-- `family_enum`. -/
def familyIpv4 : UInt32 := 1
def familyIpv6 : UInt32 := 2

/-- The first 16 bytes. -/
def addrOfBytes (bytes : List UInt8) : Vector UInt8 16 := Vector.ofFn fun k => bytes.getD k 0

/-- `binary_data` of an IPv6 address. -/
def loadAddr (i : Input) : Reader (Vector UInt8 16) := addrOfBytes <$> loadBinary i 16

/-- `tcp_sockaddr::save` and `load`. -/
instance : Serial Sockaddr where
  save h
    | inet p a      => save h familyIpv4 ++ (save h p ++ save h a)
    | inet6 p f a s => save h familyIpv6 ++ (save h p ++ (save h f ++ (a.toList ++ save h s)))
  load i := do
    let fam : UInt32 ← Serial.load i
    if fam = familyIpv4 then
      let p ← Serial.load i
      let a ← Serial.load i
      return inet p a
    else if fam = familyIpv6 then
      let p ← Serial.load i
      let f ← Serial.load i
      let a ← loadAddr i
      let s ← Serial.load i
      return inet6 p f a s
    else fun _ => none

/-- The fields with which an address saved by `w` is loaded by `h`. -/
def loaded (w h : Host) : Sockaddr → Sockaddr
  | inet p a      => inet p a
  | inet6 p f a s =>
    inet6 p f (if w.endian = h.endian then a else addrOfBytes (swapElements h.binaryElement a.toList))
      s

@[simp] lemma addrOfBytes_toList (a : Vector UInt8 16) : addrOfBytes a.toList = a := by
  ext k hk
  simp [addrOfBytes, List.getD_eq_getElem?_getD]

lemma reads_loadAddr {w h : Host} (a : Vector UInt8 16) :
    Reads (loadAddr (h.input (isLittleEndian w))) a.toList
      (if w.endian = h.endian then a
        else addrOfBytes (swapElements h.binaryElement a.toList)) := by
  have hread := (reads_loadBinary (w := w) (h := h) a.toList).map (f := addrOfBytes)
  rw [Vector.length_toList, apply_ite addrOfBytes, addrOfBytes_toList] at hread
  exact hread

/-- An address is loaded with the numbers of its fields. -/
lemma reads_load (w h : Host) (a : Sockaddr) :
    Reads (Serial.load (h.input (isLittleEndian w))) (save w a) (a.loaded w h) := by
  have hword : ∀ v : UInt32, Reads (Serial.load (h.input (isLittleEndian w))) (save w v) v := by
    intro v
    apply (Arrives.uint32 v).reads
    rw [show (save w v).length = 4 from length_store _ _ _]
    decide
  have hport : ∀ v : UInt16, Reads (Serial.load (h.input (isLittleEndian w))) (save w v) v := by
    intro v
    apply (Arrives.uint16 v).reads
    rw [show (save w v).length = 2 from length_store _ _ _]
    decide
  cases a with
  | inet p a => exact (hword familyIpv4).bind ((hport p).bind (hword a).bind_pure)
  | inet6 p f a s =>
    exact (hword familyIpv6).bind ((hport p).bind ((hword f).bind
      ((reads_loadAddr a).bind (hword s).bind_pure)))

lemma arrives (w h : Host) (a : Sockaddr) : Arrives w h a (a.loaded w h) where
  save_ne_nil := by
    cases a <;>
    · intro hnil
      exact (Arrives.uint32 (w := w) (h := h) _).save_ne_nil (List.append_eq_nil_iff.mp hnil).1
  reads _ := reads_load w h a

/-- The bytes of an address begin with its family, which is 1 or 2. -/
lemma save_eq (w : Host) (a : Sockaddr) :
    ∃ fam rest, 0 < fam ∧ fam < 256 ^ 4 ∧ save w a = store w.endian 4 fam ++ rest := by
  cases a with
  | inet p a => exact ⟨1, save w p ++ save w a, by decide, by decide, rfl⟩
  | inet6 p f a s =>
    exact ⟨2, save w p ++ (save w f ++ (a.toList ++ save w s)), by decide, by decide, rfl⟩

/-- No family has the number zero. -/
lemma load_zero (w h : Host) (rest : List UInt8) :
    (Serial.load (h.input (isLittleEndian w)) : Reader Sockaddr)
      (store w.endian 4 0 ++ rest) = none := by
  have hfam : (Serial.load (h.input (isLittleEndian w)) : Reader UInt32)
      (store w.endian 4 0 ++ rest) = some (0, rest) := by
    apply (Arrives.uint32 (w := w) (h := h) 0).reads
    rw [show (save w (0 : UInt32)).length = 4 from length_store _ _ _]
    decide
  change ((Serial.load (h.input (isLittleEndian w)) : Reader UInt32) _).bind _ = none
  rw [hfam]
  rfl

end Sockaddr

end Xcp
