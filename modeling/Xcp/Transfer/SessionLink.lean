import Xcp.Transfer.DestinationStream
import Xcp.Transfer.Session

/-!
# What is on a channel

In every state of a session, whatever has failed, what a channel carries is what its source has
sent and its destination has not read yet. So a destination channel that returns `true` has written
exactly the blocks that its source channel has sent, and that one has returned `true` as well.
-/

namespace Xcp

open Bytes

namespace Session

variable {F N : ℕ}

/-! ### Links -/

/-- The bytes start the encoding of a block or of the tail, and do not complete it. -/
def Cut (F : ℕ) (d : Endian) (t : List UInt8) : Prop :=
  t.length < 16 ∨ ∃ (b : Block F) (part : List UInt8), b.Encodable ∧
    part.length < b.body.length ∧ t = blockHeader d b.offset b.body.length b.nFile ++ part

/-- What follows the blocks on the wire: the tail, a cut block when a send has failed, or nothing. -/
def Trailer (d : Endian) : Source.Pc F → List UInt8 → Prop
  | .returned true, t  => t = finalTail d
  | .returned false, t => Cut F d t
  | _, t => t = []

section Link

variable (d : Endian) (spc : Source.Pc F) (sent : List (Block F)) (wire : List UInt8)
  (received : List (Block F))

/-- The wire holds the blocks that are sent and not received. -/
def Queued : Prop :=
  ∃ queue t, sent = received ++ queue ∧ wire = encodeBlocks d queue ++ t ∧ Trailer d spc t

/-- The wire holds the body of a block whose header has been read, and the blocks behind it; or the
body will never be complete. -/
def Incoming (offset blockSize nFile : ℕ) : Prop :=
  (∃ (b : Block F) (queue : List (Block F)) (t : List UInt8), b.offset = offset ∧
      b.body.length = blockSize ∧ (b.nFile : ℕ) = nFile ∧ sent = received ++ b :: queue ∧
      wire = b.body ++ (encodeBlocks d queue ++ t) ∧ Trailer d spc t) ∨
    (spc = .returned false ∧ wire.length < blockSize ∧ sent = received)

/-- All that was sent has been received, and nothing will follow. -/
def Finished : Prop := sent = received ∧ spc = .returned true

/-- What a channel carries, by where its destination is. -/
def Link : Destination.Pc F → Prop
  | .header | .count _ _ | .unmap _ _ | .close _ _ | .report _ => Queued d spc sent wire received
  | .check h => Incoming d spc sent wire received h.offset h.blockSize h.nFile ∨
      (Destination.Tail h ∧ Finished spc sent received)
  | .load offset blockSize n | .body offset blockSize n _ =>
    Incoming d spc sent wire received offset blockSize n
  | .exit true | .setEvent true | .returned true => Finished spc sent received
  | .exit false | .setEvent false | .returned false => received <+: sent

end Link

variable {d e : Endian} {spc spc' : Source.Pc F} {sent ext : List (Block F)} {wire t : List UInt8}
  {received : List (Block F)} {dpc : Destination.Pc F}

lemma Queued.isPrefix (h : Queued d spc sent wire received) : received <+: sent := by
  obtain ⟨queue, t, rfl, -⟩ := h
  exact List.prefix_append _ _

lemma Incoming.isPrefix {offset blockSize nFile : ℕ}
    (h : Incoming d spc sent wire received offset blockSize nFile) : received <+: sent := by
  rcases h with ⟨b, queue, t, -, -, -, rfl, -⟩ | ⟨-, -, rfl⟩
  · exact List.prefix_append _ _
  · exact List.prefix_rfl

/-- What has been received is a prefix of what has been sent. -/
lemma Link.isPrefix (h : Link d spc sent wire received dpc) : received <+: sent := by
  cases dpc with
  | header | count | unmap | close | report => exact Queued.isPrefix h
  | check hd =>
    rcases h with h | ⟨-, rfl, -⟩
    · exact h.isPrefix
    · exact List.prefix_rfl
  | load | body => exact Incoming.isPrefix h
  | exit r | setEvent r | returned r =>
    cases r with
    | true => exact h.1 ▸ List.prefix_rfl
    | false => exact h

/-! ### Steps of the source -/

lemma trailer_live (hlive : ∀ r, spc ≠ .returned r) (ht : Trailer d spc t) : t = [] := by
  cases spc with
  | returned r => exact absurd rfl (hlive r)
  | _ => exact ht

/-- A source channel that has not returned puts blocks and a trailer on the wire. -/
lemma Link.extend (h : Link d spc sent wire received dpc) (hlive : ∀ r, spc ≠ .returned r)
    (ht : Trailer d spc' t) :
    Link d spc' (sent ++ ext) (wire ++ (encodeBlocks d ext ++ t)) received dpc := by
  have hqueued : Queued d spc sent wire received →
      Queued d spc' (sent ++ ext) (wire ++ (encodeBlocks d ext ++ t)) received := by
    rintro ⟨queue, t', rfl, rfl, ht'⟩
    cases trailer_live hlive ht'
    exact ⟨queue ++ ext, t, by simp, by simp [encodeBlocks], ht⟩
  have hincoming : ∀ o k n, Incoming d spc sent wire received o k n →
      Incoming d spc' (sent ++ ext) (wire ++ (encodeBlocks d ext ++ t)) received o k n := by
    rintro o k n (⟨b, queue, t', ho, hk, hn, rfl, rfl, ht'⟩ | ⟨hspc, -⟩)
    · cases trailer_live hlive ht'
      exact .inl ⟨b, queue ++ ext, t, ho, hk, hn, by simp, by simp [encodeBlocks], ht⟩
    · exact absurd hspc (hlive false)
  have hfinished : ∀ {P : Prop}, Finished spc sent received → P := fun h =>
    absurd h.2 (hlive true)
  cases dpc with
  | header | count | unmap | close | report => exact hqueued h
  | check hd =>
    rcases h with h | ⟨-, h⟩
    · exact .inl (hincoming _ _ _ h)
    · exact hfinished h
  | load | body => exact hincoming _ _ _ h
  | exit r | setEvent r | returned r =>
    cases r with
    | true => exact hfinished h
    | false => exact List.IsPrefix.trans h (List.prefix_append _ _)

/-- A strict prefix of the encoding of a block is cut. -/
lemma cut_block {b : Block F} (hb : b.Encodable) {k : ℕ} (hk : k < (b.encode d).length) :
    Cut F d ((b.encode d).take k) := by
  by_cases hlt : k < 16
  · exact .inl (by simp; omega)
  · refine .inr ⟨b, b.body.take (k - 16), hb, ?_, ?_⟩
    · simp only [Block.encode, List.length_append, length_blockHeader] at hk
      simp only [List.length_take]
      omega
    · rw [Block.encode, List.take_append, length_blockHeader,
        List.take_of_length_le (by simp; omega)]

lemma cut_tail {k : ℕ} (hk : k < (finalTail d).length) : Cut F d ((finalTail d).take k) := by
  rw [length_finalTail] at hk
  exact .inl (by simp; omega)

/-! ### Steps of the destination -/

/-- Reading a header: it is that of the next block, that of a block which will not be complete, or
the tail. -/
lemma Queued.recvHeader (h : Queued d spc sent wire received)
    (hsent : ∀ b ∈ sent, b.Encodable) (hlen : 16 ≤ wire.length) :
    Link d spc sent (wire.drop 16) received (.check (decodeHeader e (wire.take 16))) := by
  obtain ⟨queue, t, rfl, rfl, ht⟩ := h
  cases queue with
  | cons b queue =>
    have hb := hsent b (by simp)
    have hwire : encodeBlocks d (b :: queue) ++ t =
        blockHeader d b.offset b.body.length b.nFile ++
          (b.body ++ (encodeBlocks d queue ++ t)) := by
      simp [encodeBlocks, Block.encode]
    rw [hwire, List.take_left' (length_blockHeader _ _ _ _),
      List.drop_left' (length_blockHeader _ _ _ _),
      decodeHeader_blockHeader d e hb.offset_lt hb.length_lt hb.nFile_lt]
    exact .inl (.inl ⟨b, queue, t, rfl, rfl, rfl, rfl, rfl, ht⟩)
  | nil =>
    simp only [encodeBlocks, List.flatMap_nil, List.nil_append, List.append_nil] at hlen ⊢
    cases spc with
    | returned r =>
      cases r with
      | true =>
        obtain rfl : t = finalTail d := ht
        refine .inr ⟨?_, rfl, rfl⟩
        rw [List.take_of_length_le (by simp), decodeHeader_finalTail]
        exact ⟨rfl, rfl, rfl⟩
      | false =>
        rcases ht with ht | ⟨b, part, hb, hpart, rfl⟩
        · omega
        · refine .inl (.inr ⟨rfl, ?_, rfl⟩)
          rw [List.take_left' (length_blockHeader _ _ _ _),
            List.drop_left' (length_blockHeader _ _ _ _),
            decodeHeader_blockHeader d e hb.offset_lt hb.length_lt hb.nFile_lt]
          exact hpart
    | _ =>
      cases ht
      simp at hlen

/-- Reading a body completes the block that was announced. -/
lemma Incoming.recvBody {offset blockSize : ℕ} {n : Fin F}
    (h : Incoming d spc sent wire received offset blockSize n)
    (hlen : blockSize ≤ wire.length) :
    Queued d spc sent (wire.drop blockSize)
      (received ++ [⟨n, offset, wire.take blockSize⟩]) := by
  rcases h with ⟨b, queue, t, rfl, rfl, hn, rfl, rfl, ht⟩ | ⟨-, hlt, -⟩
  · obtain rfl := Fin.ext hn
    exact ⟨queue, t, by simp, by simp, ht⟩
  · omega

/-- An announced block is not empty, so its header is not the tail. -/
lemma Incoming.not_tail {h : DecodedHeader}
    (hin : Incoming d spc sent wire received h.offset h.blockSize h.nFile)
    (hsent : ∀ b ∈ sent, b.Encodable) : ¬ Destination.Tail h := by
  rintro ⟨hsize, -, -⟩
  rcases hin with ⟨b, queue, t, -, hk, -, rfl, -⟩ | ⟨-, hlt, -⟩
  · have := (hsent b (by simp)).pos
    omega
  · omega

section DestinationStep

variable {N : ℕ} {s s' : Destination.State F N} {c : Fin N}

/-- The steps of a destination channel without `recv`. -/
lemma Link.run (h : Link d spc sent wire (s.received c) (s.chan c))
    (hsent : ∀ b ∈ sent, b.Encodable) (hstep : Destination.Step e s (.run c) s') :
    Link d spc sent wire (s'.received c) (s'.chan c) := by
  have hreceived : s'.received c = s.received c := by
    rcases hstep.received_eq with heq | ⟨_, _, _, _, _, _, heq, -⟩
    · rw [heq]
    · cases heq
  rw [hreceived]
  cases hstep with
  | @checkTail _ hd hpc htail =>
    rw [hpc] at h
    rw [Destination.State.chan_setPc, Function.update_self]
    rcases h with h | ⟨-, h⟩
    · exact absurd htail (h.not_tail hsent)
    · exact h
  | badTail | badIndex | unmapped => exact h
  | @mapped _ hd base hpc hsize hn hbase =>
    rw [hpc] at h
    rw [Destination.State.chan_setPc, Function.update_self]
    rcases h with h | ⟨htail, -⟩
    · exact h
    · exact absurd htail.1 hsize
  | disposed hpc =>
    rw [Destination.State.chan_setPc, Function.update_self]
    exact h.isPrefix
  | load hpc =>
    rw [hpc] at h
    rw [Destination.State.chan_setPc, Function.update_self]
    exact h
  | @count _ blockSize n hpc _ hs' =>
    rw [hpc] at h
    rcases Destination.chan_countReceived (s := s) c blockSize n with heq | heq | heq <;>
      rw [← hs', heq]
    · rwa [hpc]
    · rwa [Function.update_self]
    · rwa [Function.update_self]
  | unmap hpc | close hpc | report hpc =>
    rw [hpc] at h
    rw [Destination.State.chan_setPc, Function.update_self]
    exact h
  | @signal _ result hpc _ hs' =>
    rw [hpc] at h
    rcases Destination.chan_signal (s := s) c result with heq | heq | heq <;> rw [← hs', heq]
    · rwa [hpc]
    · rw [Function.update_self]
      cases result <;> exact h
    · rw [Function.update_self]
      cases result <;> exact h
  | @setEvent _ result hpc =>
    rw [hpc] at h
    rw [Destination.State.chan_setPc, Function.update_self]
    cases result <;> exact h

/-- A `recv` that takes what it asks for from the wire. -/
lemma Link.recv (h : Link d spc sent wire (s.received c) (s.chan c))
    (hsent : ∀ b ∈ sent, b.Encodable) {k : ℕ} (hlen : k ≤ wire.length)
    (hstep : Destination.Step e s (.recv c (wire.take k)) s') :
    Link d spc sent (wire.drop k) (s'.received c) (s'.chan c) := by
  have hk : (wire.take k).length = k := by simpa using hlen
  cases hstep with
  | recvHeader hpc hsize =>
    rw [hk] at hsize
    subst hsize
    rw [hpc] at h
    rw [Destination.State.chan_setPc, Function.update_self]
    exact Queued.recvHeader h hsent hlen
  | recvBody hpc hsize =>
    rw [hk] at hsize
    subst hsize
    rw [hpc] at h
    rw [Destination.State.chan_setPc, Function.update_self, Destination.State.received_setPc,
      Destination.State.received_addReceived, Function.update_self]
    exact Incoming.recvBody h hlen

lemma Link.recvFailed (h : Link d spc sent wire (s.received c) (s.chan c)) {bytes : List UInt8}
    (hstep : Destination.Step e s (.recvFailed c bytes) s') (wire' : List UInt8) :
    Link d spc sent wire' (s'.received c) (s'.chan c) := by
  cases hstep with
  | headerFailed | bodyFailed =>
    rw [Destination.State.chan_setPc, Function.update_self]
    exact h.isPrefix

end DestinationStep

/-! ### Every channel of a session -/

variable {cfg : Config F N} {s s' : State F N} {a : Action N}

/-- What channel `c` of the session carries. -/
def LinkAt (cfg : Config F N) (s : State F N) (c : Fin N) : Prop :=
  Link cfg.sourceEndian (s.source.chan c) (s.source.sent c) (s.wire c) (s.destination.received c)
    (s.destination.chan c)

/-- The channels have sockets, so they are few. -/
lemma Config.lt (cfg : Config F N) : N < 2 ^ 33 := by
  have hcard := card_le_of_descriptors cfg.sock
  rw [Fintype.card_fin] at hcard
  exact hcard.trans_lt (by decide)

lemma reach_sourceInv {C : State F N → Action N → Prop} (h : (machine cfg).ReachIf C s) :
    Source.Inv cfg.files s.source :=
  Source.reach_inv cfg.lt (reach_source h)

/-- Every file holds a descriptor, so an index fits its field of a header. -/
lemma reach_nFile_lt {C : State F N → Action N → Prop} (h : (machine cfg).ReachIf C s) (n : Fin F) :
    (n : ℕ) < 2 ^ 32 :=
  Destination.nFile_lt (reach_destination h) n

lemma encodable_of_range {n : Fin F} (hn : (n : ℕ) < 2 ^ 32) {file : Source.SourceFile}
    {offset : ℕ} {body : List UInt8} (hpos : 0 < body.length)
    (hle : offset + body.length ≤ file.size)
    (hmax : body.length ≤ ProgramOptionsDefaults.maxTransferBlockSize) :
    Block.Encodable ⟨n, offset, body⟩ where
  offset_lt := by have := file.size_lt; simp only; omega
  pos := hpos
  length_lt := hmax.trans_lt (by decide)
  nFile_lt := hn

lemma reach_encodable {C : State F N → Action N → Prop} (h : (machine cfg).ReachIf C s) {c : Fin N}
    {b : Block F} (hb : b ∈ s.source.sent c) : b.Encodable :=
  have hI := reach_sourceInv h
  encodable_of_range (reach_nFile_lt h b.nFile) (hI.pos hb) (hI.block_le hb) (hI.sent c b hb).2

/-- What a source channel is about to send: a block that fits its header, or the tail. -/
lemma nextBytes_cases {C : State F N → Action N → Prop} (h : (machine cfg).ReachIf C s) (c : Fin N) :
    (∃ n curr blockSize, s.source.chan c = .send n curr blockSize ∧
      Block.Encodable ⟨n, curr, (cfg.files n).slice curr blockSize⟩ ∧ s.nextBytes cfg c =
        Block.encode cfg.sourceEndian ⟨n, curr, (cfg.files n).slice curr blockSize⟩) ∨
    (s.source.chan c = .tail ∧ s.nextBytes cfg c = finalTail cfg.sourceEndian) ∨
    ((∀ n curr blockSize, s.source.chan c ≠ .send n curr blockSize) ∧ s.source.chan c ≠ .tail) := by
  have hI := reach_sourceInv h
  unfold State.nextBytes
  cases hpc : s.source.chan c with
  | send n curr blockSize =>
    obtain ⟨hpos, hle⟩ := hI.range_le (Source.mem_claimed_of_send hpc)
    refine .inl ⟨n, curr, blockSize, rfl, ?_, rfl⟩
    exact encodable_of_range (reach_nFile_lt h n) (by simpa using hpos) (by simpa using hle)
      (by simpa using hI.pending_le c n curr blockSize hpc)
  | tail => exact .inr (.inl ⟨rfl, rfl⟩)
  | _ => exact .inr (.inr ⟨by nofun, by nofun⟩)

/-- A step that leaves both ends of a channel and its wire alone. -/
lemma LinkAt.frame {c : Fin N} (h : LinkAt cfg s c) (hchan : s'.source.chan c = s.source.chan c)
    (hsent : s'.source.sent c = s.source.sent c) (hwire : s'.wire c = s.wire c)
    (hreceived : s'.destination.received c = s.destination.received c)
    (hdest : s'.destination.chan c = s.destination.chan c) : LinkAt cfg s' c := by
  rwa [LinkAt, hchan, hsent, hwire, hreceived, hdest]

/-- A step of the source on its channel `c₀`, which puts `bytes` on the wire. -/
lemma LinkAt.sourceStep {c c₀ : Fin N} (h : LinkAt cfg s c) {a : Source.Action N}
    {source : Source.State F N} {bytes t : List UInt8} {ext : List (Block F)}
    (hstep : Source.Step cfg.files s.source a source) (ha : a.actor = some c₀)
    (hlive : ∀ r, s.source.chan c₀ ≠ .returned r)
    (hsent : source.sent c₀ = s.source.sent c₀ ++ ext)
    (hbytes : bytes = encodeBlocks cfg.sourceEndian ext ++ t)
    (ht : Trailer cfg.sourceEndian (source.chan c₀) t) :
    LinkAt cfg ((s.setWire c₀ (s.wire c₀ ++ bytes)).setSource source) c := by
  by_cases hc : c = c₀
  · subst hc
    rw [LinkAt]
    simp only [State.source_setSource, State.wire_setSource, State.wire_setWire,
      State.destination_setSource, State.destination_setWire, Function.update_self, hsent, hbytes]
    exact Link.extend h hlive ht
  · have hne : a.actor ≠ some c := by rw [ha]; exact fun heq => hc (Option.some.inj heq).symm
    exact h.frame (hstep.chan_of_ne hne) (hstep.sent_of_ne hne) (by simp [hc]) rfl rfl

/-- A step of the destination on its channel `c₀`, which leaves `bytes` on the wire. -/
lemma LinkAt.destinationStep {c c₀ : Fin N} (h : LinkAt cfg s c) {a : Destination.Action N}
    {destination : Destination.State F N} {bytes : List UInt8}
    (hstep : Destination.Step cfg.destinationEndian s.destination a destination)
    (ha : a.actor = some c₀)
    (hlink : Link cfg.sourceEndian (s.source.chan c₀) (s.source.sent c₀) bytes
      (destination.received c₀) (destination.chan c₀)) :
    LinkAt cfg ((s.setWire c₀ bytes).setDestination destination) c := by
  by_cases hc : c = c₀
  · subst hc
    rw [LinkAt]
    simpa using hlink
  · have hne : a.actor ≠ some c := by rw [ha]; exact fun heq => hc (Option.some.inj heq).symm
    refine h.frame rfl rfl (by simp [hc]) ?_ (hstep.chan_of_ne hne)
    rcases hstep.received_eq with heq | ⟨c', _, _, _, _, _, rfl, -, -, heq, -⟩
    · exact congrFun heq c
    · have hc' : c ≠ c' := fun heq => hne (by simp [Destination.Action.actor, heq])
      exact (congrFun heq c).trans (Function.update_of_ne hc' _ _)

lemma trailer_nil {pc : Source.Pc F} (h : ∀ r, pc ≠ .returned r) : Trailer d pc [] := by
  cases pc with
  | returned r => exact absurd rfl (h r)
  | _ => rfl

lemma LinkAt.step {C : State F N → Action N → Prop} (hs : (machine cfg).ReachIf C s)
    (h : ∀ c, LinkAt cfg s c) (hstep : Step cfg s a s') (c : Fin N) : LinkAt cfg s' c := by
  cases hstep with
  | @send c₀ next source hsource =>
    cases hsource with | @send _ n curr blockSize _ hpc hopen hnext
    have hnext' : s.nextBytes cfg c₀ =
        encodeBlocks cfg.sourceEndian [⟨n, curr, (cfg.files n).slice curr blockSize⟩] ++ [] := by
      simp [State.nextBytes, hpc, encodeBlocks]
    refine (h c).sourceStep (.send hpc hopen hnext) rfl (by simp [hpc]) ?_ hnext'
      (trailer_nil ?_)
    · simp [Source.State.sendBlock]
    · simp
  | @sendTail c₀ source hsource =>
    cases hsource with | sendTail hpc
    have hnext : s.nextBytes cfg c₀ =
        encodeBlocks cfg.sourceEndian ([] : List (Block F)) ++ finalTail cfg.sourceEndian := by
      simp [State.nextBytes, hpc, encodeBlocks]
    refine (h c).sourceStep (.sendTail hpc) rfl (by simp [hpc]) (by simp) hnext ?_
    simp [Trailer]
  | @sendFailed c₀ count source hcount hsource =>
    cases hsource with | sendFailed hpc
    have hlive : ∀ r, s.source.chan c₀ ≠ .returned r := by
      rcases hpc with ⟨_, _, _, hpc⟩ | hpc <;> simp [hpc]
    have hcut : Cut F cfg.sourceEndian ((s.nextBytes cfg c₀).take count) := by
      rcases nextBytes_cases hs c₀ with ⟨n, curr, blockSize, -, hb, heq⟩ | ⟨-, heq⟩ | ⟨hne, hne'⟩
      · rw [heq] at hcount ⊢
        exact cut_block hb hcount
      · rw [heq] at hcount ⊢
        exact cut_tail hcount
      · rcases hpc with ⟨n, curr, blockSize, hpc⟩ | hpc
        · exact absurd hpc (hne _ _ _)
        · exact absurd hpc hne'
    exact (h c).sourceStep (t := (s.nextBytes cfg c₀).take count) (.sendFailed hpc) rfl hlive
      (List.append_nil _).symm rfl (by simpa [Trailer] using hcut)
  | @source a source ha hsource =>
    -- no bytes are sent, and the channel goes on
    have hnone : ∀ c₀, a.actor = some c₀ → (∀ r, s.source.chan c₀ ≠ .returned r) →
        source.sent c₀ = s.source.sent c₀ → (∀ r, source.chan c₀ ≠ .returned r) →
        LinkAt cfg (s.setSource source) c := by
      intro c₀ hact hlive hsent hlive'
      have hlink : LinkAt cfg ((s.setWire c₀ (s.wire c₀ ++ [])).setSource source) c :=
        (h c).sourceStep (t := []) hsource hact hlive (by rw [hsent, List.append_nil]) rfl
          (trailer_nil hlive')
      simpa [State.setWire] using hlink
    cases hsource with
    | @claim c₀ n hpc =>
      obtain ⟨pc, hlive, heq⟩ := Source.chan_claim cfg.files s.source c₀ n
      exact hnone c₀ rfl (by simp [hpc]) (by rw [Source.sent_claim])
        (by rw [heq, Function.update_self]; exact hlive)
    | @report c₀ n blockSize hpc =>
      exact hnone c₀ rfl (by simp [hpc]) rfl (by simp)
    | disposeStart | disposeClose | disposeDone => exact (h c).frame rfl rfl rfl rfl rfl
    | send | sendTail | sendFailed =>
      rcases ha with ⟨_, ha⟩ | ⟨_, ha⟩ | ha <;> cases ha
  | @recv c₀ destination hlen ha hdest =>
    exact (h c).destinationStep hdest rfl
      (Link.recv (h c₀) (fun b hb => reach_encodable hs hb) hlen hdest)
  | @recvFailed c₀ count destination hlen ha hdest =>
    exact (h c).destinationStep hdest rfl (Link.recvFailed (h c₀) hdest _)
  | @run c₀ destination ha hdest =>
    have := (h c).destinationStep hdest rfl
      (Link.run (h c₀) (fun b hb => reach_encodable hs hb) hdest)
    simpa [State.setWire] using this
  | dispose hopen ha hdest =>
    refine (h c).frame rfl rfl rfl ?_ (hdest.chan_of_ne (by simp [Destination.Action.actor]))
    rcases hdest.received_eq with heq | ⟨_, _, _, _, _, _, heq, -⟩
    · exact congrFun heq c
    · cases heq
  | _ => exact (h c).frame rfl rfl rfl rfl rfl

/-- In every state of a session, every channel carries what is sent and not read. -/
lemma reach_link {C : State F N → Action N → Prop} (h : (machine cfg).ReachIf C s) (c : Fin N) :
    LinkAt cfg s c := by
  refine h.invariant (I := fun s => ∀ c, LinkAt cfg s c) (fun s hs c => ?_)
    (fun s a s' hs hI _ hstep => LinkAt.step hs hI (Step.of_step hstep)) c
  obtain ⟨source, destination, ⟨blockSize, -, rfl⟩, hdestination, rfl⟩ := hs
  have hinit := Destination.Initial.of_init hdestination
  rw [LinkAt, hinit.chan_eq c, hinit.received_eq c]
  refine ⟨[], [], rfl, rfl, trailer_nil fun r => ?_⟩
  simp only [Source.start, Source.atFile]
  split_ifs <;> simp

end Session

end Xcp
