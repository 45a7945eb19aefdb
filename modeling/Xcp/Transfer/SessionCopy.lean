import Xcp.Transfer.SessionCount

/-!
# Copies

When no channel fails and each side is disposed only after its channels have returned, no `ASSERT`
of the destination fails and no channel gives up: a file stays mapped as long as a block of it is
under way. Every block lands in its place, and when all channels have received their tails the
files are copies.
-/

namespace Xcp

open Tiling

namespace Session

open Destination (written)

variable {F N : ℕ} {cfg : Config F N} {s s' : State F N} {a : Action N}
  {C : State F N → Action N → Prop}

/-- No connection of a channel fails, and each side is disposed only after its channels have
returned. -/
def Calm (s : State F N) : Action N → Prop
  | .sendFailed _ _ | .recvFailed _ _ => False
  | .source .dispose => ∀ c, s.source.chan c = .returned true
  | .dispose => ∀ c, s.destination.chan c = .returned true
  | _ => True

/-- File `n` is the same on both sides. -/
structure Copied (cfg : Config F N) (s : State F N) (n : Fin F) : Prop where
  size : (s.destination.content n).size = (cfg.files n).size
  byte : ∀ p < (cfg.files n).size, (s.destination.content n).byte p = (cfg.files n).byte p

/-- What holds in every state of a calm session. -/
structure Inv (cfg : Config F N) (s : State F N) : Prop where
  aborted : s.destination.aborted = false
  source_ok : ∀ c, s.source.chan c ≠ .returned false
  destination_ok : ∀ c, ¬ (s.destination.chan c).Failed
  disposed : s.destination.disposer = .idle ∨ ∀ c, s.destination.chan c = .returned true
  phase : s.destination.disposer = .idle → ∀ n, 0 < cfg.info.fileSize n →
    Destination.Phase s.destination n
  pointer : ∀ c offset blockSize n ptr, s.destination.chan c = .body offset blockSize n ptr →
    ∃ addr, ptr = some addr ∧ cfg.os.mmap n = .ok addr
  content : ∀ c, ∀ b ∈ s.destination.received c, ∀ p, Covers b.range p →
    (s.destination.content b.nFile).byte p = (cfg.files b.nFile).byte p

/-! ### Announced blocks -/

/-- The file of a block that a channel is about to receive is mapped. -/
lemma Inv.announced (hI : Inv cfg s) (hs : (machine cfg).ReachIf C s) {c : Fin N}
    (hlive : ∀ r, s.destination.chan c ≠ .returned r) {offset blockSize nFile : ℕ}
    (hin : Incoming cfg.sourceEndian (s.source.chan c) (s.source.sent c) (s.wire c)
      (s.destination.received c) offset blockSize nFile) :
    ∃ b ∈ s.source.sent c, b.offset = offset ∧ b.body.length = blockSize ∧
      (b.nFile : ℕ) = nFile ∧ b.body = (s.wire c).take blockSize ∧
      ∃ addr, (s.destination.recvCtx b.nFile).dstFileMapped = some addr ∧
        cfg.os.mmap b.nFile = .ok addr := by
  obtain ⟨b, hb, ho, hk, hn, hbody, hle⟩ := Session.announced hs (hI.source_ok c) hin
  have hpos : 0 < blockSize := hk ▸ (reach_sourceInv hs).pos hb
  have hidle : s.destination.disposer = .idle :=
    hI.disposed.resolve_right fun h => hlive true (h c)
  have hmapped := (hI.phase hidle b.nFile (by omega)).mapped (receivedSize_lt hs hpos hle)
  refine ⟨b, hb, ho, hk, hn, hbody, ?_⟩
  obtain ⟨hres, -⟩ := Destination.reach_resources (reach_destination hs)
  rcases (hres b.nFile).mapping with ⟨-, hnone⟩ | ⟨addr, -, haddr, ⟨hsome, -⟩ | ⟨hnone, -⟩⟩
  · exact absurd hnone hmapped
  · exact ⟨addr, hsome, haddr⟩
  · exact absurd hnone hmapped

/-- A header that is not the tail announces a block. -/
lemma incoming_of_check (hs : (machine cfg).ReachIf C s) {c : Fin N} {h : DecodedHeader}
    (hpc : s.destination.chan c = .check h) (hsize : h.blockSize ≠ 0) :
    Incoming cfg.sourceEndian (s.source.chan c) (s.source.sent c) (s.wire c)
      (s.destination.received c) h.offset h.blockSize h.nFile := by
  have hlink := reach_link hs c
  rw [LinkAt, hpc] at hlink
  rcases hlink with hin | ⟨htail, -⟩
  · exact hin
  · exact absurd htail.1 hsize

/-! ### Steps of the destination -/

lemma not_failed_setPc {t : Destination.State F N} (h : ∀ c, ¬ (t.chan c).Failed) (c : Fin N)
    {pc : Destination.Pc F} (hpc : ¬ pc.Failed) (i : Fin N) : ¬ ((t.setPc c pc).chan i).Failed := by
  rw [Destination.State.chan_setPc]
  by_cases hi : i = c
  · subst hi
    rwa [Function.update_self]
  · rw [Function.update_of_ne hi]
    exact h i

/-- A channel does not give up, and no `ASSERT` fails. -/
lemma Inv.run_ok (hI : Inv cfg s) (hs : (machine cfg).ReachIf C s) {c : Fin N}
    {t : Destination.State F N}
    (hstep : Destination.Step cfg.destinationEndian s.destination (.run c) t) :
    t.aborted = false ∧ ∀ i, ¬ (t.chan i).Failed := by
  have hlive := hstep.not_returned (c := c) rfl
  cases hstep with
  | badTail hpc hsize htail =>
    have hlink := reach_link hs c
    rw [LinkAt, hpc] at hlink
    rcases hlink with hin | ⟨htail', -⟩
    · obtain ⟨b, hb, -, hk, -⟩ := hI.announced hs hlive hin
      have hpos := (reach_sourceInv hs).pos hb
      omega
    · exact absurd htail' htail
  | badIndex hpc hsize hn =>
    obtain ⟨b, -, -, -, hn', -⟩ := hI.announced hs hlive (incoming_of_check hs hpc hsize)
    exact absurd (hn' ▸ b.nFile.isLt) hn
  | unmapped hpc hsize hn hnone | disposed hpc hsize hn hnone =>
    obtain ⟨b, -, -, -, hn', -, addr, hsome, -⟩ :=
      hI.announced hs hlive (incoming_of_check hs hpc hsize)
    have hnb : b.nFile = ⟨_, hn⟩ := Fin.ext hn'
    rw [hnb, hnone] at hsome
    cases hsome
  | @count _ blockSize n hpc _ hs' =>
    rw [Destination.countReceived_of_le (reach_counted hs).1 (written_le hs) hpc] at hs'
    subst hs'
    refine ⟨hI.aborted, not_failed_setPc hI.destination_ok c ?_⟩
    split_ifs <;> exact id
  | @signal _ result hpc _ hs' =>
    have hfixed := Destination.reach_fixed (reach_destination hs)
    rw [Destination.State.signal, if_pos hfixed.initialized] at hs'
    subst hs'
    have hok := hI.destination_ok c
    rw [hpc] at hok
    refine ⟨hI.aborted, not_failed_setPc hI.destination_ok c ?_⟩
    split_ifs <;> cases result <;> exact hok
  | @setEvent _ result hpc =>
    have hok := hI.destination_ok c
    rw [hpc] at hok
    exact ⟨hI.aborted, not_failed_setPc hI.destination_ok c (by cases result <;> exact hok)⟩
  | checkTail | mapped | load | unmap | close | report =>
    exact ⟨hI.aborted, not_failed_setPc hI.destination_ok c id⟩

lemma Inv.recv_ok (hI : Inv cfg s) {c : Fin N} {bytes : List UInt8} {t : Destination.State F N}
    (hstep : Destination.Step cfg.destinationEndian s.destination (.recv c bytes) t) :
    t.aborted = false ∧ ∀ i, ¬ (t.chan i).Failed := by
  cases hstep with
  | recvHeader | recvBody => exact ⟨hI.aborted, not_failed_setPc hI.destination_ok c id⟩

/-- A body lands in its place. -/
lemma Inv.recv_content (hI : Inv cfg s) (hs : (machine cfg).ReachIf C s) {c : Fin N}
    {t : Destination.State F N} (hstep : Destination.Step cfg.destinationEndian s.destination
      (.recv c ((s.wire c).take (s.requested c))) t) {i : Fin N} {b : Block F}
    (hb : b ∈ t.received i) {p : ℕ} (hp : Covers b.range p) :
    (t.content b.nFile).byte p = (cfg.files b.nFile).byte p := by
  have hlive := hstep.not_returned (c := c) rfl
  generalize hbytes : (s.wire c).take (s.requested c) = bytes at hstep
  cases hstep with
  | recvHeader => exact hI.content i b hb p hp
  | @recvBody _ _ offset blockSize n ptr hpc hlen =>
    have hlink := reach_link hs c
    rw [LinkAt, hpc] at hlink
    obtain ⟨b₀, hb₀, rfl, hk, hn, hbody, addr, hmapped, hmmap⟩ := hI.announced hs hlive hlink
    obtain rfl : n = b₀.nFile := (Fin.ext hn).symm
    obtain ⟨addr', rfl, hmmap'⟩ := hI.pointer _ _ _ _ _ hpc
    obtain rfl : addr = addr' := by
      rw [hmmap] at hmmap'
      exact Except.ok.inj hmmap'
    obtain rfl : bytes = b₀.body := by
      rw [← hbytes, State.requested, hpc, hbody]
    have hsource := reach_sourceInv hs
    have hle : b₀.offset + b₀.body.length ≤ cfg.info.fileSize b₀.nFile :=
      (hsource.block_le hb₀).trans_eq (cfg.fileSize_eq _).symm
    obtain ⟨hres, -⟩ := Destination.reach_resources (reach_destination hs)
    have hbyte := Destination.byte_content_store hres hmapped hmmap (hsource.pos hb₀) hle b.nFile p
    refine Eq.trans hbyte ?_
    split_ifs with hin
    · obtain ⟨hn, hlo, hhi⟩ := hin
      rw [(hsource.sent c b₀ hb₀).1, Source.SourceFile.getD_slice _ _ (by omega), hn]
      congr 1
      omega
    · -- the position belongs to a block that was there before
      rw [Destination.State.received_setPc, Destination.State.received_addReceived] at hb
      by_cases hi : i = c
      · subst hi
        rw [Function.update_self] at hb
        rcases List.mem_append.mp hb with hb | hb
        · exact hI.content i b hb p hp
        · obtain rfl := List.mem_singleton.mp hb
          exact absurd ⟨rfl, hp.1, hp.2⟩ hin
      · rw [Function.update_of_ne hi] at hb
        exact hI.content i b hb p hp

/-- What the destination of a calm session can do. -/
inductive CalmStep (cfg : Config F N) (s : State F N) (t : Destination.State F N) : Prop where
  | recv {c} (h : Destination.Step cfg.destinationEndian s.destination
      (.recv c ((s.wire c).take (s.requested c))) t)
  | run {c} (h : Destination.Step cfg.destinationEndian s.destination (.run c) t)
  | dispose (h : Destination.Step cfg.destinationEndian s.destination .dispose t)
      (hall : ∀ c, s.destination.chan c = .returned true)

lemma CalmStep.step {t : Destination.State F N} (h : CalmStep cfg s t) :
    ∃ b, Destination.Step cfg.destinationEndian s.destination b t := by
  cases h with
  | recv h | run h | dispose h => exact ⟨_, h⟩

lemma Inv.disposed_step (hI : Inv cfg s) {t : Destination.State F N} (h : CalmStep cfg s t) :
    t.disposer = .idle ∨ ∀ c, t.chan c = .returned true := by
  cases h with
  | @recv c h | @run c h =>
    rw [h.disposer_eq (by nofun)]
    exact .inl (hI.disposed.resolve_right fun hall => h.not_returned (c := c) rfl true (hall c))
  | dispose h hall => exact .inr fun c => (h.chan_of_ne (by nofun)).trans (hall c)

lemma Inv.phase_step (hI : Inv cfg s) (hs : (machine cfg).ReachIf C s)
    {t : Destination.State F N} (h : CalmStep cfg s t) (hidle : t.disposer = .idle) {n : Fin F}
    (hsize : 0 < cfg.info.fileSize n) : Destination.Phase t n := by
  have hfixed := Destination.reach_fixed (reach_destination hs)
  have hpos := Destination.reach_positive (reach_destination hs)
  cases h with
  | recv h | run h =>
    rw [h.disposer_eq (by nofun)] at hidle
    exact (hI.phase hidle n hsize).step (reach_counted hs).1 (written_le hs) hpos hfixed h
      (by nofun)
  | dispose h => exact absurd hidle h.disposer_ne_idle

lemma Inv.pointer_step (hI : Inv cfg s) (hs : (machine cfg).ReachIf C s)
    {t : Destination.State F N} (h : CalmStep cfg s t) {c : Fin N} {offset blockSize : ℕ}
    {n : Fin F} {ptr : Option ℕ} (hpc : t.chan c = .body offset blockSize n ptr) :
    ∃ addr, ptr = some addr ∧ cfg.os.mmap n = .ok addr := by
  obtain ⟨b, hb⟩ := h.step
  rcases hb.body hpc with hpc' | ⟨hpc', rfl⟩
  · exact hI.pointer _ _ _ _ _ hpc'
  · have hlink := reach_link hs c
    rw [LinkAt, hpc'] at hlink
    obtain ⟨b, -, -, -, hn, -, addr, hmapped, hmmap⟩ :=
      hI.announced hs (by simp [hpc']) hlink
    obtain rfl : n = b.nFile := (Fin.ext hn).symm
    exact ⟨addr, hmapped, hmmap⟩

lemma Inv.content_step (hI : Inv cfg s) (hs : (machine cfg).ReachIf C s)
    {t : Destination.State F N} (h : CalmStep cfg s t) {i : Fin N} {b : Block F}
    (hb : b ∈ t.received i) {p : ℕ} (hp : Covers b.range p) :
    (t.content b.nFile).byte p = (cfg.files b.nFile).byte p := by
  have hkeep : ∀ {a}, Destination.Step cfg.destinationEndian s.destination a t →
      (∀ c bytes, a ≠ .recv c bytes ∧ a ≠ .recvFailed c bytes) →
      (t.content b.nFile).byte p = (cfg.files b.nFile).byte p := by
    intro a hstep ha
    have hcontent : t.content = s.destination.content := by
      rcases hstep.content_eq with heq | ⟨c, bytes, _, _, _, _, -, heq | heq, -⟩
      · exact heq
      · exact absurd heq (ha c bytes).1
      · exact absurd heq (ha c bytes).2
    have hreceived : t.received = s.destination.received := by
      rcases hstep.received_eq with heq | ⟨c, bytes, _, _, _, _, heq, -⟩
      · exact heq
      · exact absurd heq (ha c bytes).1
    rw [hcontent]
    rw [hreceived] at hb
    exact hI.content i b hb p hp
  cases h with
  | recv h => exact hI.recv_content hs h hb hp
  | run h => exact hkeep h fun _ _ => ⟨by nofun, by nofun⟩
  | dispose h => exact hkeep h fun _ _ => ⟨by nofun, by nofun⟩

lemma Inv.ok_step (hI : Inv cfg s) (hs : (machine cfg).ReachIf C s) {t : Destination.State F N}
    (h : CalmStep cfg s t) : t.aborted = false ∧ ∀ c, ¬ (t.chan c).Failed := by
  cases h with
  | recv h => exact hI.recv_ok h
  | run h => exact hI.run_ok hs h
  | dispose h =>
    refine ⟨?_, fun c => ?_⟩
    · cases h <;> exact hI.aborted
    · rw [h.chan_of_ne (by nofun)]
      exact hI.destination_ok c

/-- A step of the destination keeps the invariant. -/
lemma Inv.destinationStep (hI : Inv cfg s) (hs : (machine cfg).ReachIf C s)
    (h : CalmStep cfg s s'.destination) (hsource : s'.source = s.source) : Inv cfg s' where
  aborted := (hI.ok_step hs h).1
  source_ok := by rw [hsource]; exact hI.source_ok
  destination_ok := (hI.ok_step hs h).2
  disposed := hI.disposed_step h
  phase hidle _ hsize := hI.phase_step hs h hidle hsize
  pointer _ _ _ _ _ hpc := hI.pointer_step hs h hpc
  content _ _ hb _ hp := hI.content_step hs h hb hp

/-- A step that leaves the destination alone keeps the invariant. -/
lemma Inv.sourceStep (hI : Inv cfg s) (hdestination : s'.destination = s.destination)
    (hok : ∀ c, s'.source.chan c ≠ .returned false) : Inv cfg s' := by
  obtain ⟨h₁, -, h₃, h₄, h₅, h₆, h₇⟩ := hI
  constructor
  all_goals first | exact hok | rw [hdestination]; assumption

lemma source_ok_of_step {source : Source.State F N} {b : Source.Action N}
    (h : Source.Step cfg.files s.source b source) (hb : ∀ c, b ≠ .sendFailed c)
    (hok : ∀ c, s.source.chan c ≠ .returned false) (c : Fin N) :
    source.chan c ≠ .returned false := by
  by_cases hc : b.actor = some c
  · cases h with
    | @claim c' n hpc =>
      cases hc
      obtain ⟨pc, hpc', heq⟩ := Source.chan_claim cfg.files s.source c n
      rw [heq, Function.update_self]
      exact hpc' false
    | sendFailed => exact absurd rfl (hb _)
    | disposeStart | disposeClose | disposeDone => cases hc
    | send | report | sendTail =>
      cases hc
      simp
  · rw [h.chan_of_ne hc]
    exact hok c

lemma Inv.step (hI : Inv cfg s) (hs : (machine cfg).ReachIf C s) (hcalm : Calm s a)
    (hstep : Step cfg s a s') : Inv cfg s' := by
  cases hstep with
  | send h | sendTail h =>
    exact hI.sourceStep rfl (source_ok_of_step h (by nofun) hI.source_ok)
  | source ha h =>
    refine hI.sourceStep rfl (source_ok_of_step h (fun c => ?_) hI.source_ok)
    rcases ha with ⟨_, rfl⟩ | ⟨_, rfl⟩ | rfl <;> nofun
  | sendFailed | recvFailed => exact hcalm.elim
  | recv _ _ h => exact hI.destinationStep hs (.recv h) rfl
  | run _ h => exact hI.destinationStep hs (.run h) rfl
  | dispose _ _ h => exact hI.destinationStep hs (.dispose h hcalm) rfl
  | closePortal | wakePortal | sendFinished | sendFinishedFailed | recvFinished
  | recvFinishedFailed => exact hI.sourceStep rfl hI.source_ok

lemma reach_inv (h : (machine cfg).ReachIf Calm s) : Inv cfg s := by
  refine h.invariant (I := Inv cfg) (fun s hs => ?_) fun s a s' hs hI hcalm hstep =>
    hI.step hs hcalm (Step.of_step hstep)
  obtain ⟨source, destination, ⟨blockSize, -, rfl⟩, hdestination, rfl⟩ := hs
  have hinit := Destination.Initial.of_init hdestination
  refine ⟨hinit.aborted_eq, fun c => ?_, fun c => ?_, .inl hinit.disposer_eq,
    fun _ n hsize => hinit.phase hsize, fun c _ _ _ _ hpc => ?_, fun c b hb => ?_⟩
  · simp only [Source.start, Source.atFile]
    split_ifs <;> simp
  · rw [hinit.chan_eq c]
    exact id
  · rw [hinit.chan_eq c] at hpc
    cases hpc
  · rw [hinit.received_eq c] at hb
    cases hb

/-! ### Copies -/

/-- A file of which all bytes have been written is a copy. -/
lemma Inv.copied (hI : Inv cfg s) (hs : (machine cfg).ReachIf C s) {n : Fin F}
    (hfull : written s.destination n = (cfg.files n).size) : Copied cfg s n where
  size := (Destination.reach_contentSize (reach_destination hs) n).trans (cfg.fileSize_eq n)
  byte p hp := by
    obtain ⟨c, b, hb, rfl, hcovers⟩ := exists_covers hs hfull hp
    exact hI.content c b hb p hcovers

/-- A file that has been counted completely is a copy. -/
lemma Inv.copied_of_counted (hI : Inv cfg s) (hs : (machine cfg).ReachIf C s) {n : Fin F}
    (hsize : (s.destination.recvCtx n).receivedSize = (s.destination.filesInfo n).fileSize) :
    Copied cfg s n := by
  refine hI.copied hs (le_antisymm ?_ ?_)
  · exact (written_le_sent hs n).trans ((reach_sourceInv hs).sum_amount_le n)
  · have hcounted := (reach_counted hs).1 n
    have hinfo := congrFun (Destination.reach_fixed (reach_destination hs)).filesInfo_eq n
    rw [← cfg.fileSize_eq n, BasicTransferInfo.fileSize, ← hinfo, ← hsize]
    omega

/-- A channel that has received its tail has received what its source has sent, and that one has
returned `true`. -/
lemma finished_of_link (hs : (machine cfg).ReachIf C s) {c : Fin N}
    (hfinished : (s.destination.chan c).Finished) :
    s.destination.received c = s.source.sent c ∧ s.source.chan c = .returned true := by
  have hlink := reach_link hs c
  rw [LinkAt] at hlink
  cases hpc : s.destination.chan c with
  | exit r | setEvent r | returned r =>
    rw [hpc] at hfinished hlink
    cases r with
    | true => exact ⟨hlink.1.symm, hlink.2⟩
    | false => exact hfinished.elim
  | _ =>
    rw [hpc] at hfinished
    exact hfinished.elim

/-- When all channels have received their tails, every file has been written completely. -/
lemma written_eq (hs : (machine cfg).ReachIf C s)
    (hfinished : ∀ c, (s.destination.chan c).Finished) (n : Fin F) :
    written s.destination n = (cfg.files n).size := by
  have hpos := (Destination.reach_fixed (reach_destination hs)).pos
  have hpassed : ∀ c, (s.source.chan c).Passed n := fun c => by
    rw [(finished_of_link hs (hfinished c)).2]
    trivial
  rw [← (reach_sourceInv hs).sum_amount_eq hpos hpassed, written]
  exact Finset.sum_congr rfl fun c _ => by rw [(finished_of_link hs (hfinished c)).1]

/-- And it has been counted completely. -/
lemma receivedSize_eq (hs : (machine cfg).ReachIf C s)
    (hfinished : ∀ c, (s.destination.chan c).Finished) (n : Fin F) :
    (s.destination.recvCtx n).receivedSize = (s.destination.filesInfo n).fileSize := by
  have hcounted := (reach_counted hs).1 n
  have hnone : ∀ c, (s.destination.chan c).uncounted n = 0 := fun c => by
    have hc := hfinished c
    cases hpc : s.destination.chan c with
    | count => rw [hpc] at hc; exact hc.elim
    | _ => rfl
  rw [Finset.sum_eq_zero fun c _ => hnone c, add_zero, written_eq hs hfinished n] at hcounted
  rw [hcounted, (Destination.reach_fixed (reach_destination hs)).filesInfo_eq]
  exact (cfg.fileSize_eq n).symm

lemma transferredSize_eq (hs : (machine cfg).ReachIf C s)
    (hfinished : ∀ c, (s.destination.chan c).Finished) :
    s.destination.transferredSize = s.destination.totalSize := by
  obtain ⟨t, ht, hsum⟩ := (reach_counted hs).2
  have hnone : ∀ c, (s.destination.chan c).unreported = 0 := fun c => by
    have hc := hfinished c
    cases hpc : s.destination.chan c with
    | count | unmap | close | report => rw [hpc] at hc; exact hc.elim
    | _ => rfl
  rw [Finset.sum_eq_zero fun c _ => hnone c, add_zero] at hsum
  rw [ht, (Destination.reach_fixed (reach_destination hs)).totalSize_eq, hsum, List.sum_ofFn,
    Finset.sum_congr rfl fun n _ => (written_eq hs hfinished n).trans (cfg.fileSize_eq n).symm]

/-! ### Runs without failures -/

/-- No connection of a channel fails, and nothing is disposed. -/
def Undisturbed (_ : State F N) : Action N → Prop
  | .sendFailed _ _ | .recvFailed _ _ | .source .dispose | .dispose => False
  | _ => True

lemma Undisturbed.calm (h : Undisturbed s a) : Calm s a := by
  cases a with
  | source a =>
    cases a with
    | dispose => exact h.elim
    | _ => trivial
  | sendFailed | recvFailed | dispose => exact h.elim
  | _ => trivial

lemma reach_idle (h : (machine cfg).ReachIf Undisturbed s) :
    s.destination.disposer = .idle := by
  refine h.invariant (I := fun s => s.destination.disposer = .idle) (fun s hs => ?_)
    fun s a s' _ hI ha hstep => ?_
  · obtain ⟨_, _, -, hdestination, rfl⟩ := hs
    exact (Destination.Initial.of_init hdestination).disposer_eq
  · cases Step.of_step hstep with
    | recv _ _ h | run _ h => exact (h.disposer_eq (by nofun)).trans hI
    | recvFailed | dispose => exact ha.elim
    | _ => exact hI

/-- How often the region of file `n` has been unmapped. -/
def unmaps (cfg : Config F N) (s : State F N) (n : Fin F) : ℕ :=
  match cfg.os.mmap n with
  | .ok addr => s.destination.syscalls.count (.munmap addr (cfg.info.fileSize n))
  | .error _ => 0

/-- How often the descriptor of file `n` has been closed. -/
def closes (cfg : Config F N) (s : State F N) (n : Fin F) : ℕ :=
  match cfg.os.openFile n with
  | .ok fd => s.destination.syscalls.count (.close fd)
  | .error _ => 0

/-- A file that is not empty is unmapped and closed at most once. -/
lemma unmaps_closes (hs : (machine cfg).ReachIf C s) {n : Fin F}
    (hsize : 0 < cfg.info.fileSize n) :
    (((s.destination.recvCtx n).dstFileMapped ≠ none ∧ unmaps cfg s n = 0) ∨
      ((s.destination.recvCtx n).dstFileMapped = none ∧ unmaps cfg s n = 1)) ∧
    (((s.destination.recvCtx n).fileHandle ≠ none ∧ closes cfg s n = 0) ∨
      ((s.destination.recvCtx n).fileHandle = none ∧ closes cfg s n = 1)) := by
  obtain ⟨hres, -⟩ := Destination.reach_resources (reach_destination hs)
  obtain ⟨⟨fd, hfd, hhandle⟩, hmapping⟩ := hres n
  refine ⟨?_, ?_⟩
  · rcases hmapping with ⟨hzero, -⟩ | ⟨addr, -, haddr, hm⟩
    · omega
    · rw [unmaps, haddr]
      rcases hm with ⟨hsome, -, hcount⟩ | ⟨hnone, hcount⟩
      · exact .inl ⟨by rw [hsome]; nofun, hcount⟩
      · exact .inr ⟨hnone, hcount⟩
  · rw [closes, hfd]
    rcases hhandle with ⟨hsome, hcount⟩ | ⟨hnone, hcount⟩
    · exact .inl ⟨by rw [hsome]; nofun, hcount⟩
    · exact .inr ⟨hnone, hcount⟩

/-- A file is unmapped and closed only after it is a copy. -/
lemma Inv.copied_of_released (hI : Inv cfg s) (hs : (machine cfg).ReachIf C s) {n : Fin F}
    (hphase : Destination.Phase s.destination n) (hsize : 0 < cfg.info.fileSize n)
    (h : unmaps cfg s n = 1 ∨ closes cfg s n = 1) : Copied cfg s n := by
  apply hI.copied_of_counted hs
  obtain ⟨hunmaps, hcloses⟩ := unmaps_closes hs hsize
  cases hphase with
  | receiving _ hmapped hopen =>
    rcases h with h | h
    · rcases hunmaps with ⟨-, hzero⟩ | ⟨hnone, -⟩
      · omega
      · exact absurd hnone hmapped
    · rcases hcloses with ⟨-, hzero⟩ | ⟨hnone, -⟩
      · omega
      · exact absurd hnone hopen
  | unmapping _ heq | closing _ heq | released heq => exact heq

/-- When all channels have received their tails, the files have been released. -/
lemma released_of_finished (hs : (machine cfg).ReachIf C s) {n : Fin F}
    (hphase : Destination.Phase s.destination n) (hsize : 0 < cfg.info.fileSize n)
    (hfinished : ∀ c, (s.destination.chan c).Finished) :
    unmaps cfg s n = 1 ∧ closes cfg s n = 1 := by
  obtain ⟨hunmaps, hcloses⟩ := unmaps_closes hs hsize
  cases hphase with
  | receiving hlt => exact absurd (receivedSize_eq hs hfinished n) hlt.ne
  | @unmapping c _ hpc | @closing c _ hpc =>
    have hc := hfinished c
    rw [hpc] at hc
    exact hc.elim
  | released _ hmapped hclosed =>
    refine ⟨?_, ?_⟩
    · rcases hunmaps with ⟨hsome, -⟩ | ⟨-, hone⟩
      · exact absurd hmapped hsome
      · exact hone
    · rcases hcloses with ⟨hsome, -⟩ | ⟨-, hone⟩
      · exact absurd hclosed hsome
      · exact hone

/-- The block that channel `c` is about to receive is one of file `n`. -/
def Receives (s : State F N) (c : Fin N) (n : Fin F) : Prop :=
  match s.destination.chan c with
  | .check h => h.blockSize ≠ 0 ∧ h.nFile = n
  | .load _ _ m | .body _ _ m _ => m = n
  | _ => False

/-- A session whose channels do not fail and that is not disposed copies its files, whatever the
files, their previous contents, the block sizes and the order of steps: no `ASSERT` fails, no
channel finds its file unmapped, a file that is not empty is unmapped and closed once and not before
it is a copy, and when all channels have received their tails all files are copies. -/
theorem copies (hs : (machine cfg).ReachIf Undisturbed s) :
    s.destination.aborted = false ∧
    (∀ c n, Receives s c n → (s.destination.recvCtx n).dstFileMapped ≠ none) ∧
    (∀ c offset blockSize n, s.destination.chan c ≠ .body offset blockSize n none) ∧
    (∀ n, 0 < (cfg.files n).size → unmaps cfg s n ≤ 1 ∧ closes cfg s n ≤ 1 ∧
      (unmaps cfg s n = 1 ∨ closes cfg s n = 1 → Copied cfg s n)) ∧
    ((∀ c, (s.destination.chan c).Finished) →
      (∀ n, Copied cfg s n) ∧
      (∀ n, 0 < (cfg.files n).size → unmaps cfg s n = 1 ∧ closes cfg s n = 1) ∧
      s.destination.transferredSize = s.destination.totalSize ∧
      s.destination.totalSize = toU64 (∑ n, (cfg.files n).size)) := by
  have hI := reach_inv (hs.mono fun _ _ => Undisturbed.calm)
  have hphase := hI.phase (reach_idle hs)
  refine ⟨hI.aborted, fun c n hreceives => ?_, fun c offset blockSize n hpc => ?_,
    fun n hsize => ?_, fun hfinished => ⟨fun n => ?_, fun n hsize => ?_, ?_, ?_⟩⟩
  · have hblock : ∃ offset blockSize, (∀ r, s.destination.chan c ≠ .returned r) ∧
        Incoming cfg.sourceEndian (s.source.chan c) (s.source.sent c) (s.wire c)
          (s.destination.received c) offset blockSize n := by
      have hlink := reach_link hs c
      rw [LinkAt] at hlink
      unfold Receives at hreceives
      cases hpc : s.destination.chan c with
      | check h =>
        rw [hpc] at hreceives
        have hin := incoming_of_check hs hpc hreceives.1
        exact ⟨_, _, by simp, hreceives.2 ▸ hin⟩
      | load | body =>
        rw [hpc] at hreceives hlink
        subst hreceives
        exact ⟨_, _, by simp, hlink⟩
      | _ => rw [hpc] at hreceives; exact hreceives.elim
    obtain ⟨offset, blockSize, hlive, hin⟩ := hblock
    obtain ⟨b, -, -, -, hn, -, addr, hmapped, -⟩ := hI.announced hs hlive hin
    obtain rfl : b.nFile = n := Fin.ext hn
    simp [hmapped]
  · obtain ⟨_, hnone, -⟩ := hI.pointer c offset blockSize n none hpc
    cases hnone
  · rw [← cfg.fileSize_eq n] at hsize
    obtain ⟨hunmaps, hcloses⟩ := unmaps_closes hs hsize
    exact ⟨by omega, by omega, hI.copied_of_released hs (hphase n hsize) hsize⟩
  · exact hI.copied hs (written_eq hs hfinished n)
  · rw [← cfg.fileSize_eq n] at hsize
    exact released_of_finished hs (hphase n hsize) hsize hfinished
  · exact transferredSize_eq hs hfinished
  · rw [(Destination.reach_fixed (reach_destination hs)).totalSize_eq, List.sum_ofFn,
      Finset.sum_congr rfl fun n _ => cfg.fileSize_eq n]

/-- The session of two files ends with copies of both. -/
theorem copies_twoFiles :
    ∃ s, (machine twoFilesSession).run twoFilesSessionStart
        (twoFilesSends ++ twoFilesReceives ++ twoFilesReturns) = some s ∧
      s.destination.aborted = false ∧ (∀ n, Copied twoFilesSession s n) ∧
      (∀ n, unmaps twoFilesSession s n = 1 ∧ closes twoFilesSession s n = 1) ∧
      s.destination.transferredSize = s.destination.totalSize := by
  have hends : ((machine twoFilesSession).run twoFilesSessionStart
      (twoFilesSends ++ twoFilesReceives ++ twoFilesReturns)).map (fun s =>
        (s.destination.chan 0, s.destination.chan 1)) =
        some (.returned true, .returned true) := by decide +kernel
  obtain ⟨s, hrun, hpc⟩ := Option.map_eq_some_iff.mp hends
  have hs : (machine twoFilesSession).ReachIf Undisturbed s :=
    .of_run (.init twoFilesSessionStart_init)
      (by simp [twoFilesSends, twoFilesReceives, twoFilesReturns, Undisturbed]) hrun
  obtain ⟨haborted, -, -, -, hfinished⟩ := copies hs
  obtain ⟨hcopied, hreleased, htransferred, -⟩ := hfinished fun c => by
    rcases Fin.exists_fin_two.mp ⟨c, rfl⟩ with rfl | rfl
    · rw [(Prod.mk.inj hpc).1]
      trivial
    · rw [(Prod.mk.inj hpc).2]
      trivial
  exact ⟨s, hrun, haborted, hcopied, fun n => hreleased n (by fin_cases n <;> decide), htransferred⟩

end Session

end Xcp
