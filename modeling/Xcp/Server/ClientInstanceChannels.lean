import Xcp.Server.ClientInstanceInvariants

/-!
# The channels of a client instance

`channel_threads` holds every channel whose thread has entered `fn_channel`, once. `dispose_impl`
goes through the list and disposes the socket and joins the thread of each; when it has left the
section, every channel that was ever added has been disposed and joined exactly once.
-/

namespace Xcp

namespace ClientInstance

variable {n : ℕ} {s s' : State} {a : Action}

/-- The thread is inside `fn_channel`. -/
def ChannelPc.Inside : ChannelPc → Prop
  | .absent | .connecting | .acquire | .holdsSerial | .holdsMutex | .rejected | .lost | .done => False
  | _ => True

/-- The channel has been put into `channel_threads`. -/
def ChannelPc.Added (pc : ChannelPc) : Prop := pc.Inside ∨ pc = .done

attribute [grind =] ChannelPc.Inside
attribute [grind] ChannelPc.Added

/-- The thread is inside `fn_portal`. -/
def PortalPc.Inside (pc : PortalPc) : Prop := pc ≠ .done

/-- The channel has been disposed and joined once. -/
structure Released (s : State) (c : ℕ) : Prop where
  disposals : s.disposals c = 1
  joins : s.joins c = 1
  done : s.chan c = .done

/-- Neither has happened to the channel. -/
def Untouched (s : State) (c : ℕ) : Prop := s.disposals c = 0 ∧ s.joins c = 0

/-- How far the loop of `dispose_impl` over the channels has come. -/
inductive Progress (s : State) : DisposerPc → Prop where
  | before {d} (hd : d.stage ≤ 13) (h : ∀ c, Untouched s c) : Progress s d
  | disposeChannel {pre rest} (hadded : s.added = pre ++ rest) (hpre : ∀ c ∈ pre, Released s c)
      (hrest : ∀ c ∈ rest, Untouched s c) : Progress s (.disposeChannel rest)
  | joinChannel {pre c rest} (hadded : s.added = pre ++ c :: rest)
      (hpre : ∀ c ∈ pre, Released s c) (hc : s.disposals c = 1 ∧ s.joins c = 0)
      (hopen : s.chanOpen c = false) (hrest : ∀ c ∈ rest, Untouched s c) :
      Progress s (.joinChannel c rest)
  | after {d} (hd : 15 ≤ d.stage) (h : ∀ c ∈ s.added, Released s c) : Progress s d

/-- The lists of the channels. -/
structure Channels (s : State) : Prop where
  added : ∀ c, c ∈ s.added ↔ (s.chan c).Added
  nodup : s.added.Nodup
  threads : s.disposer.stage ≤ 14 → s.channelThreads = s.added
  opened : ∀ c, s.chan c ≠ .absent ↔ c ∈ s.opened
  progress : Progress s s.disposer

lemma Progress.congr {d : DisposerPc} (h : Progress s d) (hadded : s'.added = s.added)
    (hdisposals : s'.disposals = s.disposals) (hjoins : s'.joins = s.joins)
    (hopen : s'.chanOpen = s.chanOpen)
    (hdone : ∀ c, s.chan c = .done → s'.chan c = .done) : Progress s' d := by
  have hrel : ∀ c, Released s c → Released s' c := fun c hc =>
    ⟨by rw [hdisposals, hc.disposals], by rw [hjoins, hc.joins], hdone c hc.done⟩
  have hunt : ∀ c, Untouched s c → Untouched s' c := fun c hc => by
    rwa [Untouched, hdisposals, hjoins]
  cases h with
  | before hd h => exact .before hd fun c => hunt c (h c)
  | disposeChannel h hpre hrest =>
    exact .disposeChannel (hadded.trans h) (fun c hc => hrel c (hpre c hc))
      fun c hc => hunt c (hrest c hc)
  | joinChannel h hpre hc hclosed hrest =>
    refine .joinChannel (hadded.trans h) (fun c hc => hrel c (hpre c hc)) ?_ ?_
      fun c hc => hunt c (hrest c hc)
    · rwa [hdisposals, hjoins]
    · rwa [hopen]
  | after hd h => exact .after hd fun c hc => hrel c (h c (hadded ▸ hc))

lemma Progress.untouched {d : DisposerPc} (h : Progress s d) (hd : d.stage ≤ 13) (c : ℕ) :
    Untouched s c := by
  cases h with
  | before _ h => exact h c
  | disposeChannel | joinChannel => exact absurd hd (by simp [DisposerPc.stage])
  | after hd' => exact absurd (hd'.trans hd) (by decide)

lemma Progress.released {d : DisposerPc} (h : Progress s d) (hd : 15 ≤ d.stage) :
    ∀ c ∈ s.added, Released s c := by
  cases h with
  | before hd' => exact absurd (hd.trans hd') (by decide)
  | disposeChannel | joinChannel => exact absurd hd (by simp [DisposerPc.stage])
  | after _ h => exact h

/-- The thread of a channel moves on without entering or leaving `channel_threads`. -/
lemma Channels.move {c : ℕ} {pc : ChannelPc} (hs : Channels s) (hadded : s'.added = s.added)
    (hthreads : s'.channelThreads = s.channelThreads) (hdisposals : s'.disposals = s.disposals)
    (hjoins : s'.joins = s.joins) (hopen : s'.chanOpen = s.chanOpen) (hopened : s'.opened = s.opened)
    (hd : s'.disposer = s.disposer ∨ s.disposer = .idle ∧ s'.disposer = .disposeSocket)
    (hchan : s'.chan = Function.update s.chan c pc)
    (hpc : s.chan c ≠ .absent ∧ s.chan c ≠ .done ∧ ((s.chan c).Added ↔ pc.Added))
    (hpc' : pc ≠ .absent) : Channels s' := by
  have hother : ∀ i, ((s'.chan i).Added ↔ (s.chan i).Added) ∧
      (s'.chan i ≠ .absent ↔ s.chan i ≠ .absent) ∧ (s.chan i = .done → s'.chan i = .done) := by
    intro i
    rw [hchan, Function.update_apply]
    split_ifs with hi
    · subst hi
      exact ⟨hpc.2.2.symm, iff_of_true hpc' hpc.1, fun h => absurd h hpc.2.1⟩
    · exact ⟨Iff.rfl, Iff.rfl, id⟩
  have hprogress := hs.progress.congr hadded hdisposals hjoins hopen fun i => (hother i).2.2
  refine ⟨fun i => ?_, hadded ▸ hs.nodup, ?_, fun i => ?_, ?_⟩
  · rw [hadded, hs.added, (hother i).1]
  · rw [hadded, hthreads]
    intro hle
    refine hs.threads ?_
    rcases hd with hd | ⟨hd, -⟩
    · rwa [← hd]
    · rw [hd]
      decide
  · rw [(hother i).2.1, hopened, hs.opened]
  · rcases hd with hd | ⟨hidle, hd⟩
    · rwa [hd]
    · rw [hd]
      exact .before (by decide) (hprogress.untouched (by rw [hidle]; decide))

lemma Channels.channelStep {c : ℕ} (hs : Channels s) (hl : Locks s) (h : ChannelStep s c s') :
    Channels s' := by
  cases h with
  | assertNull | invokeNull =>
    exact ⟨hs.added, hs.nodup, hs.threads, hs.opened,
      hs.progress.congr rfl rfl rfl rfl fun _ => id⟩
  | add hpc =>
    have hstage : s.disposer.stage ≤ 13 := by
      by_contra hle
      exact hl.outside (by omega) c hpc
    have hnot : c ∉ s.added := by
      rw [hs.added, hpc]
      rintro (h | h)
      · exact h
      · cases h
    refine ⟨fun i => ?_, ?_, fun hle => ?_, fun i => ?_,
      .before hstage (hs.progress.untouched hstage)⟩
    · dsimp only [State.setChan]
      rw [List.mem_append, List.mem_singleton, hs.added, Function.update_apply]
      split_ifs with hi
      · exact iff_of_true (.inr hi) (.inl trivial)
      · exact or_iff_left hi
    · exact List.nodup_append.mpr ⟨hs.nodup, List.nodup_singleton c, by grind -linarith⟩
    · exact congrArg (· ++ [c]) (hs.threads hle)
    · dsimp only [State.setChan]
      rw [← hs.opened, Function.update_apply]
      split_ifs with hi
      · rw [hi, hpc]
        exact iff_of_true nofun nofun
      · rfl
  | @exit result hpc =>
    have hpc' : s.chan c ≠ .absent ∧ s.chan c ≠ .done ∧
        ((s.chan c).Added ↔ ChannelPc.Added .done) := by
      rw [hpc]
      exact ⟨nofun, nofun, iff_of_true (.inl trivial) (.inr rfl)⟩
    cases result with
    | true => exact hs.move rfl rfl rfl rfl rfl rfl (.inl rfl) rfl hpc' nofun
    | false =>
      rw [startDispose_eq]
      refine hs.move rfl rfl rfl rfl rfl rfl ?_ rfl hpc' nofun
      dsimp only [State.setChan]
      grind -linarith
  | lookup hpc | lockSerial hpc | rejected hpc | lockMutex hpc | signalAll hpc | setAll hpc
  | waitReady hpc | checkDisposed hpc | checkNormal hpc | assertTransfer hpc | invoke hpc
  | transferred hpc | signalFinished hpc | setFinished hpc =>
    refine hs.move rfl rfl rfl rfl rfl rfl (.inl rfl) rfl ?_ ?_ <;> grind -linarith

/-- A step of `dispose_impl` outside of the loop. -/
lemma Channels.disposeMove (hs : Channels s) (hchan : s'.chan = s.chan)
    (hadded : s'.added = s.added) (hthreads : s'.channelThreads = s.channelThreads)
    (hopened : s'.opened = s.opened) (hdisposals : s'.disposals = s.disposals)
    (hjoins : s'.joins = s.joins) (hopen : s'.chanOpen = s.chanOpen)
    (hstage : s.disposer.stage ≤ 13 ∧ s'.disposer.stage ≤ 13 ∨
      15 ≤ s.disposer.stage ∧ 15 ≤ s'.disposer.stage) : Channels s' := by
  have hprogress : Progress s s'.disposer := by
    rcases hstage with ⟨hle, hle'⟩ | ⟨hle, hle'⟩
    · exact .before hle' (hs.progress.untouched hle)
    · exact .after hle' (hs.progress.released hle)
  refine ⟨by rw [hadded, hchan]; exact hs.added, hadded ▸ hs.nodup, fun hle => ?_,
    by rw [hopened, hchan]; exact hs.opened,
    hprogress.congr hadded hdisposals hjoins hopen fun c hc => by rwa [hchan]⟩
  rw [hadded, hthreads]
  exact hs.threads (by omega)

lemma Channels.disposeStep (hs : Channels s) (h : DisposeStep s s') : Channels s' := by
  cases h with
  | disposeSocket hd | resetSocket hd | forceAll hd | setAll hd | forceReady hd | setReady hd
  | ifTransfer hd | noTransfer hd | forceFinished hd | disposeTransfer hd | setFinished hd
  | resetTransfer hd | joinPortal hd | lockSerial hd | remove hd =>
    refine hs.disposeMove rfl rfl rfl rfl rfl rfl rfl ?_
    simp [hd, State.setDisposer, DisposerPc.stage]
  | lockMutex hd =>
    have hle : s.disposer.stage ≤ 13 := by rw [hd]; decide
    have hthreads := hs.threads (hle.trans (by decide))
    refine ⟨hs.added, hs.nodup, fun _ => hthreads, hs.opened, ?_⟩
    have hadded : s.added = [] ++ s.channelThreads := hthreads.symm
    exact .disposeChannel hadded (by simp) fun c _ => hs.progress.untouched hle c
  | @disposeChannel c rest hd =>
    have hprogress := hs.progress
    rw [hd] at hprogress
    have hthreads := hs.threads (by simp [hd, DisposerPc.stage])
    refine ⟨hs.added, hs.nodup, fun _ => hthreads, hs.opened, ?_⟩
    cases hprogress with
    | before hd' => exact absurd hd' (by simp [DisposerPc.stage])
    | after hd' => exact absurd hd' (by simp [DisposerPc.stage])
    | @disposeChannel pre _ hadded hpre hrest =>
      have hnodup := hs.nodup
      rw [hadded] at hnodup
      refine .joinChannel hadded (fun i hi => ?_) ?_ (Function.update_self ..) fun i hi => ?_
      · have hne : i ≠ c := by grind -linarith
        exact ⟨(Function.update_of_ne hne _ _).trans (hpre i hi).disposals, (hpre i hi).joins,
          (hpre i hi).done⟩
      · obtain ⟨hzero, hjoins⟩ := hrest c List.mem_cons_self
        exact ⟨(Function.update_self ..).trans (by rw [hzero]), hjoins⟩
      · have hne : i ≠ c := by grind -linarith
        obtain ⟨hzero, hjoins⟩ := hrest i (List.mem_cons_of_mem _ hi)
        exact ⟨(Function.update_of_ne hne _ _).trans hzero, hjoins⟩
  | clear hd =>
    have hprogress := hs.progress
    rw [hd] at hprogress
    refine ⟨hs.added, hs.nodup, fun hle => absurd hle (by simp [State.setDisposer, DisposerPc.stage]), hs.opened, ?_⟩
    cases hprogress with
    | before hd' => exact absurd hd' (by simp [DisposerPc.stage])
    | after hd' => exact absurd hd' (by simp [DisposerPc.stage])
    | @disposeChannel pre _ hadded hpre hrest =>
      rw [List.append_nil] at hadded
      exact .after (by simp [State.setDisposer, DisposerPc.stage]) fun c hc =>
        ⟨(hpre c (hadded ▸ hc)).disposals, (hpre c (hadded ▸ hc)).joins,
          (hpre c (hadded ▸ hc)).done⟩
  | @joinChannel c rest hd hdone =>
    have hprogress := hs.progress
    rw [hd] at hprogress
    have hthreads := hs.threads (by simp [hd, DisposerPc.stage])
    refine ⟨hs.added, hs.nodup, fun _ => hthreads, hs.opened, ?_⟩
    cases hprogress with
    | before hd' => exact absurd hd' (by simp [DisposerPc.stage])
    | after hd' => exact absurd hd' (by simp [DisposerPc.stage])
    | @joinChannel pre _ _ hadded hpre hc hopen hrest =>
      have hnodup := hs.nodup
      rw [hadded] at hnodup
      have hadded' : s.added = (pre ++ [c]) ++ rest := by simpa using hadded
      refine .disposeChannel hadded' (fun i hi => ?_) fun i hi => ?_
      · rcases List.mem_append.mp hi with hi | hi
        · have hne : i ≠ c := by grind -linarith
          exact ⟨(hpre i hi).disposals, (Function.update_of_ne hne _ _).trans (hpre i hi).joins,
            (hpre i hi).done⟩
        · obtain rfl := List.mem_singleton.mp hi
          exact ⟨hc.1, (Function.update_self ..).trans (by rw [hc.2]), hdone⟩
      · have hne : i ≠ c := by grind -linarith
        exact ⟨(hrest i hi).1, (Function.update_of_ne hne _ _).trans (hrest i hi).2⟩

lemma Channels.step (hs : Channels s) (hl : Locks s) (h : Step n s a s') : Channels s' := by
  cases h with
  | portal _ h =>
    cases h with
    | exit =>
      rw [startDispose_eq]
      have hprogress : Progress s
          (if s.disposer = .idle then .disposeSocket else s.disposer) := by
        split_ifs with hd
        · exact .before (by decide) (hs.progress.untouched (by rw [hd]; decide))
        · exact hs.progress
      refine ⟨hs.added, hs.nodup, ?_, hs.opened, hprogress.congr rfl rfl rfl rfl fun _ => id⟩
      dsimp only [State.setPortal]
      intro hle
      exact hs.threads (by grind -linarith)
    | _ =>
      exact ⟨hs.added, hs.nodup, hs.threads, hs.opened,
        hs.progress.congr rfl rfl rfl rfl fun _ => id⟩
  | channel _ h => exact hs.channelStep hl h
  | dispose h => exact hs.disposeStep h
  | startDispose hd =>
    refine hs.disposeMove rfl rfl rfl rfl rfl rfl rfl ?_
    simp [hd, State.setDisposer, DisposerPc.stage]
  | @openChannel c hpeer hpc =>
    have hprogress : Progress ({ s with opened := insert c s.opened }.setChan c .connecting)
        s.disposer := by
      refine hs.progress.congr rfl rfl rfl rfl fun i hi => ?_
      have hne : i ≠ c := by grind -linarith
      exact (Function.update_of_ne hne _ _).trans hi
    refine ⟨fun i => ?_, hs.nodup, hs.threads, fun i => ?_, hprogress⟩
    · dsimp only [State.setChan]
      rw [hs.added, Function.update_apply]
      split_ifs with hi
      · rw [hi, hpc]
        exact iff_of_false (by simp [ChannelPc.Added, ChannelPc.Inside])
          (by simp [ChannelPc.Added, ChannelPc.Inside])
      · rfl
    · dsimp only [State.setChan]
      rw [Function.update_apply, Finset.mem_insert, ← hs.opened]
      split_ifs with hi
      · exact iff_of_true (by simp) (.inl hi)
      · exact (or_iff_right hi).symm
  | loseChannel hpc =>
    refine hs.move rfl rfl rfl rfl rfl rfl (.inl rfl) rfl ?_ (by simp)
    simp [hpc, ChannelPc.Added, ChannelPc.Inside]
  | sendRequest | close =>
    exact ⟨hs.added, hs.nodup, hs.threads, hs.opened,
      hs.progress.congr rfl rfl rfl rfl fun _ => id⟩

/-! ### Reachable instances -/

/-- The invariants of a client instance. -/
structure Inv (s : State) : Prop where
  teardown : Teardown s
  transferring : Transferring s
  locks : Locks s
  channels : Channels s

lemma Inv.start : Inv (start n) where
  teardown := by constructor <;> simp [ClientInstance.start, DisposerPc.stage]
  transferring := by
    constructor <;> simp [ClientInstance.start, PortalPc.Initialised, PortalPc.BehindCheck]
  locks := by constructor <;> simp [ClientInstance.start, DisposerPc.stage]
  channels :=
    { added := by simp [ClientInstance.start, ChannelPc.Added, ChannelPc.Inside]
      nodup := List.nodup_nil
      threads := fun _ => rfl
      opened := by simp [ClientInstance.start]
      progress := .before (Nat.zero_le 13) fun _ => ⟨rfl, rfl⟩ }

lemma Inv.step (hn : n ≠ invalidSignalCount) (hs : Inv s) (h : Step n s a s') : Inv s' where
  teardown := hs.teardown.step h
  transferring := hs.transferring.step hn hs.teardown h
  locks := hs.locks.step h
  channels := hs.channels.step hs.locks h

/-- The invariants hold of every state that an instance reaches. -/
lemma Inv.of_reach {C : State → Action → Prop} (h : (machine n).ReachIf C s) : Inv s := by
  have hboth : n < invalidSignalCount ∧ Inv s := by
    refine h.invariant (I := fun s => n < invalidSignalCount ∧ Inv s) ?_ ?_
    · rintro s ⟨-, hn, rfl⟩
      exact ⟨hn, .start⟩
    · rintro s a s' - ⟨hn, hs⟩ - hstep
      exact ⟨hn, hs.step hn.ne (Step.of_step hstep).2⟩
  exact hboth.2

end ClientInstance

end Xcp
