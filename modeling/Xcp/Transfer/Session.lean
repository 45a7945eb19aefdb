import Xcp.Transfer.DestinationGate
import Xcp.Transfer.SourceClaims

/-!
# A transfer between two processes

A source and a destination joined by `N` channels and a portal connection. Every channel is a FIFO
of bytes. The portals exchange a single message: the destination sends it when the gate of its
channels opens, and the source waits for it. A connection may fail at any point, and the destination
may be disposed at any point once its portal socket has been.
-/

namespace Xcp

open Bytes

namespace Session

/-- A transfer: the files, what the destination has been told of them, how the systems answer, and
the sockets of the channels, which are descriptors that are open at once. -/
structure Config (F N : ℕ) where
  files : Fin F → Source.SourceFile
  info : BasicTransferInfo F
  fileSize_eq : ∀ n, info.fileSize n = (files n).size
  os : OsAnswers info
  sock : Fin N ↪ Fd
  sourceEndian : Endian
  destinationEndian : Endian

/-- Where `transfer_source::invoke_portal` is. -/
inductive SourcePortal where
  | recv
  | returned (result : Bool)
  deriving DecidableEq

/-- Where `transfer_destination::invoke_portal` is. -/
inductive DestinationPortal where
  | wait
  | send
  | returned (result : Bool)
  deriving DecidableEq

/-- The two transfers, the bytes in flight on the channels, and the portals with the messages in
flight between them; `portalOpen` tells that the portal socket of the destination is not disposed. -/
structure State (F N : ℕ) where
  source : Source.State F N
  destination : Destination.State F N
  wire : Fin N → List UInt8 := fun _ => []
  sourcePortal : SourcePortal := .recv
  destinationPortal : DestinationPortal := .wait
  portalWire : List MessageTransferDestinationFinished := []
  portalOpen : Bool := true

/-- What can happen. A failing send has put `count` bytes on the wire, and a failing `recv` has
taken `count` bytes from it. -/
inductive Action (N : ℕ) where
  | source (a : Source.Action N)
  | sendFailed (c : Fin N) (count : ℕ)
  | recv (c : Fin N)
  | recvFailed (c : Fin N) (count : ℕ)
  | run (c : Fin N)
  | dispose
  | closePortal
  | wakePortal
  | sendFinished
  | sendFinishedFailed
  | recvFinished
  | recvFinishedFailed
  deriving DecidableEq

variable {F N : ℕ} (cfg : Config F N)

namespace State

variable (s : State F N)

/-- What channel `c` of the source is about to send. -/
def nextBytes (c : Fin N) : List UInt8 :=
  match s.source.chan c with
  | .send n curr blockSize =>
    Block.encode cfg.sourceEndian ⟨n, curr, (cfg.files n).slice curr blockSize⟩
  | .tail => finalTail cfg.sourceEndian
  | _ => []

/-- The bytes in flight on channel `c` are now `bytes`. -/
def setWire (c : Fin N) (bytes : List UInt8) : State F N :=
  { s with wire := Function.update s.wire c bytes }

def setSource (source : Source.State F N) : State F N := { s with source := source }

def setDestination (destination : Destination.State F N) : State F N :=
  { s with destination := destination }

/-- How many bytes the `recv` of channel `c` asks for. -/
def requested (c : Fin N) : ℕ :=
  match s.destination.chan c with
  | .header => 16
  | .body _ blockSize _ _ => blockSize
  | _ => 0

/-- A step of the source, with what it sends. -/
def sourceStep (a : Source.Action N) : Option (State F N) :=
  match a with
  | .send c _ | .sendTail c =>
    (s.source.step cfg.files a).map (s.setWire c (s.wire c ++ s.nextBytes cfg c)).setSource
  | .claim _ | .report _ | .dispose => (s.source.step cfg.files a).map s.setSource
  | .sendFailed _ => none

/-- A step of the session. -/
def step : Action N → Option (State F N)
  | .source a => s.sourceStep cfg a
  | .sendFailed c count =>
    if count < (s.nextBytes cfg c).length then
      (s.source.step cfg.files (.sendFailed c)).map
        (s.setWire c (s.wire c ++ (s.nextBytes cfg c).take count)).setSource
    else none
  | .recv c =>
    if s.requested c ≤ (s.wire c).length then
      (s.destination.step cfg.destinationEndian
        (.recv c ((s.wire c).take (s.requested c)))).map
          (s.setWire c ((s.wire c).drop (s.requested c))).setDestination
    else none
  | .recvFailed c count =>
    if count ≤ (s.wire c).length then
      (s.destination.step cfg.destinationEndian (.recvFailed c ((s.wire c).take count))).map
        (s.setWire c ((s.wire c).drop count)).setDestination
    else none
  | .run c => (s.destination.step cfg.destinationEndian (.run c)).map s.setDestination
  | .dispose =>
    if s.portalOpen then none
    else (s.destination.step cfg.destinationEndian .dispose).map s.setDestination
  | .closePortal => some { s with portalOpen := false }
  | .wakePortal =>
    if s.destinationPortal = .wait ∧ s.destination.aborted = false ∧
        s.destination.gateAllChannelsFinished.isSet then
      some { s with destinationPortal := .send }
    else none
  | .sendFinished =>
    if s.destinationPortal = .send ∧ s.destination.aborted = false ∧ s.portalOpen then
      some { s with portalWire := s.portalWire ++ [{}], destinationPortal := .returned true }
    else none
  | .sendFinishedFailed =>
    if s.destinationPortal = .send ∧ s.destination.aborted = false then
      some { s with destinationPortal := .returned false }
    else none
  | .recvFinished =>
    match s.sourcePortal, s.portalWire with
    | .recv, msg :: msgs =>
      some { s with portalWire := msgs, sourcePortal := .returned (msg.errorCode = 0) }
    | _, _ => none
  | .recvFinishedFailed =>
    if s.sourcePortal = .recv then some { s with sourcePortal := .returned false } else none

section Projections

variable (c : Fin N) (bytes : List UInt8) (source : Source.State F N)
  (destination : Destination.State F N)

@[simp] lemma source_setWire : (s.setWire c bytes).source = s.source := rfl
@[simp] lemma destination_setWire : (s.setWire c bytes).destination = s.destination := rfl
@[simp] lemma wire_setWire : (s.setWire c bytes).wire = Function.update s.wire c bytes := rfl
@[simp] lemma sourcePortal_setWire : (s.setWire c bytes).sourcePortal = s.sourcePortal := rfl
@[simp] lemma destinationPortal_setWire :
    (s.setWire c bytes).destinationPortal = s.destinationPortal := rfl
@[simp] lemma portalWire_setWire : (s.setWire c bytes).portalWire = s.portalWire := rfl
@[simp] lemma portalOpen_setWire : (s.setWire c bytes).portalOpen = s.portalOpen := rfl

@[simp] lemma source_setSource : (s.setSource source).source = source := rfl
@[simp] lemma destination_setSource : (s.setSource source).destination = s.destination := rfl
@[simp] lemma wire_setSource : (s.setSource source).wire = s.wire := rfl
@[simp] lemma sourcePortal_setSource : (s.setSource source).sourcePortal = s.sourcePortal := rfl
@[simp] lemma destinationPortal_setSource :
    (s.setSource source).destinationPortal = s.destinationPortal := rfl
@[simp] lemma portalWire_setSource : (s.setSource source).portalWire = s.portalWire := rfl
@[simp] lemma portalOpen_setSource : (s.setSource source).portalOpen = s.portalOpen := rfl

@[simp] lemma source_setDestination : (s.setDestination destination).source = s.source := rfl
@[simp] lemma destination_setDestination :
    (s.setDestination destination).destination = destination := rfl
@[simp] lemma wire_setDestination : (s.setDestination destination).wire = s.wire := rfl
@[simp] lemma sourcePortal_setDestination :
    (s.setDestination destination).sourcePortal = s.sourcePortal := rfl
@[simp] lemma destinationPortal_setDestination :
    (s.setDestination destination).destinationPortal = s.destinationPortal := rfl
@[simp] lemma portalWire_setDestination :
    (s.setDestination destination).portalWire = s.portalWire := rfl
@[simp] lemma portalOpen_setDestination :
    (s.setDestination destination).portalOpen = s.portalOpen := rfl

end Projections

end State

/-- The machine of a session, from the moment both transfers are initialised. -/
def machine : Machine (State F N) (Action N) where
  init s := ∃ source destination, (Source.machine cfg.files N).init source ∧
    (Destination.machine cfg.os N cfg.destinationEndian).init destination ∧
    s = { source := source, destination := destination }
  step s a := s.step cfg a

/-! ### What a step can do -/

/-- The steps, in terms of those of the two transfers. -/
inductive Step (s : State F N) : Action N → State F N → Prop where
  | send {c next source} (h : Source.Step cfg.files s.source (.send c next) source) :
      Step s (.source (.send c next))
        ((s.setWire c (s.wire c ++ s.nextBytes cfg c)).setSource source)
  | sendTail {c source} (h : Source.Step cfg.files s.source (.sendTail c) source) :
      Step s (.source (.sendTail c))
        ((s.setWire c (s.wire c ++ s.nextBytes cfg c)).setSource source)
  | source {a source} (ha : (∃ c, a = .claim c) ∨ (∃ c, a = .report c) ∨ a = .dispose)
      (h : Source.Step cfg.files s.source a source) :
      Step s (.source a) (s.setSource source)
  | sendFailed {c count source} (hcount : count < (s.nextBytes cfg c).length)
      (h : Source.Step cfg.files s.source (.sendFailed c) source) :
      Step s (.sendFailed c count)
        ((s.setWire c (s.wire c ++ (s.nextBytes cfg c).take count)).setSource source)
  | recv {c destination} (hlen : s.requested c ≤ (s.wire c).length)
      (ha : s.destination.aborted = false)
      (h : Destination.Step cfg.destinationEndian s.destination
        (.recv c ((s.wire c).take (s.requested c))) destination) :
      Step s (.recv c)
        ((s.setWire c ((s.wire c).drop (s.requested c))).setDestination destination)
  | recvFailed {c count destination} (hlen : count ≤ (s.wire c).length)
      (ha : s.destination.aborted = false)
      (h : Destination.Step cfg.destinationEndian s.destination
        (.recvFailed c ((s.wire c).take count)) destination) :
      Step s (.recvFailed c count)
        ((s.setWire c ((s.wire c).drop count)).setDestination destination)
  | run {c destination} (ha : s.destination.aborted = false)
      (h : Destination.Step cfg.destinationEndian s.destination (.run c) destination) :
      Step s (.run c) (s.setDestination destination)
  | dispose {destination} (hopen : s.portalOpen = false) (ha : s.destination.aborted = false)
      (h : Destination.Step cfg.destinationEndian s.destination .dispose destination) :
      Step s .dispose (s.setDestination destination)
  | closePortal : Step s .closePortal { s with portalOpen := false }
  | wakePortal (hpc : s.destinationPortal = .wait)
      (hset : s.destination.gateAllChannelsFinished.isSet = true) :
      Step s .wakePortal { s with destinationPortal := .send }
  | sendFinished (hpc : s.destinationPortal = .send) (hopen : s.portalOpen = true) :
      Step s .sendFinished
        { s with portalWire := s.portalWire ++ [{}], destinationPortal := .returned true }
  | sendFinishedFailed (hpc : s.destinationPortal = .send) :
      Step s .sendFinishedFailed { s with destinationPortal := .returned false }
  | recvFinished {msg msgs} (hpc : s.sourcePortal = .recv) (hwire : s.portalWire = msg :: msgs) :
      Step s .recvFinished
        { s with portalWire := msgs, sourcePortal := .returned (msg.errorCode = 0) }
  | recvFinishedFailed (hpc : s.sourcePortal = .recv) :
      Step s .recvFinishedFailed { s with sourcePortal := .returned false }

variable {cfg} {s s' : State F N} {a : Action N}

lemma Step.of_sourceStep {a : Source.Action N} (h : s.sourceStep cfg a = some s') :
    Step cfg s (.source a) s' := by
  cases a with
  | send c next =>
    obtain ⟨source, hstep, rfl⟩ := Option.map_eq_some_iff.mp h
    exact .send (Source.Step.of_step hstep)
  | sendTail c =>
    obtain ⟨source, hstep, rfl⟩ := Option.map_eq_some_iff.mp h
    exact .sendTail (Source.Step.of_step hstep)
  | claim c =>
    obtain ⟨source, hstep, rfl⟩ := Option.map_eq_some_iff.mp h
    exact .source (.inl ⟨c, rfl⟩) (Source.Step.of_step hstep)
  | report c =>
    obtain ⟨source, hstep, rfl⟩ := Option.map_eq_some_iff.mp h
    exact .source (.inr (.inl ⟨c, rfl⟩)) (Source.Step.of_step hstep)
  | dispose =>
    obtain ⟨source, hstep, rfl⟩ := Option.map_eq_some_iff.mp h
    exact .source (.inr (.inr rfl)) (Source.Step.of_step hstep)
  | sendFailed c => cases h

lemma Step.of_step (h : s.step cfg a = some s') : Step cfg s a s' := by
  cases a with
  | source a => exact .of_sourceStep h
  | sendFailed c count =>
    simp only [State.step] at h
    split_ifs at h with hcount
    obtain ⟨source, hstep, rfl⟩ := Option.map_eq_some_iff.mp h
    exact .sendFailed hcount (Source.Step.of_step hstep)
  | recv c =>
    simp only [State.step] at h
    split_ifs at h with hlen
    obtain ⟨destination, hstep, rfl⟩ := Option.map_eq_some_iff.mp h
    obtain ⟨ha, hstep⟩ := Destination.Step.of_step hstep
    exact .recv hlen ha hstep
  | recvFailed c count =>
    simp only [State.step] at h
    split_ifs at h with hlen
    obtain ⟨destination, hstep, rfl⟩ := Option.map_eq_some_iff.mp h
    obtain ⟨ha, hstep⟩ := Destination.Step.of_step hstep
    exact .recvFailed hlen ha hstep
  | run c =>
    obtain ⟨destination, hstep, rfl⟩ := Option.map_eq_some_iff.mp h
    obtain ⟨ha, hstep⟩ := Destination.Step.of_step hstep
    exact .run ha hstep
  | dispose =>
    simp only [State.step] at h
    split_ifs at h with hopen
    obtain ⟨destination, hstep, rfl⟩ := Option.map_eq_some_iff.mp h
    obtain ⟨ha, hstep⟩ := Destination.Step.of_step hstep
    exact .dispose (by simpa using hopen) ha hstep
  | closePortal => cases h; exact .closePortal
  | wakePortal =>
    simp only [State.step] at h
    split_ifs at h with hpc
    cases h
    exact .wakePortal hpc.1 hpc.2.2
  | sendFinished =>
    simp only [State.step] at h
    split_ifs at h with hpc
    cases h
    exact .sendFinished hpc.1 hpc.2.2
  | sendFinishedFailed =>
    simp only [State.step] at h
    split_ifs at h with hpc
    cases h
    exact .sendFinishedFailed hpc.1
  | recvFinished =>
    simp only [State.step] at h
    split at h <;> cases h
    exact .recvFinished ‹_› ‹_›
  | recvFinishedFailed =>
    simp only [State.step] at h
    split_ifs at h with hpc
    cases h
    exact .recvFinishedFailed hpc

/-! ### The two transfers of a session -/

/-- The source of a session runs as a source. -/
lemma reach_source {C : State F N → Action N → Prop} (h : (machine cfg).ReachIf C s) :
    (Source.machine cfg.files N).Reach s.source := by
  refine h.map State.source (fun s hs => ?_)
    fun s a s' _ _ hstep => ?_
  · obtain ⟨source, destination, hsource, -, rfl⟩ := hs
    exact hsource
  · replace hstep : s.step cfg a = some s' := hstep
    cases a with
    | source a =>
      have hmap : ∃ t, s.source.step cfg.files a = some t ∧ s'.source = t := by
        cases a with
        | sendFailed c => cases hstep
        | _ =>
          obtain ⟨t, ht, rfl⟩ := Option.map_eq_some_iff.mp hstep
          exact ⟨t, ht, rfl⟩
      obtain ⟨t, ht, rfl⟩ := hmap
      exact .inr ⟨a, trivial, ht⟩
    | sendFailed c count =>
      simp only [State.step] at hstep
      split_ifs at hstep
      obtain ⟨t, ht, rfl⟩ := Option.map_eq_some_iff.mp hstep
      exact .inr ⟨.sendFailed c, trivial, ht⟩
    | _ =>
      left
      cases Step.of_step hstep
      all_goals rfl

/-- The destination of a session runs as a destination. -/
lemma reach_destination {C : State F N → Action N → Prop} (h : (machine cfg).ReachIf C s) :
    (Destination.machine cfg.os N cfg.destinationEndian).Reach s.destination := by
  refine h.map State.destination
    (fun s hs => ?_) fun s a s' _ _ hstep => ?_
  · obtain ⟨source, destination, -, hdestination, rfl⟩ := hs
    exact hdestination
  · replace hstep : s.step cfg a = some s' := hstep
    cases a with
    | recv c =>
      simp only [State.step] at hstep
      split_ifs at hstep
      obtain ⟨t, ht, rfl⟩ := Option.map_eq_some_iff.mp hstep
      exact .inr ⟨.recv c ((s.wire c).take (s.requested c)), trivial, ht⟩
    | recvFailed c count =>
      simp only [State.step] at hstep
      split_ifs at hstep
      obtain ⟨t, ht, rfl⟩ := Option.map_eq_some_iff.mp hstep
      exact .inr ⟨.recvFailed c ((s.wire c).take count), trivial, ht⟩
    | run c =>
      obtain ⟨t, ht, rfl⟩ := Option.map_eq_some_iff.mp hstep
      exact .inr ⟨.run c, trivial, ht⟩
    | dispose =>
      simp only [State.step] at hstep
      split_ifs at hstep
      obtain ⟨t, ht, rfl⟩ := Option.map_eq_some_iff.mp hstep
      exact .inr ⟨.dispose, trivial, ht⟩
    | _ =>
      left
      cases Step.of_step hstep
      all_goals rfl

/-! ### A session of one byte -/

/-- A file that holds the byte 7. -/
def oneByteFiles : Fin 1 → Source.SourceFile := fun _ => ⟨1, fun _ => 7, by decide⟩

/-- Its transfer over one channel, between hosts of different byte orders. -/
def oneByteSession : Config 1 1 where
  files := oneByteFiles
  info := Destination.oneByte
  fileSize_eq _ := rfl
  os := Destination.oneByteAnswers
  sock := ⟨fun _ => 4, Function.injective_of_subsingleton _⟩
  sourceEndian := .big
  destinationEndian := .little

def oneByteSessionStart : State 1 1 where
  source := Source.start oneByteFiles fun _ => 65536
  destination := Destination.oneByteStart

lemma oneByteSessionStart_init : (machine oneByteSession).init oneByteSessionStart :=
  ⟨_, _, ⟨_, by decide, rfl⟩, Destination.oneByteStart_init, rfl⟩

/-- The source claims the byte and sends it, finds its next claim behind the end, and sends the
tail. -/
def oneByteSends : List (Action 1) :=
  let c : Fin 1 := .last 0
  [.source (.claim c), .source (.send c 65536), .source (.report c), .source (.claim c),
    .source (.sendTail c)]

/-- The destination receives the byte, and unmaps and closes the file. -/
def oneByteReceives : List (Action 1) :=
  let c : Fin 1 := .last 0
  [.recv c, .run c, .run c, .recv c, .run c, .run c, .run c, .run c]

/-- It receives the tail, returns and sets the gate. -/
def oneByteReturns : List (Action 1) :=
  let c : Fin 1 := .last 0
  [.recv c, .run c, .run c, .run c]

/-! ### A session of two files -/

lemma three_lt_fileBound : 3 < 2 ^ 63 := by decide

lemma two_lt_fileBound : 2 < 2 ^ 63 := by decide

/-- Files that hold the bytes 7, 8, 9 and 5, 6. -/
def twoFilesContents : Fin 2 → Source.SourceFile :=
  ![⟨3, fun i => i.toUInt8 + 7, three_lt_fileBound⟩, ⟨2, fun i => i.toUInt8 + 5, two_lt_fileBound⟩]

/-- Their transfer over two channels, between hosts of different byte orders. -/
def twoFilesSession : Config 2 2 where
  files := twoFilesContents
  info := Destination.twoFiles
  fileSize_eq n := by fin_cases n <;> rfl
  os := Destination.twoFilesAnswers
  sock := ⟨![5, 6], by decide⟩
  sourceEndian := .big
  destinationEndian := .little

/-- The first channel begins with two bytes at a time, the second one with 65536. -/
def twoFilesSessionStart : State 2 2 where
  source := Source.start twoFilesContents ![2, 65536]
  destination := Destination.twoFilesStart

lemma twoFilesSessionStart_init : (machine twoFilesSession).init twoFilesSessionStart :=
  ⟨_, _, ⟨_, by decide, rfl⟩, Destination.twoFilesStart_init, rfl⟩

/-- The channels share the first file, and the first one goes on with the second file. -/
def twoFilesSends : List (Action 2) :=
  List.map .source
    [.claim 0, .claim 1, .send 1 65536, .send 0 2, .report 0, .claim 0, .claim 0, .send 0 2,
      .report 0, .claim 0, .report 1, .claim 1, .claim 1, .sendTail 0, .sendTail 1]

/-- The header of the second channel is received first, and its block last. -/
def twoFilesReceives : List (Action 2) :=
  [.recv 1, .recv 0, .run 0, .run 0, .recv 0, .run 0, .run 0, .recv 0, .run 0, .run 0, .recv 0,
    .run 0, .run 0, .run 0, .run 0, .recv 0, .run 0, .run 1, .run 1, .recv 1, .run 1, .run 1,
    .run 1, .run 1, .recv 1, .run 1]

/-- The channels return, and the last one sets the gate. -/
def twoFilesReturns : List (Action 2) := [.run 0, .run 1, .run 1]

end Session

end Xcp
