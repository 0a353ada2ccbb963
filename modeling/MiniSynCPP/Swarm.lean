import Mathlib.Logic.Function.Basic
import MiniSynCPP.Beacons
import MiniSynCPP.Handshake

/-!
# One reference node and its SyncNodes

`run` of both classes: `wait_for_handshake` and then `serve` against any
number of SyncNodes, each with `handshake` and then `sync`. Every datagram in
flight is kept with the SyncNode it comes from or goes to. Time stamps are
arbitrary here. The fields under "history" are read by no node.
-/

namespace MiniSynCPP

open Channels

/-- What the nodes are set up with. A SyncNode sends one and the same request over and over. -/
structure Setup (Id : Type) where
  request : Id → Handshake
  sync : Id → SyncSettings
  reference : MinimumDelays

section SyncNode

/-- The state of `SyncNode::run`. The members of `loop` that belong to `sync` keep their first
values until `handshake` has returned. -/
structure SyncState where
  -- `handshake` has returned
  synchronising : Bool
  -- `handshake` has connected the socket
  connected : Bool
  loop : SyncLoop

namespace SyncState

def start : SyncState := ⟨false, false, .start⟩

/-- The request is sent, and its send time stamp dropped. -/
def await (n : SyncState) : SyncState := { n with loop := { n.loop with receiving := true } }

/-- After `TimeoutException` or `DeserializeMsgException`, in either loop. -/
def retry (n : SyncState) : SyncState := { n with loop := n.loop.retry }

/-- A message in the loop of `handshake`. -/
def handshake (n : SyncState) (msg : MiniSyncMsg) : SyncState :=
  if msg.accepts then ⟨true, true, n.loop.retry⟩
  else if msg.refuses then { n with loop := { n.loop with running := false, receiving := false } }
  else n.retry

/-- A message in the inner loop of `sync`. -/
def sync (settings : SyncSettings) (n : SyncState) (msg : MiniSyncMsg) : SyncState :=
  match n.loop.matching msg with
  | none => n
  | some reply => { n with loop := n.loop.next settings reply }

def receive (settings : SyncSettings) (n : SyncState) (msg : MiniSyncMsg) : SyncState :=
  if n.synchronising then n.sync settings msg else n.handshake msg

/-- `running` is false, so `handshake` returns and `run` goes on to `sync`. -/
def leave (n : SyncState) : SyncState := { n with synchronising := true }

def stop (n : SyncState) : SyncState :=
  { n with loop := { n.loop with running := false, receiving := false } }

end SyncState

end SyncNode

section ReferenceNode
variable {Id : Type}

/-- The status of the reply to a request. -/
def replyStatus (mode : NodeMode) (h : Handshake) : Status :=
  if protocolVersionMajor ≠ h.versionMajor ∨ protocolVersionMinor ≠ h.versionMinor then
    .versionMismatch
  else if h.mode = mode then .modeMismatch
  else .success

/-- The state of `ReferenceNode::run`. `answering` is the reply to a request that is not yet sent. -/
structure ReferenceState (Id : Type) where
  listening : Bool
  -- what the socket is connected to
  connected : Option Id
  answering : Option (Id × HandshakeReply)
  loop : ServeLoop

namespace ReferenceState

def start : ReferenceState Id := ⟨true, none, none, .start⟩

/-- A message in the loop of `wait_for_handshake`. -/
def waitForHandshake (n : ReferenceState Id) (source : Id) : MiniSyncMsg → ReferenceState Id
  | .handshake h =>
    let status := replyStatus .reference h
    if status = .success then
      { n with listening := false, connected := some source, answering := some (source, ⟨status⟩) }
    else { n with answering := some (source, ⟨status⟩) }
  | _ => n

def receive (n : ReferenceState Id) (source : Id) (recvTime : ℚ) (msg : MiniSyncMsg) :
    ReferenceState Id :=
  if n.listening then n.waitForHandshake source msg
  else { n with loop := n.loop.receive recvTime msg }

/-- What a connected socket sends. -/
def toPeer (n : ReferenceState Id) (msgs : List MiniSyncMsg) : List (Id × MiniSyncMsg) :=
  n.connected.toList.flatMap fun peer => msgs.map fun msg => (peer, msg)

/-- What is sent at once. -/
def atOnce (n : ReferenceState Id) (msg : MiniSyncMsg) : List (Id × MiniSyncMsg) :=
  if n.listening then [] else n.toPeer (ServeLoop.atOnce msg)

end ReferenceState

end ReferenceNode

/-- What `wait_for_handshake` made of a request. -/
structure Verdict (Id : Type) where
  node : Id
  request : Handshake
  status : Status

def ReferenceState.verdict {Id : Type} (n : ReferenceState Id) (source : Id) :
    MiniSyncMsg → Option (Verdict Id)
  | .handshake h => if n.listening then some ⟨source, h, replyStatus .reference h⟩ else none
  | _ => none

structure Swarm (Id : Type) where
  reference : ReferenceState Id
  nodes : Id → SyncState
  uplink : List (Id × MiniSyncMsg)
  downlink : List (Id × MiniSyncMsg)
  -- history
  verdicts : List (Verdict Id)
  -- the senders of the beacons
  beacons : List Id

namespace Swarm
variable {Id : Type}

def start : Swarm Id := ⟨.start, fun _ => .start, [], [], [], []⟩

inductive Action (Id : Type)
  | request (i : Id)
  | retry (i : Id)
  | receive (i : Id) (k : ℕ)
  | leave (i : Id)
  | beacon (i : Id) (timestamp : ℚ)
  | stop (i : Id)
  | referenceReceive (k : ℕ) (recvTime : ℚ)
  | referenceAnswer
  | referenceReply (timestamp : ℚ)
  | referenceStop
  | uplink (fault : Fault)
  | downlink (fault : Fault)

/-- The reference node takes a datagram out of its socket and leaves `rest` in flight. -/
def referenceReceive (s : Swarm Id) (source : Id) (msg : MiniSyncMsg) (recvTime : ℚ)
    (rest : List (Id × MiniSyncMsg)) : Swarm Id :=
  { s with
    reference := s.reference.receive source recvTime msg
    uplink := rest
    downlink := s.downlink ++ s.reference.atOnce msg
    verdicts := s.verdicts ++ (s.reference.verdict source msg).toList }

def referenceAnswer (s : Swarm Id) (dest : Id) (reply : HandshakeReply) : Swarm Id :=
  { s with
    reference := { s.reference with answering := none }
    downlink := s.downlink ++ [(dest, .handshakeR reply)] }

def referenceReply (p : Setup Id) (s : Swarm Id) (beacon : Beacon) (recvTime timestamp : ℚ) :
    Swarm Id :=
  { s with
    reference := { s.reference with loop := { s.reference.loop with replying := none } }
    downlink := s.downlink ++
      s.reference.toPeer [.beaconR (ServeLoop.reply p.reference beacon recvTime timestamp)] }

def referenceStop (s : Swarm Id) : Swarm Id :=
  { s with reference := { s.reference with answering := none, loop := ⟨false, none⟩ } }

variable [DecidableEq Id]

def set (s : Swarm Id) (i : Id) (n : SyncState) : Swarm Id :=
  { s with nodes := Function.update s.nodes i n }

@[simp] theorem set_self (s : Swarm Id) (i : Id) (n : SyncState) : (s.set i n).nodes i = n := by
  simp [set]

theorem set_of_ne (s : Swarm Id) {i j : Id} (n : SyncState) (other : j ≠ i) :
    (s.set i n).nodes j = s.nodes j := by
  simp [set, other]

def request (p : Setup Id) (s : Swarm Id) (i : Id) : Swarm Id :=
  { s.set i (s.nodes i).await with uplink := s.uplink ++ [(i, .handshake (p.request i))] }

def receive (p : Setup Id) (s : Swarm Id) (i : Id) (msg : MiniSyncMsg)
    (rest : List (Id × MiniSyncMsg)) : Swarm Id :=
  { s.set i ((s.nodes i).receive (p.sync i) msg) with downlink := rest }

def beacon (s : Swarm Id) (i : Id) (timestamp : ℚ) : Swarm Id :=
  { s.set i { s.nodes i with loop := (s.nodes i).loop.sent timestamp } with
    uplink := s.uplink ++ [(i, .beacon (s.nodes i).loop.beacon)]
    beacons := s.beacons ++ [i] }

@[simp] theorem request_node (p : Setup Id) (s : Swarm Id) (i : Id) :
    (s.request p i).nodes i = (s.nodes i).await := set_self s i _

@[simp] theorem receive_node (p : Setup Id) (s : Swarm Id) (i : Id) (msg : MiniSyncMsg)
    (rest : List (Id × MiniSyncMsg)) :
    (s.receive p i msg rest).nodes i = (s.nodes i).receive (p.sync i) msg := set_self s i _

@[simp] theorem beacon_node (s : Swarm Id) (i : Id) (timestamp : ℚ) :
    (s.beacon i timestamp).nodes i = { s.nodes i with loop := (s.nodes i).loop.sent timestamp } :=
  set_self s i _

/-- A node stops when `shut_down` clears `running` and closes the socket, and when an exception
leaves its loop. What other nodes have sent before the socket was connected may still be received. -/
inductive Step (p : Setup Id) : Swarm Id → Action Id → Swarm Id → Prop
  | request {s : Swarm Id} {i : Id} (running : (s.nodes i).loop.running = true)
      (handshake : (s.nodes i).synchronising = false) (sending : (s.nodes i).loop.receiving = false) :
      Step p s (.request i) (s.request p i)
  | retry {s : Swarm Id} {i : Id} (receiving : (s.nodes i).loop.receiving = true) :
      Step p s (.retry i) (s.set i (s.nodes i).retry)
  | receive {s : Swarm Id} {i : Id} {k : ℕ} {msg : MiniSyncMsg} {rest : List (Id × MiniSyncMsg)}
      (receiving : (s.nodes i).loop.receiving = true)
      (taken : take? s.downlink k = some ((i, msg), rest)) :
      Step p s (.receive i k) (s.receive p i msg rest)
  | leave {s : Swarm Id} {i : Id} (stopped : (s.nodes i).loop.running = false) :
      Step p s (.leave i) (s.set i (s.nodes i).leave)
  | beacon {s : Swarm Id} {i : Id} (timestamp : ℚ) (running : (s.nodes i).loop.running = true)
      (synchronising : (s.nodes i).synchronising = true)
      (sending : (s.nodes i).loop.receiving = false) :
      Step p s (.beacon i timestamp) (s.beacon i timestamp)
  | stop {s : Swarm Id} {i : Id} : Step p s (.stop i) (s.set i (s.nodes i).stop)
  | referenceReceive {s : Swarm Id} {k : ℕ} {source : Id} {msg : MiniSyncMsg}
      {rest : List (Id × MiniSyncMsg)} (recvTime : ℚ) (running : s.reference.loop.running = true)
      (answered : s.reference.answering = none) (replied : s.reference.loop.replying = none)
      (taken : take? s.uplink k = some ((source, msg), rest)) :
      Step p s (.referenceReceive k recvTime) (s.referenceReceive source msg recvTime rest)
  | referenceAnswer {s : Swarm Id} {dest : Id} {reply : HandshakeReply}
      (answering : s.reference.answering = some (dest, reply)) :
      Step p s .referenceAnswer (s.referenceAnswer dest reply)
  | referenceReply {s : Swarm Id} {beacon : Beacon} {recvTime : ℚ} (timestamp : ℚ)
      (replying : s.reference.loop.replying = some (beacon, recvTime)) :
      Step p s (.referenceReply timestamp) (s.referenceReply p beacon recvTime timestamp)
  | referenceStop {s : Swarm Id} : Step p s .referenceStop s.referenceStop
  | uplink {s : Swarm Id} (fault : Fault) :
      Step p s (.uplink fault) { s with uplink := fault.apply s.uplink }
  | downlink {s : Swarm Id} (fault : Fault) :
      Step p s (.downlink fault) { s with downlink := fault.apply s.downlink }

end Swarm

end MiniSynCPP
