import Mathlib.Algebra.Order.Field.Rat
import MiniSynCPP.Channels
import MiniSynCPP.Messages
import MiniSynCPP.Runs

/-!
# The exchange of beacons

`SyncNode::sync` and `ReferenceNode::serve` over a channel that may lose,
delay, duplicate and reorder datagrams. Time stamps are microseconds as exact
rationals. The fields under "history" follow which transmission a datagram or
a time stamp comes from, and the real instants; the two loops do not read them.
-/

namespace MiniSynCPP

open Channels

/-- `minimum_delays`. -/
structure MinimumDelays where
  beacon : ℚ
  beaconReply : ℚ

/-- `duration_cast<nanoseconds>` of microseconds, towards zero. -/
def nanoseconds (us : ℚ) : ℤ := (us * 1000).num.tdiv (us * 1000).den

/-- `us_t` of the `nanoseconds` that a field of a reply holds. -/
def microseconds (wire : UInt64) : ℚ := wire.toInt64.toInt / 1000

structure DataPoint where
  To : ℚ
  Tb : ℚ
  Tr : ℚ
  deriving DecidableEq

section SyncNode

/-- What the constructor of `SyncNode` leaves for `sync`. -/
structure SyncSettings where
  minimumDelays : MinimumDelays
  bwBytesPerUsecond : ℚ
  minPingOnewayUs : ℚ

def SyncSettings.new (minimumDelays : MinimumDelays) (bandwidthMbps minPingRttMs : ℚ) :
    SyncSettings where
  minimumDelays := minimumDelays
  bwBytesPerUsecond := if 0 < bandwidthMbps then bandwidthMbps / 8 else -1
  minPingOnewayUs := if 0 < minPingRttMs then minPingRttMs * 1000 / 2 * (9 / 10) else -1

/-- `min_uplink_delay` and `min_downlink_delay`. -/
structure PathDelays where
  uplink : ℚ
  downlink : ℚ

/-- The adjustments by bandwidth and ping; 14 bytes is the least frame. -/
def SyncSettings.pathDelays (settings : SyncSettings) (last : PathDelays) (sendSz recvSz : ℕ) :
    PathDelays :=
  let bw := settings.bwBytesPerUsecond
  let delays : PathDelays :=
    if 0 < bw then ⟨(max sendSz 14 : ℕ) / bw, (max recvSz 14 : ℕ) / bw⟩ else last
  ⟨max delays.uplink settings.minPingOnewayUs, max delays.downlink settings.minPingOnewayUs⟩

/-- The variables of `sync`. `receiving` is set inside the inner loop. -/
structure SyncLoop where
  running : Bool
  receiving : Bool
  seq : UInt8
  To : ℚ
  delays : PathDelays

namespace SyncLoop

def start : SyncLoop := ⟨true, false, 0, 0, ⟨0, 0⟩⟩

def beacon (n : SyncLoop) : Beacon := ⟨n.seq.toUInt32⟩

/-- The reply that ends the inner loop, if this message is one. -/
def matching (n : SyncLoop) : MiniSyncMsg → Option BeaconReply
  | .beaconR reply => if reply.seq = n.seq.toUInt32 then some reply else none
  | _ => none

/-- The send time stamp replaces that of any earlier transmission. -/
def sent (n : SyncLoop) (timestamp : ℚ) : SyncLoop := { n with receiving := true, To := timestamp }

/-- After `TimeoutException` or `DeserializeMsgException`. -/
def retry (n : SyncLoop) : SyncLoop := { n with receiving := false }

def nextDelays (settings : SyncSettings) (n : SyncLoop) (reply : BeaconReply) : PathDelays :=
  settings.pathDelays n.delays n.beacon.byteSizeLong reply.byteSizeLong

/-- The arguments of the two calls of `addDataPoint`. -/
def dataPoints (settings : SyncSettings) (n : SyncLoop) (reply : BeaconReply) (tr : ℚ) :
    DataPoint × DataPoint :=
  let delays := n.nextDelays settings reply
  let To := n.To + settings.minimumDelays.beacon + delays.uplink
  let Tr := tr - settings.minimumDelays.beaconReply - delays.downlink
  (⟨To, microseconds reply.beaconRecvTime, Tr⟩, ⟨To, microseconds reply.replySendTime, Tr⟩)

def next (settings : SyncSettings) (n : SyncLoop) (reply : BeaconReply) : SyncLoop :=
  { n with receiving := false, seq := n.seq + 1, delays := n.nextDelays settings reply }

end SyncLoop

end SyncNode

section ReferenceNode

/-- The variables of `serve`. `replying` is the beacon between its reception and the reply,
with its reception time stamp. -/
structure ServeLoop where
  running : Bool
  replying : Option (Beacon × ℚ)

namespace ServeLoop

def start : ServeLoop := ⟨true, none⟩

def receive (n : ServeLoop) (recvTime : ℚ) : MiniSyncMsg → ServeLoop
  | .beacon beacon => { n with replying := some (beacon, recvTime) }
  | .goodbye => { n with running := false }
  | _ => n

/-- What is sent at once. -/
def atOnce : MiniSyncMsg → List MiniSyncMsg
  | .goodbye => [.goodbyeR]
  | _ => []

def reply (delays : MinimumDelays) (beacon : Beacon) (recvTime timestamp : ℚ) : BeaconReply where
  seq := beacon.seq
  beaconRecvTime := .ofInt (nanoseconds (recvTime - delays.beacon))
  replySendTime := .ofInt (nanoseconds (timestamp + delays.beaconReply))

end ServeLoop

end ReferenceNode

/-- A transmission of a beacon: the how manieth, and when. -/
structure Transmission where
  number : ℕ
  instant : ℚ
  deriving DecidableEq

/-- Which transmission a reply answers, and when that was received and answered. -/
structure Answer where
  transmission : Transmission
  received : ℚ
  replied : ℚ
  deriving DecidableEq

structure Datagram (τ : Type) where
  content : MiniSyncMsg
  origin : τ
  deriving DecidableEq

/-- One pair of data points: the transmission whose time is in `To`, the answer accepted for
it, and when that arrived. -/
structure Sample where
  points : DataPoint × DataPoint
  recorded : Transmission
  answer : Answer
  accepted : ℚ
  deriving DecidableEq

/-- The settings of the two nodes, and their clocks: the local time stamp at a real instant. -/
structure Pairing where
  sync : SyncSettings
  reference : MinimumDelays
  syncClock : ℚ → ℚ
  referenceClock : ℚ → ℚ

structure Network where
  sync : SyncLoop
  reference : ServeLoop
  uplink : List (Datagram Transmission)
  downlink : List (Datagram Answer)
  now : ℚ
  -- history
  sends : ℕ
  recorded : Transmission
  serving : Transmission
  received : ℚ
  samples : List Sample

namespace Network

/-- Both loops at their start. Datagrams of the handshake may still be in flight. -/
def start (now : ℚ) (requests : List Handshake) (replies : List HandshakeReply) : Network where
  sync := .start
  reference := .start
  uplink := requests.map fun h => ⟨.handshake h, ⟨0, now⟩⟩
  downlink := replies.map fun r => ⟨.handshakeR r, ⟨⟨0, now⟩, now, now⟩⟩
  now := now
  sends := 0
  recorded := ⟨0, now⟩
  serving := ⟨0, now⟩
  received := now
  samples := []

@[simp] theorem start_receiving (now : ℚ) (requests : List Handshake) (replies : List HandshakeReply) :
    (start now requests replies).sync.receiving = false := rfl

@[simp] theorem start_replying (now : ℚ) (requests : List Handshake) (replies : List HandshakeReply) :
    (start now requests replies).reference.replying = none := rfl

@[simp] theorem start_samples (now : ℚ) (requests : List Handshake) (replies : List HandshakeReply) :
    (start now requests replies).samples = [] := rfl

def transmission (s : Network) : Transmission := ⟨s.sends + 1, s.now⟩

def send (p : Pairing) (s : Network) : Network :=
  { s with
    sync := s.sync.sent (p.syncClock s.now)
    uplink := s.uplink ++ [⟨.beacon s.sync.beacon, s.transmission⟩]
    sends := s.sends + 1
    recorded := s.transmission }

/-- The SyncNode takes `d` out of its socket and leaves `rest` in flight. -/
def syncReceive (p : Pairing) (s : Network) (d : Datagram Answer) (rest : List (Datagram Answer)) :
    Network :=
  match s.sync.matching d.content with
  | none => { s with downlink := rest }
  | some reply =>
    { s with
      sync := s.sync.next p.sync reply
      downlink := rest
      samples := s.samples ++
        [⟨s.sync.dataPoints p.sync reply (p.syncClock s.now), s.recorded, d.origin, s.now⟩] }

def referenceReceive (p : Pairing) (s : Network) (d : Datagram Transmission)
    (rest : List (Datagram Transmission)) : Network :=
  { s with
    reference := s.reference.receive (p.referenceClock s.now) d.content
    uplink := rest
    downlink := s.downlink ++
      (ServeLoop.atOnce d.content).map fun msg => ⟨msg, ⟨d.origin, s.now, s.now⟩⟩
    serving := d.origin
    received := s.now }

def referenceReply (p : Pairing) (s : Network) (beacon : Beacon) (recvTime : ℚ) : Network :=
  { s with
    reference := { s.reference with replying := none }
    downlink := s.downlink ++
      [⟨.beaconR (ServeLoop.reply p.reference beacon recvTime (p.referenceClock s.now)),
        ⟨s.serving, s.received, s.now⟩⟩] }

inductive Action
  | elapse (now : ℚ)
  | send
  | retry
  | syncReceive (i : ℕ)
  | syncStop
  | referenceReceive (i : ℕ)
  | referenceReply
  | referenceStop
  | uplink (fault : Fault)
  | downlink (fault : Fault)

/-- A node stops when `shut_down` clears `running` and closes the socket, and when an exception
leaves its loop. -/
inductive Step (p : Pairing) : Network → Action → Network → Prop
  | elapse {s : Network} {now : ℚ} (later : s.now ≤ now) : Step p s (.elapse now) { s with now := now }
  | send {s : Network} (running : s.sync.running = true) (sending : s.sync.receiving = false) :
      Step p s .send (s.send p)
  | retry {s : Network} (receiving : s.sync.receiving = true) :
      Step p s .retry { s with sync := s.sync.retry }
  | syncReceive {s : Network} {i : ℕ} {d : Datagram Answer} {rest : List (Datagram Answer)}
      (receiving : s.sync.receiving = true) (taken : take? s.downlink i = some (d, rest)) :
      Step p s (.syncReceive i) (s.syncReceive p d rest)
  | syncStop {s : Network} :
      Step p s .syncStop { s with sync := { s.sync with running := false, receiving := false } }
  | referenceReceive {s : Network} {i : ℕ} {d : Datagram Transmission}
      {rest : List (Datagram Transmission)} (running : s.reference.running = true)
      (listening : s.reference.replying = none) (taken : take? s.uplink i = some (d, rest)) :
      Step p s (.referenceReceive i) (s.referenceReceive p d rest)
  | referenceReply {s : Network} {beacon : Beacon} {recvTime : ℚ}
      (replying : s.reference.replying = some (beacon, recvTime)) :
      Step p s .referenceReply (s.referenceReply p beacon recvTime)
  | referenceStop {s : Network} :
      Step p s .referenceStop { s with reference := ⟨false, none⟩ }
  | uplink {s : Network} (fault : Fault) :
      Step p s (.uplink fault) { s with uplink := fault.apply s.uplink }
  | downlink {s : Network} (fault : Fault) :
      Step p s (.downlink fault) { s with downlink := fault.apply s.downlink }

end Network

end MiniSynCPP
