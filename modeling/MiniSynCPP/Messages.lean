import Mathlib.Data.Nat.Log
import Mathlib.Logic.Basic

/-!
# Messages, addresses and the failures of the socket calls

The messages of `protocol.proto`. Enumerations are open: a parsed message may
carry a number that no constant names.
-/

namespace MiniSynCPP

inductive NodeMode
  | reference
  | sync
  | unrecognized (value : { v : Int32 // v ∉ [0, 1] })
  deriving DecidableEq

/-- `HandshakeReply.Status`, with the two sentinels that the generated enumeration adds. -/
inductive Status
  | error
  | versionMismatch
  | modeMismatch
  | success
  | intMinSentinel
  | intMaxSentinel
  | unrecognized (value : { v : Int32 // v ∉ [0, 1, 2, 3, Int32.minValue, Int32.maxValue] })
  deriving DecidableEq

structure Handshake where
  versionMajor : UInt32
  versionMinor : UInt32
  mode : NodeMode
  deriving DecidableEq

structure HandshakeReply where
  status : Status
  deriving DecidableEq

structure Beacon where
  seq : UInt32
  deriving DecidableEq

/-- The two times are in nanoseconds. -/
structure BeaconReply where
  seq : UInt32
  beaconRecvTime : UInt64
  replySendTime : UInt64
  deriving DecidableEq

/-- `MiniSyncMsg`: at most one payload. -/
inductive MiniSyncMsg
  | notSet
  | handshake (h : Handshake)
  | handshakeR (r : HandshakeReply)
  | beacon (b : Beacon)
  | beaconR (r : BeaconReply)
  | goodbye
  | goodbyeR
  deriving DecidableEq

def protocolVersionMajor : UInt32 := 1

def protocolVersionMinor : UInt32 := 0

/-- Bytes of a varint: seven bits each, at least one. -/
def varintSize (n : ℕ) : ℕ := n.log2 / 7 + 1

/-- A number field with a tag below 16; zero is not sent. -/
def fieldSize (n : ℕ) : ℕ := if n = 0 then 0 else 1 + varintSize n

/-- A submessage field with a tag below 16. -/
def submessageSize (payload : ℕ) : ℕ := 1 + varintSize payload + payload

/-- `ByteSizeLong` of a `MiniSyncMsg` with this payload. -/
def Beacon.byteSizeLong (b : Beacon) : ℕ := submessageSize (fieldSize b.seq.toNat)

@[inherit_doc Beacon.byteSizeLong]
def BeaconReply.byteSizeLong (r : BeaconReply) : ℕ :=
  submessageSize (fieldSize r.seq.toNat + fieldSize r.beaconRecvTime.toNat +
    fieldSize r.replySendTime.toNat)

/-- `SOCKADDR`, the port in the byte order of the host. -/
structure SockAddr where
  family : UInt16
  port : UInt16
  addr : UInt32
  deriving DecidableEq

namespace SockAddr

def afInet : UInt16 := 2

/-- What `memset` with zero leaves. -/
def cleared : SockAddr := ⟨0, 0, 0⟩

/-- `peer_addr` as the constructor of `SyncNode` sets it up; `peer` is what `inet_addr` reads. -/
def configured (peer : UInt32) (peerPort : UInt16) : SockAddr := ⟨afInet, peerPort, peer⟩

theorem configured_ne_cleared (peer : UInt32) (peerPort : UInt16) :
    configured peer peerPort ≠ cleared := by
  intro h
  have family : afInet = 0 := congrArg SockAddr.family h
  exact absurd family (by decide)

end SockAddr

/-- What `send_message` and `recv_message` throw. -/
inductive Exception
  | timeout
  | socketRead
  | socketWrite
  | deserializeMsg
  deriving DecidableEq

/-- What `recvfrom` gives: `EAGAIN` or `EWOULDBLOCK`, another error, or a datagram
with its source; `none` is a payload that does not parse. -/
inductive Received
  | timedOut
  | failed
  | datagram (source : SockAddr) (payload : Option MiniSyncMsg)
  deriving DecidableEq

/-- `recv_message` with a buffer for the source address. The buffer is cleared
before anything has arrived. -/
def recvMessage (received : Received) : EStateM Exception SockAddr MiniSyncMsg := do
  set SockAddr.cleared
  match received with
  | .timedOut => throw .timeout
  | .failed => throw .socketRead
  | .datagram source payload =>
    set source
    match payload with
    | none => throw .deserializeMsg
    | some msg => return msg

end MiniSynCPP
