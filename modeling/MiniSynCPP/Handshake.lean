import MiniSynCPP.Messages
import MiniSynCPP.Runs

/-!
# The handshake of the SyncNode

`handshake` sends a request to `peer_addr` and receives with `peer_addr` as
the buffer for the source address, so the next request goes wherever the last
receive left the buffer. The time stamps of the two calls are not used here.
-/

namespace MiniSynCPP

open Runs

/-- The calls on the socket that name an address, and the receives that throw with the
buffer before and after. -/
inductive SocketCall
  | sendto (msg : MiniSyncMsg) (dest : SockAddr)
  | recvFailed (before after : SockAddr)
  | connect (peer : SockAddr)
  deriving DecidableEq

/-- The members of `SyncNode` that `handshake` uses, and the calls made so far. -/
structure SyncNode where
  mode : NodeMode
  peerAddr : SockAddr
  running : Bool
  calls : List SocketCall

/-- The environment of one pass through the loop: whether `sendto` takes the whole
message, and what `recvfrom` gives. -/
structure Turn where
  written : Bool
  received : Received

/-- How far `handshake` has come when the turns are used up, or `shut_down` has cut them short. -/
inductive Progress
  | connected
  | stopped
  | pending
  deriving DecidableEq

namespace SyncNode

/-- The constructor. -/
def new (peer : UInt32) (peerPort : UInt16) : SyncNode where
  mode := .sync
  peerAddr := .configured peer peerPort
  running := true
  calls := []

def record (n : SyncNode) (call : SocketCall) : SyncNode := { n with calls := n.calls ++ [call] }

def request (n : SyncNode) : MiniSyncMsg :=
  .handshake ⟨protocolVersionMajor, protocolVersionMinor, n.mode⟩

def sendMessage (msg : MiniSyncMsg) (written : Bool) : EStateM Exception SyncNode Unit := do
  modify fun n => n.record (.sendto msg n.peerAddr)
  unless written do throw .socketWrite

/-- `recv_message` into `peer_addr`. -/
def recvPeer (received : Received) : EStateM Exception SyncNode MiniSyncMsg := fun n =>
  match recvMessage received n.peerAddr with
  | .ok msg addr => .ok msg { n with peerAddr := addr }
  | .error e addr => .error e ({ n with peerAddr := addr }.record (.recvFailed n.peerAddr addr))

/-- The `switch` over the status; true where `handshake` returns. If `connect` fails the process
ends with the same calls made. -/
def onStatus : Status → EStateM Exception SyncNode Bool
  | .success => do
    modify fun n => n.record (.connect n.peerAddr)
    return true
  | .versionMismatch | .modeMismatch | .intMinSentinel | .intMaxSentinel | .error => do
    modify fun n => { n with running := false }
    return false
  | .unrecognized _ => return false

/-- One pass through the loop; true where `handshake` returns. -/
def attempt (turn : Turn) : EStateM Exception SyncNode Bool := do
  let n ← get
  sendMessage n.request turn.written
  match ← recvPeer turn.received with
  | .handshakeR reply => onStatus reply.status
  | _ => return false

/-- The two exceptions that the loop catches. -/
def retries : Exception → Bool
  | .timeout | .deserializeMsg => true
  | .socketRead | .socketWrite => false

/-- `attempt` under the two handlers. -/
def pass (turn : Turn) : EStateM Exception SyncNode Bool :=
  tryCatch (attempt turn) fun e => if retries e then return false else throw e

def handshake : List Turn → EStateM Exception SyncNode Progress
  | [] => return .pending
  | turn :: turns => do
    if (← get).running then
      if ← pass turn then return .connected else handshake turns
    else return .stopped

end SyncNode

/-- A request or a `connect` names `peer`; a receive that throws leaves the address alone. -/
def SocketCall.Keeps (peer : SockAddr) : SocketCall → Prop
  | sendto _ dest => dest = peer
  | recvFailed before after => after = before
  | connect addr => addr = peer

def TalksTo (peer : SockAddr) (calls : List SocketCall) : Prop := ∀ call ∈ calls, call.Keeps peer

def MiniSyncMsg.accepts (msg : MiniSyncMsg) : Bool := msg = .handshakeR ⟨.success⟩

def MiniSyncMsg.refuses : MiniSyncMsg → Bool
  | .handshakeR ⟨.success⟩ | .handshakeR ⟨.unrecognized _⟩ => false
  | .handshakeR _ => true
  | _ => false

/-- Every receive gives a datagram of `peer`, save one that parses, is no SUCCESS and has no
request after it. -/
def Undisturbed (peer : SockAddr) : List Turn → Prop
  | [] => True
  | turn :: turns => turn.written = true →
    match turn.received with
    | .timedOut => False
    | .failed => False
    | .datagram source none => source = peer ∧ Undisturbed peer turns
    | .datagram source (some msg) =>
      if msg.accepts then source = peer
      else msg.refuses = true ∨ turns = [] ∨ source = peer ∧ Undisturbed peer turns

theorem talksTo_append {peer : SockAddr} {calls : List SocketCall} {call : SocketCall} :
    TalksTo peer (calls ++ [call]) ↔ TalksTo peer calls ∧ call.Keeps peer := by
  unfold TalksTo
  simp only [List.forall_mem_append, List.forall_mem_singleton]

namespace SyncNode

/-- The node with its request sent. -/
def requested (n : SyncNode) : SyncNode := n.record (.sendto n.request n.peerAddr)

/-- The node after a receive that throws and leaves `addr` in the buffer. -/
def disturbed (n : SyncNode) (addr : SockAddr) : SyncNode :=
  { n with peerAddr := addr }.record (.recvFailed n.peerAddr addr)

theorem pass_unwritten {turn : Turn} (h : turn.written = false) (n : SyncNode) :
    pass turn n = .error .socketWrite n.requested := by
  obtain ⟨written, received⟩ := turn
  cases h
  rfl

theorem pass_timedOut {turn : Turn} (h : turn.written = true) (hr : turn.received = .timedOut)
    (n : SyncNode) : pass turn n = .ok false (n.requested.disturbed .cleared) := by
  obtain ⟨written, received⟩ := turn
  cases h
  cases hr
  rfl

theorem pass_failed {turn : Turn} (h : turn.written = true) (hr : turn.received = .failed)
    (n : SyncNode) : pass turn n = .error .socketRead (n.requested.disturbed .cleared) := by
  obtain ⟨written, received⟩ := turn
  cases h
  cases hr
  rfl

theorem pass_unparsed {turn : Turn} (h : turn.written = true) {source : SockAddr}
    (hr : turn.received = .datagram source none) (n : SyncNode) :
    pass turn n = .ok false (n.requested.disturbed source) := by
  obtain ⟨written, received⟩ := turn
  cases h
  cases hr
  rfl

theorem pass_accepted {turn : Turn} (h : turn.written = true) {source : SockAddr} {msg : MiniSyncMsg}
    (hr : turn.received = .datagram source (some msg)) (accepts : msg.accepts = true) (n : SyncNode) :
    pass turn n = .ok true ({ n.requested with peerAddr := source }.record (.connect source)) := by
  obtain ⟨written, received⟩ := turn
  cases h
  cases hr
  cases of_decide_eq_true accepts
  rfl

theorem pass_refused {turn : Turn} (h : turn.written = true) {source : SockAddr} {msg : MiniSyncMsg}
    (hr : turn.received = .datagram source (some msg)) (refuses : msg.refuses = true) (n : SyncNode) :
    pass turn n = .ok false { n.requested with peerAddr := source, running := false } := by
  obtain ⟨written, received⟩ := turn
  cases h
  cases hr
  cases msg with
  | handshakeR reply =>
    obtain ⟨status⟩ := reply
    cases status with
    | success => cases refuses
    | unrecognized => cases refuses
    | _ => rfl
  | _ => cases refuses

theorem pass_ignored {turn : Turn} (h : turn.written = true) {source : SockAddr} {msg : MiniSyncMsg}
    (hr : turn.received = .datagram source (some msg)) (accepts : msg.accepts = false)
    (refuses : msg.refuses = false) (n : SyncNode) :
    pass turn n = .ok false { n.requested with peerAddr := source } := by
  obtain ⟨written, received⟩ := turn
  cases h
  cases hr
  cases msg with
  | handshakeR reply =>
    obtain ⟨status⟩ := reply
    cases status with
    | success => exact absurd accepts (by decide)
    | unrecognized => rfl
    | _ => cases refuses
  | _ => rfl

theorem handshake_running {n : SyncNode} (running : n.running = true) (turn : Turn)
    (turns : List Turn) :
    handshake (turn :: turns) n = match pass turn n with
      | .ok true m => .ok .connected m
      | .ok false m => handshake turns m
      | .error e m => .error e m := by
  simp only [handshake, bind_run, get_run, running, if_true]
  cases pass turn n with
  | ok returned m => cases returned <;> rfl
  | error e m => rfl

theorem handshake_stopped {n : SyncNode} (stopped : n.running = false) (turns : List Turn) :
    left (handshake turns n) = n := by
  cases turns with
  | nil => rfl
  | cons turn turns => simp [handshake, stopped]

theorem talksTo_requested {peer : SockAddr} {n : SyncNode} :
    TalksTo peer n.requested.calls ↔ TalksTo peer n.calls ∧ n.peerAddr = peer := talksTo_append

theorem talksTo_disturbed {peer addr : SockAddr} {n : SyncNode} :
    TalksTo peer (n.disturbed addr).calls ↔ TalksTo peer n.calls ∧ addr = n.peerAddr := talksTo_append

/-- From any running node on, the calls keep to the peer if and only if the address is still the
peer's and the turns do not disturb it. -/
def Follows (peer : SockAddr) (turns : List Turn) : Prop :=
  ∀ n : SyncNode, n.running = true → (TalksTo peer (left (handshake turns n)).calls ↔
    TalksTo peer n.calls ∧ (turns = [] ∨ n.peerAddr = peer ∧ Undisturbed peer turns))

section
variable {peer : SockAddr} {turns : List Turn} {n : SyncNode}

/-- The next request goes where a receive that throws has left the buffer. -/
theorem Follows.disturbed (h : Follows peer turns) (running : n.running = true) (addr : SockAddr) :
    TalksTo peer (left (handshake turns (n.requested.disturbed addr))).calls ↔
      TalksTo peer n.calls ∧ n.peerAddr = peer ∧ addr = peer ∧ Undisturbed peer turns := by
  have kept := h (n.requested.disturbed addr) running
  rw [talksTo_disturbed, talksTo_requested] at kept
  rw [kept]
  constructor
  · rintro ⟨⟨⟨calls, same⟩, keeps⟩, rest⟩
    have moved : addr = peer := keeps.trans same
    refine ⟨calls, same, moved, ?_⟩
    cases rest with
    | inl none => rw [none]; trivial
    | inr rest => exact rest.2
  · rintro ⟨calls, same, moved, rest⟩
    exact ⟨⟨⟨calls, same⟩, moved.trans same.symm⟩, .inr ⟨moved, rest⟩⟩

/-- A receive that fails for good is the last, and has changed the address. -/
theorem not_talksTo_failed (hpeer : peer ≠ .cleared) :
    ¬ TalksTo peer (n.requested.disturbed .cleared).calls := by
  rw [talksTo_disturbed, talksTo_requested]
  rintro ⟨⟨_, same⟩, cleared⟩
  exact hpeer (same.symm.trans cleared.symm)

/-- The rest of the handshake after a message from `source`. -/
theorem Follows.message (h : Follows peer turns) (running : n.running = true) {turn : Turn}
    (written : turn.written = true) {source : SockAddr} {msg : MiniSyncMsg}
    (received : turn.received = .datagram source (some msg)) :
    TalksTo peer (left (handshake (turn :: turns) n)).calls ↔
      TalksTo peer n.calls ∧ n.peerAddr = peer ∧ if msg.accepts then source = peer
        else msg.refuses = true ∨ turns = [] ∨ source = peer ∧ Undisturbed peer turns := by
  rw [handshake_running running, ← and_assoc, ← talksTo_requested]
  cases accepts : msg.accepts with
  | true =>
    rw [pass_accepted written received accepts]
    exact talksTo_append
  | false =>
    cases refuses : msg.refuses with
    | true =>
      rw [pass_refused written received refuses]
      simp only
      rw [handshake_stopped rfl]
      simp
    | false =>
      rw [pass_ignored written received accepts refuses]
      simp only [Bool.false_eq_true, if_false, false_or]
      exact h { n.requested with peerAddr := source } running

end

theorem handshake_follows {peer : SockAddr} (hpeer : peer ≠ .cleared) (turns : List Turn) :
    Follows peer turns := by
  induction turns with
  | nil =>
    intro n _
    simp [handshake]
  | cons turn turns ih =>
    intro n running
    rw [Undisturbed]
    cases written : turn.written with
    | false =>
      rw [handshake_running running, pass_unwritten written]
      simp [talksTo_requested]
    | true =>
      cases received : turn.received with
      | timedOut =>
        rw [handshake_running running, pass_timedOut written received]
        simp only [ih.disturbed running]
        simp [hpeer.symm]
      | failed =>
        rw [handshake_running running, pass_failed written received]
        simp [not_talksTo_failed hpeer]
      | datagram source payload =>
        cases payload with
        | none =>
          rw [handshake_running running, pass_unparsed written received]
          simp only [ih.disturbed running]
          simp
        | some msg =>
          rw [ih.message running written received]
          simp

end SyncNode

/-- **The handshake keeps to the configured peer exactly in the runs that nothing disturbs.** -/
theorem handshake_talksTo_iff (peer : UInt32) (peerPort : UInt16) (turns : List Turn) :
    TalksTo (.configured peer peerPort)
        (left (SyncNode.handshake turns (.new peer peerPort))).calls ↔
      Undisturbed (.configured peer peerPort) turns := by
  rw [SyncNode.handshake_follows (SockAddr.configured_ne_cleared peer peerPort) turns
    (.new peer peerPort) rfl]
  constructor
  · rintro ⟨_, rfl | ⟨_, undisturbed⟩⟩
    · trivial
    · exact undisturbed
  · intro undisturbed
    exact ⟨by simp [TalksTo, SyncNode.new], .inr ⟨rfl, undisturbed⟩⟩

/-- A timed out receive leaves nothing of the address for the second request. -/
theorem not_alwaysTalksToPeer : ¬ ∀ (peer : UInt32) (peerPort : UInt16) (turns : List Turn),
    TalksTo (.configured peer peerPort)
      (left (SyncNode.handshake turns (.new peer peerPort))).calls := by
  intro always
  have calls : (left (SyncNode.handshake [⟨true, .timedOut⟩, ⟨true, .timedOut⟩]
      (.new 0x0100007F 1338))).calls =
    [.sendto (SyncNode.new 0x0100007F 1338).request (.configured 0x0100007F 1338),
      .recvFailed (.configured 0x0100007F 1338) .cleared,
      .sendto (SyncNode.new 0x0100007F 1338).request .cleared, .recvFailed .cleared .cleared] := rfl
  have kept := always 0x0100007F 1338 [⟨true, .timedOut⟩, ⟨true, .timedOut⟩]
  rw [calls] at kept
  have second := kept (.sendto (SyncNode.new 0x0100007F 1338).request .cleared) (by simp)
  exact (SockAddr.configured_ne_cleared _ _).symm second

end MiniSynCPP
