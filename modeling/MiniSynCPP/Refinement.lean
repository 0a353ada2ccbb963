import MiniSynCPP.Exclusion
import MiniSynCPP.Freshness

/-!
# A pair within the swarm

`run` of both classes against the two loops alone. From the moment its handshake returns, what a
SyncNode and the reference node do is a run of `sync` and `serve` over a channel between the two,
whatever the other SyncNodes send and whenever the reference node was paired.
-/

namespace MiniSynCPP

open Channels Runs

/-- The clocks of all nodes: the local time stamp at a real instant. -/
structure Clocks (Id : Type) where
  sync : Id → ℚ → ℚ
  reference : ℚ → ℚ

def Setup.pairing {Id : Type} (p : Setup Id) (clocks : Clocks Id) (i : Id) : Pairing :=
  ⟨p.sync i, p.reference, clocks.sync i, clocks.reference⟩

namespace Swarm
variable {Id : Type}

/-- Time stamps are what the clocks show. -/
def Action.Stamped (clocks : Clocks Id) (now : ℚ) : Action Id → Prop
  | .beacon i timestamp => timestamp = clocks.sync i now
  | .referenceReceive _ recvTime => recvTime = clocks.reference now
  | .referenceReply timestamp => timestamp = clocks.reference now
  | _ => True

/-- The datagrams of `sync` and `serve`. -/
def beaconOf : Id × MiniSyncMsg → Option MiniSyncMsg
  | (_, .beacon b) => some (.beacon b)
  | _ => none

def replyOf : Id × MiniSyncMsg → Option MiniSyncMsg
  | (_, .beaconR r) => some (.beaconR r)
  | _ => none

variable [DecidableEq Id]

/-- The data points of the reply that `i` accepts, if it accepts one in a step at `now`. -/
def yields (p : Setup Id) (clocks : Clocks Id) (s : Swarm Id) (now : ℚ) (i : Id) :
    Action Id → List (DataPoint × DataPoint)
  | .receive j k =>
    if j = i ∧ (s.nodes i).synchronising = true then
      ((take? s.downlink k).bind fun taken => (s.nodes i).loop.matching taken.1.2).toList.map fun reply =>
        (s.nodes i).loop.dataPoints (p.sync i) reply (clocks.sync i now)
    else []
  | _ => []

/-- The swarm at a real instant. -/
structure Timed (Id : Type) where
  swarm : Swarm Id
  now : ℚ
  -- history: the data points of every SyncNode
  points : Id → List (DataPoint × DataPoint)

def Timed.start (now : ℚ) : Timed Id := ⟨Swarm.start, now, fun _ => []⟩

structure TimedStep (p : Setup Id) (clocks : Clocks Id) (s : Timed Id) (a : Action Id × ℚ)
    (t : Timed Id) : Prop where
  later : s.now ≤ a.2
  stamped : a.1.Stamped clocks a.2
  step : Step p s.swarm a.1 t.swarm
  now : t.now = a.2
  points : ∀ i, t.points i = s.points i ++ yields p clocks s.swarm a.2 i a.1

def replyTo (i : Id) (d : Id × MiniSyncMsg) : Option MiniSyncMsg := if d.1 = i then replyOf d else none

/-- The network shows the loops of the reference node and of `i`, and what is under way between them. -/
structure Appears (s : Swarm Id) (now : ℚ) (i : Id) (n : Network) : Prop where
  sync : n.sync = (s.nodes i).loop
  reference : n.reference = s.reference.loop
  uplink : Picks Datagram.content beaconOf n.uplink s.uplink
  downlink : Picks Datagram.content (replyTo i) n.downlink s.downlink
  now : n.now = now

/-- No beacon and no reply with the sequence number of the next beacon of `i` is still under way. -/
structure Quiet (s : Swarm Id) (i : Id) : Prop where
  uplink : s.reference.loop.running = true → ∀ d ∈ s.uplink, d.2 ≠ .beacon (s.nodes i).loop.beacon
  replying : ∀ recvTime, s.reference.loop.replying ≠ some ((s.nodes i).loop.beacon, recvTime)
  downlink : ∀ d ∈ s.downlink, d.1 = i → (s.nodes i).loop.matching d.2 = none

/-- What the phases of `run` leave to each other. -/
structure Begins (s : Swarm Id) : Prop where
  uplink : ∀ d ∈ s.uplink, beaconOf d = none → ∃ h, d.2 = .handshake h
  -- `sync` has started nowhere
  idle : (∀ j, (s.nodes j).connected = false) → (∀ d ∈ s.uplink, beaconOf d = none) ∧
    s.reference.loop.replying = none ∧ ∀ d ∈ s.downlink, replyOf d = none
  loop : ∀ j, (s.nodes j).connected = false →
    (s.nodes j).loop = ⟨(s.nodes j).loop.running, (s.nodes j).loop.receiving, 0, 0, ⟨0, 0⟩⟩
  running : ∀ j, (s.nodes j).loop.receiving = true → (s.nodes j).loop.running = true
  synchronising : ∀ j, (s.nodes j).connected = true → (s.nodes j).synchronising = true

omit [DecidableEq Id] in
theorem start_begins : (start : Swarm Id).Begins :=
  ⟨nofun, fun _ => ⟨nofun, rfl, nofun⟩, fun _ _ => rfl, fun _ => nofun, fun _ => nofun⟩

section
variable {p : Setup Id} {s t : Swarm Id}

theorem Begins.set (h : s.Begins) {i : Id} {n : SyncState}
    (keeps : (s.nodes i).connected = true → n.connected = true)
    (loop : n.connected = false → n.loop = ⟨n.loop.running, n.loop.receiving, 0, 0, ⟨0, 0⟩⟩)
    (running : n.loop.receiving = true → n.loop.running = true)
    (synchronising : n.connected = true → n.synchronising = true) : (s.set i n).Begins := by
  refine ⟨h.uplink, ?_, ?_, ?_, ?_⟩
  · intro none
    apply h.idle
    intro j
    have none := none j
    by_cases same : j = i
    · rw [same, set_self] at none
      rw [same]
      by_contra joined
      rw [keeps (Bool.not_eq_false _ ▸ joined)] at none
      cases none
    · rwa [set_of_ne s n same] at none
  · intro j
    by_cases same : j = i
    · rw [same, set_self]
      exact loop
    · rw [set_of_ne s n same]
      exact h.loop j
  · intro j
    by_cases same : j = i
    · rw [same, set_self]
      exact running
    · rw [set_of_ne s n same]
      exact h.running j
  · intro j
    by_cases same : j = i
    · rw [same, set_self]
      exact synchronising
    · rw [set_of_ne s n same]
      exact h.synchronising j

omit [DecidableEq Id] in
/-- Datagrams may be lost, and requests and replies to them be sent. -/
theorem Begins.flight (h : s.Begins) {up down : List (Id × MiniSyncMsg)}
    (uplink : ∀ d ∈ up, d ∈ s.uplink ∨ ∃ j r, d = (j, .handshake r))
    (downlink : ∀ d ∈ down, d ∈ s.downlink ∨ replyOf d = none) :
    ({ s with uplink := up, downlink := down } : Swarm Id).Begins := by
  refine ⟨?_, ?_, h.loop, h.running, h.synchronising⟩
  · intro d hd other
    obtain old | ⟨j, r, rfl⟩ := uplink d hd
    · exact h.uplink d old other
    · exact ⟨r, rfl⟩
  · intro none
    obtain ⟨up, replying, down⟩ := h.idle none
    refine ⟨?_, replying, ?_⟩
    · intro d hd
      obtain old | ⟨j, r, rfl⟩ := uplink d hd
      · exact up d old
      · rfl
    · intro d hd
      obtain old | new := downlink d hd
      · exact down d old
      · exact new

theorem Begins.receive (h : s.Begins) (paired : s.Paired p) {i : Id} {msg : MiniSyncMsg}
    {rest : List (Id × MiniSyncMsg)} (receiving : (s.nodes i).loop.receiving = true)
    (sub : ∀ d ∈ rest, d ∈ s.downlink) : (s.receive p i msg rest).Begins := by
  have running := h.running i receiving
  have node : (s.set i ((s.nodes i).receive (p.sync i) msg)).Begins := by
    unfold SyncState.receive
    cases phase : (s.nodes i).synchronising with
    | true =>
      have joined := paired.synchronising i phase running
      rw [if_pos rfl]
      unfold SyncState.sync
      cases (s.nodes i).loop.matching msg with
      | none => exact h.set id (h.loop i) (h.running i) fun _ => phase
      | some reply =>
        refine h.set id ?_ nofun fun _ => phase
        intro unjoined
        rw [joined] at unjoined
        cases unjoined
    | false =>
      have unjoined : (s.nodes i).connected = false := by
        by_contra joined
        rw [h.synchronising i (Bool.not_eq_false _ ▸ joined)] at phase
        cases phase
      have loop := h.loop i unjoined
      have away : (s.nodes i).connected = true → ∀ n : SyncState, n.connected = true := by
        rw [unjoined]
        nofun
      rw [if_neg Bool.false_ne_true]
      unfold SyncState.handshake
      split
      · exact h.set (fun _ => rfl) nofun nofun fun _ => rfl
      · split
        · refine h.set (fun joined => away joined _) ?_ nofun fun joined => ?_
          · intro _
            rw [loop]
          · rw [unjoined] at joined
            cases joined
        · refine h.set (fun joined => away joined _) ?_ nofun fun joined => ?_
          · intro _
            exact congrArg SyncLoop.retry loop
          · rw [SyncState.retry, unjoined] at joined
            cases joined
  exact node.flight (fun d hd => .inl hd) fun d hd => .inl (sub d hd)

omit [DecidableEq Id] in
/-- Only a beacon makes the reference node busy. -/
theorem receive_replying (n : ReferenceState Id) {source : Id} {msg : MiniSyncMsg} (recvTime : ℚ)
    (other : beaconOf (source, msg) = none) :
    (n.receive source recvTime msg).loop.replying = n.loop.replying := by
  unfold ReferenceState.receive
  split
  · cases msg with
    | handshake h =>
      simp only [ReferenceState.waitForHandshake]
      split <;> rfl
    | _ => rfl
  · cases msg with
    | beacon b => cases other
    | _ => rfl

omit [DecidableEq Id] in
theorem atOnce_no_reply {n : ReferenceState Id} {msg : MiniSyncMsg} {d : Id × MiniSyncMsg}
    (hd : d ∈ n.atOnce msg) : replyOf d = none := by
  unfold ReferenceState.atOnce at hd
  split at hd
  · cases hd
  · obtain ⟨j, sent⟩ := d
    have mem := ReferenceState.toPeer_mem hd
    cases sent with
    | beaconR r => exact absurd rfl (ServeLoop.atOnce_no_reply mem r)
    | _ => rfl

theorem Step.begins {a : Action Id} (step : Step p s a t) (paired : s.Paired p) (h : s.Begins) :
    t.Begins := by
  cases step with
  | @request i running handshake =>
    have unjoined : (s.nodes i).connected = false := by
      by_contra joined
      rw [h.synchronising i (Bool.not_eq_false _ ▸ joined)] at handshake
      cases handshake
    have node : (s.set i (s.nodes i).await).Begins := by
      refine h.set id (fun _ => ?_) (fun _ => running) fun joined => ?_
      · exact congrArg (fun l : SyncLoop => { l with receiving := true }) (h.loop i unjoined)
      · rw [SyncState.await, unjoined] at joined
        cases joined
    refine node.flight (fun d hd => ?_) fun d hd => .inl hd
    exact (List.mem_append.mp hd).imp_right fun new => ⟨i, _, List.mem_singleton.mp new⟩
  | @retry i =>
    exact h.set id (fun unjoined => congrArg SyncLoop.retry (h.loop i unjoined)) nofun (h.synchronising i)
  | receive receiving taken => exact h.receive paired receiving fun d hd => mem_of_take?_rest taken hd
  | @leave i => exact h.set id (h.loop i) (h.running i) fun _ => rfl
  | @beacon i timestamp running synchronising =>
    have joined := paired.synchronising i synchronising running
    have node : (s.set i { s.nodes i with loop := (s.nodes i).loop.sent timestamp }).Begins := by
      refine h.set id ?_ (fun _ => running) fun _ => synchronising
      intro unjoined
      rw [joined] at unjoined
      cases unjoined
    refine ⟨?_, ?_, node.loop, node.running, node.synchronising⟩
    · intro d hd other
      obtain old | new := List.mem_append.mp hd
      · exact h.uplink d old other
      · rw [List.mem_singleton.mp new] at other
        cases other
    · intro none
      have none := none i
      rw [beacon_node, joined] at none
      cases none
  | @stop i =>
    refine h.set id (fun unjoined => ?_) nofun (h.synchronising i)
    rw [SyncState.stop, h.loop i unjoined]
  | @referenceReceive k source msg rest recvTime _ _ _ taken =>
    refine ⟨fun d hd => h.uplink d (mem_of_take?_rest taken hd), ?_, h.loop, h.running, h.synchronising⟩
    intro none
    obtain ⟨up, replying, down⟩ := h.idle none
    refine ⟨fun d hd => up d (mem_of_take?_rest taken hd), ?_, ?_⟩
    · exact (receive_replying s.reference recvTime (up _ (mem_of_take? taken))).trans replying
    · intro d hd
      obtain old | new := List.mem_append.mp hd
      · exact down d old
      · exact atOnce_no_reply new
  | @referenceAnswer dest reply =>
    have sent : ({ s with downlink := s.downlink ++ [(dest, .handshakeR reply)] } : Swarm Id).Begins := by
      refine h.flight (fun d hd => .inl hd) fun d hd => ?_
      obtain old | new := List.mem_append.mp hd
      · exact .inl old
      · rw [List.mem_singleton.mp new]
        exact .inr rfl
    exact ⟨sent.uplink, sent.idle, sent.loop, sent.running, sent.synchronising⟩
  | referenceReply timestamp replying =>
    refine ⟨h.uplink, ?_, h.loop, h.running, h.synchronising⟩
    intro none
    rw [(h.idle none).2.1] at replying
    cases replying
  | referenceStop =>
    exact ⟨h.uplink, fun none => ⟨(h.idle none).1, rfl, (h.idle none).2.2⟩, h.loop, h.running,
      h.synchronising⟩
  | uplink fault => exact h.flight (fun d hd => .inl (Fault.mem_of_apply hd)) fun d hd => .inl hd
  | downlink fault => exact h.flight (fun d hd => .inl hd) fun d hd => .inl (Fault.mem_of_apply hd)

/-! ## The simulation -/

omit [DecidableEq Id] in
/-- The reference node serves the one that has joined. -/
theorem Paired.joined (h : s.Paired p) {i : Id} (joined : (s.nodes i).connected = true) :
    s.reference.connected = some i ∧ s.reference.listening = false := by
  have peer := (h.verdicts _ (h.connected i joined)).2.2 rfl
  refine ⟨peer, ?_⟩
  by_contra listening
  rw [h.listening (Bool.not_eq_false _ ▸ listening)] at peer
  cases peer

variable {clocks : Clocks Id} {now : ℚ} {i : Id} {n : Network}

omit [DecidableEq Id] in
theorem Network.syncReceive_points (p : Pairing) (n : Network) (d : Datagram Answer)
    (rest : List (Datagram Answer)) :
    (n.syncReceive p d rest).samples.map Sample.points = n.samples.map Sample.points ++
      (n.sync.matching d.content).toList.map fun reply =>
        n.sync.dataPoints p.sync reply (p.syncClock n.now) := by
  unfold Network.syncReceive
  cases n.sync.matching d.content with
  | none => simp
  | some reply => simp

theorem yields_receive (phase : (s.nodes i).synchronising = true) {k : ℕ} {msg : MiniSyncMsg}
    {rest : List (Id × MiniSyncMsg)} (taken : take? s.downlink k = some ((i, msg), rest)) :
    yields p clocks s now i (.receive i k) = ((s.nodes i).loop.matching msg).toList.map fun reply =>
      (s.nodes i).loop.dataPoints (p.sync i) reply (clocks.sync i now) := by
  rw [yields, if_pos ⟨rfl, phase⟩, taken]
  rfl

/-- What the network does where the swarm makes a step: one step at most, it sends only where the
SyncNode does, and it takes the same samples. -/
def Follows (p : Setup Id) (clocks : Clocks Id) (s : Swarm Id) (a : Action Id) (t : Swarm Id) (now : ℚ)
    (i : Id) (n : Network) : Prop :=
  ∃ n', (n' = n ∨ ∃ b, Network.Step (p.pairing clocks i) n b n' ∧
    (b = .send → ∃ timestamp, a = .beacon i timestamp)) ∧ t.Appears now i n' ∧
    n'.samples.map Sample.points = n.samples.map Sample.points ++ yields p clocks s now i a

/-- Nothing that the pair sees. -/
theorem Appears.stutter {a : Action Id} (h : s.Appears now i n)
    (silent : yields p clocks s now i a = []) (sync : (t.nodes i).loop = (s.nodes i).loop)
    (reference : t.reference.loop = s.reference.loop)
    (uplink : Picks Datagram.content beaconOf n.uplink t.uplink)
    (downlink : Picks Datagram.content (replyTo i) n.downlink t.downlink) :
    Follows p clocks s a t now i n := by
  refine ⟨n, .inl rfl, ⟨h.sync.trans sync.symm, h.reference.trans reference.symm, uplink, downlink, h.now⟩, ?_⟩
  rw [silent, List.append_nil]

/-- What the pair sees without a sample. -/
theorem follows_of_step {a : Action Id} {b : Network.Action} {n' : Network}
    (step : Network.Step (p.pairing clocks i) n b n')
    (sends : b = .send → ∃ timestamp, a = .beacon i timestamp) (silent : yields p clocks s now i a = [])
    (same : n'.samples = n.samples) (appears : t.Appears now i n') : Follows p clocks s a t now i n := by
  refine ⟨n', .inr ⟨b, step, sends⟩, appears, ?_⟩
  rw [silent, same, List.append_nil]

/-- What another SyncNode does. -/
theorem Appears.other {a : Action Id} (h : s.Appears now i n)
    (silent : yields p clocks s now i a = []) {j : Id} (other : i ≠ j) (m : SyncState) :
    Follows p clocks s a (s.set j m) now i n :=
  h.stutter silent (congrArg SyncState.loop (set_of_ne s m other)) rfl h.uplink h.downlink

theorem Appears.elapse (h : s.Appears now i n) {later : ℚ} (le : now ≤ later) :
    Network.Step (p.pairing clocks i) n (.elapse later) { n with now := later } ∧
      s.Appears later i { n with now := later } :=
  ⟨.elapse (h.now ▸ le), h.sync, h.reference, h.uplink, h.downlink, rfl⟩

theorem replyTo_self (i : Id) (msg : MiniSyncMsg) : replyTo i (i, msg) = replyOf (i, msg) := if_pos rfl

theorem replyTo_none {d : Id × MiniSyncMsg} (h : replyOf d = none) : replyTo i d = none := by
  unfold replyTo
  split
  · exact h
  · rfl

/-- The SyncNode takes a reply out of its socket. -/
theorem Appears.reads (h : s.Appears now i n) (phase : (s.nodes i).synchronising = true) {k : ℕ}
    {msg : MiniSyncMsg} {rest : List (Id × MiniSyncMsg)} (picked : replyOf (i, msg) = some msg)
    (taken : take? s.downlink k = some ((i, msg), rest)) :
    ∃ j d rest', take? n.downlink j = some (d, rest') ∧ d.content = msg ∧
      (s.receive p i msg rest).Appears now i (n.syncReceive (p.pairing clocks i) d rest') := by
  have node : ((s.receive p i msg rest).nodes i).loop =
      ((s.nodes i).loop.matching msg).elim (s.nodes i).loop ((s.nodes i).loop.next (p.sync i)) := by
    rw [receive_node, SyncState.receive, if_pos phase, SyncState.sync]
    cases (s.nodes i).loop.matching msg <;> rfl
  obtain ⟨j, d, rest', taken', content, picks⟩ :=
    h.downlink.take taken ((replyTo_self i msg).trans picked)
  refine ⟨j, d, rest', taken', content, ?_⟩
  unfold Network.syncReceive
  rw [h.sync, content]
  cases matched : (s.nodes i).loop.matching msg with
  | none =>
    rw [matched] at node
    exact ⟨node.symm, h.reference, h.uplink, picks, h.now⟩
  | some accepted =>
    rw [matched] at node
    exact ⟨node.symm, h.reference, h.uplink, picks, h.now⟩

/-- A message in the inner loop of `sync`. -/
theorem Appears.receive (h : s.Appears now i n) (phase : (s.nodes i).synchronising = true)
    {k : ℕ} {msg : MiniSyncMsg} {rest : List (Id × MiniSyncMsg)}
    (receiving : (s.nodes i).loop.receiving = true) (taken : take? s.downlink k = some ((i, msg), rest)) :
    Follows p clocks s (.receive i k) (s.receive p i msg rest) now i n := by
  have yielded : yields p clocks s now i (.receive i k) = _ := yields_receive phase taken
  cases picked : replyOf (i, msg) with
  | none =>
    have ignored : (s.nodes i).loop.matching msg = none := by
      cases msg with
      | beaconR r => cases picked
      | _ => rfl
    have node : ((s.receive p i msg rest).nodes i).loop = (s.nodes i).loop := by
      rw [receive_node, SyncState.receive, if_pos phase, SyncState.sync, ignored]
    rw [ignored] at yielded
    exact h.stutter yielded node rfl h.uplink (h.downlink.skip taken (replyTo_none picked))
  | some reply =>
    have same : reply = msg := by
      cases msg with
      | beaconR r => exact (Option.some.inj picked).symm
      | _ => cases picked
    obtain ⟨j, d, rest', taken', content, appears⟩ := h.reads phase (same ▸ picked) taken
    refine ⟨_, .inr ⟨.syncReceive j, .syncReceive (h.sync ▸ receiving) taken', fun sent => by cases sent⟩,
      appears, ?_⟩
    rw [Network.syncReceive_points, yielded, h.sync, h.now, content]
    rfl

/-- A message in the loop of `serve`. -/
theorem Appears.referenceReceive {a : Action Id} (silent : yields p clocks s now i a = []) (h : s.Appears now i n) (begins : s.Begins)
    (serving : s.reference.listening = false) {k : ℕ} {source : Id} {msg : MiniSyncMsg}
    {rest : List (Id × MiniSyncMsg)} (running : s.reference.loop.running = true)
    (replied : s.reference.loop.replying = none)
    (taken : take? s.uplink k = some ((source, msg), rest)) :
    Follows p clocks s a (s.referenceReceive source msg (clocks.reference now) rest) now i n := by
  have node : (s.reference.receive source (clocks.reference now) msg).loop =
      s.reference.loop.receive (clocks.reference now) msg := by
    rw [ReferenceState.receive, if_neg (by simp [serving])]
  have atOnce : ∀ d ∈ s.reference.atOnce msg, replyTo i d = none :=
    fun d hd => replyTo_none (atOnce_no_reply hd)
  cases picked : beaconOf (source, msg) with
  | none =>
    obtain ⟨r, rfl⟩ := begins.uplink _ (mem_of_take? taken) picked
    exact h.stutter silent rfl node (h.uplink.skip taken picked) (h.downlink.ignore atOnce)
  | some beacon =>
    have same : beacon = msg := by
      cases msg with
      | beacon b => exact (Option.some.inj picked).symm
      | _ => cases picked
    obtain ⟨j, d, rest', taken', content, picks⟩ := h.uplink.take taken picked
    have step : Network.Step (p.pairing clocks i) n (.referenceReceive j)
        (n.referenceReceive (p.pairing clocks i) d rest') :=
      .referenceReceive (h.reference ▸ running) (h.reference ▸ replied) taken'
    refine follows_of_step step (fun sent => by cases sent) silent rfl ⟨h.sync, ?_, picks, ?_, h.now⟩
    · rw [same] at content
      rw [Network.referenceReceive, h.reference, h.now, content]
      exact node.symm
    · have silent : ServeLoop.atOnce d.content = [] := by
        rw [content, same]
        cases msg with
        | beacon b => rfl
        | _ => cases picked
      rw [Network.referenceReceive, silent, List.map_nil, List.append_nil]
      exact h.downlink.ignore atOnce

theorem Step.follows {a : Action Id} (step : Step p s a t) (paired : s.Paired p) (begins : s.Begins)
    (joined : (s.nodes i).connected = true) (stamped : a.Stamped clocks now) (h : s.Appears now i n) :
    Follows p clocks s a t now i n := by
  obtain ⟨peer, serving⟩ := paired.joined joined
  cases step with
  | @request j running handshake =>
    have uplink : Picks Datagram.content beaconOf n.uplink
        (s.uplink ++ [(j, .handshake (p.request j))]) := by
      apply h.uplink.ignore
      intro d hd
      rw [List.mem_singleton.mp hd]
      rfl
    have other : i ≠ j := by
      rintro rfl
      rw [begins.synchronising i joined] at handshake
      cases handshake
    exact h.stutter rfl (congrArg SyncState.loop (set_of_ne s _ other)) rfl uplink h.downlink
  | @retry j receiving =>
    by_cases same : i = j
    · subst same
      refine follows_of_step (.retry (h.sync ▸ receiving)) (fun sent => by cases sent) rfl rfl
        ⟨?_, h.reference, h.uplink, h.downlink, h.now⟩
      rw [set_self, h.sync]
      rfl
    · exact h.other rfl same _
  | @receive j k msg rest receiving taken =>
    by_cases same : i = j
    · subst same
      exact h.receive (begins.synchronising i joined) receiving taken
    · have skipped : replyTo i (j, msg) = none := if_neg (Ne.symm same)
      have silent : yields p clocks s now i (.receive j k) = [] := if_neg fun h => same h.1.symm
      exact h.stutter silent (congrArg SyncState.loop (set_of_ne s _ same)) rfl h.uplink
        (h.downlink.skip taken skipped)
  | @leave j stopped =>
    by_cases same : i = j
    · subst same
      exact h.stutter rfl (by rw [set_self]; rfl) rfl h.uplink h.downlink
    · exact h.other rfl same _
  | @beacon j timestamp running synchronising sending =>
    -- nobody else gets that far
    have same : i = j := by
      have peer' := (paired.joined (paired.synchronising j synchronising running)).1
      exact Option.some.inj (peer.symm.trans peer')
    subst same
    rw [show timestamp = clocks.sync i now from stamped]
    refine follows_of_step (.send (h.sync ▸ running) (h.sync ▸ sending)) (fun _ => ⟨_, rfl⟩) rfl rfl
      ⟨?_, h.reference, ?_, h.downlink, h.now⟩
    · rw [beacon_node, Network.send, h.sync, h.now]
      rfl
    · exact h.uplink.send (by rw [h.sync]; rfl)
  | @stop j =>
    by_cases same : i = j
    · subst same
      refine follows_of_step .syncStop (fun sent => by cases sent) rfl rfl
        ⟨?_, h.reference, h.uplink, h.downlink, h.now⟩
      rw [set_self, h.sync]
      rfl
    · exact h.other rfl same _
  | @referenceReceive k source msg rest recvTime running answered replied taken =>
    rw [show recvTime = clocks.reference now from stamped]
    exact h.referenceReceive rfl begins serving running replied taken
  | @referenceAnswer dest reply answering =>
    refine h.stutter rfl rfl rfl h.uplink (h.downlink.ignore fun d hd => ?_)
    rw [List.mem_singleton.mp hd]
    exact replyTo_none rfl
  | @referenceReply beacon recvTime timestamp replying =>
    rw [show timestamp = clocks.reference now from stamped]
    refine follows_of_step (.referenceReply (h.reference ▸ replying)) (fun sent => by cases sent) rfl rfl
      ⟨h.sync, ?_, h.uplink, ?_, h.now⟩
    · rw [Network.referenceReply, h.reference]
      rfl
    · simp only [Swarm.referenceReply, Network.referenceReply, ReferenceState.toPeer, peer, h.now,
        Option.toList_some, List.flatMap_cons, List.flatMap_nil, List.map_singleton, List.append_nil]
      exact h.downlink.send (replyTo_self i _)
  | referenceStop =>
    exact follows_of_step .referenceStop (fun sent => by cases sent) rfl rfl
      ⟨h.sync, rfl, h.uplink, h.downlink, h.now⟩
  | uplink fault =>
    obtain same | ⟨fault', picks⟩ := h.uplink.fault fault
    · exact h.stutter rfl rfl rfl same h.downlink
    · exact follows_of_step (.uplink fault') (fun sent => by cases sent) rfl rfl
        ⟨h.sync, h.reference, picks, h.downlink, h.now⟩
  | downlink fault =>
    obtain same | ⟨fault', picks⟩ := h.downlink.fault fault
    · exact h.stutter rfl rfl rfl h.uplink same
    · exact follows_of_step (.downlink fault') (fun sent => by cases sent) rfl rfl
        ⟨h.sync, h.reference, h.uplink, picks, h.now⟩

/-! ## The beginning -/

omit [DecidableEq Id] in
theorem not_connected {j : Id} (h : ¬ (s.nodes j).connected = true) : (s.nodes j).connected = false :=
  Bool.not_eq_true _ ▸ h

/-- A socket that is connected stays so. -/
theorem set_keeps {j k : Id} {m : SyncState} (keeps : (s.nodes k).connected = true → m.connected = true)
    (joined : (s.nodes j).connected = true) : ((s.set k m).nodes j).connected = true := by
  by_cases same : j = k
  · subst same
    rw [set_self]
    exact keeps joined
  · rwa [set_of_ne s m same]

theorem Step.keeps {a : Action Id} (step : Step p s a t) {j : Id}
    (joined : (s.nodes j).connected = true) : (t.nodes j).connected = true := by
  cases step with
  | request | retry | leave | beacon | stop => exact set_keeps id joined
  | @receive i k msg rest =>
    refine set_keeps (fun before => ?_) joined
    obtain ⟨_, _, same⟩ | ⟨_, stays⟩ := (s.nodes i).receive_cases (p.sync i) msg
    · rw [same]
    · rw [stays.connected]
      exact before
  | referenceReceive | referenceAnswer | referenceReply | referenceStop | uplink | downlink => exact joined

theorem set_joins {j : Id} {m : SyncState} (before : (s.nodes i).connected = false)
    (joined : ((s.set j m).nodes i).connected = true) : i = j ∧ m.connected = true := by
  by_cases same : i = j
  · subst same
    rw [set_self] at joined
    exact ⟨rfl, joined⟩
  · rw [set_of_ne s m same, before] at joined
    cases joined

/-- A socket is connected where a SUCCESS ends the handshake. -/
theorem Step.joins {a : Action Id} (step : Step p s a t) (before : (s.nodes i).connected = false)
    (joined : (t.nodes i).connected = true) : ∃ k msg rest, take? s.downlink k = some ((i, msg), rest) ∧
      (s.nodes i).loop.receiving = true ∧ t = s.receive p i msg rest ∧
      (s.nodes i).receive (p.sync i) msg = ⟨true, true, (s.nodes i).loop.retry⟩ := by
  cases step with
  | request | retry | leave | beacon | stop =>
    obtain ⟨rfl, after⟩ := set_joins before joined
    rw [show (s.nodes i).connected = true from after] at before
    cases before
  | @receive j k msg rest receiving taken =>
    obtain ⟨rfl, after⟩ := set_joins before joined
    obtain ⟨_, _, same⟩ | ⟨_, stays⟩ := (s.nodes i).receive_cases (p.sync i) msg
    · exact ⟨k, msg, rest, taken, receiving, rfl, same⟩
    · rw [stays.connected, before] at after
      cases after
  | referenceReceive | referenceAnswer | referenceReply | referenceStop | uplink | downlink =>
    rw [show (s.nodes i).connected = true from joined] at before
    cases before

theorem Appears.quiet (h : s.Appears now i n) (quiet : s.Quiet i) : n.Quiet := by
  refine ⟨?_, ?_, ?_⟩
  · intro running d hd same
    have picked := List.mem_map_of_mem (f := Datagram.content) hd
    rw [h.uplink, List.mem_filterMap] at picked
    obtain ⟨⟨j, msg⟩, under, found⟩ := picked
    have content : msg = d.content := by
      cases msg with
      | beacon b => exact Option.some.inj found
      | _ => cases found
    exact quiet.uplink (h.reference ▸ running) _ under (content.trans (h.sync ▸ same))
  · rw [h.reference, h.sync]
    exact quiet.replying
  · intro d hd
    have picked := List.mem_map_of_mem (f := Datagram.content) hd
    rw [h.downlink, List.mem_filterMap] at picked
    obtain ⟨⟨j, msg⟩, under, found⟩ := picked
    obtain ⟨own, found⟩ := Option.ite_none_right_eq_some.mp found
    have content : msg = d.content := by
      cases msg with
      | beaconR r => exact Option.some.inj found
      | _ => cases found
    rw [h.sync, ← content]
    exact quiet.downlink _ under own

omit [DecidableEq Id] in
theorem quiet_of_requests (uplink : ∀ d ∈ s.uplink, beaconOf d = none)
    (replying : s.reference.loop.replying = none) (downlink : s.downlink = []) (i : Id) : s.Quiet i := by
  refine ⟨?_, ?_, ?_⟩
  · rintro _ ⟨j, msg⟩ hd rfl
    cases uplink _ hd
  · rw [replying]
    nofun
  · rw [downlink]
    nofun

/-- A SyncNode that has not joined accepts no reply. -/
theorem Begins.silent (h : s.Begins) {a : Action Id} (step : Step p s a t) (paired : s.Paired p)
    (unjoined : (s.nodes i).connected = false) : yields p clocks s now i a = [] := by
  cases step with
  | @receive j k msg rest receiving taken =>
    refine if_neg ?_
    rintro ⟨rfl, synchronising⟩
    rw [paired.synchronising j synchronising (h.running j receiving)] at unjoined
    cases unjoined
  | _ => rfl

/-- The pair appears when the handshake returns. -/
theorem Step.appears (clocks : Clocks Id) {a : Action Id} (step : Step p s a t) (earlier : s.Paired p)
    (paired : t.Paired p) (begins : s.Begins) (before : (s.nodes i).connected = false)
    (joined : (t.nodes i).connected = true) (now : ℚ) :
    Follows p clocks s a t now i (.start now [] []) := by
  have silent : yields p clocks s now i a = [] := begins.silent step earlier before
  -- nobody else has joined before
  have nobody : ∀ j, (s.nodes j).connected = false := by
    intro j
    apply not_connected
    intro earlier
    have peer := (paired.joined joined).1
    have peer' := (paired.joined (step.keeps earlier)).1
    obtain rfl := Option.some.inj (peer.symm.trans peer')
    rw [earlier] at before
    cases before
  obtain ⟨k, msg, rest, taken, receiving, rfl, accepted⟩ := step.joins before joined
  obtain ⟨up, idle, down⟩ := begins.idle nobody
  have loop : ((s.receive p i msg rest).nodes i).loop = SyncLoop.start := by
    rw [receive_node, accepted, begins.loop i before, begins.running i receiving]
    rfl
  have uplink : Picks Datagram.content beaconOf ([] : List (Datagram Transmission)) s.uplink :=
    (List.filterMap_eq_nil_iff.mpr up).symm
  have downlink : Picks Datagram.content (replyTo i) ([] : List (Datagram Answer)) rest :=
    (List.filterMap_eq_nil_iff.mpr fun d hd => replyTo_none (down d (mem_of_take?_rest taken hd))).symm
  cases running : s.reference.loop.running with
  | true =>
    refine ⟨_, .inl rfl, ⟨loop.symm, ?_, uplink, downlink, rfl⟩, by rw [silent, List.append_nil]⟩
    exact congrArg₂ ServeLoop.mk running.symm idle.symm
  | false =>
    refine follows_of_step .referenceStop (fun sent => by cases sent) silent rfl
      ⟨loop.symm, ?_, uplink, downlink, rfl⟩
    exact congrArg₂ ServeLoop.mk running.symm idle.symm

theorem run_begins {past : List (Action Id)} (run : Run (Step p) start past s) : s.Begins := by
  induction run with
  | start => exact start_begins
  | step before step ih => exact step.begins (run_paired before) ih

end

/-! ## Runs in step -/

/-- A step of the network while the swarm makes one: it sends only where the SyncNode does, and
quietly where that does. -/
def Meanwhile (p : Setup Id) (clocks : Clocks Id) (i : Id) (s : Swarm Id) (a : Action Id) (n : Network)
    (b : Network.Action) (n' : Network) : Prop :=
  Network.Step (p.pairing clocks i) n b n' ∧
    (b = .send → (∃ timestamp, a = .beacon i timestamp) ∧ (s.Quiet i → n.Quiet))

/-- The swarm makes a step, and the network those that show the pair again. -/
structure Joint (p : Setup Id) (clocks : Clocks Id) (i : Id) (x : Timed Id × Network)
    (a : Action Id × ℚ) (y : Timed Id × Network) : Prop where
  timed : TimedStep p clocks x.1 a y.1
  network : ∃ more, Run (Meanwhile p clocks i x.1.swarm a.1) x.2 more y.2
  joined : (y.1.swarm.nodes i).connected = true
  appears : y.1.swarm.Appears y.1.now i y.2
  points : y.2.samples.map Sample.points = y.1.points i

section
variable {p : Setup Id} {clocks : Clocks Id} {i : Id} {now₀ : ℚ} {past : List (Action Id × ℚ)}
  {s t : Timed Id} {a : Action Id × ℚ} {n : Network}

theorem Follows.meanwhile {s t : Swarm Id} {a : Action Id} {now : ℚ} (h : Follows p clocks s a t now i n)
    (quiet : ∀ timestamp, a = .beacon i timestamp → s.Quiet i → n.Quiet) :
    ∃ more n', Run (Meanwhile p clocks i s a) n more n' ∧ t.Appears now i n' ∧
      n'.samples.map Sample.points = n.samples.map Sample.points ++ yields p clocks s now i a := by
  obtain ⟨n', rfl | ⟨b, step, sends⟩, appears, points⟩ := h
  · exact ⟨[], n', .start, appears, points⟩
  · refine ⟨[b], n', Run.start.step ⟨step, fun sent => ?_⟩, appears, points⟩
    obtain ⟨timestamp, beacon⟩ := sends sent
    exact ⟨⟨timestamp, beacon⟩, quiet timestamp beacon⟩

theorem TimedStep.follows (step : TimedStep p clocks s a t) (paired : s.swarm.Paired p)
    (begins : s.swarm.Begins) (joined : (s.swarm.nodes i).connected = true)
    (appears : s.swarm.Appears s.now i n) (points : n.samples.map Sample.points = s.points i) :
    ∃ n', Joint p clocks i (s, n) a (t, n') := by
  obtain ⟨elapse, appears'⟩ : Network.Step (p.pairing clocks i) n (.elapse a.2) _ ∧ _ :=
    appears.elapse step.later
  obtain ⟨more, n', steps, shown, taken⟩ :=
    (step.step.follows paired begins joined step.stamped appears').meanwhile fun _ _ => appears'.quiet
  have passed : Run (Meanwhile p clocks i s.swarm a.1) n [.elapse a.2] _ :=
    Run.start.step ⟨elapse, fun sent => by cases sent⟩
  refine ⟨n', step, ⟨_, passed.append steps⟩, step.step.keeps joined, step.now.symm ▸ shown, ?_⟩
  rw [taken, step.points]
  exact congrArg (· ++ _) points

theorem TimedStep.appears (step : TimedStep p clocks s a t) (paired : s.swarm.Paired p)
    (begins : s.swarm.Begins) (before : (s.swarm.nodes i).connected = false)
    (joined : (t.swarm.nodes i).connected = true) (empty : s.points i = []) :
    ∃ n, Joint p clocks i (s, .start a.2 [] []) a (t, n) := by
  have follows := step.step.appears clocks paired (step.step.paired paired) begins before joined a.2
  obtain ⟨more, n, steps, shown, taken⟩ := follows.meanwhile fun _ _ _ => ⟨nofun, nofun, nofun⟩
  refine ⟨n, step, ⟨more, steps⟩, joined, step.now.symm ▸ shown, ?_⟩
  rw [taken, step.points, empty]
  rfl

theorem run_untimed (run : Run (TimedStep p clocks) (.start now₀) past s) :
    Run (Step p) start (past.map Prod.fst) s.swarm := by
  induction run with
  | start => exact .start
  | step _ step ih =>
    rw [List.map_append]
    exact ih.step step.step

theorem run_unjoined (run : Run (TimedStep p clocks) (.start now₀) past s)
    (unjoined : (s.swarm.nodes i).connected = false) : s.points i = [] := by
  induction run with
  | start => rfl
  | @step past s t a before step ih =>
    have earlier : (s.swarm.nodes i).connected = false := by
      by_contra joined
      rw [step.step.keeps (Bool.not_eq_false _ ▸ joined)] at unjoined
      cases unjoined
    have untimed := run_untimed before
    rw [step.points, ih earlier, (run_begins untimed).silent step.step (run_paired untimed) earlier]
    rfl

/-- From the step that joins them on the pair and the network go together. -/
theorem run_joint (run : Run (TimedStep p clocks) (.start now₀) past s)
    (joined : (s.swarm.nodes i).connected = true) :
    ∃ before a began after u n, past = before ++ (a, began) :: after ∧
      Run (TimedStep p clocks) (.start now₀) before u ∧ (u.swarm.nodes i).connected = false ∧
      Run (Joint p clocks i) (u, .start began [] []) ((a, began) :: after) (s, n) ∧
      s.swarm.Appears s.now i n ∧ n.samples.map Sample.points = s.points i := by
  induction run with
  | start => cases joined
  | @step past s t a ran step ih =>
    have untimed := run_untimed ran
    have paired := run_paired untimed
    have begins := run_begins untimed
    cases earlier : (s.swarm.nodes i).connected with
    | true =>
      obtain ⟨before, b, began, after, u, n, rfl, ran', unjoined, joint, appears, points⟩ := ih earlier
      obtain ⟨n', next⟩ := step.follows paired begins earlier appears points
      exact ⟨before, b, began, after ++ [a], u, n', by simp, ran', unjoined, joint.step next, next.appears,
        next.points⟩
    | false =>
      obtain ⟨n, next⟩ := step.appears paired begins earlier joined (run_unjoined ran earlier)
      exact ⟨past, a.1, a.2, [], s, n, rfl, ran, earlier, Run.start.step next, next.appears, next.points⟩

/-- The network of a joint run makes a run of its own, quietly if the SyncNode sends quietly. -/
theorem joint_network {u : Timed Id} {n₀ : Network} {x : Timed Id × Network}
    (run : Run (Joint p clocks i) (u, n₀) past x) :
    Run (TimedStep p clocks) u past x.1 ∧
    ∃ steps, Run (Network.Step (p.pairing clocks i)) n₀ steps x.2 ∧
      ((∀ sent b more, past = sent ++ b :: more → ∀ v, Run (TimedStep p clocks) u sent v →
          (∃ timestamp, b.1 = .beacon i timestamp) → v.swarm.Quiet i) →
        Run (Network.QuietStep (p.pairing clocks i)) n₀ steps x.2) := by
  induction run with
  | start => exact ⟨.start, [], .start, fun _ => .start⟩
  | @step past x y a before step ih =>
    obtain ⟨timed, steps, ran, quiet⟩ := ih
    obtain ⟨more, network⟩ := step.network
    refine ⟨timed.step step.timed, steps ++ more, ran.append (network.mono fun _ _ _ h => h.1), ?_⟩
    intro sends
    have earlier := quiet fun sent b more split => sends sent b (more ++ [a]) (by rw [split]; simp)
    refine earlier.append (network.mono fun m b m' h => ⟨h.1, fun sent => ?_⟩)
    obtain ⟨beacon, quietly⟩ := h.2 sent
    exact quietly (sends past a [] rfl x.1 timed beacon)

end

end Swarm

open Swarm

/-- **A pair within the swarm is a pair.** In every run of the swarm on the clocks of its nodes, from the
step in which the handshake of a SyncNode returns, the swarm and the network of its loop and the reference
node's, which starts empty at that instant, go together step by step, and the SyncNode computes the data
points of the network's samples. If it sends its beacons quietly, so does the network, and all its samples
are fresh. -/
theorem swarm_refines {Id : Type} [DecidableEq Id] (p : Setup Id) (clocks : Clocks Id) (now₀ : ℚ)
    (past : List (Swarm.Action Id × ℚ)) (s : Timed Id) (i : Id)
    (run : Run (TimedStep p clocks) (.start now₀) past s) (joined : (s.swarm.nodes i).connected = true) :
    ∃ before a began after u n steps, past = before ++ (a, began) :: after ∧
      Run (TimedStep p clocks) (.start now₀) before u ∧ (u.swarm.nodes i).connected = false ∧
      Run (Joint p clocks i) (u, .start began [] []) ((a, began) :: after) (s, n) ∧
      Run (Network.Step (p.pairing clocks i)) (.start began [] []) steps n ∧
      s.swarm.Appears s.now i n ∧ n.samples.map Sample.points = s.points i ∧
      ((∀ sent b more, past = sent ++ b :: more → ∀ v, Run (TimedStep p clocks) (.start now₀) sent v →
          (∃ timestamp, b.1 = .beacon i timestamp) → v.swarm.Quiet i) →
        Run (Network.QuietStep (p.pairing clocks i)) (.start began [] []) steps n ∧
          ∀ x ∈ n.samples, x.Fresh) := by
  obtain ⟨before, a, began, after, u, n, rfl, ran, unjoined, joint, appears, points⟩ := run_joint run joined
  obtain ⟨_, steps, network, quiet⟩ := joint_network joint
  refine ⟨before, a, began, after, u, n, steps, rfl, ran, unjoined, joint, network, appears, points, ?_⟩
  intro sends
  have quietly := quiet fun sent b more split v ran' =>
    sends (before ++ sent) b more (by rw [split]; simp) v (ran.append ran')
  exact ⟨quietly, (Network.run_owned quietly).fresh⟩

section
variable {Id : Type} [DecidableEq Id] {p : Setup Id} {clocks : Clocks Id}

/-- An action determines the step. -/
theorem Swarm.Step.unique {s t t' : Swarm Id} {a : Swarm.Action Id} (step : Step p s a t)
    (step' : Step p s a t') : t = t' := by
  cases step with
  | receive _ taken =>
    cases step' with
    | receive _ taken' =>
      rw [taken] at taken'
      cases taken'
      rfl
  | referenceReceive _ _ _ _ taken =>
    cases step' with
    | referenceReceive _ _ _ _ taken' =>
      rw [taken] at taken'
      cases taken'
      rfl
  | referenceAnswer answering =>
    cases step' with
    | referenceAnswer answering' =>
      rw [answering] at answering'
      cases answering'
      rfl
  | referenceReply _ replying =>
    cases step' with
    | referenceReply _ replying' =>
      rw [replying] at replying'
      cases replying'
      rfl
  | _ =>
    cases step'
    rfl

theorem Swarm.TimedStep.unique {s t t' : Timed Id} {a : Swarm.Action Id × ℚ} (step : TimedStep p clocks s a t)
    (step' : TimedStep p clocks s a t') : t = t' := by
  obtain ⟨swarm, now, points⟩ := t
  obtain ⟨swarm', now', points'⟩ := t'
  obtain rfl : swarm = swarm' := step.step.unique step'.step
  obtain rfl : now = now' := step.now.trans step'.now.symm
  obtain rfl : points = points' := funext fun i => (step.points i).trans (step'.points i).symm
  rfl

theorem Swarm.run_timed {s₀ s : Timed Id} {past : List (Swarm.Action Id × ℚ)} {a : Swarm.Action Id}
    {later : ℚ} {t : Swarm Id} (run : Run (TimedStep p clocks) s₀ past s) (le : s.now ≤ later)
    (step : Step p s.swarm a t) (stamped : a.Stamped clocks later) :
    Run (TimedStep p clocks) s₀ (past ++ [(a, later)])
      ⟨t, later, fun i => s.points i ++ yields p clocks s.swarm later i a⟩ :=
  run.step ⟨le, stamped, step, rfl, fun _ => rfl⟩

end

/-- Another SyncNode asks as well before the first one is paired at 3 and makes an exchange. -/
def pairedPast : List (Swarm.Action ℕ × ℚ) :=
  [(.request 0, 1), (.request 1, 1), (.referenceReceive 0 2, 2), (.referenceAnswer, 2), (.receive 0 0, 3),
    (.beacon 0 4, 4), (.referenceReceive 1 5, 5), (.referenceReply 6, 6), (.receive 0 0, 7)]

theorem swarm_refines_two :
    let clocks : Clocks ℕ := ⟨fun _ => id, id⟩
    ∃ s : Timed ℕ, Run (TimedStep twoVersions clocks) (.start 0) pairedPast s ∧
      s.points 0 = [(⟨4, 5, 7⟩, ⟨4, 6, 7⟩)] ∧
    ∃ before a began after u n steps, pairedPast = before ++ (a, began) :: after ∧
      Run (TimedStep twoVersions clocks) (.start 0) before u ∧ (u.swarm.nodes 0).connected = false ∧
      Run (Joint twoVersions clocks 0) (u, .start began [] []) ((a, began) :: after) (s, n) ∧
      s.swarm.Appears s.now 0 n ∧ n.samples.map Sample.points = s.points 0 ∧
      Run (Network.QuietStep (twoVersions.pairing clocks 0)) (.start began [] []) steps n ∧
      ∀ x ∈ n.samples, x.Fresh := by
  intro clocks
  have started : Run (TimedStep twoVersions clocks) (.start 0) [] (.start 0) := .start
  have asks := run_timed started (by decide : (0 : ℚ) ≤ 1) (.request (i := 0) rfl rfl rfl) trivial
  have asked := run_timed asks (le_refl 1) (.request (i := 1) rfl rfl rfl) trivial
  have accepted := run_timed asked (by decide : (1 : ℚ) ≤ 2) (.referenceReceive 2 rfl rfl rfl
    (rfl : take? _ 0 = some ((0, .handshake ⟨1, 0, .sync⟩), [(1, .handshake ⟨2, 0, .sync⟩)]))) rfl
  have answered := run_timed accepted (le_refl 2) (.referenceAnswer rfl) trivial
  have connected := run_timed answered (by decide : (2 : ℚ) ≤ 3)
    (.receive rfl (rfl : take? _ 0 = some ((0, .handshakeR ⟨.success⟩), []))) trivial
  have requests : ∀ d ∈ [((1 : ℕ), MiniSyncMsg.handshake ⟨2, 0, .sync⟩)], beaconOf d = none :=
    fun d hd => List.mem_singleton.mp hd ▸ rfl
  have sent := run_timed connected (by decide : (3 : ℚ) ≤ 4) (.beacon (i := 0) 4 rfl rfl rfl) rfl
  have received := run_timed sent (by decide : (4 : ℚ) ≤ 5) (.referenceReceive 5 rfl rfl rfl
    (rfl : take? _ 1 = some ((0, .beacon ⟨0⟩), [(1, .handshake ⟨2, 0, .sync⟩)]))) rfl
  have replied := run_timed received (by decide : (5 : ℚ) ≤ 6) (.referenceReply 6 rfl) rfl
  have exchanged := run_timed replied (by decide : (6 : ℚ) ≤ 7) (.receive rfl (rfl : take? _ 0 =
    some ((0, .beaconR (ServeLoop.reply twoVersions.reference ⟨0⟩ 5 6)), []))) trivial
  obtain ⟨before, a, began, after, u, n, steps, split, ran, unjoined, joint, _, appears, points, quiet⟩ :=
    swarm_refines twoVersions clocks 0 pairedPast _ 0 exchanged rfl
  have quietly : ∀ sent b more, pairedPast = sent ++ b :: more →
      ∀ v, Run (TimedStep twoVersions clocks) (.start 0) sent v →
        (∃ timestamp, b.1 = .beacon 0 timestamp) → v.swarm.Quiet 0 := by
    refine forall_split_cons ?_ (forall_split_cons ?_ (forall_split_cons ?_ (forall_split_cons ?_
      (forall_split_cons ?_ (forall_split_cons ?_ (forall_split_cons ?_ (forall_split_cons ?_
      (forall_split_cons ?_ forall_split_nil)))))))) <;> rintro v ran' ⟨_, sends⟩
    case refine_6 =>
      rw [ran'.unique (fun _ _ _ _ => TimedStep.unique) connected]
      exact quiet_of_requests requests rfl rfl 0
    all_goals cases sends
  obtain ⟨network, fresh⟩ := quiet quietly
  exact ⟨_, exchanged, by decide +kernel, before, a, began, after, u, n, steps, split, ran, unjoined, joint,
    appears, points, network, fresh⟩

end MiniSynCPP
