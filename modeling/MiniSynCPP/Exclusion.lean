import MiniSynCPP.Swarm

/-!
# Exclusive pairing

The reference node accepts one request and is connected to its sender from
then on. Whatever the channels do, every SUCCESS in flight goes to that
SyncNode, and no other one gets into `sync` with `running` set.
-/

namespace MiniSynCPP

open Channels Runs

/-! ## One message -/

namespace SyncState

/-- The loop agrees with `SyncNode.pass` on every message that arrives. -/
theorem handshake_pass {st : SyncState} {n : SyncNode} (running : n.running = st.loop.running)
    (unconnected : st.connected = false) (source : SockAddr) (msg : MiniSyncMsg) :
    ∃ m, SyncNode.pass ⟨true, .datagram source (some msg)⟩ n = .ok (st.handshake msg).connected m ∧
      m.running = (st.handshake msg).loop.running := by
  let turn : Turn := ⟨true, .datagram source (some msg)⟩
  have written : turn.written = true := rfl
  have received : turn.received = .datagram source (some msg) := rfl
  unfold handshake
  cases accepts : msg.accepts with
  | true => exact ⟨_, SyncNode.pass_accepted written received accepts n, running⟩
  | false =>
    cases refuses : msg.refuses with
    | true =>
      have passed := SyncNode.pass_refused written received refuses n
      exact ⟨_, passed.trans (congrArg (EStateM.Result.ok · _) unconnected.symm), rfl⟩
    | false =>
      have passed := SyncNode.pass_ignored written received accepts refuses n
      exact ⟨_, passed.trans (congrArg (EStateM.Result.ok · _) unconnected.symm), running⟩

/-- What a message that is not the end of the handshake leaves as it was. -/
structure Stays (n m : SyncState) : Prop where
  synchronising : m.synchronising = n.synchronising
  connected : m.connected = n.connected
  running : m.loop.running = true → n.loop.running = true

theorem receive_cases (settings : SyncSettings) (n : SyncState) (msg : MiniSyncMsg) :
    (n.synchronising = false ∧ msg.accepts = true ∧
      n.receive settings msg = ⟨true, true, n.loop.retry⟩) ∨
    ((n.synchronising = false → msg.accepts = false) ∧ n.Stays (n.receive settings msg)) := by
  unfold receive
  cases phase : n.synchronising with
  | true =>
    apply Or.inr
    refine ⟨nofun, ?_⟩
    rw [if_pos rfl, sync]
    cases n.loop.matching msg with
    | none => exact ⟨rfl, rfl, id⟩
    | some reply => exact ⟨rfl, rfl, id⟩
  | false =>
    rw [if_neg Bool.false_ne_true, handshake]
    cases accepts : msg.accepts with
    | true => exact .inl ⟨rfl, rfl, rfl⟩
    | false =>
      apply Or.inr
      refine ⟨fun _ => rfl, ?_⟩
      rw [if_neg Bool.false_ne_true]
      split
      · exact ⟨rfl, rfl, nofun⟩
      · exact ⟨rfl, rfl, id⟩

end SyncState

namespace ReferenceState
variable {Id : Type}

/-- Everything that the reference node can make of a message: its new state, what it sends at
once, and its verdict on a request. -/
inductive Reception (n : ReferenceState Id) (source : Id) (recvTime : ℚ) (msg : MiniSyncMsg) :
    ReferenceState Id → List (Id × MiniSyncMsg) → Option (Verdict Id) → Prop
  | served (serving : n.listening = false) : Reception n source recvTime msg
      { n with loop := n.loop.receive recvTime msg } (n.toPeer (ServeLoop.atOnce msg)) none
  | discarded (listening : n.listening = true) (other : ∀ h, msg ≠ .handshake h) :
      Reception n source recvTime msg n [] none
  | accepted {h : Handshake} (listening : n.listening = true) (request : msg = .handshake h)
      (status : replyStatus .reference h = .success) : Reception n source recvTime msg
      { n with listening := false, connected := some source, answering := some (source, ⟨.success⟩) }
      [] (some ⟨source, h, .success⟩)
  | refused {h : Handshake} (listening : n.listening = true) (request : msg = .handshake h)
      (status : replyStatus .reference h ≠ .success) : Reception n source recvTime msg
      { n with answering := some (source, ⟨replyStatus .reference h⟩) }
      [] (some ⟨source, h, replyStatus .reference h⟩)

theorem reception (n : ReferenceState Id) (source : Id) (recvTime : ℚ) (msg : MiniSyncMsg) :
    n.Reception source recvTime msg (n.receive source recvTime msg) (n.atOnce msg)
      (n.verdict source msg) := by
  cases phase : n.listening with
  | false =>
    have received :
        n.receive source recvTime msg = { n with loop := n.loop.receive recvTime msg } := by
      simp [receive, phase]
    have sent : n.atOnce msg = n.toPeer (ServeLoop.atOnce msg) := by simp [atOnce, phase]
    have silent : n.verdict source msg = none := by
      cases msg with
      | handshake h => simp [verdict, phase]
      | _ => rfl
    rw [received, sent, silent]
    exact .served phase
  | true =>
    have received : n.receive source recvTime msg = n.waitForHandshake source msg := by
      simp [receive, phase]
    have sent : n.atOnce msg = [] := by simp [atOnce, phase]
    rw [received, sent]
    cases msg with
    | handshake h =>
      have judged : n.verdict source (.handshake h) = some ⟨source, h, replyStatus .reference h⟩ := by
        simp [verdict, phase]
      rw [judged]
      by_cases status : replyStatus .reference h = .success
      · have connects : n.waitForHandshake source (.handshake h) =
            { n with listening := false, connected := some source,
                     answering := some (source, ⟨.success⟩) } := by
          simp [waitForHandshake, status]
        rw [connects, status]
        exact .accepted phase rfl status
      · have refuses : n.waitForHandshake source (.handshake h) =
            { n with answering := some (source, ⟨replyStatus .reference h⟩) } := by
          simp [waitForHandshake, status]
        rw [refuses]
        exact .refused phase rfl status
    | _ => exact .discarded phase nofun

theorem toPeer_mem {n : ReferenceState Id} {msgs : List MiniSyncMsg} {d : Id × MiniSyncMsg}
    (hd : d ∈ n.toPeer msgs) : d.2 ∈ msgs := by
  obtain ⟨peer, _, hd⟩ := List.mem_flatMap.mp hd
  obtain ⟨msg, hmsg, rfl⟩ := List.mem_map.mp hd
  exact hmsg

end ReferenceState

theorem ServeLoop.atOnce_no_verdict {msg sent : MiniSyncMsg} (h : sent ∈ ServeLoop.atOnce msg)
    (reply : HandshakeReply) : sent ≠ .handshakeR reply := by
  cases msg with
  | goodbye =>
    obtain rfl := List.mem_singleton.mp h
    nofun
  | _ => exact absurd h List.not_mem_nil

theorem MiniSyncMsg.accepts_iff {msg : MiniSyncMsg} :
    msg.accepts = true ↔ msg = .handshakeR ⟨.success⟩ := decide_eq_true_iff

theorem replyStatus_success {mode : NodeMode} {h : Handshake} :
    replyStatus mode h = .success ↔ h.versionMajor = protocolVersionMajor ∧
      h.versionMinor = protocolVersionMinor ∧ h.mode ≠ mode := by
  unfold replyStatus
  split
  · rename_i other
    apply iff_of_false nofun
    rintro ⟨major, minor, _⟩
    rw [major, minor] at other
    simp at other
  · rename_i same
    rw [not_or, not_not, not_not] at same
    split
    · rename_i equal
      exact iff_of_false nofun fun h => h.2.2 equal
    · rename_i different
      exact iff_of_true rfl ⟨same.1.symm, same.2.symm, different⟩

/-! ## Every run -/

namespace Swarm
variable {Id : Type}

/-- Who was promised what, and who acts on it. -/
structure Paired (p : Setup Id) (s : Swarm Id) : Prop where
  listening : s.reference.listening = true → s.reference.connected = none
  verdicts : ∀ v ∈ s.verdicts, v.request = p.request v.node ∧
    v.status = replyStatus .reference v.request ∧
    (v.status = .success → s.reference.connected = some v.node)
  uplink : ∀ i h, (i, .handshake h) ∈ s.uplink → h = p.request i
  answering : ∀ i reply, s.reference.answering = some (i, reply) →
    ⟨i, p.request i, reply.status⟩ ∈ s.verdicts
  downlink : ∀ i reply, (i, .handshakeR reply) ∈ s.downlink →
    ⟨i, p.request i, reply.status⟩ ∈ s.verdicts
  connected : ∀ i, (s.nodes i).connected = true → ⟨i, p.request i, .success⟩ ∈ s.verdicts
  synchronising : ∀ i, (s.nodes i).synchronising = true → (s.nodes i).loop.running = true →
    (s.nodes i).connected = true
  beacons : ∀ i ∈ s.beacons, (s.nodes i).connected = true

section
variable {p : Setup Id} {s t : Swarm Id}

theorem start_paired (p : Setup Id) : (start : Swarm Id).Paired p := by
  constructor
  · exact fun _ => rfl
  · exact fun v hv => absurd hv List.not_mem_nil
  · exact fun i h hd => absurd hd List.not_mem_nil
  · nofun
  · exact fun i reply hd => absurd hd List.not_mem_nil
  · nofun
  · nofun
  · exact fun i hi => absurd hi List.not_mem_nil

/-- Losing datagrams, and sending others than requests and replies to them, breaks no promise. -/
theorem Paired.flight (h : s.Paired p) {up down : List (Id × MiniSyncMsg)}
    (uplink : ∀ i r, (i, .handshake r) ∈ up → (i, .handshake r) ∈ s.uplink)
    (downlink : ∀ i r, (i, .handshakeR r) ∈ down → (i, .handshakeR r) ∈ s.downlink) :
    ({ s with uplink := up, downlink := down } : Swarm Id).Paired p where
  listening := h.listening
  verdicts := h.verdicts
  uplink i r hd := h.uplink i r (uplink i r hd)
  answering := h.answering
  downlink i r hd := h.downlink i r (downlink i r hd)
  connected := h.connected
  synchronising := h.synchronising
  beacons := h.beacons

/-- A reference node that goes on as its verdicts say keeps every promise. -/
theorem Paired.receives (h : s.Paired p) {reference : ReferenceState Id}
    {rest sent : List (Id × MiniSyncMsg)} {verdict : Option (Verdict Id)}
    (sub : ∀ d ∈ rest, d ∈ s.uplink) (other : ∀ i reply, (i, .handshakeR reply) ∉ sent)
    (listening : reference.listening = true → reference.connected = none)
    (keeps : ∀ i, s.reference.connected = some i → reference.connected = some i)
    (judged : ∀ v ∈ verdict, v.request = p.request v.node ∧
      v.status = replyStatus .reference v.request ∧
      (v.status = .success → reference.connected = some v.node))
    (answering : ∀ i reply, reference.answering = some (i, reply) →
      ⟨i, p.request i, reply.status⟩ ∈ verdict) :
    ({ s with reference := reference, uplink := rest, downlink := s.downlink ++ sent,
              verdicts := s.verdicts ++ verdict.toList } : Swarm Id).Paired p where
  listening := listening
  verdicts v hv := by
    obtain old | new := List.mem_append.mp hv
    · obtain ⟨same, status, granted⟩ := h.verdicts v old
      exact ⟨same, status, fun success => keeps v.node (granted success)⟩
    · exact judged v (Option.mem_toList.mp new)
  uplink i r hd := h.uplink i r (sub _ hd)
  answering i reply busy := List.mem_append_right _ (Option.mem_toList.mpr (answering i reply busy))
  downlink i reply hd := by
    obtain old | new := List.mem_append.mp hd
    · exact List.mem_append_left _ (h.downlink i reply old)
    · exact absurd new (other i reply)
  connected i joined := List.mem_append_left _ (h.connected i joined)
  synchronising := h.synchronising
  beacons := h.beacons

theorem exists_reception (s : Swarm Id) (source : Id) (msg : MiniSyncMsg) (recvTime : ℚ)
    (rest : List (Id × MiniSyncMsg)) : ∃ reference sent verdict,
      s.reference.Reception source recvTime msg reference sent verdict ∧
      s.referenceReceive source msg recvTime rest =
        { s with reference := reference, uplink := rest, downlink := s.downlink ++ sent,
                 verdicts := s.verdicts ++ verdict.toList } :=
  ⟨_, _, _, s.reference.reception source recvTime msg, rfl⟩

theorem Paired.referenceReceive (h : s.Paired p) {source : Id} {msg : MiniSyncMsg} {recvTime : ℚ}
    {rest : List (Id × MiniSyncMsg)} (free : s.reference.answering = none)
    (hd : (source, msg) ∈ s.uplink) (sub : ∀ d ∈ rest, d ∈ s.uplink) :
    (s.referenceReceive source msg recvTime rest).Paired p := by
  obtain ⟨reference, sent, verdict, received, same⟩ := s.exists_reception source msg recvTime rest
  rw [same]
  cases received with
  | served serving =>
    refine h.receives sub ?_ h.listening (fun _ => id) nofun ?_
    · intro i reply new
      exact ServeLoop.atOnce_no_verdict (ReferenceState.toPeer_mem new) reply rfl
    · intro i reply busy
      exact absurd (free.symm.trans busy) nofun
  | discarded =>
    refine h.receives sub (fun _ _ => List.not_mem_nil) h.listening (fun _ => id) nofun ?_
    intro i reply busy
    exact absurd (free.symm.trans busy) nofun
  | @accepted r listening request status =>
    have own : r = p.request source := h.uplink source r (request ▸ hd)
    refine h.receives sub (fun _ _ => List.not_mem_nil) nofun ?_ ?_ ?_
    · intro i connected
      rw [h.listening listening] at connected
      cases connected
    · intro v hv
      cases hv
      exact ⟨own, status.symm, fun _ => rfl⟩
    · intro i reply busy
      cases busy
      rw [own]
      rfl
  | @refused r listening request status =>
    have own : r = p.request source := h.uplink source r (request ▸ hd)
    refine h.receives sub (fun _ _ => List.not_mem_nil) h.listening (fun _ => id) ?_ ?_
    · intro v hv
      cases hv
      exact ⟨own, rfl, fun success => absurd success status⟩
    · intro i reply busy
      cases busy
      rw [own]
      rfl

theorem Paired.referenceAnswer (h : s.Paired p) {dest : Id} {reply : HandshakeReply}
    (answering : s.reference.answering = some (dest, reply)) :
    (s.referenceAnswer dest reply).Paired p where
  listening := h.listening
  verdicts := h.verdicts
  uplink := h.uplink
  answering := nofun
  downlink i r hd := by
    obtain old | new := List.mem_append.mp hd
    · exact h.downlink i r old
    · cases List.mem_singleton.mp new
      exact h.answering dest reply answering
  connected := h.connected
  synchronising := h.synchronising
  beacons := h.beacons

variable [DecidableEq Id]

/-- A SyncNode may stop, or go on as a SUCCESS addressed to it allows. -/
theorem Paired.set (h : s.Paired p) {i : Id} {n : SyncState}
    (keeps : (s.nodes i).connected = true → n.connected = true)
    (joined : n.connected = true → ⟨i, p.request i, .success⟩ ∈ s.verdicts)
    (running : n.synchronising = true → n.loop.running = true → n.connected = true) :
    (s.set i n).Paired p where
  listening := h.listening
  verdicts := h.verdicts
  uplink := h.uplink
  answering := h.answering
  downlink := h.downlink
  connected j hj := by
    by_cases same : j = i
    · rw [same] at hj ⊢
      rw [set_self] at hj
      exact joined hj
    · rw [set_of_ne s n same] at hj
      exact h.connected j hj
  synchronising j hj hrun := by
    by_cases same : j = i
    · rw [same, set_self] at hj hrun ⊢
      exact running hj hrun
    · rw [set_of_ne s n same] at hj hrun ⊢
      exact h.synchronising j hj hrun
  beacons j hj := by
    by_cases same : j = i
    · rw [same] at hj ⊢
      rw [set_self]
      exact keeps (h.beacons i hj)
    · rw [set_of_ne s n same]
      exact h.beacons j hj

/-- A SyncNode whose phase and socket stay as they are. -/
theorem Paired.stays (h : s.Paired p) {i : Id} {n : SyncState} (stays : (s.nodes i).Stays n) :
    (s.set i n).Paired p := by
  apply h.set
  · rw [stays.connected]
    exact id
  · rw [stays.connected]
    exact h.connected i
  · rw [stays.connected, stays.synchronising]
    exact fun phase running => h.synchronising i phase (stays.running running)

theorem Paired.receive (h : s.Paired p) {i : Id} {msg : MiniSyncMsg} {rest : List (Id × MiniSyncMsg)}
    (hd : (i, msg) ∈ s.downlink) (sub : ∀ d ∈ rest, d ∈ s.downlink) :
    (s.receive p i msg rest).Paired p := by
  have node : (s.set i ((s.nodes i).receive (p.sync i) msg)).Paired p := by
    obtain ⟨_, accepts, same⟩ | ⟨_, stays⟩ := (s.nodes i).receive_cases (p.sync i) msg
    · rw [same]
      rw [MiniSyncMsg.accepts_iff.mp accepts] at hd
      exact h.set (fun _ => rfl) (fun _ => h.downlink i _ hd) (fun _ _ => rfl)
    · exact h.stays stays
  exact node.flight (fun _ _ hr => hr) fun i r hr => sub _ hr

theorem Paired.request (h : s.Paired p) (i : Id) : (s.request p i).Paired p := by
  have node : (s.set i (s.nodes i).await).Paired p := h.stays ⟨rfl, rfl, id⟩
  refine ⟨node.listening, node.verdicts, ?_, node.answering, node.downlink, node.connected,
    node.synchronising, node.beacons⟩
  intro j r hd
  obtain old | new := List.mem_append.mp hd
  · exact h.uplink j r old
  · cases List.mem_singleton.mp new
    rfl

theorem Paired.beacon (h : s.Paired p) {i : Id} (timestamp : ℚ)
    (running : (s.nodes i).loop.running = true) (synchronising : (s.nodes i).synchronising = true) :
    (s.beacon i timestamp).Paired p := by
  let n : SyncState := { s.nodes i with loop := (s.nodes i).loop.sent timestamp }
  have node : (s.set i n).Paired p := h.stays ⟨rfl, rfl, id⟩
  refine ⟨node.listening, node.verdicts, ?_, node.answering, node.downlink, node.connected,
    node.synchronising, ?_⟩
  · intro j r hd
    obtain old | new := List.mem_append.mp hd
    · exact h.uplink j r old
    · cases List.mem_singleton.mp new
  · intro j hj
    obtain old | new := List.mem_append.mp hj
    · exact node.beacons j old
    · rw [List.mem_singleton.mp new]
      rw [beacon_node]
      exact h.synchronising i synchronising running

theorem Step.paired {a : Action Id} (step : Step p s a t) (h : s.Paired p) : t.Paired p := by
  cases step with
  | @request i => exact h.request i
  | retry => exact h.stays ⟨rfl, rfl, id⟩
  | receive _ taken => exact h.receive (mem_of_take? taken) fun d hd => mem_of_take?_rest taken hd
  | @leave i stopped =>
    refine h.set id (h.connected i) ?_
    intro _ running
    exact absurd (stopped.symm.trans running) nofun
  | beacon timestamp running synchronising => exact h.beacon timestamp running synchronising
  | stop => exact h.stays ⟨rfl, rfl, nofun⟩
  | referenceReceive _ _ free _ taken =>
    exact h.referenceReceive free (mem_of_take? taken) fun d hd => mem_of_take?_rest taken hd
  | referenceAnswer answering => exact h.referenceAnswer answering
  | @referenceReply beacon recvTime timestamp =>
    refine ⟨h.listening, h.verdicts, h.uplink, h.answering, ?_, h.connected, h.synchronising,
      h.beacons⟩
    intro i r hd
    obtain old | new := List.mem_append.mp hd
    · exact h.downlink i r old
    · cases List.mem_singleton.mp (ReferenceState.toPeer_mem new)
  | referenceStop =>
    exact ⟨h.listening, h.verdicts, h.uplink, nofun, h.downlink, h.connected, h.synchronising,
      h.beacons⟩
  | uplink fault => exact h.flight (fun _ _ hr => Fault.mem_of_apply hr) fun _ _ hr => hr
  | downlink fault => exact h.flight (fun _ _ hr => hr) fun _ _ hr => Fault.mem_of_apply hr

theorem run_paired {past : List (Action Id)} (run : Run (Step p) start past s) : s.Paired p :=
  run.invariant (P := fun _ s => s.Paired p) (start_paired p) fun _ _ _ _ _ h step => step.paired h

end

end Swarm

open Swarm

/-- **Exclusive pairing.** Whoever sends a beacon is the one SyncNode that the reference node is
connected to, by a request of its version and of another mode. No other one does, and none that was
refused. -/
theorem pairing_exclusive {Id : Type} [DecidableEq Id] (p : Setup Id) (past : List (Action Id))
    (s : Swarm Id) (run : Run (Step p) start past s) :
    (∀ i ∈ s.beacons, s.reference.connected = some i ∧
      (∃ v ∈ s.verdicts, v.node = i ∧ v.status = .success) ∧
      ∀ v ∈ s.verdicts, v.status = .success → v.node = i ∧
        v.request.versionMajor = protocolVersionMajor ∧
        v.request.versionMinor = protocolVersionMinor ∧ v.request.mode ≠ .reference) ∧
    (∀ i ∈ s.beacons, ∀ j ∈ s.beacons, i = j) ∧
    ∀ v ∈ s.verdicts, v.status ≠ .success → v.node ∉ s.beacons := by
  have h := run_paired run
  have joined : ∀ i ∈ s.beacons, ⟨i, p.request i, .success⟩ ∈ s.verdicts :=
    fun i hi => h.connected i (h.beacons i hi)
  have peer : ∀ i ∈ s.beacons, s.reference.connected = some i :=
    fun i hi => (h.verdicts _ (joined i hi)).2.2 rfl
  refine ⟨?_, ?_, ?_⟩
  · intro i hi
    refine ⟨peer i hi, ⟨_, joined i hi, rfl, rfl⟩, ?_⟩
    intro v hv success
    obtain ⟨_, status, granted⟩ := h.verdicts v hv
    have same : v.node = i := Option.some.inj ((granted success).symm.trans (peer i hi))
    exact ⟨same, replyStatus_success.mp (status.symm.trans success)⟩
  · intro i hi j hj
    exact Option.some.inj ((peer i hi).symm.trans (peer j hj))
  · intro v hv refused hi
    obtain ⟨request, status, _⟩ := h.verdicts v hv
    have success := (h.verdicts _ (joined v.node hi)).2.1
    rw [request] at status
    exact refused (status.trans success.symm)

/-- The second of two SyncNodes has another version. -/
def twoVersions : Setup ℕ where
  request i := ⟨if i = 0 then protocolVersionMajor else 2, protocolVersionMinor, .sync⟩
  sync _ := .new ⟨0, 0⟩ 0 0
  reference := ⟨0, 0⟩

/-- It is refused, and the first one then sends a beacon. -/
theorem pairing_exclusive_two : ∃ past, ∃ s : Swarm ℕ, Run (Step twoVersions) start past s ∧
    s.beacons = [0] ∧ s.reference.connected = some 0 ∧
    ⟨1, twoVersions.request 1, .versionMismatch⟩ ∈ s.verdicts := by
  have asked : Run (Step twoVersions) start [.request 1, .request 0] _ :=
    (Run.start.step (.request rfl rfl rfl)).step (.request rfl rfl rfl)
  have judged := asked.step (.referenceReceive 0 rfl rfl rfl (rfl : take? _ 0 =
    some ((1, .handshake ⟨2, 0, .sync⟩), [(0, .handshake ⟨1, 0, .sync⟩)])))
  have refused := judged.step (.referenceAnswer rfl)
  have accepted := (refused.step (.referenceReceive 0 rfl rfl rfl (rfl : take? _ 0 =
    some ((0, .handshake ⟨1, 0, .sync⟩), [])))).step (.referenceAnswer rfl)
  have connected := accepted.step (.receive rfl (rfl : take? _ 1 =
    some ((0, .handshakeR ⟨.success⟩), [(1, .handshakeR ⟨.versionMismatch⟩)])))
  have sent := connected.step (.beacon (i := 0) 0 rfl rfl rfl)
  have exclusive := pairing_exclusive twoVersions _ _ sent
  refine ⟨_, _, sent, rfl, (exclusive.1 0 (List.mem_singleton_self 0)).1, ?_⟩
  exact List.mem_cons_self

end MiniSynCPP
