import MiniSynCPP.Exclusion

/-!
# Whether the handshake can still complete

The reference node answers one acceptable request and stops listening for
others, whether or not its SUCCESS arrives. Until then everything can be
repeated; afterwards all depends on the copies of that one reply in flight.
-/

namespace MiniSynCPP

open Channels Runs

/-- A reference node and one SyncNode of the same version. -/
def Setup.single (settings : SyncSettings) (delays : MinimumDelays) : Setup Unit where
  request _ := ⟨protocolVersionMajor, protocolVersionMinor, .sync⟩
  sync _ := settings
  reference := delays

namespace Swarm

/-- No fault of a channel and no end of a node: retransmission, delivery and processing. -/
def Action.Ordinary {Id : Type} : Action Id → Prop
  | .stop _ | .referenceStop | .uplink _ | .downlink _ => False
  | _ => True

/-- The SUCCESS reply on its way. -/
def grant : Unit × MiniSyncMsg := ((), .handshakeR ⟨.success⟩)

/-- Both nodes run, and the SyncNode has not received SUCCESS. -/
structure Unfinished (s : Swarm Unit) : Prop where
  reference : s.reference.loop.running = true
  node : (s.nodes ()).loop.running = true
  pending : (s.nodes ()).connected = false

/-- In some continuation without faults the SyncNode receives SUCCESS. -/
def CanComplete (p : Setup Unit) (s : Swarm Unit) : Prop :=
  ∃ more t, Run (Step p) s more t ∧ (∀ a ∈ more, a.Ordinary) ∧ (t.nodes ()).connected = true

/-- A request can still be accepted, or the reply of the accepted one can still arrive. -/
def Alive (s : Swarm Unit) : Prop :=
  s.reference.listening = true ∨ s.reference.answering = some ((), ⟨.success⟩) ∨ grant ∈ s.downlink

/-- The reply of the accepted request is lost. -/
structure Dead (s : Swarm Unit) : Prop where
  serving : s.reference.listening = false
  answered : s.reference.answering = none
  lost : grant ∉ s.downlink
  pending : (s.nodes ()).connected = false

section
variable {p : Setup Unit} {s t : Swarm Unit} {a : Action Unit}

/-- Neither node starts again, and a connected socket stays connected. -/
theorem Step.unfinished (step : Step p s a t) (h : t.Unfinished) : s.Unfinished := by
  obtain ⟨reference, node, pending⟩ := h
  cases step with
  | request running =>
    rw [request_node] at pending
    exact ⟨reference, running, pending⟩
  | retry =>
    rw [set_self] at node pending
    exact ⟨reference, node, pending⟩
  | @receive i _ msg =>
    rw [receive_node] at node pending
    obtain ⟨_, _, same⟩ | ⟨_, stays⟩ := (s.nodes i).receive_cases (p.sync i) msg
    · rw [same] at pending
      cases pending
    · exact ⟨reference, stays.running node, stays.connected.symm.trans pending⟩
  | leave =>
    rw [set_self] at node pending
    exact ⟨reference, node, pending⟩
  | beacon _ running =>
    rw [beacon_node] at pending
    exact ⟨reference, running, pending⟩
  | stop =>
    rw [set_self] at node
    cases node
  | referenceReceive _ running => exact ⟨running, node, pending⟩
  | referenceAnswer => exact ⟨reference, node, pending⟩
  | referenceReply => exact ⟨reference, node, pending⟩
  | referenceStop => cases reference
  | uplink => exact ⟨reference, node, pending⟩
  | downlink => exact ⟨reference, node, pending⟩

/-! ## A lost reply -/

/-- A connected socket sends no second SUCCESS. -/
theorem not_grant_toPeer {n : ReferenceState Unit} {msgs : List MiniSyncMsg}
    (none : .handshakeR ⟨.success⟩ ∉ msgs) : grant ∉ n.toPeer msgs :=
  fun sent => none (ReferenceState.toPeer_mem sent)

theorem not_grant_atOnce {n : ReferenceState Unit} {msg : MiniSyncMsg} :
    grant ∉ n.toPeer (ServeLoop.atOnce msg) :=
  not_grant_toPeer fun sent => ServeLoop.atOnce_no_verdict sent _ rfl

theorem Dead.set (h : s.Dead) {n : SyncState} (i : Unit) (pending : n.connected = false) :
    (s.set i n).Dead := by
  have node : ((s.set i n).nodes i).connected = false := by
    rw [set_self]
    exact pending
  exact ⟨h.serving, h.answered, h.lost, node⟩

/-- Nothing brings the reply back. -/
theorem Step.dead (step : Step p s a t) (h : s.Dead) : t.Dead := by
  have ⟨serving, answered, lost, pending⟩ := h
  cases step with
  | @receive i _ msg rest _ taken =>
    have still : grant ∉ rest := fun sent => lost (mem_of_take?_rest taken sent)
    have node : ((s.nodes i).receive (p.sync i) msg).connected = false := by
      obtain ⟨_, accepts, _⟩ | ⟨_, stays⟩ := (s.nodes i).receive_cases (p.sync i) msg
      · have sent := mem_of_take? taken
        rw [MiniSyncMsg.accepts_iff.mp accepts] at sent
        exact absurd sent lost
      · exact stays.connected.trans pending
    have dead := h.set i node
    exact ⟨dead.serving, dead.answered, still, dead.pending⟩
  | @referenceReceive _ source msg rest recvTime =>
    obtain ⟨reference, sent, verdict, received, same⟩ := s.exists_reception source msg recvTime rest
    rw [same]
    cases received with
    | served => exact ⟨serving, answered, List.not_mem_append lost not_grant_atOnce, pending⟩
    | discarded listening => exact absurd (serving.symm.trans listening) nofun
    | accepted listening => exact absurd (serving.symm.trans listening) nofun
    | refused listening => exact absurd (serving.symm.trans listening) nofun
  | referenceAnswer answering => exact absurd (answered.symm.trans answering) nofun
  | referenceReply =>
    exact ⟨serving, answered, List.not_mem_append lost (not_grant_toPeer (by simp)), pending⟩
  | referenceStop => exact ⟨serving, rfl, lost, pending⟩
  | uplink => exact ⟨serving, answered, lost, pending⟩
  | downlink fault =>
    exact ⟨serving, answered, fun sent => lost (Fault.mem_of_apply sent), pending⟩
  | @request i =>
    have dead : (s.set i (s.nodes i).await).Dead := h.set i pending
    exact ⟨serving, answered, lost, dead.pending⟩
  | @beacon i timestamp =>
    have dead : (s.set i { s.nodes i with loop := (s.nodes i).loop.sent timestamp }).Dead :=
      h.set i pending
    exact ⟨serving, answered, lost, dead.pending⟩
  | @retry i => exact h.set i pending
  | @leave i => exact h.set i pending
  | @stop i => exact h.set i pending

theorem Dead.not_canComplete (h : s.Dead) : ¬ CanComplete p s := by
  rintro ⟨more, t, run, _, connected⟩
  have dead : t.Dead := run.invariant (P := fun _ t => t.Dead) h fun _ _ _ _ _ h step => step.dead h
  exact absurd (dead.pending.symm.trans connected) nofun

/-! ## While the reply can still arrive -/

theorem CanComplete.of_step (step : Step p s a t) (ordinary : a.Ordinary) (h : CanComplete p t) :
    CanComplete p s := by
  obtain ⟨more, u, run, all, connected⟩ := h
  have whole : ∀ b ∈ a :: more, b.Ordinary := List.forall_mem_cons.mpr ⟨ordinary, all⟩
  exact ⟨[a] ++ more, u, (Run.start.step step).append run, whole, connected⟩

/-- A SyncNode that has not received SUCCESS is still in `handshake`. -/
theorem Unfinished.handshake (h : s.Unfinished) (paired : s.Paired p) :
    (s.nodes ()).synchronising = false := by
  by_contra phase
  have joined := paired.synchronising () (Bool.eq_true_of_not_eq_false phase) h.node
  exact absurd (h.pending.symm.trans joined) nofun

theorem canComplete_receiving (receiving : (s.nodes ()).loop.receiving = true)
    (phase : (s.nodes ()).synchronising = false) (sent : grant ∈ s.downlink) : CanComplete p s := by
  obtain ⟨k, rest, taken⟩ := exists_take? sent
  have accepts : (MiniSyncMsg.handshakeR ⟨.success⟩).accepts = true := rfl
  have connects : ((s.receive p () (.handshakeR ⟨.success⟩) rest).nodes ()).connected = true := by
    rw [receive_node, SyncState.receive, phase, SyncState.handshake]
    simp [accepts]
  exact CanComplete.of_step (.receive receiving taken) trivial ⟨[], _, .start, by simp, connects⟩

/-- A SyncNode between two receives sends its request once more. -/
theorem canComplete_sent (h : s.Unfinished) (paired : s.Paired p) (sent : grant ∈ s.downlink) :
    CanComplete p s := by
  have phase := h.handshake paired
  cases receiving : (s.nodes ()).loop.receiving with
  | true => exact canComplete_receiving receiving phase sent
  | false =>
    apply CanComplete.of_step (.request h.node phase receiving) trivial
    have again : ((s.request p ()).nodes ()).loop.receiving = true := by
      rw [request_node]
      rfl
    have still : ((s.request p ()).nodes ()).synchronising = false := by
      rw [request_node]
      exact phase
    exact canComplete_receiving again still sent

theorem canComplete_answering (h : s.Unfinished) (paired : s.Paired p)
    (answering : s.reference.answering = some ((), ⟨.success⟩)) : CanComplete p s := by
  have step : Step p s .referenceAnswer (s.referenceAnswer () ⟨.success⟩) :=
    .referenceAnswer answering
  apply CanComplete.of_step step trivial
  have after : (s.referenceAnswer () ⟨.success⟩).Unfinished := ⟨h.reference, h.node, h.pending⟩
  exact canComplete_sent after (step.paired paired)
    (List.mem_append_right _ (List.mem_singleton_self _))

/-- The next request can be the one that is accepted. -/
theorem canComplete_sending (compatible : replyStatus .reference (p.request ()) = .success)
    (h : s.Unfinished) (paired : s.Paired p) (listening : s.reference.listening = true)
    (free : s.reference.loop.replying = none) (idle : s.reference.answering = none)
    (sending : (s.nodes ()).loop.receiving = false) : CanComplete p s := by
  have asks : Step p s (.request ()) (s.request p ()) :=
    .request h.node (h.handshake paired) sending
  have asked : ((), .handshake (p.request ())) ∈ (s.request p ()).uplink :=
    List.mem_append_right _ (List.mem_singleton_self _)
  obtain ⟨k, rest, taken⟩ := exists_take? asked
  have accepts : Step p (s.request p ()) (.referenceReceive k 0)
      ((s.request p ()).referenceReceive () (.handshake (p.request ())) 0 rest) :=
    .referenceReceive 0 h.reference idle free taken
  have connects : s.reference.receive () 0 (.handshake (p.request ())) =
      { s.reference with listening := false, connected := some (),
                         answering := some ((), ⟨.success⟩) } := by
    simp [ReferenceState.receive, ReferenceState.waitForHandshake, listening, compatible]
  apply CanComplete.of_step asks trivial
  apply CanComplete.of_step accepts trivial
  apply canComplete_answering _ (accepts.paired (asks.paired paired))
  · exact congrArg (·.answering) connects
  · have node := request_node p s ()
    constructor
    · exact (congrArg (·.loop.running) connects).trans h.reference
    · exact (congrArg (·.loop.running) node).trans h.node
    · exact (congrArg (·.connected) node).trans h.pending

/-- What holds of the reference node until its reply is in flight. -/
structure Waiting (s : Swarm Unit) : Prop where
  free : s.reference.listening = true → s.reference.loop.replying = none
  unsent : s.reference.listening = true ∨ s.reference.answering ≠ none → grant ∉ s.downlink

theorem start_waiting : (start : Swarm Unit).Waiting := ⟨fun _ => rfl, fun _ => List.not_mem_nil⟩

/-- A listening reference node has promised nothing. -/
theorem Paired.no_success (h : s.Paired p) (listening : s.reference.listening = true)
    {v : Verdict Unit} (hv : v ∈ s.verdicts) : v.status ≠ .success := by
  intro success
  have connected := (h.verdicts v hv).2.2 success
  rw [h.listening listening] at connected
  cases connected

theorem Waiting.flight (h : s.Waiting) {up down : List (Unit × MiniSyncMsg)}
    (sub : grant ∈ down → grant ∈ s.downlink) :
    ({ s with uplink := up, downlink := down } : Swarm Unit).Waiting :=
  ⟨h.free, fun before sent => h.unsent before (sub sent)⟩

theorem Step.waiting (step : Step p s a t) (paired : s.Paired p) (h : s.Waiting) : t.Waiting := by
  cases step with
  | request | retry | leave | beacon | stop => exact ⟨h.free, h.unsent⟩
  | receive _ taken =>
    exact ⟨h.free, fun before sent => h.unsent before (mem_of_take?_rest taken sent)⟩
  | @referenceReceive _ source msg rest recvTime _ answered =>
    obtain ⟨reference, sent, verdict, received, same⟩ := s.exists_reception source msg recvTime rest
    rw [same]
    cases received with
    | served serving =>
      constructor
      · exact fun listening => absurd (serving.symm.trans listening) nofun
      · intro before
        cases before with
        | inl listening => exact absurd (serving.symm.trans listening) nofun
        | inr busy => exact absurd answered busy
    | discarded =>
      rw [List.append_nil]
      exact ⟨h.free, h.unsent⟩
    | accepted listening =>
      rw [List.append_nil]
      exact ⟨nofun, fun _ => h.unsent (.inl listening)⟩
    | refused listening =>
      rw [List.append_nil]
      exact ⟨h.free, fun _ => h.unsent (.inl listening)⟩
  | @referenceAnswer _ reply answering =>
    constructor
    · exact h.free
    · intro before sent
      cases before with
      | inr busy => exact busy rfl
      | inl listening =>
        obtain old | new := List.mem_append.mp sent
        · exact h.unsent (.inl listening) old
        · cases List.mem_singleton.mp new
          exact paired.no_success listening (paired.answering () _ answering) rfl
  | referenceReply =>
    constructor
    · exact fun _ => rfl
    · exact fun before => List.not_mem_append (h.unsent before) (not_grant_toPeer (by simp))
  | referenceStop =>
    constructor
    · exact fun _ => rfl
    · exact fun before => h.unsent (before.imp_right fun busy => absurd rfl busy)
  | uplink => exact h.flight id
  | downlink fault => exact h.flight Fault.mem_of_apply

/-- An acceptable request gets no other answer than SUCCESS. -/
theorem Paired.answering_success (paired : s.Paired p)
    (compatible : replyStatus .reference (p.request ()) = .success) {d : Unit × HandshakeReply}
    (answering : s.reference.answering = some d) : d = ((), ⟨.success⟩) := by
  obtain ⟨_, status⟩ := d
  have verdict := (paired.verdicts _ (paired.answering () _ answering)).2.1
  rw [compatible] at verdict
  obtain ⟨status⟩ := status
  exact congrArg (fun status => ((), HandshakeReply.mk status)) verdict

theorem Alive.canComplete (alive : s.Alive) (h : s.Unfinished) (paired : s.Paired p)
    (waiting : s.Waiting) (compatible : replyStatus .reference (p.request ()) = .success) :
    CanComplete p s := by
  obtain listening | answering | sent := alive
  · have free := waiting.free listening
    cases answering : s.reference.answering with
    | some d =>
      rw [paired.answering_success compatible answering] at answering
      exact canComplete_answering h paired answering
    | none =>
      cases receiving : (s.nodes ()).loop.receiving with
      | false => exact canComplete_sending compatible h paired listening free answering receiving
      | true =>
        -- the receive times out first
        have step : Step p s (.retry ()) (s.set () (s.nodes ()).retry) := .retry receiving
        have node := set_self s () (s.nodes ()).retry
        have after : (s.set () (s.nodes ()).retry).Unfinished := by
          constructor
          · exact h.reference
          · exact (congrArg (·.loop.running) node).trans h.node
          · exact (congrArg (·.connected) node).trans h.pending
        apply CanComplete.of_step step trivial
        exact canComplete_sending compatible after (step.paired paired) listening free answering
          (congrArg (·.loop.receiving) node)
  · exact canComplete_answering h paired answering
  · exact canComplete_sent h paired sent

/-- The step loses the last copy in flight of a SUCCESS that the SyncNode waits for. -/
structure LosesReply (s : Swarm Unit) (a : Action Unit) : Prop where
  unfinished : s.Unfinished
  sent : grant ∈ s.downlink
  last : ∃ k, a = .downlink (.lose k) ∧ grant ∉ s.downlink.eraseIdx k

/-- Any other step leaves an unfinished handshake alive. -/
theorem Step.alive (step : Step p s a t) (paired : s.Paired p) (alive : s.Alive)
    (unfinished : t.Unfinished) (keeps : ¬ s.LosesReply a) : t.Alive := by
  have before := step.unfinished unfinished
  cases step with
  | request | retry | leave | beacon | stop => exact alive
  | @receive i _ msg _ _ taken =>
    apply alive.imp_right (Or.imp_right _)
    intro sent
    by_cases same : grant = (i, msg)
    · -- SUCCESS would have completed the handshake
      obtain rfl : MiniSyncMsg.handshakeR ⟨.success⟩ = msg := congrArg Prod.snd same
      have phase := before.handshake paired
      have pending := unfinished.pending
      rw [receive_node] at pending
      obtain ⟨_, _, joined⟩ | ⟨other, _⟩ := (s.nodes i).receive_cases (p.sync i)
        (.handshakeR ⟨.success⟩)
      · rw [joined] at pending
        cases pending
      · exact absurd (other phase) nofun
    · exact mem_rest_of_ne taken sent same
  | @referenceReceive _ source msg rest recvTime _ answered =>
    obtain ⟨reference, sent, verdict, received, same⟩ := s.exists_reception source msg recvTime rest
    rw [same]
    cases received with
    | served serving =>
      obtain listening | busy | sent := alive
      · exact absurd (serving.symm.trans listening) nofun
      · exact absurd (answered.symm.trans busy) nofun
      · exact .inr (.inr (List.mem_append_left _ sent))
    | discarded listening => exact .inl listening
    | accepted => exact .inr (.inl rfl)
    | refused listening => exact .inl listening
  | @referenceAnswer _ _ answering =>
    obtain listening | busy | sent := alive
    · exact .inl listening
    · cases answering.symm.trans busy
      exact .inr (.inr (List.mem_append_right _ (List.mem_singleton_self _)))
    · exact .inr (.inr (List.mem_append_left _ sent))
  | referenceReply =>
    exact alive.imp_right (Or.imp_right fun sent => List.mem_append_left _ sent)
  | referenceStop => cases unfinished.reference
  | uplink => exact alive
  | downlink fault =>
    apply alive.imp_right (Or.imp_right _)
    intro sent
    cases fault with
    | duplicate k => exact List.mem_append_left _ sent
    | lose k =>
      by_contra lost
      exact keeps ⟨before, sent, k, rfl, lost⟩

theorem LosesReply.dead (h : s.LosesReply a) (waiting : s.Waiting) :
    ∃ t, Step p s a t ∧ t.Unfinished ∧ t.Dead := by
  obtain ⟨unfinished, sent, k, rfl, last⟩ := h
  have serving : s.reference.listening = false := by
    by_contra listening
    exact waiting.unsent (.inl (Bool.eq_true_of_not_eq_false listening)) sent
  have answered : s.reference.answering = none := by
    by_contra busy
    exact waiting.unsent (.inr busy) sent
  have after : ({ s with downlink := s.downlink.eraseIdx k } : Swarm Unit).Unfinished :=
    ⟨unfinished.reference, unfinished.node, unfinished.pending⟩
  exact ⟨_, .downlink (.lose k), after, ⟨serving, answered, last, unfinished.pending⟩⟩

theorem run_waiting {past : List (Action Unit)} (run : Run (Step p) start past s) : s.Waiting :=
  run.invariant (P := fun _ s => s.Waiting) start_waiting fun _ _ _ _ before h step =>
    step.waiting (run_paired before) h

end

/-- Whenever both nodes still run and the SyncNode has not received SUCCESS, it can. -/
def NeverWedged (p : Setup Unit) (actions : List (Action Unit)) : Prop :=
  ∀ past rest, actions = past ++ rest → ∀ s, Run (Step p) start past s → s.Unfinished →
    CanComplete p s

/-- No step of the run loses the last copy of a SUCCESS that the SyncNode waits for. -/
def KeepsReply (p : Setup Unit) (actions : List (Action Unit)) : Prop :=
  ∀ past a rest, actions = past ++ a :: rest → ∀ s, Run (Step p) start past s → ¬ s.LosesReply a

theorem KeepsReply.past {p : Setup Unit} {past more : List (Action Unit)}
    (h : KeepsReply p (past ++ more)) : KeepsReply p past := by
  intro before a rest split
  exact h before a (rest ++ more) (by rw [split]; simp)

theorem run_alive {p : Setup Unit} {past : List (Action Unit)} {s : Swarm Unit}
    (run : Run (Step p) start past s) (keeps : KeepsReply p past) (unfinished : s.Unfinished) :
    s.Alive := by
  refine run.invariant_of_inputs (Q := KeepsReply p) (P := fun _ s => s.Unfinished → s.Alive)
    (fun _ _ h => h.past) (fun _ => .inl rfl) ?_ keeps unfinished
  intro past s a t before keeps alive step unfinished
  exact step.alive (run_paired before) (alive (step.unfinished unfinished)) unfinished
    (keeps past a [] rfl s before)

end Swarm

open Swarm

/-- **When the handshake can always complete.** It can in every state of a run exactly if no step
loses the last copy of the SUCCESS that the SyncNode still waits for. -/
theorem neverWedged_iff (settings : SyncSettings) (delays : MinimumDelays)
    (actions : List (Action Unit)) :
    NeverWedged (.single settings delays) actions ↔ KeepsReply (.single settings delays) actions := by
  constructor
  · intro completes past a rest split s run loses
    obtain ⟨t, step, unfinished, dead⟩ := loses.dead (run_waiting run)
    have possible := completes (past ++ [a]) rest (by simp [split]) t (run.step step) unfinished
    exact dead.not_canComplete possible
  · intro keeps past rest split s run unfinished
    rw [split] at keeps
    have alive := run_alive run keeps.past unfinished
    exact alive.canComplete unfinished (run_paired run) (run_waiting run) rfl

/-- The reference node serves, and the only SUCCESS is lost: it is not sent again. -/
theorem not_neverWedged : ¬ ∀ settings delays actions,
    NeverWedged (.single settings delays) actions := by
  intro completes
  let settings : SyncSettings := .new ⟨0, 0⟩ 0 0
  let p : Setup Unit := .single settings ⟨0, 0⟩
  have asked : Run (Step p) start [.request ()] _ := Run.start.step (.request rfl rfl rfl)
  have accepted := asked.step (.referenceReceive 0 rfl rfl rfl
    (rfl : take? _ 0 = some (((), .handshake ⟨1, 0, .sync⟩), [])))
  have lost := (accepted.step (.referenceAnswer rfl)).step (.downlink (.lose 0))
  have possible := completes settings ⟨0, 0⟩ _ _ [] (List.append_nil _).symm _ lost ⟨rfl, rfl, rfl⟩
  exact Dead.not_canComplete ⟨rfl, rfl, List.not_mem_nil, rfl⟩ possible

end MiniSynCPP
