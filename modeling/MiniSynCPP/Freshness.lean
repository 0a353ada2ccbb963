import MiniSynCPP.Transit

/-!
# Freshness of the accepted replies

A reply is matched with a beacon by its sequence number alone, and `To` is
overwritten by a retransmission with the same number. The match is right if
nothing with that number is still under way when a beacon is sent.
-/

namespace MiniSynCPP

open Channels Runs

/-- The answer belongs to the transmission whose time was recorded. -/
structure Sample.Fresh (x : Sample) : Prop where
  own : x.answer.transmission = x.recorded
  sent : x.recorded.instant ≤ x.answer.received
  served : x.answer.received ≤ x.answer.replied
  arrived : x.answer.replied ≤ x.accepted

theorem Answer.InOrder.fresh {x : Sample} (h : x.answer.InOrder x.accepted)
    (own : x.answer.transmission = x.recorded) : x.Fresh :=
  ⟨own, own ▸ h.sent, h.served, h.past⟩

theorem SyncLoop.matching_own (n : SyncLoop) (delays : MinimumDelays) (recvTime timestamp : ℚ) :
    n.matching (.beaconR (ServeLoop.reply delays n.beacon recvTime timestamp)) =
      some (ServeLoop.reply delays n.beacon recvTime timestamp) := if_pos rfl

theorem SyncLoop.matching_other {n : SyncLoop} {beacon : Beacon} (h : beacon ≠ n.beacon)
    (delays : MinimumDelays) (recvTime timestamp : ℚ) :
    n.matching (.beaconR (ServeLoop.reply delays beacon recvTime timestamp)) = none :=
  if_neg fun same => h (congrArg Beacon.mk same)

namespace Network

/-- No beacon and no reply with the sequence number of the next beacon is still under way. -/
structure Quiet (s : Network) : Prop where
  uplink : s.reference.running = true → ∀ d ∈ s.uplink, d.content ≠ .beacon s.sync.beacon
  replying : ∀ recvTime, s.reference.replying ≠ some (s.sync.beacon, recvTime)
  downlink : ∀ d ∈ s.downlink, s.sync.matching d.content = none

/-- While the SyncNode waits, what could match comes from its last transmission. -/
structure Owned (s : Network) : Prop where
  uplink : s.sync.receiving = true → s.reference.running = true →
    ∀ d ∈ s.uplink, d.content = .beacon s.sync.beacon → d.origin = s.recorded
  serving : s.sync.receiving = true → ∀ recvTime,
    s.reference.replying = some (s.sync.beacon, recvTime) → s.serving = s.recorded
  downlink : s.sync.receiving = true → ∀ d ∈ s.downlink, s.sync.matching d.content ≠ none →
    d.origin.transmission = s.recorded
  fresh : ∀ x ∈ s.samples, x.Fresh

section
variable {p : Pairing} {s t : Network}

theorem start_owned (now : ℚ) (requests : List Handshake) (replies : List HandshakeReply) :
    (start now requests replies).Owned := ⟨by simp, by simp, by simp, by simp⟩

/-- A quiet transmission owns what matches from now on: only its own beacon does. -/
theorem Quiet.send (quiet : s.Quiet) (h : s.Owned) : (s.send p).Owned := by
  refine ⟨?_, ?_, ?_, h.fresh⟩
  · intro _ running d hd current
    obtain hd | hd := List.mem_append.mp hd
    · exact absurd current (quiet.uplink running d hd)
    · obtain rfl := List.mem_singleton.mp hd
      rfl
  · intro _ recvTime replying
    exact absurd replying (quiet.replying recvTime)
  · intro _ d hd matched
    exact absurd (quiet.downlink d hd) matched

/-- Outside the inner loop nothing is matched. -/
theorem Owned.leave (h : s.Owned) (n : SyncLoop) (left : n.receiving = false) :
    ({ s with sync := n } : Network).Owned := by
  have never : ∀ {P : Prop}, n.receiving = true → P := fun receiving => by simp [left] at receiving
  exact ⟨never, never, never, h.fresh⟩

theorem Owned.syncReceive (h : s.Owned) (timed : s.Timed) (receiving : s.sync.receiving = true)
    {d : Datagram Answer} {rest : List (Datagram Answer)} (hd : d ∈ s.downlink)
    (sub : ∀ e ∈ rest, e ∈ s.downlink) : (s.syncReceive p d rest).Owned := by
  unfold Network.syncReceive
  cases matched : s.sync.matching d.content with
  | none => exact ⟨h.uplink, h.serving, fun r e he => h.downlink r e (sub e he), h.fresh⟩
  | some reply =>
    have own := h.downlink receiving d hd (by simp [matched])
    refine ⟨nofun, nofun, nofun, ?_⟩
    intro x hx
    obtain hx | hx := List.mem_append.mp hx
    · exact h.fresh x hx
    · obtain rfl := List.mem_singleton.mp hx
      exact (timed.downlink d hd).fresh own

theorem Owned.referenceReceive (h : s.Owned) (running : s.reference.running = true)
    (listening : s.reference.replying = none)
    {d : Datagram Transmission} {rest : List (Datagram Transmission)} (hd : d ∈ s.uplink)
    (sub : ∀ e ∈ rest, e ∈ s.uplink) : (s.referenceReceive p d rest).Owned := by
  refine ⟨fun r _ e he => h.uplink r running e (sub e he), ?_, ?_, h.fresh⟩
  · intro receiving recvTime replying
    exact h.uplink receiving running d hd (ServeLoop.receive_replying listening replying)
  · intro receiving e he matched
    obtain he | he := List.mem_append.mp he
    · exact h.downlink receiving e he matched
    · obtain ⟨msg, hmsg, rfl⟩ := List.mem_map.mp he
      obtain ⟨reply, hreply⟩ := Option.ne_none_iff_exists'.mp matched
      exact absurd (SyncLoop.matching_content hreply) (ServeLoop.atOnce_no_reply hmsg reply)

theorem Owned.referenceReply (h : s.Owned) {beacon : Beacon} {recvTime : ℚ}
    (replying : s.reference.replying = some (beacon, recvTime)) :
    (s.referenceReply p beacon recvTime).Owned := by
  refine ⟨h.uplink, nofun, ?_, h.fresh⟩
  intro receiving e he matched
  obtain he | he := List.mem_append.mp he
  · exact h.downlink receiving e he matched
  · obtain rfl := List.mem_singleton.mp he
    by_cases current : beacon = s.sync.beacon
    · exact h.serving receiving recvTime (current ▸ replying)
    · exact absurd (SyncLoop.matching_other current ..) matched

/-- A step of a run in which every beacon is sent quietly. -/
def QuietStep (p : Pairing) (s : Network) (a : Action) (t : Network) : Prop :=
  Step p s a t ∧ (a = .send → s.Quiet)

theorem QuietStep.owned {a : Action} (h : QuietStep p s a t) (timed : s.Timed) (owned : s.Owned) :
    t.Owned := by
  obtain ⟨step, quiet⟩ := h
  cases step with
  | elapse => exact ⟨owned.uplink, owned.serving, owned.downlink, owned.fresh⟩
  | send => exact (quiet rfl).send owned
  | retry => exact owned.leave _ rfl
  | syncReceive receiving taken =>
    exact owned.syncReceive timed receiving (mem_of_take? taken) fun e he => mem_of_take?_rest taken he
  | syncStop => exact owned.leave _ rfl
  | referenceReceive running listening taken =>
    exact owned.referenceReceive running listening (mem_of_take? taken) fun e he => mem_of_take?_rest taken he
  | referenceReply replying => exact owned.referenceReply replying
  | referenceStop => exact ⟨nofun, nofun, owned.downlink, owned.fresh⟩
  | uplink fault =>
    exact ⟨fun r r' d hd => owned.uplink r r' d (Fault.mem_of_apply hd), owned.serving, owned.downlink,
      owned.fresh⟩
  | downlink fault =>
    exact ⟨owned.uplink, owned.serving, fun r d hd => owned.downlink r d (Fault.mem_of_apply hd),
      owned.fresh⟩

end

section
variable {p : Pairing} {now : ℚ} {requests : List Handshake} {replies : List HandshakeReply}
  {past : List Action} {s : Network}

theorem run_owned (run : Run (QuietStep p) (start now requests replies) past s) : s.Owned :=
  (run.invariant (P := fun _ s => s.Timed ∧ s.Owned)
    ⟨start_timed now requests replies, start_owned now requests replies⟩
    fun _ _ _ _ _ h step => ⟨step.1.timed h.1, step.owned h.1 h.2⟩).2

end

/-- In some continuation the transmission recorded now is paired with a reply to another. -/
def GoesStale (p : Pairing) (s : Network) : Prop :=
  ∃ more t, Run (Step p) s more t ∧ ∃ x ∈ t.samples, x.recorded = s.recorded ∧ ¬ x.Fresh

section
variable {p : Pairing} {s t : Network}

theorem GoesStale.of_step {a : Action} (step : Step p s a t) (same : t.recorded = s.recorded)
    (h : GoesStale p t) : GoesStale p s := by
  obtain ⟨more, u, run, stale⟩ := h
  rw [same] at stale
  exact ⟨[a] ++ more, u, (Run.start.step step).append run, stale⟩

theorem goesStale_downlink (receiving : s.sync.receiving = true) {d : Datagram Answer}
    (hd : d ∈ s.downlink) (matched : s.sync.matching d.content ≠ none)
    (other : d.origin.transmission ≠ s.recorded) : GoesStale p s := by
  obtain ⟨i, rest, taken⟩ := exists_take? hd
  obtain ⟨reply, hreply⟩ := Option.ne_none_iff_exists'.mp matched
  refine ⟨[.syncReceive i], _, Run.start.step (.syncReceive receiving taken), ?_⟩
  rw [Network.syncReceive, hreply]
  exact ⟨_, List.mem_append_right _ (List.mem_singleton_self _), rfl, fun fresh => other fresh.own⟩

theorem goesStale_replying (receiving : s.sync.receiving = true) {recvTime : ℚ}
    (replying : s.reference.replying = some (s.sync.beacon, recvTime))
    (other : s.serving ≠ s.recorded) : GoesStale p s := by
  apply GoesStale.of_step (.referenceReply replying) rfl
  refine goesStale_downlink receiving (List.mem_append_right _ (List.mem_singleton_self _)) ?_ other
  exact ne_of_eq_of_ne (SyncLoop.matching_own ..) (by simp)

theorem goesStale_listening (receiving : s.sync.receiving = true)
    (running : s.reference.running = true) (listening : s.reference.replying = none)
    {d : Datagram Transmission} (hd : d ∈ s.uplink) (current : d.content = .beacon s.sync.beacon)
    (other : d.origin ≠ s.recorded) : GoesStale p s := by
  obtain ⟨i, rest, taken⟩ := exists_take? hd
  have replying : (s.referenceReceive p d rest).reference.replying =
      some (s.sync.beacon, p.referenceClock s.now) := by
    simp only [Network.referenceReceive, current, ServeLoop.receive]
  apply GoesStale.of_step (.referenceReceive running listening taken) rfl
  exact goesStale_replying receiving replying other

theorem goesStale_uplink (receiving : s.sync.receiving = true) (running : s.reference.running = true)
    {d : Datagram Transmission} (hd : d ∈ s.uplink) (current : d.content = .beacon s.sync.beacon)
    (other : d.origin ≠ s.recorded) : GoesStale p s := by
  cases replying : s.reference.replying with
  | none => exact goesStale_listening receiving running replying hd current other
  | some busy =>
    -- the reply to the beacon in service goes out first
    obtain ⟨beacon, recvTime⟩ := busy
    apply GoesStale.of_step (.referenceReply replying) rfl
    exact goesStale_listening receiving running rfl hd current other

/-- A beacon sent while its number is still under way can be answered by an old reply. -/
theorem goesStale_send (numbered : ∀ x, s.Underway x → x.number ≤ s.sends)
    (loud : ¬ s.Quiet) : GoesStale p (s.send p) := by
  have old : ∀ x, s.Underway x → x ≠ s.transmission := by
    rintro x under rfl
    exact absurd (numbered _ under) (Nat.not_succ_le_self _)
  by_contra never
  apply loud
  constructor
  · intro running d hd current
    exact never (goesStale_uplink (s := s.send p) rfl running (List.mem_append_left _ hd) current
      (old _ (.inl ⟨d, hd, rfl⟩)))
  · intro recvTime replying
    exact never (goesStale_replying rfl replying (old _ (.inr (.inl rfl))))
  · intro d hd
    by_contra matched
    exact never (goesStale_downlink rfl hd matched (old _ (.inr (.inr ⟨d, hd, rfl⟩))))

end

end Network

open Network

/-- **Accepted replies are fresh in the runs whose beacons are sent quietly.** A beacon sent
otherwise can be paired with an old reply. -/
theorem replies_fresh (p : Pairing) (now : ℚ) (requests : List Handshake)
    (replies : List HandshakeReply) :
    (∀ past s, Run (QuietStep p) (start now requests replies) past s → ∀ x ∈ s.samples, x.Fresh) ∧
      ∀ past s t, Run (Step p) (start now requests replies) past s → Step p s .send t →
        ¬ s.Quiet → GoesStale p t := by
  constructor
  · intro past s run
    exact (run_owned run).fresh
  · intro past s t run step loud
    cases step
    exact goesStale_send (run_numbered run) loud

/-- Both clocks show the real time, and nothing is compensated. -/
def plainPairing : Pairing := ⟨.new ⟨0, 0⟩ 0 0, ⟨0, 0⟩, id, id⟩

/-- The reply to a beacon sent at 0, received at 1 and answered at 2. -/
def firstReply : Datagram Answer :=
  ⟨.beaconR (ServeLoop.reply plainPairing.reference ⟨0⟩ 1 2), ⟨⟨1, 0⟩, 1, 2⟩⟩

/-- The first reply is on its way. -/
def replied : Network where
  sync := SyncLoop.start.sent 0
  reference := .start
  uplink := []
  downlink := [firstReply]
  now := 2
  sends := 1
  recorded := ⟨1, 0⟩
  serving := ⟨1, 0⟩
  received := 1
  samples := []

theorem run_replied : Run (QuietStep plainPairing) (start 0 [] [])
    [.send, .elapse 1, .referenceReceive 0, .elapse 2, .referenceReply] replied := by
  have quiet : (start 0 [] []).Quiet := ⟨by simp [start], by simp, by simp [start]⟩
  have sent : Run (QuietStep plainPairing) (start 0 [] []) [.send] _ :=
    .step .start ⟨.send rfl rfl, fun _ => quiet⟩
  have received := (sent.step ⟨.elapse (by decide : (0 : ℚ) ≤ 1), nofun⟩).step
    ⟨.referenceReceive rfl rfl (rfl : take? _ 0 = some (⟨.beacon ⟨0⟩, ⟨1, 0⟩⟩, [])), nofun⟩
  exact (received.step ⟨.elapse (by decide : (1 : ℚ) ≤ 2), nofun⟩).step ⟨.referenceReply rfl, nofun⟩

/-- The SyncNode has timed out and is about to send again. -/
def timedOut : Network := { replied with sync := replied.sync.retry, now := 4 }

theorem run_timedOut : Run (Step plainPairing) (start 0 [] [])
    [.send, .elapse 1, .referenceReceive 0, .elapse 2, .referenceReply, .retry, .elapse 4] timedOut :=
  ((run_replied.mono fun _ _ _ h => h.1).step (.retry rfl)).step (.elapse (by decide : (2 : ℚ) ≤ 4))

theorem timedOut_loud : ¬ timedOut.Quiet := by
  intro quiet
  exact absurd (quiet.downlink firstReply (List.mem_singleton_self _)) nofun

theorem replies_fresh_once :
    (⟨(⟨0, 1, 2⟩, ⟨0, 2, 2⟩), ⟨1, 0⟩, ⟨⟨1, 0⟩, 1, 2⟩, 2⟩ : Sample).Fresh ∧
      GoesStale plainPairing (timedOut.send plainPairing) := by
  have fresh := replies_fresh plainPairing 0 [] []
  constructor
  · have accepted := run_replied.step
      ⟨.syncReceive rfl (rfl : take? _ 0 = some (firstReply, [])), nofun⟩
    refine fresh.1 _ _ accepted _ (List.mem_singleton.mpr ?_)
    decide +kernel
  · exact fresh.2 _ _ _ run_timedOut (.send rfl rfl) timedOut_loud

/-- The retransmission after the timeout is paired with the reply to the first beacon: its time
stamp 4 is later than the reception at 1. -/
theorem not_alwaysFresh : ¬ ∀ (p : Pairing) (now : ℚ) (requests : List Handshake)
    (replies : List HandshakeReply) (past : List Action) (s : Network),
    Run (Step p) (start now requests replies) past s → ∀ x ∈ s.samples, x.Fresh := by
  intro always
  have accepted := ((run_timedOut.step (.send rfl rfl)).step (.elapse (by decide : (4 : ℚ) ≤ 5))).step
    (.syncReceive rfl (rfl : take? _ 0 = some (firstReply, [])))
  have fresh := always _ _ _ _ _ _ accepted
    ⟨(⟨4, 1, 5⟩, ⟨4, 2, 5⟩), ⟨2, 4⟩, ⟨⟨1, 0⟩, 1, 2⟩, 5⟩
    (List.mem_singleton.mpr (by decide +kernel))
  exact absurd fresh.sent (by decide)

end MiniSynCPP
