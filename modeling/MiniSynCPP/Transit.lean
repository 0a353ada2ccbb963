import MiniSynCPP.Beacons

/-!
# What is under way

In every run the datagrams in flight, the beacon in service and the samples
come from transmissions that were made, in the order of an exchange, and their
time stamps show what the clocks showed then.
-/

namespace MiniSynCPP

open Channels Runs

structure Answer.InOrder (a : Answer) (now : ℚ) : Prop where
  sent : a.transmission.instant ≤ a.received
  served : a.received ≤ a.replied
  past : a.replied ≤ now

/-- The reply holds what the reference clock showed at the two instants of the answer. -/
def Answer.Stamped (p : Pairing) (a : Answer) (reply : BeaconReply) : Prop :=
  ∃ beacon, reply = ServeLoop.reply p.reference beacon (p.referenceClock a.received)
    (p.referenceClock a.replied)

/-- The data points were made from the clock readings at the instants of the sample. -/
def Sample.Stamped (p : Pairing) (x : Sample) : Prop :=
  ∃ (n : SyncLoop) (reply : BeaconReply), n.To = p.syncClock x.recorded.instant ∧
    x.answer.Stamped p reply ∧ x.points = n.dataPoints p.sync reply (p.syncClock x.accepted)

theorem SyncLoop.matching_content {n : SyncLoop} {msg : MiniSyncMsg} {reply : BeaconReply}
    (h : n.matching msg = some reply) : msg = .beaconR reply := by
  cases msg with
  | beaconR r =>
    obtain ⟨_, same⟩ := Option.ite_none_right_eq_some.mp h
    exact congrArg _ (Option.some.inj same)
  | _ => cases h

/-- Only a beacon makes a listening node reply. -/
theorem ServeLoop.receive_replying {n : ServeLoop} (listening : n.replying = none) {msg : MiniSyncMsg}
    {recvTime t : ℚ} {beacon : Beacon} (h : (n.receive recvTime msg).replying = some (beacon, t)) :
    msg = .beacon beacon := by
  cases msg with
  | beacon b =>
    obtain ⟨rfl, _⟩ := Prod.mk.inj (Option.some.inj h)
    rfl
  | _ => exact absurd (listening.symm.trans h) (by simp)

theorem ServeLoop.atOnce_no_reply {msg sent : MiniSyncMsg} (h : sent ∈ ServeLoop.atOnce msg)
    (reply : BeaconReply) : sent ≠ .beaconR reply := by
  cases msg with
  | goodbye =>
    obtain rfl := List.mem_singleton.mp h
    nofun
  | _ => exact absurd h List.not_mem_nil

namespace Network

section
variable {p : Pairing} {s t : Network}

/-- Everything under way was sent before now, in the order of an exchange. -/
structure Timed (s : Network) : Prop where
  uplink : ∀ d ∈ s.uplink, d.origin.instant ≤ s.now
  serving : s.serving.instant ≤ s.received
  received : s.received ≤ s.now
  downlink : ∀ d ∈ s.downlink, d.origin.InOrder s.now

theorem start_timed (now : ℚ) (requests : List Handshake) (replies : List HandshakeReply) :
    (start now requests replies).Timed := by
  refine ⟨?_, le_refl now, le_refl now, ?_⟩
  · intro d hd
    obtain ⟨h, _, rfl⟩ := List.mem_map.mp hd
    exact le_refl now
  · intro d hd
    obtain ⟨r, _, rfl⟩ := List.mem_map.mp hd
    exact ⟨le_refl now, le_refl now, le_refl now⟩

theorem Timed.elapse (h : s.Timed) {now : ℚ} (later : s.now ≤ now) :
    ({ s with now := now } : Network).Timed where
  uplink d hd := (h.uplink d hd).trans later
  serving := h.serving
  received := h.received.trans later
  downlink d hd := ⟨(h.downlink d hd).sent, (h.downlink d hd).served, (h.downlink d hd).past.trans later⟩

theorem Timed.send (h : s.Timed) : (s.send p).Timed := by
  refine ⟨?_, h.serving, h.received, h.downlink⟩
  intro d hd
  obtain hd | hd := List.mem_append.mp hd
  · exact h.uplink d hd
  · obtain rfl := List.mem_singleton.mp hd
    exact le_refl s.now

theorem Timed.syncReceive (h : s.Timed) {d : Datagram Answer} {rest : List (Datagram Answer)}
    (sub : ∀ e ∈ rest, e ∈ s.downlink) : (s.syncReceive p d rest).Timed := by
  unfold Network.syncReceive
  cases s.sync.matching d.content with
  | none => exact ⟨h.uplink, h.serving, h.received, fun e he => h.downlink e (sub e he)⟩
  | some reply => exact ⟨h.uplink, h.serving, h.received, fun e he => h.downlink e (sub e he)⟩

theorem Timed.referenceReceive (h : s.Timed) {d : Datagram Transmission}
    {rest : List (Datagram Transmission)} (hd : d ∈ s.uplink) (sub : ∀ e ∈ rest, e ∈ s.uplink) :
    (s.referenceReceive p d rest).Timed := by
  refine ⟨fun e he => h.uplink e (sub e he), h.uplink d hd, le_refl s.now, ?_⟩
  intro e he
  obtain he | he := List.mem_append.mp he
  · exact h.downlink e he
  · obtain ⟨msg, _, rfl⟩ := List.mem_map.mp he
    exact ⟨h.uplink d hd, le_refl s.now, le_refl s.now⟩

theorem Timed.referenceReply (h : s.Timed) (beacon : Beacon) (recvTime : ℚ) :
    (s.referenceReply p beacon recvTime).Timed := by
  refine ⟨h.uplink, h.serving, h.received, ?_⟩
  intro e he
  obtain he | he := List.mem_append.mp he
  · exact h.downlink e he
  · obtain rfl := List.mem_singleton.mp he
    exact ⟨h.serving, h.received, le_refl s.now⟩

theorem Step.timed {a : Action} (step : Step p s a t) (h : s.Timed) : t.Timed := by
  cases step with
  | elapse later => exact h.elapse later
  | send => exact h.send
  | retry => exact ⟨h.uplink, h.serving, h.received, h.downlink⟩
  | syncReceive _ taken => exact h.syncReceive fun e he => mem_of_take?_rest taken he
  | syncStop => exact ⟨h.uplink, h.serving, h.received, h.downlink⟩
  | referenceReceive _ _ taken =>
    exact h.referenceReceive (mem_of_take? taken) fun e he => mem_of_take?_rest taken he
  | referenceReply => exact h.referenceReply _ _
  | referenceStop => exact ⟨h.uplink, h.serving, h.received, h.downlink⟩
  | uplink fault =>
    exact ⟨fun d hd => h.uplink d (Fault.mem_of_apply hd), h.serving, h.received, h.downlink⟩
  | downlink fault =>
    exact ⟨h.uplink, h.serving, h.received, fun d hd => h.downlink d (Fault.mem_of_apply hd)⟩

end

/-- The time stamps under way show what the clocks showed at the instants noted with them. -/
structure Clocked (p : Pairing) (s : Network) : Prop where
  To : s.sync.receiving = true → s.sync.To = p.syncClock s.recorded.instant
  replying : ∀ beacon recvTime, s.reference.replying = some (beacon, recvTime) →
    recvTime = p.referenceClock s.received
  downlink : ∀ d ∈ s.downlink, ∀ reply, d.content = .beaconR reply → d.origin.Stamped p reply
  samples : ∀ x ∈ s.samples, x.Stamped p

section
variable {p : Pairing} {s t : Network}

theorem start_clocked (now : ℚ) (requests : List Handshake) (replies : List HandshakeReply) :
    (start now requests replies).Clocked p := by
  refine ⟨by simp, by simp, ?_, by simp⟩
  intro d hd reply content
  obtain ⟨r, _, rfl⟩ := List.mem_map.mp hd
  cases content

theorem Clocked.leave (h : s.Clocked p) (n : SyncLoop) (left : n.receiving = false) :
    ({ s with sync := n } : Network).Clocked p :=
  ⟨fun receiving => absurd receiving (by simp [left]), h.replying, h.downlink, h.samples⟩

theorem Clocked.syncReceive (h : s.Clocked p) (receiving : s.sync.receiving = true)
    {d : Datagram Answer} {rest : List (Datagram Answer)} (hd : d ∈ s.downlink)
    (sub : ∀ e ∈ rest, e ∈ s.downlink) : (s.syncReceive p d rest).Clocked p := by
  unfold Network.syncReceive
  cases matched : s.sync.matching d.content with
  | none => exact ⟨h.To, h.replying, fun e he => h.downlink e (sub e he), h.samples⟩
  | some reply =>
    refine ⟨nofun, h.replying, fun e he => h.downlink e (sub e he), ?_⟩
    intro x hx
    obtain hx | hx := List.mem_append.mp hx
    · exact h.samples x hx
    · obtain rfl := List.mem_singleton.mp hx
      exact ⟨s.sync, reply, h.To receiving,
        h.downlink d hd reply (SyncLoop.matching_content matched), rfl⟩

theorem Clocked.referenceReceive (h : s.Clocked p) (listening : s.reference.replying = none)
    {d : Datagram Transmission} {rest : List (Datagram Transmission)} :
    (s.referenceReceive p d rest).Clocked p := by
  refine ⟨h.To, ?_, ?_, h.samples⟩
  · intro beacon recvTime replying
    have content := ServeLoop.receive_replying listening replying
    simp only [Network.referenceReceive, content, ServeLoop.receive, Option.some.injEq,
      Prod.mk.injEq] at replying
    exact replying.2.symm
  · intro e he reply content
    obtain he | he := List.mem_append.mp he
    · exact h.downlink e he reply content
    · obtain ⟨msg, hmsg, rfl⟩ := List.mem_map.mp he
      exact absurd content (ServeLoop.atOnce_no_reply hmsg reply)

theorem Clocked.referenceReply (h : s.Clocked p) {beacon : Beacon} {recvTime : ℚ}
    (replying : s.reference.replying = some (beacon, recvTime)) :
    (s.referenceReply p beacon recvTime).Clocked p := by
  refine ⟨h.To, nofun, ?_, h.samples⟩
  intro e he reply content
  obtain he | he := List.mem_append.mp he
  · exact h.downlink e he reply content
  · obtain rfl := List.mem_singleton.mp he
    cases content
    rw [h.replying beacon recvTime replying]
    exact ⟨beacon, rfl⟩

theorem Step.clocked {a : Action} (step : Step p s a t) (h : s.Clocked p) : t.Clocked p := by
  cases step with
  | elapse => exact ⟨h.To, h.replying, h.downlink, h.samples⟩
  | send => exact ⟨fun _ => rfl, h.replying, h.downlink, h.samples⟩
  | retry => exact h.leave _ rfl
  | syncReceive receiving taken =>
    exact h.syncReceive receiving (mem_of_take? taken) fun e he => mem_of_take?_rest taken he
  | syncStop => exact h.leave _ rfl
  | referenceReceive _ listening => exact h.referenceReceive listening
  | referenceReply replying => exact h.referenceReply replying
  | referenceStop => exact ⟨h.To, nofun, h.downlink, h.samples⟩
  | uplink => exact ⟨h.To, h.replying, h.downlink, h.samples⟩
  | downlink => exact ⟨h.To, h.replying, fun d hd => h.downlink d (Fault.mem_of_apply hd), h.samples⟩

/-- **Every data point holds the clock readings at the noted instants**, in every run. -/
theorem run_stamped {now : ℚ} {requests : List Handshake} {replies : List HandshakeReply}
    {past : List Action} (run : Run (Step p) (start now requests replies) past s) :
    ∀ x ∈ s.samples, x.Stamped p := by
  have clocked : s.Clocked p :=
    run.invariant (P := fun _ (t : Network) => t.Clocked p) (start_clocked now requests replies)
      fun _ _ _ _ _ h step => Step.clocked step h
  exact clocked.samples

end

/-- A transmission that something in flight or in service comes from. -/
def Underway (s : Network) (x : Transmission) : Prop :=
  (∃ d ∈ s.uplink, d.origin = x) ∨ s.serving = x ∨ ∃ d ∈ s.downlink, d.origin.transmission = x

section
variable {p : Pairing} {s t : Network}

theorem referenceReceive_underway {d : Datagram Transmission} {rest : List (Datagram Transmission)}
    (hd : d ∈ s.uplink) (sub : ∀ e ∈ rest, e ∈ s.uplink) {x : Transmission}
    (h : (s.referenceReceive p d rest).Underway x) : s.Underway x := by
  obtain ⟨e, he, rfl⟩ | rfl | ⟨e, he, rfl⟩ := h
  · exact .inl ⟨e, sub e he, rfl⟩
  · exact .inl ⟨d, hd, rfl⟩
  · obtain he | he := List.mem_append.mp he
    · exact .inr (.inr ⟨e, he, rfl⟩)
    · obtain ⟨_, _, rfl⟩ := List.mem_map.mp he
      exact .inl ⟨d, hd, rfl⟩

/-- Only a send brings a transmission under way, and it is a new one. -/
theorem Step.underway {a : Action} (step : Step p s a t) {x : Transmission} (h : t.Underway x) :
    s.Underway x ∨ a = .send ∧ x = s.transmission := by
  cases step with
  | send =>
    obtain ⟨e, he, rfl⟩ | h | h := h
    · obtain he | he := List.mem_append.mp he
      · exact .inl (.inl ⟨e, he, rfl⟩)
      · obtain rfl := List.mem_singleton.mp he
        exact .inr ⟨rfl, rfl⟩
    · exact .inl (.inr (.inl h))
    · exact .inl (.inr (.inr h))
  | @syncReceive i d rest _ taken =>
    left
    unfold Network.syncReceive at h
    cases matched : s.sync.matching d.content with
    | none =>
      rw [matched] at h
      exact h.imp_right (.imp_right fun ⟨e, he, same⟩ => ⟨e, mem_of_take?_rest taken he, same⟩)
    | some reply =>
      rw [matched] at h
      exact h.imp_right (.imp_right fun ⟨e, he, same⟩ => ⟨e, mem_of_take?_rest taken he, same⟩)
  | referenceReceive _ _ taken =>
    exact .inl (referenceReceive_underway (mem_of_take? taken) (fun e he => mem_of_take?_rest taken he) h)
  | referenceReply =>
    left
    obtain h | h | ⟨e, he, rfl⟩ := h
    · exact .inl h
    · exact .inr (.inl h)
    · obtain he | he := List.mem_append.mp he
      · exact .inr (.inr ⟨e, he, rfl⟩)
      · obtain rfl := List.mem_singleton.mp he
        exact .inr (.inl rfl)
  | uplink fault => exact .inl (h.imp_left fun ⟨e, he, same⟩ => ⟨e, Fault.mem_of_apply he, same⟩)
  | downlink fault =>
    exact .inl (h.imp_right (.imp_right fun ⟨e, he, same⟩ => ⟨e, Fault.mem_of_apply he, same⟩))
  | elapse | retry | syncStop | referenceStop => exact .inl h

theorem Step.sends {a : Action} (step : Step p s a t) :
    s.sends ≤ t.sends ∧ (a = .send → s.sends < t.sends) := by
  cases step with
  | send => exact ⟨Nat.le_succ _, fun _ => Nat.lt_succ_self _⟩
  | @syncReceive _ d =>
    unfold Network.syncReceive
    cases s.sync.matching d.content <;> exact ⟨le_rfl, nofun⟩
  | _ => exact ⟨le_rfl, nofun⟩

end

section
variable {p : Pairing} {now : ℚ} {requests : List Handshake} {replies : List HandshakeReply}
  {past : List Action} {s : Network}

theorem start_numbered {x : Transmission} (h : (start now requests replies).Underway x) :
    x.number = 0 := by
  obtain ⟨d, hd, rfl⟩ | rfl | ⟨d, hd, rfl⟩ := h
  · obtain ⟨_, _, rfl⟩ := List.mem_map.mp hd
    rfl
  · rfl
  · obtain ⟨_, _, rfl⟩ := List.mem_map.mp hd
    rfl

theorem run_numbered (run : Run (Step p) (start now requests replies) past s) :
    ∀ x, s.Underway x → x.number ≤ s.sends := by
  refine run.invariant (P := fun _ s => ∀ x, s.Underway x → x.number ≤ s.sends) ?_ ?_
  · intro x under
    exact (start_numbered under).le
  · intro _ s a t _ numbered step x under
    obtain under | ⟨sent, rfl⟩ := step.underway under
    · exact (numbered x under).trans step.sends.1
    · exact step.sends.2 sent

end

end Network

end MiniSynCPP
