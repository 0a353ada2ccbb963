import MiniSynCPP.Freshness

/-!
# The exchange goes on

Without losses, timeouts and shut-downs the two loops never block each other:
what is under way is worked off, and every few steps a reply is accepted. Here
duplicated, delayed and outdated datagrams may still be under way.
-/

namespace MiniSynCPP

open Channels Runs

namespace Network

/-- Nothing is lost or duplicated, and no node times out or stops. -/
def Action.Smooth : Action → Prop
  | .elapse _ | .send | .syncReceive _ | .referenceReceive _ | .referenceReply => True
  | .retry | .syncStop | .referenceStop | .uplink _ | .downlink _ => False

def SmoothStep (p : Pairing) (s : Network) (a : Action) (t : Network) : Prop :=
  Step p s a t ∧ a.Smooth

/-- The passage of time is no work. -/
def Action.work : Action → ℕ
  | .elapse _ => 0
  | _ => 1

/-- The steps that what is under way can still cause: a beacon is received, answered, and the reply
is received. -/
def backlog (s : Network) : ℕ :=
  3 * s.uplink.length + (match s.reference.replying with | some _ => 2 | none => 0) +
    s.downlink.length + (match s.sync.receiving with | true => 0 | false => 4)

/-- While the SyncNode waits, its beacon or a reply that it will accept is under way. -/
def Pending (s : Network) : Prop :=
  (∃ d ∈ s.uplink, d.content = .beacon s.sync.beacon) ∨
  (∃ recvTime, s.reference.replying = some (s.sync.beacon, recvTime)) ∨
  ∃ d ∈ s.downlink, s.sync.matching d.content ≠ none

/-- Both loops run, and none of them waits in vain. -/
structure Live (s : Network) : Prop where
  sync : s.sync.running = true
  reference : s.reference.running = true
  noGoodbye : ∀ d ∈ s.uplink, d.content ≠ .goodbye
  pending : s.sync.receiving = true → s.Pending

section
variable {p : Pairing} {s t : Network}

/-! ## No GoodBye is ever sent -/

theorem Step.noGoodbye {a : Action} (step : Step p s a t)
    (h : ∀ d ∈ s.uplink, d.content ≠ .goodbye) : ∀ d ∈ t.uplink, d.content ≠ .goodbye := by
  cases step with
  | send =>
    intro d hd
    obtain hd | hd := List.mem_append.mp hd
    · exact h d hd
    · obtain rfl := List.mem_singleton.mp hd
      exact nofun
  | @syncReceive i d rest _ taken =>
    unfold Network.syncReceive
    cases s.sync.matching d.content with
    | none => exact h
    | some reply => exact h
  | referenceReceive _ _ taken => exact fun d hd => h d (mem_of_take?_rest taken hd)
  | uplink fault => exact fun d hd => h d (Fault.mem_of_apply hd)
  | elapse | retry | syncStop | referenceReply | referenceStop | downlink => exact h

theorem run_noGoodbye {now : ℚ} {requests : List Handshake} {replies : List HandshakeReply}
    {past : List Action} (run : Run (Step p) (start now requests replies) past s) :
    ∀ d ∈ s.uplink, d.content ≠ .goodbye := by
  refine run.invariant (P := fun _ (s : Network) => ∀ d ∈ s.uplink, d.content ≠ .goodbye) ?_
    fun _ _ _ _ _ h step => step.noGoodbye h
  intro d hd
  obtain ⟨h, _, rfl⟩ := List.mem_map.mp hd
  exact nofun

/-! ## Smooth steps keep the loops alive -/

theorem Pending.ignore (h : s.Pending) {d : Datagram Answer} {rest : List (Datagram Answer)} {i : ℕ}
    (taken : take? s.downlink i = some (d, rest)) (ignored : s.sync.matching d.content = none) :
    ({ s with downlink := rest } : Network).Pending := by
  obtain up | replying | ⟨e, he, matched⟩ := h
  · exact .inl up
  · exact .inr (.inl replying)
  · refine .inr (.inr ⟨e, mem_rest_of_ne taken he ?_, matched⟩)
    rintro rfl
    exact matched ignored

theorem Pending.referenceReceive (h : s.Pending) (listening : s.reference.replying = none)
    {d : Datagram Transmission} {rest : List (Datagram Transmission)} {i : ℕ}
    (taken : take? s.uplink i = some (d, rest)) : (s.referenceReceive p d rest).Pending := by
  obtain ⟨e, he, current⟩ | ⟨recvTime, replying⟩ | ⟨e, he, matched⟩ := h
  · by_cases this : e = d
    · refine .inr (.inl ⟨p.referenceClock s.now, ?_⟩)
      rw [this] at current
      simp only [Network.referenceReceive, current, ServeLoop.receive]
    · exact .inl ⟨e, mem_rest_of_ne taken he this, current⟩
  · rw [listening] at replying
    cases replying
  · exact .inr (.inr ⟨e, List.mem_append_left _ he, matched⟩)

theorem Pending.referenceReply (h : s.Pending) {beacon : Beacon} {recvTime : ℚ}
    (replying : s.reference.replying = some (beacon, recvTime)) :
    (s.referenceReply p beacon recvTime).Pending := by
  obtain up | ⟨recvTime', same⟩ | ⟨e, he, matched⟩ := h
  · exact .inl up
  · rw [replying] at same
    cases same
    refine .inr (.inr ⟨_, List.mem_append_right _ (List.mem_singleton_self _), ?_⟩)
    exact ne_of_eq_of_ne (SyncLoop.matching_own ..) (by simp)
  · exact .inr (.inr ⟨e, List.mem_append_left _ he, matched⟩)

theorem ServeLoop.receive_running {n : ServeLoop} {recvTime : ℚ} {msg : MiniSyncMsg}
    (other : msg ≠ .goodbye) : (n.receive recvTime msg).running = n.running := by
  cases msg with
  | goodbye => exact absurd rfl other
  | _ => rfl

theorem SmoothStep.live {a : Action} (h : SmoothStep p s a t) (live : s.Live) : t.Live := by
  obtain ⟨step, smooth⟩ := h
  have noGoodbye := step.noGoodbye live.noGoodbye
  cases step with
  | elapse => exact ⟨live.sync, live.reference, noGoodbye, live.pending⟩
  | send =>
    exact ⟨live.sync, live.reference, noGoodbye,
      fun _ => .inl ⟨_, List.mem_append_right _ (List.mem_singleton_self _), rfl⟩⟩
  | @syncReceive i d rest receiving taken =>
    unfold Network.syncReceive at noGoodbye ⊢
    cases matched : s.sync.matching d.content with
    | none => exact ⟨live.sync, live.reference, live.noGoodbye,
        fun _ => (live.pending receiving).ignore taken matched⟩
    | some reply => exact ⟨live.sync, live.reference, live.noGoodbye, nofun⟩
  | @referenceReceive i d rest running listening taken =>
    refine ⟨live.sync, ?_, noGoodbye,
      fun receiving => (live.pending receiving).referenceReceive listening taken⟩
    exact (ServeLoop.receive_running (live.noGoodbye d (mem_of_take? taken))).trans running
  | referenceReply replying =>
    exact ⟨live.sync, live.reference, noGoodbye,
      fun receiving => (live.pending receiving).referenceReply replying⟩
  | retry | syncStop | referenceStop | uplink | downlink => exact smooth.elim

theorem run_live {more : List Action} (run : Run (SmoothStep p) s more t) (live : s.Live) : t.Live :=
  run.invariant (P := fun _ t => t.Live) live fun _ _ _ _ _ h step => step.live h

/-- One of the loops can always go on. -/
theorem Live.goes_on (live : s.Live) : ∃ a t, SmoothStep p s a t ∧ a.work = 1 := by
  cases receiving : s.sync.receiving with
  | false => exact ⟨.send, _, ⟨.send live.sync receiving, trivial⟩, rfl⟩
  | true =>
    cases replying : s.reference.replying with
    | some busy => exact ⟨.referenceReply, _, ⟨.referenceReply replying, trivial⟩, rfl⟩
    | none =>
      obtain ⟨d, hd, _⟩ | ⟨recvTime, same⟩ | ⟨d, hd, _⟩ := live.pending receiving
      · obtain ⟨i, rest, taken⟩ := exists_take? hd
        exact ⟨.referenceReceive i, _, ⟨.referenceReceive live.reference replying taken, trivial⟩, rfl⟩
      · rw [replying] at same
        cases same
      · obtain ⟨i, rest, taken⟩ := exists_take? hd
        exact ⟨.syncReceive i, _, ⟨.syncReceive receiving taken, trivial⟩, rfl⟩

/-! ## Smooth steps work off the backlog -/

theorem take?_length {α : Type} {c rest : List α} {i : ℕ} {d : α} (h : take? c i = some (d, rest)) :
    c.length = rest.length + 1 := by
  obtain ⟨found, rfl⟩ := take?_eq_some.mp h
  obtain ⟨bound, _⟩ := List.getElem?_eq_some_iff.mp found
  rw [List.length_eraseIdx_of_lt bound]
  omega

/-- Every step takes one off the backlog; a new beacon is paid for by the sample before it. -/
theorem SmoothStep.backlog {a : Action} (h : SmoothStep p s a t) :
    a.work + t.backlog + 4 * s.samples.length ≤ s.backlog + 4 * t.samples.length := by
  obtain ⟨step, smooth⟩ := h
  cases step with
  | elapse => exact Nat.le_of_eq (by rw [Action.work, Nat.zero_add]; rfl)
  | send running sending =>
    simp only [Action.work, Network.backlog, Network.send, SyncLoop.sent, sending, List.length_append,
      List.length_singleton]
    omega
  | @syncReceive i d rest receiving taken =>
    have shorter := take?_length taken
    unfold Network.syncReceive
    cases s.sync.matching d.content with
    | none =>
      simp only [Action.work, Network.backlog]
      omega
    | some reply =>
      simp only [Action.work, Network.backlog, SyncLoop.next, receiving, List.length_append,
        List.length_singleton]
      omega
  | @referenceReceive i d rest running listening taken =>
    have shorter := take?_length taken
    simp only [Action.work, Network.backlog, Network.referenceReceive, listening, List.length_append,
      List.length_map]
    cases d.content with
    | beacon | goodbye =>
      simp only [ServeLoop.receive, ServeLoop.atOnce, List.length_nil, List.length_singleton, listening]
      omega
    | notSet | handshake | handshakeR | beaconR | goodbyeR =>
      simp only [ServeLoop.receive, ServeLoop.atOnce, List.length_nil, listening]
      omega
  | referenceReply replying =>
    simp only [Action.work, Network.backlog, Network.referenceReply, replying, List.length_append,
      List.length_singleton]
    omega
  | retry | syncStop | referenceStop | uplink | downlink => exact smooth.elim

end

end Network

open Network

end MiniSynCPP
