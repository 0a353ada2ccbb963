import MiniSynCPP.Sampling

/-!
# The minimum delays of a node

The constructor of `Node` sends beacons to a thread of its own over the loopback interface and keeps
half of the least transit times. The two sides take turns, so each reply is the one to the beacon
just sent, and the least delays are those of the trips that count. Times are nanoseconds since `T0`.
-/

namespace MiniSynCPP

open Channels Runs

def totalSamples : ℕ := 5000

def consideredSamples : ℕ := 1000

/-- When a beacon and its reply were sent and received over the loopback interface. -/
structure Trip where
  sent : ℤ
  received : ℤ
  replied : ℤ
  returned : ℤ
  deriving DecidableEq

/-- The variables of the two loops: `tOut` is set while the reply is awaited, `echoing` between
reception and reply in the thread. -/
structure Loopback where
  i : ℕ
  tOut : Option ℤ
  minBcnDelay : ℚ
  minRplDelay : ℚ
  echoed : ℕ
  echoing : Option (Beacon × ℤ)
  beacons : List Beacon
  replies : List BeaconReply
  now : ℤ
  -- history: the instants of the trip under way, and the trips that counted
  trip : Trip
  trips : List Trip

namespace Loopback

/-- `max` is `std::numeric_limits<long double>::max()`. -/
def start (max : ℚ) : Loopback := ⟨0, none, max, max, 0, none, [], [], 0, ⟨0, 0, 0, 0⟩, []⟩

def bcnDelay (tOut : ℤ) (reply : BeaconReply) : ℚ := (microseconds reply.beaconRecvTime - tOut / 1000) / 2

def rplDelay (tIn : ℤ) (reply : BeaconReply) : ℚ := (tIn / 1000 - microseconds reply.replySendTime) / 2

def send (s : Loopback) : Loopback :=
  { s with
    tOut := some s.now
    beacons := s.beacons ++ [⟨UInt32.ofNat (s.i % 255)⟩]
    trip := { s.trip with sent := s.now } }

def echoReceive (s : Loopback) (beacon : Beacon) (rest : List Beacon) : Loopback :=
  { s with
    echoing := some (beacon, s.now)
    beacons := rest
    trip := { s.trip with received := s.now } }

def echoReply (s : Loopback) (beacon : Beacon) (tIn : ℤ) : Loopback :=
  { s with
    echoed := s.echoed + 1
    echoing := none
    replies := s.replies ++ [⟨beacon.seq, .ofInt tIn, .ofInt s.now⟩]
    trip := { s.trip with replied := s.now } }

/-- The last `considered_samples` count. -/
def receive (s : Loopback) (tOut : ℤ) (reply : BeaconReply) (rest : List BeaconReply) : Loopback :=
  let next := { s with i := s.i + 1, tOut := none, replies := rest }
  if totalSamples - consideredSamples ≤ s.i then
    { next with
      minBcnDelay := min (bcnDelay tOut reply) s.minBcnDelay
      minRplDelay := min (rplDelay s.now reply) s.minRplDelay
      trips := s.trips ++ [{ s.trip with returned := s.now }] }
  else next

def minimumDelays (s : Loopback) : MinimumDelays := ⟨s.minBcnDelay, s.minRplDelay⟩

inductive Action
  | elapse (now : ℤ)
  | send
  | echoReceive (i : ℕ)
  | echoReply
  | receive (i : ℕ)
  | loseBeacon (i : ℕ)
  | loseReply (i : ℕ)

/-- The loopback interface may drop a datagram, but it does not duplicate any. -/
inductive Step : Loopback → Action → Loopback → Prop
  | elapse {s : Loopback} {now : ℤ} (later : s.now ≤ now) : Step s (.elapse now) { s with now := now }
  | send {s : Loopback} (unfinished : s.i < totalSamples) (free : s.tOut = none) : Step s .send s.send
  | echoReceive {s : Loopback} {i : ℕ} {beacon : Beacon} {rest : List Beacon}
      (unfinished : s.echoed < totalSamples) (listening : s.echoing = none)
      (taken : take? s.beacons i = some (beacon, rest)) :
      Step s (.echoReceive i) (s.echoReceive beacon rest)
  | echoReply {s : Loopback} {beacon : Beacon} {tIn : ℤ} (echoing : s.echoing = some (beacon, tIn)) :
      Step s .echoReply (s.echoReply beacon tIn)
  | receive {s : Loopback} {i : ℕ} {tOut : ℤ} {reply : BeaconReply} {rest : List BeaconReply}
      (waiting : s.tOut = some tOut) (taken : take? s.replies i = some (reply, rest)) :
      Step s (.receive i) (s.receive tOut reply rest)
  | loseBeacon {s : Loopback} (i : ℕ) :
      Step s (.loseBeacon i) { s with beacons := (Fault.lose i).apply s.beacons }
  | loseReply {s : Loopback} (i : ℕ) :
      Step s (.loseReply i) { s with replies := (Fault.lose i).apply s.replies }

/-- Nothing is lost. -/
def Action.Smooth : Action → Prop
  | .loseBeacon _ | .loseReply _ => False
  | _ => True

def Action.work : Action → ℕ
  | .elapse _ => 0
  | _ => 1

end Loopback

/-- Its four times are in order. -/
structure Trip.InOrder (trip : Trip) : Prop where
  uplink : trip.sent ≤ trip.received
  echo : trip.received ≤ trip.replied
  downlink : trip.replied ≤ trip.returned

/-- Half of a transit, in microseconds. -/
def Trip.uplinkDelay (trip : Trip) : ℚ := (trip.received - trip.sent) / 2000

@[inherit_doc Trip.uplinkDelay]
def Trip.downlinkDelay (trip : Trip) : ℚ := (trip.returned - trip.replied) / 2000

namespace Loopback

/-- The two sides take turns: what is under way after so many steps of a round, and the instants of
the trip so far. -/
inductive Turn (s : Loopback) : ℕ → Prop
  | idle (free : s.tOut = none) (beacons : s.beacons = []) (listening : s.echoing = none)
      (replies : s.replies = []) (echoed : s.echoed = s.i) (most : s.i ≤ totalSamples) : Turn s 0
  | sent (beacon : Beacon) (waiting : s.tOut = some s.trip.sent) (early : 0 ≤ s.trip.sent)
      (past : s.trip.sent ≤ s.now) (beacons : s.beacons = [beacon]) (listening : s.echoing = none)
      (replies : s.replies = []) (echoed : s.echoed = s.i) (unfinished : s.i < totalSamples) : Turn s 1
  | received (beacon : Beacon) (waiting : s.tOut = some s.trip.sent) (early : 0 ≤ s.trip.sent)
      (uplink : s.trip.sent ≤ s.trip.received) (past : s.trip.received ≤ s.now) (beacons : s.beacons = [])
      (echoing : s.echoing = some (beacon, s.trip.received)) (replies : s.replies = [])
      (echoed : s.echoed = s.i) (unfinished : s.i < totalSamples) : Turn s 2
  | replied (seq : UInt32) (waiting : s.tOut = some s.trip.sent) (early : 0 ≤ s.trip.sent)
      (uplink : s.trip.sent ≤ s.trip.received) (echo : s.trip.received ≤ s.trip.replied)
      (past : s.trip.replied ≤ s.now) (beacons : s.beacons = []) (listening : s.echoing = none)
      (replies : s.replies = [⟨seq, .ofInt s.trip.received, .ofInt s.trip.replied⟩])
      (echoed : s.echoed = s.i + 1) (unfinished : s.i < totalSamples) : Turn s 3

/-- A datagram was lost, and both sides wait for ever. -/
structure Stuck (s : Loopback) : Prop where
  waiting : s.tOut ≠ none
  beacons : s.beacons = []
  listening : s.echoing = none
  replies : s.replies = []

theorem take?_singleton {α : Type} {a d : α} {rest : List α} {i : ℕ}
    (h : take? [a] i = some (d, rest)) : d = a ∧ rest = [] := by
  obtain ⟨found, rfl⟩ := take?_eq_some.mp h
  obtain ⟨here, same⟩ := List.getElem?_eq_some_iff.mp found
  have first : i = 0 := by simpa using here
  subst first
  exact ⟨same.symm, rfl⟩

theorem not_take?_nil {α : Type} {d : α} {rest : List α} {i : ℕ} :
    take? ([] : List α) i ≠ some (d, rest) := by
  intro h
  simpa using (take?_eq_some.mp h).1

theorem start_turn (max : ℚ) : (start max).Turn 0 := .idle rfl rfl rfl rfl rfl (Nat.zero_le _)

section
variable {s t : Loopback} {k : ℕ}

theorem receive_i (tOut : ℤ) (reply : BeaconReply) (rest : List BeaconReply) :
    (s.receive tOut reply rest).i = s.i + 1 := by
  unfold receive
  split <;> rfl

theorem Turn.elapse (h : s.Turn k) {now : ℤ} (later : s.now ≤ now) :
    ({ s with now := now } : Loopback).Turn k := by
  cases h with
  | idle free beacons listening replies echoed most => exact .idle free beacons listening replies echoed most
  | sent beacon waiting early past beacons listening replies echoed unfinished =>
    exact .sent beacon waiting early (past.trans later) beacons listening replies echoed unfinished
  | received beacon waiting early uplink past beacons echoing replies echoed unfinished =>
    exact .received beacon waiting early uplink (past.trans later) beacons echoing replies echoed unfinished
  | replied seq waiting early uplink echo past beacons listening replies echoed unfinished =>
    exact .replied seq waiting early uplink echo (past.trans later) beacons listening replies echoed
      unfinished

theorem Turn.send (h : s.Turn k) (positive : 0 ≤ s.now) (unfinished : s.i < totalSamples)
    (free : s.tOut = none) : k = 0 ∧ s.send.Turn 1 := by
  cases h with
  | idle _ beacons listening replies echoed =>
    refine ⟨rfl, .sent ⟨UInt32.ofNat (s.i % 255)⟩ rfl positive (le_refl _) ?_ listening replies echoed
      unfinished⟩
    rw [Loopback.send, beacons, List.nil_append]
  | sent _ waiting | received _ waiting | replied _ waiting =>
    rw [free] at waiting
    cases waiting

theorem Turn.echoReceive (h : s.Turn k) {i : ℕ} {beacon : Beacon} {rest : List Beacon}
    (taken : take? s.beacons i = some (beacon, rest)) : k = 1 ∧ (s.echoReceive beacon rest).Turn 2 := by
  cases h with
  | sent b waiting early past beacons listening replies echoed unfinished =>
    rw [beacons] at taken
    obtain ⟨_, rfl⟩ := take?_singleton taken
    exact ⟨rfl, .received beacon waiting early past (le_refl _) rfl rfl replies echoed unfinished⟩
  | idle _ beacons | received _ _ _ _ _ beacons | replied _ _ _ _ _ _ beacons =>
    rw [beacons] at taken
    exact absurd taken not_take?_nil

theorem Turn.echoReply (h : s.Turn k) {beacon : Beacon} {tIn : ℤ}
    (echoing : s.echoing = some (beacon, tIn)) : k = 2 ∧ (s.echoReply beacon tIn).Turn 3 := by
  cases h with
  | received b waiting early uplink past beacons same replies echoed unfinished =>
    rw [echoing] at same
    obtain ⟨_, rfl⟩ := Prod.mk.inj (Option.some.inj same)
    refine ⟨rfl, .replied beacon.seq waiting early uplink past (le_refl _) beacons rfl ?_ ?_ unfinished⟩
    · rw [Loopback.echoReply, replies, List.nil_append]
    · rw [Loopback.echoReply, echoed]
  | idle _ _ listening | sent _ _ _ _ _ listening | replied _ _ _ _ _ _ _ listening =>
    rw [listening] at echoing
    cases echoing

/-- The reply that comes back is the one to the last beacon, and says when that was received and
answered. -/
theorem Turn.receive (h : s.Turn k) {i : ℕ} {tOut : ℤ} {reply : BeaconReply} {rest : List BeaconReply}
    (waiting : s.tOut = some tOut) (taken : take? s.replies i = some (reply, rest)) :
    k = 3 ∧ (s.receive tOut reply rest).Turn 0 ∧ tOut = s.trip.sent ∧ 0 ≤ s.trip.sent ∧
      s.trip.sent ≤ s.trip.received ∧ s.trip.received ≤ s.trip.replied ∧ s.trip.replied ≤ s.now ∧
      reply.beaconRecvTime = .ofInt s.trip.received ∧ reply.replySendTime = .ofInt s.trip.replied := by
  cases h with
  | replied seq same early uplink echo past beacons listening replies echoed unfinished =>
    rw [waiting] at same
    rw [replies] at taken
    obtain ⟨rfl, rfl⟩ := take?_singleton taken
    refine ⟨rfl, ?_, Option.some.inj same, early, uplink, echo, past, rfl, rfl⟩
    unfold Loopback.receive
    split <;> exact .idle rfl beacons listening rfl echoed unfinished
  | idle _ _ _ replies | sent _ _ _ _ _ _ replies | received _ _ _ _ _ _ _ replies =>
    rw [replies] at taken
    exact absurd taken not_take?_nil

/-- A round is four steps, which come one after the other. -/
theorem Step.turn {a : Action} (step : Step s a t) (smooth : a.Smooth) (positive : 0 ≤ s.now)
    (h : s.Turn k) : ∃ k', t.Turn k' ∧ a.work + (4 * s.i + k) = 4 * t.i + k' := by
  cases step with
  | elapse later => exact ⟨k, h.elapse later, Nat.zero_add _⟩
  | send unfinished free =>
    obtain ⟨rfl, next⟩ := h.send positive unfinished free
    exact ⟨1, next, by simp only [Action.work, Loopback.send]; omega⟩
  | echoReceive _ _ taken =>
    obtain ⟨rfl, next⟩ := h.echoReceive taken
    exact ⟨2, next, by simp only [Action.work, Loopback.echoReceive]; omega⟩
  | echoReply echoing =>
    obtain ⟨rfl, next⟩ := h.echoReply echoing
    exact ⟨3, next, by simp only [Action.work, Loopback.echoReply]; omega⟩
  | receive waiting taken =>
    obtain ⟨rfl, next, _⟩ := h.receive waiting taken
    exact ⟨0, next, by simp only [Action.work, receive_i]; omega⟩
  | loseBeacon | loseReply => exact smooth.elim

/-- One of the sides can always go on, until the last reply is back. -/
theorem Turn.goes_on (h : s.Turn k) (unfinished : s.i < totalSamples) :
    ∃ a t, Step s a t ∧ a.Smooth ∧ a.work = 1 := by
  cases h with
  | idle free => exact ⟨.send, _, .send unfinished free, trivial, rfl⟩
  | sent beacon _ _ _ beacons listening _ echoed =>
    have taken : take? s.beacons 0 = some (beacon, []) := by
      rw [beacons]
      rfl
    exact ⟨.echoReceive 0, _, .echoReceive (echoed ▸ unfinished) listening taken, trivial, rfl⟩
  | received _ _ _ _ _ _ echoing => exact ⟨.echoReply, _, .echoReply echoing, trivial, rfl⟩
  | replied _ waiting _ _ _ _ _ _ replies =>
    exact ⟨.receive 0, _, .receive waiting (by rw [replies]; rfl), trivial, rfl⟩

theorem Turn.loseBeacon (h : s.Turn k) (i : ℕ) :
    ({ s with beacons := (Fault.lose i).apply s.beacons } : Loopback).Turn k ∨
    ({ s with beacons := (Fault.lose i).apply s.beacons } : Loopback).Stuck := by
  by_cases none : s.beacons.eraseIdx i = s.beacons
  · left
    rw [Fault.apply, none]
    exact h
  · right
    cases h with
    | sent _ waiting _ _ beacons listening replies =>
      refine ⟨by simp [waiting], ?_, listening, replies⟩
      rw [beacons] at none ⊢
      cases i with
      | zero => rfl
      | succ i => exact absurd rfl none
    | idle _ beacons | received _ _ _ _ _ beacons | replied _ _ _ _ _ _ beacons =>
      rw [beacons] at none
      exact absurd rfl none

theorem Turn.loseReply (h : s.Turn k) (i : ℕ) :
    ({ s with replies := (Fault.lose i).apply s.replies } : Loopback).Turn k ∨
    ({ s with replies := (Fault.lose i).apply s.replies } : Loopback).Stuck := by
  by_cases none : s.replies.eraseIdx i = s.replies
  · left
    rw [Fault.apply, none]
    exact h
  · right
    cases h with
    | replied _ waiting _ _ _ _ beacons listening replies =>
      refine ⟨by simp [waiting], beacons, listening, ?_⟩
      rw [replies] at none ⊢
      cases i with
      | zero => rfl
      | succ i => exact absurd rfl none
    | idle _ _ _ replies | sent _ _ _ _ _ _ replies | received _ _ _ _ _ _ _ replies =>
      rw [replies] at none
      exact absurd rfl none

theorem Step.stuck {a : Action} (step : Step s a t) (h : s.Stuck) : t.Stuck := by
  obtain ⟨waiting, beacons, listening, replies⟩ := h
  cases step with
  | elapse => exact ⟨waiting, beacons, listening, replies⟩
  | send _ free => exact absurd free waiting
  | echoReceive _ _ taken =>
    rw [beacons] at taken
    exact absurd taken not_take?_nil
  | echoReply echoing =>
    rw [listening] at echoing
    cases echoing
  | receive _ taken =>
    rw [replies] at taken
    exact absurd taken not_take?_nil
  | loseBeacon i => exact ⟨waiting, by rw [beacons]; rfl, listening, replies⟩
  | loseReply i => exact ⟨waiting, beacons, listening, by rw [replies]; rfl⟩

/-- A loss ends the turns for good. -/
theorem Step.turn_or_stuck {a : Action} (step : Step s a t) (positive : 0 ≤ s.now)
    (h : (∃ k, s.Turn k) ∨ s.Stuck) : (∃ k, t.Turn k) ∨ t.Stuck := by
  obtain ⟨k, turn⟩ | stuck := h
  · by_cases smooth : a.Smooth
    · obtain ⟨k', next, _⟩ := step.turn smooth positive turn
      exact .inl ⟨k', next⟩
    · cases step with
      | loseBeacon i => exact (turn.loseBeacon i).imp_left fun next => ⟨k, next⟩
      | loseReply i => exact (turn.loseReply i).imp_left fun next => ⟨k, next⟩
      | elapse | send | echoReceive | echoReply | receive => exact absurd trivial smooth
  · exact .inr (step.stuck stuck)

theorem Step.now_le {a : Action} (step : Step s a t) : s.now ≤ t.now := by
  cases step with
  | elapse later => exact later
  | receive =>
    unfold Loopback.receive
    split <;> exact le_refl _
  | send | echoReceive | echoReply | loseBeacon | loseReply => exact le_refl _

end

/-! ## The least delays -/

/-- `value` is the least of the list, or still the initial one. -/
def LeastSoFar (max value : ℚ) (l : List ℚ) : Prop :=
  (∀ d ∈ l, value ≤ d) ∧ (value = max ∨ value ∈ l)

theorem LeastSoFar.snoc {max value : ℚ} {l : List ℚ} (h : LeastSoFar max value l) (d : ℚ) :
    LeastSoFar max (min d value) (l ++ [d]) := by
  constructor
  · intro e he
    obtain he | he := List.mem_append.mp he
    · exact (min_le_right _ _).trans (h.1 e he)
    · rw [List.mem_singleton.mp he]
      exact min_le_left _ _
  · obtain least | least := min_choice d value
    · rw [least]
      exact .inr (List.mem_append_right _ (List.mem_singleton_self _))
    · rw [least]
      exact h.2.imp_right (List.mem_append_left _)

theorem LeastSoFar.isLeast {max value : ℚ} {l : List ℚ} (h : LeastSoFar max value l)
    (below : ∀ d ∈ l, d < max) (some : l ≠ []) : IsLeast {d | d ∈ l} value := by
  refine ⟨?_, h.1⟩
  obtain initial | mem := h.2
  · obtain ⟨d, hd⟩ := List.exists_mem_of_ne_nil l some
    have least := h.1 d hd
    rw [initial] at least
    exact absurd (below d hd) (not_lt.mpr least)
  · exact mem

/-- What the loop knows of the trips that count. -/
structure Measured (max : ℚ) (s : Loopback) : Prop where
  counted : s.trips.length = s.i - (totalSamples - consideredSamples)
  trips : ∀ trip ∈ s.trips, trip.InOrder ∧ 0 ≤ trip.sent ∧ trip.returned ≤ s.now
  beacon : LeastSoFar max s.minBcnDelay (s.trips.map Trip.uplinkDelay)
  reply : LeastSoFar max s.minRplDelay (s.trips.map Trip.downlinkDelay)

theorem start_measured (max : ℚ) : Measured max (start max) :=
  ⟨(Nat.zero_sub _).symm, by simp [start], ⟨by simp [start], .inl rfl⟩, by simp [start], .inl rfl⟩

/-- A time below 2^63 ns is read back as it was. -/
theorem toInt_ofInt {n : ℤ} (h : 0 ≤ n) (short : n < 2 ^ 63) : (UInt64.ofInt n).toInt64.toInt = n := by
  have same := microseconds_ofInt h short
  unfold microseconds at same
  have scaled : ((UInt64.ofInt n).toInt64.toInt : ℚ) = n := by linarith
  exact_mod_cast scaled

section
variable {max : ℚ} {s t : Loopback}

theorem Measured.receive (h : Measured max s) {reply : BeaconReply} (rest : List BeaconReply)
    (early : 0 ≤ s.trip.sent) (uplink : s.trip.sent ≤ s.trip.received)
    (echo : s.trip.received ≤ s.trip.replied) (past : s.trip.replied ≤ s.now)
    (recv : reply.beaconRecvTime = .ofInt s.trip.received)
    (send : reply.replySendTime = .ofInt s.trip.replied) (short : s.now < 2 ^ 63) :
    Measured max (s.receive s.trip.sent reply rest) := by
  have recvAt : reply.beaconRecvTime.toInt64.toInt = s.trip.received := by
    rw [recv]
    exact toInt_ofInt (by omega) (by omega)
  have sendAt : reply.replySendTime.toInt64.toInt = s.trip.replied := by
    rw [send]
    exact toInt_ofInt (by omega) (by omega)
  have counted := h.counted
  unfold Loopback.receive
  split
  · rename_i considered
    simp only [bcnDelay, rplDelay, microseconds, recvAt, sendAt]
    refine ⟨?_, ?_, ?_, ?_⟩
    · simp only [List.length_append, List.length_singleton]
      omega
    · intro trip htrip
      obtain htrip | htrip := List.mem_append.mp htrip
      · exact h.trips trip htrip
      · obtain rfl := List.mem_singleton.mp htrip
        exact ⟨⟨uplink, echo, past⟩, early, le_refl _⟩
    · have next := h.beacon.snoc (Trip.uplinkDelay { s.trip with returned := s.now })
      rw [List.map_append, List.map_singleton]
      convert next using 2
      simp only [Trip.uplinkDelay]
      ring
    · have next := h.reply.snoc (Trip.downlinkDelay { s.trip with returned := s.now })
      rw [List.map_append, List.map_singleton]
      convert next using 2
      simp only [Trip.downlinkDelay]
      ring
  · rename_i early
    refine ⟨?_, h.trips, h.beacon, h.reply⟩
    show s.trips.length = s.i + 1 - _
    omega

theorem Step.measured {a : Action} (step : Step s a t) (short : t.now < 2 ^ 63)
    (turn : (∃ k, s.Turn k) ∨ s.Stuck) (h : Measured max s) : Measured max t := by
  cases step with
  | elapse later =>
    exact ⟨h.counted, fun trip htrip => (h.trips trip htrip).imp_right (.imp_right later.trans'), h.beacon,
      h.reply⟩
  | @receive i tOut reply rest waiting taken =>
    obtain ⟨k, turn⟩ | stuck := turn
    · obtain ⟨_, _, rfl, early, uplink, echo, past, recv, send⟩ := turn.receive waiting taken
      have now : s.now < 2 ^ 63 := (Step.receive waiting taken).now_le.trans_lt short
      exact h.receive rest early uplink echo past recv send now
    · rw [stuck.replies] at taken
      exact absurd taken not_take?_nil
  | send | echoReceive | echoReply | loseBeacon | loseReply => exact ⟨h.counted, h.trips, h.beacon, h.reply⟩

theorem run_measured {past : List Action} (run : Run Step (start max) past s) (short : s.now < 2 ^ 63) :
    0 ≤ s.now ∧ ((∃ k, s.Turn k) ∨ s.Stuck) ∧ Measured max s := by
  induction run with
  | start => exact ⟨le_refl _, .inl ⟨0, start_turn max⟩, start_measured max⟩
  | step _ step ih =>
    obtain ⟨positive, turn, measured⟩ := ih (step.now_le.trans_lt short)
    exact ⟨positive.trans step.now_le, step.turn_or_stuck positive turn,
      step.measured short turn measured⟩

/-- Without losses the turns go on, four steps a round. -/
theorem run_turns {past : List Action} (run : Run Step (start max) past s) (smooth : ∀ a ∈ past, a.Smooth) :
    0 ≤ s.now ∧ ∃ k, s.Turn k ∧ (past.map Action.work).sum = 4 * s.i + k := by
  induction run with
  | start => exact ⟨le_refl _, 0, start_turn max, rfl⟩
  | @step past s t a _ step ih =>
    obtain ⟨positive, k, turn, worked⟩ := ih fun b hb => smooth b (List.mem_append_left _ hb)
    obtain ⟨k', next, more⟩ :=
      step.turn (smooth a (List.mem_append_right _ (List.mem_singleton_self _))) positive turn
    refine ⟨positive.trans step.now_le, k', next, ?_⟩
    rw [List.map_append, List.sum_append_nat, List.map_singleton, List.sum_singleton]
    omega

theorem Turn.work_le {k : ℕ} (h : s.Turn k) : 4 * s.i + k ≤ 4 * totalSamples := by
  cases h with
  | idle _ _ _ _ _ most => omega
  | sent _ _ _ _ _ _ _ _ unfinished => omega
  | received _ _ _ _ _ _ _ _ _ unfinished => omega
  | replied _ _ _ _ _ _ _ _ _ _ unfinished => omega

end

end Loopback

open Loopback in
/-- **The minimum delays are measured right.** They are never negative; they are the least halves of the
transits that count, which are in order; together they are at most half of any loopback round trip. If
nothing is lost, the measurement never gets stuck and takes four steps for each of its samples. -/
theorem loopback_minimums (max : ℚ) (past : List Loopback.Action) (s : Loopback)
    (run : Run Loopback.Step (start max) past s) (large : 2 ^ 63 ≤ max) (short : s.now < 2 ^ 63) :
    s.minimumDelays.Nonneg ∧ s.trips.length = s.i - (totalSamples - consideredSamples) ∧
    (s.trips ≠ [] → IsLeast {d | d ∈ s.trips.map Trip.uplinkDelay} s.minimumDelays.beacon ∧
      IsLeast {d | d ∈ s.trips.map Trip.downlinkDelay} s.minimumDelays.beaconReply) ∧
    (∀ trip ∈ s.trips, trip.InOrder ∧
      s.minimumDelays.beacon + s.minimumDelays.beaconReply ≤ (trip.returned - trip.sent) / 2000) ∧
    ((∀ a ∈ past, a.Smooth) → (past.map Action.work).sum ≤ 4 * totalSamples ∧
      (s.i < totalSamples → ∃ a t, Loopback.Step s a t ∧ a.Smooth ∧ a.work = 1)) := by
  obtain ⟨_, _, counted, trips, beacon, reply⟩ := run_measured run short
  have now : (s.now : ℚ) < 2 ^ 63 := by exact_mod_cast short
  have transits : ∀ trip ∈ s.trips, 0 ≤ trip.uplinkDelay ∧ trip.uplinkDelay < max ∧
      0 ≤ trip.downlinkDelay ∧ trip.downlinkDelay < max ∧
      trip.uplinkDelay + trip.downlinkDelay ≤ (trip.returned - trip.sent) / 2000 := by
    intro trip htrip
    obtain ⟨⟨uplink, echo, downlink⟩, early, past⟩ := trips trip htrip
    have uplink' : (trip.sent : ℚ) ≤ trip.received := by exact_mod_cast uplink
    have echo' : (trip.received : ℚ) ≤ trip.replied := by exact_mod_cast echo
    have downlink' : (trip.replied : ℚ) ≤ trip.returned := by exact_mod_cast downlink
    have early' : (0 : ℚ) ≤ trip.sent := by exact_mod_cast early
    have past' : (trip.returned : ℚ) ≤ s.now := by exact_mod_cast past
    unfold Trip.uplinkDelay Trip.downlinkDelay
    refine ⟨?_, ?_, ?_, ?_, ?_⟩ <;> linarith
  have up : ∀ d ∈ s.trips.map Trip.uplinkDelay, 0 ≤ d ∧ d < max := by
    intro d hd
    obtain ⟨trip, htrip, rfl⟩ := List.mem_map.mp hd
    exact ⟨(transits trip htrip).1, (transits trip htrip).2.1⟩
  have down : ∀ d ∈ s.trips.map Trip.downlinkDelay, 0 ≤ d ∧ d < max := by
    intro d hd
    obtain ⟨trip, htrip, rfl⟩ := List.mem_map.mp hd
    exact ⟨(transits trip htrip).2.2.1, (transits trip htrip).2.2.2.1⟩
  have positive : 0 ≤ max := by linarith
  refine ⟨⟨?_, ?_⟩, counted, ?_, ?_, ?_⟩
  · exact beacon.2.elim (fun initial => positive.trans initial.ge) fun mem => (up _ mem).1
  · exact reply.2.elim (fun initial => positive.trans initial.ge) fun mem => (down _ mem).1
  · intro some
    exact ⟨beacon.isLeast (fun d hd => (up d hd).2) (by simpa using some),
      reply.isLeast (fun d hd => (down d hd).2) (by simpa using some)⟩
  · intro trip htrip
    have least := beacon.1 _ (List.mem_map_of_mem htrip)
    have least' := reply.1 _ (List.mem_map_of_mem htrip)
    have halves := (transits trip htrip).2.2.2.2
    exact ⟨(trips trip htrip).1, (add_le_add least least').trans halves⟩
  · intro smooth
    obtain ⟨_, k, turn, worked⟩ := run_turns run smooth
    exact ⟨worked ▸ turn.work_le, turn.goes_on⟩

namespace Loopback

/-- A round with 10 ns each way and 5 ns between. -/
def round (n : ℤ) : List Action :=
  [.send, .elapse (n + 10), .echoReceive 0, .elapse (n + 15), .echoReply, .elapse (n + 25), .receive 0]

theorem round_smooth (n : ℤ) : ∀ a ∈ round n, a.Smooth := by
  intro a ha
  simp only [round, List.mem_cons, List.not_mem_nil, or_false] at ha
  obtain rfl | rfl | rfl | rfl | rfl | rfl | rfl := ha <;> trivial

/-- The reply of the round before it is received. -/
def roundReply (i : ℕ) (n : ℤ) : BeaconReply := ⟨UInt32.ofNat (i % 255), .ofInt (n + 10), .ofInt (n + 15)⟩

theorem run_round (i : ℕ) (bcn rpl : ℚ) (n : ℤ) (trip : Trip) (trips : List Trip) (h : i < totalSamples) :
    Run Step ⟨i, none, bcn, rpl, i, none, [], [], n, trip, trips⟩ (round n)
      (receive ⟨i, some n, bcn, rpl, i + 1, none, [], [roundReply i n], n + 25,
        ⟨n, n + 10, n + 15, trip.returned⟩, trips⟩ n (roundReply i n) []) :=
  ((((((Run.start.step (.send h rfl)).step (.elapse (by simp [send]))).step
    (.echoReceive h rfl rfl)).step (.elapse (by simp [send, echoReceive]))).step (.echoReply rfl)).step
    (.elapse (by simp [send, echoReceive, echoReply]))).step (.receive rfl rfl)

/-- The first 4000 rounds do not count. -/
theorem run_rounds (max : ℚ) {n : ℕ} (h : n ≤ totalSamples - consideredSamples) :
    ∃ past trip, (∀ a ∈ past, a.Smooth) ∧ trip.returned = 0 ∧
      Run Step (start max) past ⟨n, none, max, max, n, none, [], [], 25 * n, trip, []⟩ := by
  induction n with
  | zero => exact ⟨[], _, by simp, rfl, .start⟩
  | succ n ih =>
    obtain ⟨past, trip, smooth, unset, run⟩ := ih (by omega)
    have early : n < totalSamples := by simp only [totalSamples, consideredSamples] at h ⊢; omega
    have next := run.append (run_round n max max (25 * n) trip [] early)
    rw [receive, if_neg (show ¬ totalSamples - consideredSamples ≤ n by omega)] at next
    refine ⟨_, ⟨25 * n, 25 * n + 10, 25 * n + 15, trip.returned⟩, ?_, unset, by simpa [mul_add] using next⟩
    exact fun a ha => (List.mem_append.mp ha).elim (smooth a) (round_smooth _ a)

end Loopback

/-- The first sample that counts, with 10 ns each way and 5 ns between. -/
theorem loopback_minimums_counted :
    let trip : Trip := ⟨100000, 100010, 100015, 100025⟩
    let s : Loopback := ⟨4001, none, 1 / 200, 1 / 200, 4001, none, [], [], 100025,
      { trip with returned := 0 }, [trip]⟩
    s.minimumDelays.Nonneg ∧ s.trips.length = s.i - (totalSamples - consideredSamples) ∧
    (IsLeast {d | d ∈ s.trips.map Trip.uplinkDelay} s.minimumDelays.beacon ∧
      IsLeast {d | d ∈ s.trips.map Trip.downlinkDelay} s.minimumDelays.beaconReply) ∧
    (∀ trip ∈ s.trips, trip.InOrder ∧
      s.minimumDelays.beacon + s.minimumDelays.beaconReply ≤ (trip.returned - trip.sent) / 2000) ∧
    ∃ a t, Loopback.Step s a t ∧ a.Smooth ∧ a.work = 1 := by
  intro trip s
  obtain ⟨past, last, smooth, unset, run⟩ :=
    Loopback.run_rounds (2 ^ 70) (show 4000 ≤ totalSamples - consideredSamples by decide)
  have bcn : min (Loopback.bcnDelay 100000 (Loopback.roundReply 4000 100000)) (2 ^ 70) = 1 / 200 := by
    decide +kernel
  have rpl : min (Loopback.rplDelay 100025 (Loopback.roundReply 4000 100000)) (2 ^ 70) = 1 / 200 := by
    decide +kernel
  have round := Loopback.run_round 4000 (2 ^ 70) (2 ^ 70) 100000 last [] (by decide)
  rw [Loopback.receive, if_pos (show totalSamples - consideredSamples ≤ 4000 by decide)] at round
  simp only [Int.reduceAdd, bcn, rpl, unset] at round
  rw [show (25 * (4000 : ℕ) : ℤ) = 100000 by norm_num] at run
  obtain ⟨nonneg, length, least, trips, goes⟩ :=
    loopback_minimums (2 ^ 70) _ s (run.append round) (by norm_num) (by decide)
  exact ⟨nonneg, length, least (by simp [s]), trips, (goes fun a ha =>
    (List.mem_append.mp ha).elim (smooth a) (Loopback.round_smooth _ a)).2 (by decide)⟩

end MiniSynCPP
