import MiniSynCPP.Session
import Mathlib.Data.List.ReduceOption

/-!
# The pace of the beacons

The times that `sync` keeps between its beacons: a retransmission follows a read timeout, and the
next number the sleep at the end of the exchange. Times are on the clock of the SyncNode. If
nothing stays under way for longer, beacons are sent quietly, whatever was lost before.
-/

namespace MiniSynCPP

open Channels Runs

/-- `RD_TIMEOUT_USEC`. -/
def rdTimeoutUsec : ℚ := 100000

/-- The 100 ms that the sleep fills up. -/
def period : ℚ := 100000

/-- `ti` is `t_i`, from the top of the loop to its end. -/
structure Pace where
  ti : Option ℚ
  -- when `recv_message` was entered, and when the sleep is over
  listening : ℚ
  wake : ℚ

namespace Pace

def start (p : Pairing) (now : ℚ) : Pace := ⟨none, p.syncClock now, p.syncClock now⟩

/-- A read times out only after its time, and a beacon is sent in the body of the loop. -/
def Allows (p : Pairing) (pace : Pace) (s : Network) : Network.Action → Prop
  | .send => ∃ t, pace.ti = some t
  | .retry => pace.listening + rdTimeoutUsec ≤ p.syncClock s.now
  | _ => True

/-- The SyncNode listens again when it has sent or ignored something. An accepted reply ends the body
with the sleep, a timeout ends it at once. -/
def after (p : Pairing) (pace : Pace) (s t : Network) : Network.Action → Pace
  | .send => { pace with listening := p.syncClock s.now }
  | .retry => { pace with ti := none }
  | .syncReceive _ =>
    match t.sync.receiving, pace.ti with
    | false, some ti => { pace with ti := none, wake := ti + period }
    | _, _ => { pace with listening := p.syncClock s.now }
  | _ => pace

/-- What the next beacon is not sent before. -/
def bar (p : Pairing) (pace : Pace) (now : ℚ) : ℚ :=
  match pace.ti with
  | some t => t
  | none => max pace.wake (p.syncClock now)

end Pace

namespace Network

/-- A beacon that may still be answered, or a reply, with this number is under way. -/
def Carries (s : Network) (seq : UInt32) (x : Transmission) : Prop :=
  (s.reference.running = true ∧ ∃ d ∈ s.uplink, d.content = .beacon ⟨seq⟩ ∧ d.origin = x) ∨
  (∃ recvTime, s.reference.replying = some (⟨seq⟩, recvTime) ∧ s.serving = x) ∨
  ∃ d ∈ s.downlink, ∃ reply, d.content = .beaconR reply ∧ reply.seq = seq ∧ d.origin.transmission = x

/-- Whatever is under way was sent less than `life` ago. -/
def Prompt (p : Pairing) (life : ℚ) (s : Network) : Prop :=
  ∀ seq x, s.Carries seq x → p.syncClock s.now < p.syncClock x.instant + life

section
variable {p : Pairing} {s t : Network} {seq : UInt32} {x : Transmission}

theorem start_carries {now : ℚ} {requests : List Handshake} {replies : List HandshakeReply} :
    ¬ (start now requests replies).Carries seq x := by
  rintro (⟨_, d, hd, content, _⟩ | ⟨_, replying, _⟩ | ⟨d, hd, _, content, _⟩)
  · obtain ⟨_, _, rfl⟩ := List.mem_map.mp hd
    cases content
  · cases replying
  · obtain ⟨_, _, rfl⟩ := List.mem_map.mp hd
    cases content

theorem quiet_of_not_carries (h : ∀ x, ¬ s.Carries s.sync.seq.toUInt32 x) : s.Quiet := by
  refine ⟨?_, ?_, ?_⟩
  · intro running d hd current
    exact h _ (.inl ⟨running, d, hd, current, rfl⟩)
  · intro recvTime replying
    exact h _ (.inr (.inl ⟨recvTime, replying, rfl⟩))
  · intro d hd
    cases matched : s.sync.matching d.content with
    | none => rfl
    | some reply =>
      have content := SyncLoop.matching_content matched
      rw [content] at matched
      obtain ⟨own, _⟩ := Option.ite_none_right_eq_some.mp matched
      exact absurd (.inr (.inr ⟨d, hd, reply, content, own, rfl⟩)) (h d.origin.transmission)

theorem receive_carries {i : ℕ} {d : Datagram Transmission} {rest : List (Datagram Transmission)}
    (running : s.reference.running = true) (listening : s.reference.replying = none)
    (taken : take? s.uplink i = some (d, rest)) (h : (s.referenceReceive p d rest).Carries seq x) :
    s.Carries seq x := by
  obtain ⟨_, e, he, content, origin⟩ | ⟨recvTime, replying, origin⟩ | ⟨e, he, reply, content, own⟩ := h
  · exact .inl ⟨running, e, mem_of_take?_rest taken he, content, origin⟩
  · have content := ServeLoop.receive_replying listening replying
    exact .inl ⟨running, d, mem_of_take? taken, content, origin⟩
  · obtain he | he := List.mem_append.mp he
    · exact .inr (.inr ⟨e, he, reply, content, own⟩)
    · obtain ⟨msg, hmsg, rfl⟩ := List.mem_map.mp he
      exact absurd content (ServeLoop.atOnce_no_reply hmsg reply)

/-- Only a send puts something new under way. -/
theorem Step.carries {a : Action} (step : Step p s a t) (h : t.Carries seq x) :
    s.Carries seq x ∨ a = .send ∧ seq = s.sync.seq.toUInt32 ∧ x = s.transmission := by
  cases step with
  | send =>
    obtain ⟨running, e, he, content, origin⟩ | h | h := h
    · obtain he | he := List.mem_append.mp he
      · exact .inl (.inl ⟨running, e, he, content, origin⟩)
      · obtain rfl := List.mem_singleton.mp he
        cases content
        exact .inr ⟨rfl, rfl, origin.symm⟩
    · exact .inl (.inr (.inl h))
    · exact .inl (.inr (.inr h))
  | @syncReceive i d rest _ taken =>
    left
    unfold Network.syncReceive at h
    cases matched : s.sync.matching d.content with
    | none | some reply =>
      rw [matched] at h
      obtain h | h | ⟨e, he, more⟩ := h
      · exact .inl h
      · exact .inr (.inl h)
      · exact .inr (.inr ⟨e, mem_of_take?_rest taken he, more⟩)
  | referenceReceive running listening taken => exact .inl (receive_carries running listening taken h)
  | referenceReply replying =>
    left
    obtain h | ⟨_, none, _⟩ | ⟨e, he, reply, content, own, origin⟩ := h
    · exact .inl h
    · cases none
    · obtain he | he := List.mem_append.mp he
      · exact .inr (.inr ⟨e, he, reply, content, own, origin⟩)
      · obtain rfl := List.mem_singleton.mp he
        cases content
        obtain rfl := own
        exact .inr (.inl ⟨_, replying, origin⟩)
  | referenceStop =>
    obtain ⟨running, _⟩ | ⟨_, replying, _⟩ | h := h
    · cases running
    · cases replying
    · exact .inl (.inr (.inr h))
  | uplink fault =>
    obtain ⟨running, e, he, more⟩ | h | h := h
    · exact .inl (.inl ⟨running, e, Fault.mem_of_apply he, more⟩)
    · exact .inl (.inr (.inl h))
    · exact .inl (.inr (.inr h))
  | downlink fault =>
    obtain h | h | ⟨e, he, more⟩ := h
    · exact .inl (.inl h)
    · exact .inl (.inr (.inl h))
    · exact .inl (.inr (.inr ⟨e, Fault.mem_of_apply he, more⟩))
  | elapse | retry | syncStop => exact .inl h

end

/-- The number of a beacon, from the count of the exchanges before it. -/
def number (n : ℕ) : UInt32 := (UInt8.ofNat n).toUInt32

theorem number_inj_mod {j n : ℕ} (h : number j = number n) : j % 256 = n % 256 := by
  have same := congrArg UInt32.toNat h
  simpa [number] using same

/-- What is known of a transmission that is under way: it belongs to an earlier exchange, each of
which took a period, or to the current one, and then a timeout ended it. -/
inductive Known (p : Pairing) (timedOut : Prop) (s : Network) (pace : Pace) (seq : UInt32)
    (x : Transmission) : Prop
  | earlier (j : ℕ) (before : j < s.samples.length) (own : seq = number j)
      (spaced : p.syncClock x.instant + period * (s.samples.length - 1 - j) ≤ pace.bar p s.now)
  | current (own : seq = number s.samples.length)
      (waiting : s.sync.receiving = true → p.syncClock x.instant ≤ pace.listening)
      (ended : s.sync.running = true → s.sync.receiving = false →
        timedOut ∧ p.syncClock x.instant + rdTimeoutUsec ≤ p.syncClock s.now)

structure Spaced (p : Pairing) (timedOut : Prop) (s : Network) (pace : Pace) : Prop where
  seq : s.sync.seq = UInt8.ofNat s.samples.length
  body : s.sync.receiving = true → ∃ t, pace.ti = some t
  begun : ∀ t, pace.ti = some t → t ≤ p.syncClock s.now
  listening : s.sync.receiving = true → pace.listening ≤ p.syncClock s.now
  known : ∀ seq x, s.Carries seq x → Known p timedOut s pace seq x

section
variable {p : Pairing} {s t : Network} {pace pace' : Pace} {T T' : Prop} {seq : UInt32} {x : Transmission}

theorem bar_le (begun : ∀ t, pace.ti = some t → t ≤ p.syncClock s.now) :
    pace.bar p s.now ≤ max pace.wake (p.syncClock s.now) := by
  unfold Pace.bar
  cases h : pace.ti with
  | none => exact le_refl _
  | some t => exact le_max_of_le_right (begun t h)

theorem start_spaced (p : Pairing) (now : ℚ) (requests : List Handshake) (replies : List HandshakeReply) :
    Spaced p False (start now requests replies) (.start p now) :=
  ⟨rfl, nofun, nofun, nofun, fun _ _ carried => absurd carried start_carries⟩

theorem Known.mono (h : Known p T s pace seq x) (sync : t.sync = s.sync) (samples : t.samples = s.samples)
    (timedOut : T → T') (bar : pace.bar p s.now ≤ pace'.bar p t.now)
    (listening : s.sync.receiving = true → pace.listening ≤ pace'.listening)
    (later : p.syncClock s.now ≤ p.syncClock t.now) : Known p T' t pace' seq x := by
  cases h with
  | earlier j before own spaced =>
    refine .earlier j (samples ▸ before) own ?_
    rw [samples]
    exact spaced.trans bar
  | current own waiting ended =>
    refine .current (samples ▸ own) ?_ ?_
    · rw [sync]
      exact fun receiving => (waiting receiving).trans (listening receiving)
    · rw [sync]
      intro running receiving
      obtain ⟨timed, late⟩ := ended running receiving
      exact ⟨timedOut timed, late.trans later⟩

/-- Steps that leave the loop of the SyncNode where it is. -/
theorem Spaced.same (h : Spaced p T s pace) (sync : t.sync = s.sync) (samples : t.samples = s.samples)
    (now : t.now = s.now) (timedOut : T → T')
    (carries : ∀ seq x, t.Carries seq x → s.Carries seq x) : Spaced p T' t pace := by
  refine ⟨?_, ?_, ?_, ?_, ?_⟩
  · rw [sync, samples]
    exact h.seq
  · rw [sync]
    exact h.body
  · rw [now]
    exact h.begun
  · rw [sync, now]
    exact h.listening
  · intro seq x carried
    exact (h.known seq x (carries seq x carried)).mono sync samples timedOut (by rw [now])
      (fun _ => le_refl _) (by rw [now])

theorem Spaced.elapse (h : Spaced p T s pace) (forward : Monotone p.syncClock) {now : ℚ}
    (later : s.now ≤ now) (timedOut : T → T') : Spaced p T' { s with now := now } pace := by
  have clock := forward later
  refine ⟨h.seq, h.body, fun t ht => (h.begun t ht).trans clock,
    fun receiving => (h.listening receiving).trans clock, ?_⟩
  intro seq x carried
  refine (h.known seq x carried).mono rfl rfl timedOut ?_ (fun _ => le_refl _) clock
  unfold Pace.bar
  cases pace.ti with
  | none => exact max_le_max_left _ clock
  | some t => exact le_refl t

theorem Spaced.send (h : Spaced p T s pace) (running : s.sync.running = true)
    (sending : s.sync.receiving = false) (allowed : pace.Allows p s .send) :
    Spaced p T' (s.send p) (pace.after p s (s.send p) .send) := by
  refine ⟨h.seq, fun _ => allowed, h.begun, fun _ => le_refl _, ?_⟩
  intro seq x carried
  obtain carried | ⟨_, own, rfl⟩ := (Step.send running sending).carries carried
  · cases h.known seq x carried with
    | earlier j before own spaced => exact .earlier j before own spaced
    | current own _ ended =>
      refine .current own (fun _ => ?_) nofun
      have late := (ended running sending).2
      have timeout : (0 : ℚ) ≤ rdTimeoutUsec := by norm_num [rdTimeoutUsec]
      exact (by linarith : p.syncClock x.instant ≤ p.syncClock s.now)
  · refine .current ?_ (fun _ => le_refl _) nofun
    rw [own, h.seq]
    rfl

theorem Spaced.retry (h : Spaced p T s pace) (receiving : s.sync.receiving = true)
    (allowed : pace.Allows p s .retry) :
    Spaced p True { s with sync := s.sync.retry }
      (pace.after p s { s with sync := s.sync.retry } .retry) := by
  refine ⟨h.seq, nofun, nofun, nofun, ?_⟩
  intro seq x carried
  cases h.known seq x carried with
  | earlier j before own spaced => exact .earlier j before own (spaced.trans (bar_le h.begun))
  | current own waiting _ =>
    refine .current own nofun fun _ _ => ⟨trivial, ?_⟩
    have sent := waiting receiving
    have expired : pace.listening + rdTimeoutUsec ≤ p.syncClock s.now := allowed
    exact (by linarith : p.syncClock x.instant + rdTimeoutUsec ≤ p.syncClock s.now)

theorem Spaced.syncReceive (h : Spaced p T s pace) (timedOut : T → T') (receiving : s.sync.receiving = true)
    {i : ℕ} {d : Datagram Answer} {rest : List (Datagram Answer)}
    (taken : take? s.downlink i = some (d, rest)) :
    Spaced p T' (s.syncReceive p d rest) (pace.after p s (s.syncReceive p d rest) (.syncReceive i)) := by
  have step : Step p s (.syncReceive i) (s.syncReceive p d rest) := .syncReceive receiving taken
  have carries : ∀ seq x, (s.syncReceive p d rest).Carries seq x → s.Carries seq x :=
    fun seq x carried => (step.carries carried).resolve_right fun sent => nomatch sent.1
  obtain ⟨ti, inBody⟩ := h.body receiving
  have listened := h.listening receiving
  unfold Network.syncReceive at carries ⊢
  cases matched : s.sync.matching d.content with
  | none =>
    rw [matched] at carries
    simp only [Pace.after, receiving]
    refine ⟨h.seq, fun _ => ⟨ti, inBody⟩, h.begun, fun _ => le_refl _, ?_⟩
    intro seq x carried
    exact (h.known seq x (carries seq x carried)).mono rfl rfl timedOut (le_refl _) (fun _ => listened)
      (le_refl _)
  | some reply =>
    rw [matched] at carries
    simp only [Pace.after, SyncLoop.next, inBody]
    refine ⟨?_, nofun, nofun, nofun, ?_⟩
    · rw [h.seq, List.length_append, List.length_singleton]
      exact (UInt8.ofNat_add _ _).symm
    · intro seq x carried
      have old := h.known seq x (carries seq x carried)
      cases old with
      | earlier j before own spaced =>
        refine .earlier j ?_ own ?_
        · rw [List.length_append]
          omega
        · rw [Pace.bar, inBody] at spaced
          simp only [Pace.bar, List.length_append, List.length_singleton]
          refine le_max_of_le_left ?_
          push_cast
          linarith
      | current own waiting _ =>
        refine .earlier s.samples.length ?_ own ?_
        · rw [List.length_append]
          exact Nat.lt_succ_self _
        · simp only [Pace.bar, List.length_append, List.length_singleton]
          refine le_max_of_le_right ?_
          have sent := waiting receiving
          push_cast
          linarith

/-- A node that stops sends nothing more. -/
theorem Spaced.stop (h : Spaced p T s pace) :
    Spaced p T' { s with sync := { s.sync with running := false, receiving := false } } pace := by
  refine ⟨h.seq, nofun, h.begun, nofun, ?_⟩
  intro seq x carried
  cases h.known seq x carried with
  | earlier j before own spaced => exact .earlier j before own spaced
  | current own _ _ => exact .current own nofun nofun

/-- The top of the loop, after the sleep. -/
theorem Spaced.turn (h : Spaced p T s pace) (timedOut : T → T') (outside : pace.ti = none)
    (awake : pace.wake ≤ p.syncClock s.now) :
    Spaced p T' s { pace with ti := some (p.syncClock s.now) } := by
  refine ⟨h.seq, fun _ => ⟨_, rfl⟩, ?_, h.listening, ?_⟩
  · intro t ht
    cases ht
    exact le_refl _
  · intro seq x carried
    refine (h.known seq x carried).mono rfl rfl timedOut ?_ (fun _ => le_refl _) (le_refl _)
    rw [Pace.bar, outside]
    exact max_le awake (le_refl _)

theorem Step.spaced {a : Action} (step : Step p s a t) (h : Spaced p T s pace)
    (forward : Monotone p.syncClock) (allowed : pace.Allows p s a) (timedOut : T → T')
    (timesOut : a = .retry → T') : Spaced p T' t (pace.after p s t a) := by
  have carries : a ≠ .send → ∀ seq x, t.Carries seq x → s.Carries seq x :=
    fun other seq x carried => (step.carries carried).resolve_right fun sent => other sent.1
  cases step with
  | elapse later => exact h.elapse forward later timedOut
  | send running sending => exact h.send running sending allowed
  | retry receiving =>
    have timed := timesOut rfl
    simpa [timed] using h.retry receiving allowed
  | syncReceive receiving taken => exact h.syncReceive timedOut receiving taken
  | syncStop => exact h.stop
  | referenceReceive | referenceReply | referenceStop | uplink | downlink =>
    exact h.same rfl rfl rfl timedOut (carries nofun)

/-- A beacon is sent when everything with its number is gone. -/
theorem Spaced.quiet (h : Spaced p T s pace) {life : ℚ} (prompt : s.Prompt p life)
    (running : s.sync.running = true) (sending : s.sync.receiving = false)
    (allowed : pace.Allows p s .send) (short : life ≤ rdTimeoutUsec ∨ ¬ T ∧ life ≤ 255 * period) :
    s.Quiet := by
  apply quiet_of_not_carries
  intro x carried
  have alive := prompt _ x carried
  obtain ⟨ti, inBody⟩ := allowed
  have begun := h.begun ti inBody
  have long : life ≤ 255 * period := by
    obtain short | ⟨_, short⟩ := short
    · exact short.trans (by norm_num [rdTimeoutUsec, period])
    · exact short
  cases h.known _ x carried with
  | earlier j before own spaced =>
    -- the numbers wrap around after 256 exchanges
    have apart : j + 256 ≤ s.samples.length := by
      rw [h.seq] at own
      have same := number_inj_mod own
      omega
    have apart' : (j : ℚ) + 256 ≤ s.samples.length := by exact_mod_cast apart
    have periods : period * 255 ≤ period * (s.samples.length - 1 - j) :=
      mul_le_mul_of_nonneg_left (by linarith) (by norm_num [period])
    rw [Pace.bar, inBody] at spaced
    linarith
  | current own waiting ended =>
    obtain ⟨timed, late⟩ := ended running sending
    obtain short | ⟨never, _⟩ := short
    · linarith
    · exact never timed

end

end Network

/-! ## Paced sessions -/

namespace Session
variable {M : Type} [Subclass M]

/-- What an action of the session is to the network. -/
def Action.net : Action → Network.Action
  | .network a => a
  | .process i _ => .syncReceive i

/-- A session with the times of its loop. `none` is the top of the loop. -/
inductive PacedStep (build : Build) (p : Pairing) :
    Session M × Pace → Option Action → Session M × Pace → Prop
  | turn {s : Session M} {pace : Pace} (running : s.net.sync.running = true) (outside : pace.ti = none)
      (awake : pace.wake ≤ p.syncClock s.net.now) :
      PacedStep build p (s, pace) none (s, { pace with ti := some (p.syncClock s.net.now) })
  | act {s t : Session M} {a : Action} {pace : Pace} (step : Step build p s a t)
      (allowed : pace.Allows p s.net a.net) :
      PacedStep build p (s, pace) (some a) (t, pace.after p s.net t.net a.net)

/-- A step of a run in which nothing is under way for `life` when a beacon is sent. -/
def PromptStep (build : Build) (p : Pairing) (life : ℚ) (s : Session M × Pace) (a : Option Action)
    (t : Session M × Pace) : Prop :=
  PacedStep build p s a t ∧ (a = some (.network .send) → s.1.net.Prompt p life)

section
variable {build : Build} {p : Pairing} {max life now : ℚ} {requests : List Handshake}
  {replies : List HandshakeReply} {past : List (Option Action)} {s t : Session M} {pace : Pace}

theorem Step.spaced {a : Action} {T T' : Prop} (step : Step build p s a t)
    (h : Network.Spaced p T s.net pace) (forward : Monotone p.syncClock)
    (allowed : pace.Allows p s.net a.net) (timedOut : T → T') (timesOut : a = .network .retry → T') :
    Network.Spaced p T' t.net (pace.after p s.net t.net a.net) := by
  cases step with
  | network step =>
    exact step.spaced h forward allowed timedOut fun retry => timesOut (congrArg Action.network retry)
  | process receiving taken => exact h.syncReceive timedOut receiving taken
  | failing receiving taken matched =>
    have received := h.syncReceive timedOut receiving taken
    simp only [Network.syncReceive, matched] at received ⊢
    exact received.stop

/-- A prompt beacon is sent quietly. -/
theorem PromptStep.quiet {u v : Session M × Pace} (step : PromptStep build p life u (some (.network .send)) v)
    (spaced : Network.Spaced p (some (.network .retry) ∈ past) u.1.net u.2)
    (short : life ≤ rdTimeoutUsec ∨ some (.network .retry) ∉ past ∧ life ≤ 255 * period) :
    u.1.net.Quiet := by
  obtain ⟨paced, prompt⟩ := step
  cases paced with
  | act step allowed =>
    cases step with
    | network step =>
      cases step with
      | send running sending => exact spaced.quiet (prompt rfl) running sending allowed short

/-- Without the turns of the loop a paced and prompt run is one that sends its beacons quietly. -/
theorem run_paced {u : Session M × Pace}
    (run : Run (PromptStep build p life) (start max now requests replies, .start p now) past u)
    (forward : Monotone p.syncClock)
    (short : life ≤ rdTimeoutUsec ∨ some (.network .retry) ∉ past ∧ life ≤ 255 * period) :
    Run (QuietStep build p) (start max now requests replies) past.reduceOption u.1 ∧
      Network.Spaced p (some (.network .retry) ∈ past) u.1.net u.2 := by
  induction run with
  | start =>
    refine ⟨.start, ?_⟩
    rw [eq_false List.not_mem_nil]
    exact Network.start_spaced p now requests replies
  | @step past s t i _ step ih =>
    have earlier : life ≤ rdTimeoutUsec ∨ some (.network .retry) ∉ past ∧ life ≤ 255 * period :=
      short.imp_right fun h => ⟨fun timed => h.1 (List.mem_append_left _ timed), h.2⟩
    obtain ⟨quietRun, spaced⟩ := ih earlier
    rw [List.reduceOption_append]
    have quiet : i = some (.network .send) → s.1.net.Quiet := by
      rintro rfl
      exact step.quiet spaced earlier
    cases step.1 with
    | turn running outside awake =>
      rw [List.reduceOption_singleton, Option.toList_none, List.append_nil]
      exact ⟨quietRun, spaced.turn (List.mem_append_left _) outside awake⟩
    | @act s t a pace acted allowed =>
      constructor
      · exact quietRun.step ⟨acted, fun sends => quiet (congrArg some sends)⟩
      · apply Step.spaced acted spaced forward allowed (List.mem_append_left _)
        rintro rfl
        exact List.mem_append_right _ (List.mem_singleton_self _)

end

end Session

open Session in
/-- **Promptness makes beacons quiet.** If whatever is under way when a beacon is sent was sent less
than a read timeout ago, or, where no read ever times out, less than 255 periods ago, then every beacon
of the run is sent quietly and every accepted reply is fresh, through any losses and wrap-arounds of the
number. -/
theorem paced_sessions_quiet (algo : Algo) (build : Build) (p : Pairing) (max life now : ℚ)
    (requests : List Handshake) (replies : List HandshakeReply) (past : List (Option Session.Action))
    (s : Session algo.Members) (pace : Pace)
    (run : Run (PromptStep build p life) (start max now requests replies, .start p now) past (s, pace))
    (forward : Monotone p.syncClock)
    (short : life ≤ rdTimeoutUsec ∨ some (.network .retry) ∉ past ∧ life ≤ 255 * period) :
    (∀ before after u v, past = before ++ some (.network .send) :: after →
      Run (PromptStep build p life) (start max now requests replies, .start p now) before u →
      PromptStep build p life u (some (.network .send)) v → Run (PromptStep build p life) v after (s, pace) →
      u.1.net.Quiet) ∧
    Run (QuietStep build p) (start max now requests replies) past.reduceOption s ∧
    ∀ x ∈ s.net.samples, x.Fresh := by
  refine ⟨?_, ?_⟩
  · intro before after u v split ran sends _
    have earlier : life ≤ rdTimeoutUsec ∨ some (.network .retry) ∉ before ∧ life ≤ 255 * period :=
      short.imp_right fun h => ⟨fun timed => h.1 (split ▸ List.mem_append_left _ timed), h.2⟩
    exact sends.quiet (run_paced ran forward earlier).2 earlier
  · have quiet := (run_paced run forward short).1
    obtain ⟨_, steps⟩ := run_network quiet
    exact ⟨quiet, (Network.run_owned steps).fresh⟩

/-- The first beacon is lost; the second one is sent after the read timeout. -/
def lostBeacon : Network where
  sync := { SyncLoop.start.sent 0 with receiving := false }
  reference := .start
  uplink := []
  downlink := []
  now := 100000
  sends := 1
  recorded := ⟨1, 0⟩
  serving := ⟨0, 0⟩
  received := 0
  samples := []

theorem run_lostBeacon (max : ℚ) : Run (Session.PromptStep .loguru steadyPairing rdTimeoutUsec)
    (Session.start max 0 [] [], .start steadyPairing 0)
    [none, some (.network .send), some (.network (.uplink (.lose 0))), some (.network (.elapse 100000)),
      some (.network .retry)]
    ((⟨lostBeacon, .init max, none⟩ : Session MiniSync), ⟨none, 0, 0⟩) := by
  have empty : (Network.start 0 [] []).Prompt steadyPairing rdTimeoutUsec :=
    fun _ _ carried => absurd carried Network.start_carries
  have turned : Run (Session.PromptStep (M := MiniSync) .loguru steadyPairing rdTimeoutUsec)
      (Session.start max 0 [] [], .start steadyPairing 0) [none] _ :=
    Run.start.step ⟨.turn rfl rfl (le_refl _), by simp⟩
  have sent := turned.step ⟨.act (.network (.send rfl rfl) rfl) ⟨_, rfl⟩, fun _ => empty⟩
  have lost := sent.step ⟨.act (.network (.uplink (.lose 0)) rfl) trivial, by simp⟩
  have later := lost.step ⟨.act (.network (.elapse (by decide : (0 : ℚ) ≤ 100000)) rfl) trivial, by simp⟩
  exact later.step
    ⟨.act (.network (.retry rfl) rfl) (show (0 : ℚ) + rdTimeoutUsec ≤ 100000 by decide +kernel), by simp⟩

/-- The reply to the second one, received at 100001 and answered at 100002. -/
def retriedReply : Datagram Answer :=
  ⟨.beaconR (ServeLoop.reply steadyPairing.reference ⟨0⟩ 100001 100002), ⟨⟨2, 100000⟩, 100001, 100002⟩⟩

/-- At 100003 that reply is about to be received. -/
def awaitingRetried : Network :=
  { lostBeacon with
    sync := lostBeacon.sync.sent 100000
    downlink := [retriedReply]
    now := 100003
    sends := 2
    recorded := ⟨2, 100000⟩
    serving := ⟨2, 100000⟩
    received := 100001 }

def retriedPoints : DataPoint × DataPoint :=
  (⟨100000, 200001 / 2, 100003⟩, ⟨100000, 200005 / 2, 100003⟩)

theorem retried_points : SyncLoop.dataPoints steadyPairing.sync awaitingRetried.sync
    (ServeLoop.reply steadyPairing.reference ⟨0⟩ 100001 100002) 100003 = retriedPoints := by
  decide +kernel

def retriedSession : Session MiniSync where
  net := awaitingRetried.syncReceive steadyPairing retriedReply []
  estimation := left
    (Estimation.process .loguru retriedPoints ⟨.listed, .listed, .listed, .listed, 5⟩ (.init (10 ^ 9)))
  failed := none

/-- One beacon that is lost, and a second one that is answered. -/
def retriedPast : List (Option Session.Action) :=
  [none, some (.network .send), some (.network (.uplink (.lose 0))), some (.network (.elapse 100000)),
    some (.network .retry), none, some (.network .send), some (.network (.elapse 100001)),
    some (.network (.referenceReceive 0)), some (.network (.elapse 100002)),
    some (.network .referenceReply), some (.network (.elapse 100003)),
    some (.process 0 ⟨.listed, .listed, .listed, .listed, 5⟩)]

theorem run_retried : Run (Session.PromptStep .loguru steadyPairing rdTimeoutUsec)
    (Session.start (10 ^ 9) 0 [] [], .start steadyPairing 0) retriedPast
    (retriedSession, ⟨none, 100000, 100000 + period⟩) := by
  have empty : lostBeacon.Prompt steadyPairing rdTimeoutUsec := by
    rintro _ _ (⟨_, d, hd, _⟩ | ⟨_, replying, _⟩ | ⟨d, hd, _⟩)
    · exact absurd hd List.not_mem_nil
    · cases replying
    · exact absurd hd List.not_mem_nil
  have turned := (run_lostBeacon (10 ^ 9)).step ⟨.turn rfl rfl (by decide : (0 : ℚ) ≤ 100000), by simp⟩
  have sent := turned.step ⟨.act (.network (.send rfl rfl) rfl) ⟨_, rfl⟩, fun _ => empty⟩
  have arrived := sent.step
    ⟨.act (.network (.elapse (by decide : (100000 : ℚ) ≤ 100001)) rfl) trivial, by simp⟩
  have received := arrived.step ⟨.act (.network (.referenceReceive rfl rfl
    (rfl : take? _ 0 = some (⟨.beacon ⟨0⟩, ⟨2, 100000⟩⟩, []))) rfl) trivial, by simp⟩
  have handled := received.step
    ⟨.act (.network (.elapse (by decide : (100001 : ℚ) ≤ 100002)) rfl) trivial, by simp⟩
  have replied := handled.step ⟨.act (.network (.referenceReply rfl) rfl) trivial, by simp⟩
  have later := replied.step
    ⟨.act (.network (.elapse (by decide : (100002 : ℚ) ≤ 100003)) rfl) trivial, by simp⟩
  have awaited : Run (Session.PromptStep .loguru steadyPairing rdTimeoutUsec)
      (Session.start (10 ^ 9) 0 [] [], .start steadyPairing 0) _
      ((⟨awaitingRetried, .init (10 ^ 9), none⟩ : Session MiniSync), ⟨some 100000, 100000, 0⟩) := later
  have returns : Estimation.process .loguru retriedPoints ⟨.listed, .listed, .listed, .listed, 5⟩
      (.init (10 ^ 9)) = .ok () retriedSession.estimation := failure?_eq_none.mp (by decide +kernel)
  rw [← retried_points] at returns
  exact awaited.step
    ⟨.act (.process rfl (rfl : take? _ 0 = some (retriedReply, [])) rfl returns) trivial, by simp⟩

theorem paced_sessions_quiet_retried :
    (∀ before after u v, retriedPast = before ++ some (.network .send) :: after →
      Run (Session.PromptStep .loguru steadyPairing rdTimeoutUsec)
        ((Session.start (10 ^ 9) 0 [] [] : Session MiniSync), .start steadyPairing 0) before u →
      Session.PromptStep .loguru steadyPairing rdTimeoutUsec u (some (.network .send)) v →
      Run (Session.PromptStep .loguru steadyPairing rdTimeoutUsec) v after
        (retriedSession, ⟨none, 100000, 100000 + period⟩) →
      u.1.net.Quiet) ∧
    Run (Session.QuietStep .loguru steadyPairing) (Session.start (10 ^ 9) 0 [] []) retriedPast.reduceOption
      retriedSession ∧
    ∀ x ∈ retriedSession.net.samples, x.Fresh :=
  paced_sessions_quiet .miniSync .loguru steadyPairing (10 ^ 9) rdTimeoutUsec 0 [] [] _ _ _ run_retried
    monotone_id (.inl (le_refl _))

end MiniSynCPP
