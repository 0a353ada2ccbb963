import MiniSynCPP.Refinement
import MiniSynCPP.Session

/-!
# The whole program

The handshake, the two loops and, in every SyncNode, the algorithm and the
statistics. What a SyncNode has estimated is the result of a session with the
reference node alone, however many others ask, send and wait.
-/

namespace MiniSynCPP

open Channels Containers Runs

/-- The reference node and its SyncNodes, with what each of them has estimated. -/
structure Program (Id M : Type) where
  swarm : Swarm Id
  estimation : Id → Estimation M
  -- what ended `sync` or the process of a SyncNode
  failed : Id → Option Failure
  now : ℚ

namespace Program

inductive Action (Id : Type)
  | elapse (now : ℚ)
  | swarm (a : Swarm.Action Id)
  | process (i : Id) (k : ℕ) (c : Circumstances)

section
variable {Id M : Type} [Subclass M]

def start (max now : ℚ) : Program Id M := ⟨.start, fun _ => .init max, fun _ => none, now⟩

variable [DecidableEq Id]

/-- Every step of the swarm save the acceptance of a reply, after which the sequence number goes on,
is one of the program. -/
inductive Step (build : Build) (p : Setup Id) (clocks : Clocks Id) :
    Program Id M → Action Id → Program Id M → Prop
  | elapse {s : Program Id M} {now : ℚ} (later : s.now ≤ now) :
      Step build p clocks s (.elapse now) { s with now := now }
  | swarm {s : Program Id M} {a : Swarm.Action Id} {t : Swarm Id} (stamped : a.Stamped clocks s.now)
      (step : Swarm.Step p s.swarm a t)
      (ignored : ∀ i, (t.nodes i).loop.seq = (s.swarm.nodes i).loop.seq) :
      Step build p clocks s (.swarm a) { s with swarm := t }
  | process {s : Program Id M} {i : Id} {k : ℕ} {msg : MiniSyncMsg} {rest : List (Id × MiniSyncMsg)}
      {reply : BeaconReply} {c : Circumstances} {e : Estimation M}
      (synchronising : (s.swarm.nodes i).synchronising = true)
      (receiving : (s.swarm.nodes i).loop.receiving = true)
      (taken : take? s.swarm.downlink k = some ((i, msg), rest))
      (matched : (s.swarm.nodes i).loop.matching msg = some reply)
      (returns : Estimation.process build
        ((s.swarm.nodes i).loop.dataPoints (p.sync i) reply (clocks.sync i s.now)) c (s.estimation i) =
          .ok () e) :
      Step build p clocks s (.process i k c)
        { s with swarm := s.swarm.receive p i msg rest, estimation := Function.update s.estimation i e }
  | failing {s : Program Id M} {i : Id} {k : ℕ} {msg : MiniSyncMsg} {rest : List (Id × MiniSyncMsg)}
      {reply : BeaconReply} {c : Circumstances} {f : Failure} {e : Estimation M}
      (synchronising : (s.swarm.nodes i).synchronising = true)
      (receiving : (s.swarm.nodes i).loop.receiving = true)
      (taken : take? s.swarm.downlink k = some ((i, msg), rest))
      (matched : (s.swarm.nodes i).loop.matching msg = some reply)
      (fails : Estimation.process build
        ((s.swarm.nodes i).loop.dataPoints (p.sync i) reply (clocks.sync i s.now)) c (s.estimation i) =
          .error f e) :
      Step build p clocks s (.process i k c)
        { s with
          swarm := (s.swarm.receive p i msg rest).set i ((s.swarm.receive p i msg rest).nodes i).stop
          estimation := Function.update s.estimation i e
          failed := Function.update s.failed i (some f) }

end

end Program

/-- The sequence number goes on with every sample. -/
theorem Network.Step.samples_of_seq {p : Pairing} {s t : Network} {a : Network.Action}
    (step : Network.Step p s a t) (same : t.sync.seq = s.sync.seq) : t.samples = s.samples := by
  cases step with
  | @syncReceive k d rest receiving taken =>
    unfold Network.syncReceive at same ⊢
    cases matched : s.sync.matching d.content with
    | none => rfl
    | some reply =>
      rw [matched] at same
      simp [SyncLoop.next] at same
  | _ => rfl

namespace Program

section
variable {Id M : Type} [DecidableEq Id] [Subclass M] {build : Build} {p : Setup Id} {clocks : Clocks Id}
  {max now₀ : ℚ} {s t : Program Id M} {a : Action Id} {i : Id}

/-- A step before which every beacon it sends is quiet. -/
def QuietStep (build : Build) (p : Setup Id) (clocks : Clocks Id) (s : Program Id M) (a : Action Id)
    (t : Program Id M) : Prop :=
  Step build p clocks s a t ∧ ∀ i timestamp, a = .swarm (.beacon i timestamp) → s.swarm.Quiet i

/-- The session shows the pair of `i` and the reference node, and what `i` has estimated. -/
structure Appears (s : Program Id M) (i : Id) (n : Session M) : Prop where
  net : s.swarm.Appears s.now i n.net
  estimation : n.estimation = s.estimation i
  failed : n.failed = s.failed i

/-- The program makes a step, and the session those that show `i` again. -/
structure Joint (build : Build) (p : Setup Id) (clocks : Clocks Id) (i : Id)
    (x : Program Id M × Session M) (a : Action Id) (y : Program Id M × Session M) : Prop where
  step : QuietStep build p clocks x.1 a y.1
  session : ∃ more, Run (Session.QuietStep build (p.pairing clocks i)) x.2 more y.2
  joined : (y.1.swarm.nodes i).connected = true
  appears : y.1.Appears i y.2

/-! ## What the swarm does -/

theorem Step.swarm_run (step : Step build p clocks s a t) :
    ∃ more, Run (Swarm.Step p) s.swarm more t.swarm := by
  cases step with
  | elapse => exact ⟨[], .start⟩
  | @swarm a _ _ step => exact ⟨[a], Run.start.step step⟩
  | @process i k msg rest _ _ _ _ receiving taken =>
    exact ⟨[.receive i k], Run.start.step (.receive receiving taken)⟩
  | @failing i k msg rest _ _ _ _ _ receiving taken =>
    exact ⟨[.receive i k, .stop i], (Run.start.step (.receive receiving taken)).step .stop⟩

theorem run_swarm {past : List (Action Id)} (run : Run (Step build p clocks) (start max now₀) past s) :
    ∃ past', Run (Swarm.Step p) Swarm.start past' s.swarm := by
  have simulated : ∃ past' u, Run (Swarm.Step p) Swarm.start past' u ∧ s.swarm = u := by
    refine run.simulation (R := fun s u => s.swarm = u) rfl ?_
    intro s a t u step same
    obtain ⟨more, steps⟩ := step.swarm_run
    exact ⟨more, t.swarm, same ▸ steps, rfl⟩
  obtain ⟨past', u, steps, same⟩ := simulated
  exact ⟨past', same ▸ steps⟩

theorem Step.keeps (step : Step build p clocks s a t) {j : Id}
    (joined : (s.swarm.nodes j).connected = true) : (t.swarm.nodes j).connected = true := by
  obtain ⟨more, steps⟩ := step.swarm_run
  exact steps.invariant (P := fun _ u => (u.nodes j).connected = true) joined
    fun _ _ _ _ _ before step => step.keeps before

omit [DecidableEq Id] [Subclass M] in
/-- Where a reply is accepted, the node has joined. -/
theorem joined_of_receiving (paired : s.swarm.Paired p) (begins : s.swarm.Begins)
    (synchronising : (s.swarm.nodes i).synchronising = true)
    (receiving : (s.swarm.nodes i).loop.receiving = true) : (s.swarm.nodes i).connected = true :=
  paired.synchronising i synchronising (begins.running i receiving)

/-- A SyncNode that has not joined has estimated nothing. -/
def Untouched (max : ℚ) (s : Program Id M) : Prop :=
  ∀ i, (s.swarm.nodes i).connected = false → s.estimation i = .init max ∧ s.failed i = none

theorem Step.untouched (step : Step build p clocks s a t) (paired : s.swarm.Paired p)
    (begins : s.swarm.Begins) (h : s.Untouched max) : t.Untouched max := by
  intro j unjoined
  have before : (s.swarm.nodes j).connected = false := by
    by_contra joined
    rw [step.keeps (Bool.not_eq_false _ ▸ joined)] at unjoined
    cases unjoined
  obtain ⟨estimation, failed⟩ := h j before
  have other : ∀ i, (s.swarm.nodes i).connected = true → j ≠ i := by
    rintro i joined rfl
    rw [joined] at before
    cases before
  cases step with
  | elapse | swarm => exact ⟨estimation, failed⟩
  | process synchronising receiving =>
    have away := other _ (joined_of_receiving paired begins synchronising receiving)
    exact ⟨(Function.update_of_ne away _ _).trans estimation, failed⟩
  | failing synchronising receiving =>
    have away := other _ (joined_of_receiving paired begins synchronising receiving)
    exact ⟨(Function.update_of_ne away _ _).trans estimation,
      (Function.update_of_ne away _ _).trans failed⟩

theorem run_untouched {past : List (Action Id)}
    (run : Run (Step build p clocks) (start max now₀) past s) : s.Untouched max := by
  refine run.invariant (P := fun _ s => s.Untouched max) (fun _ _ => ⟨rfl, rfl⟩) ?_
  intro past s a t before ih step
  obtain ⟨_, swarm⟩ := run_swarm before
  exact step.untouched (Swarm.run_paired swarm) (Swarm.run_begins swarm) ih

/-! ## The simulation -/

variable {n : Session M}

/-- What the network does is a step of the session if no reply is accepted. -/
theorem session_of_follows {b : Swarm.Action Id} {w u : Swarm Id} {now : ℚ}
    (follows : Swarm.Follows p clocks w b u now i n.net) (same : (u.nodes i).loop.seq = n.net.sync.seq)
    (quiet : ∀ timestamp, b = .beacon i timestamp → n.net.Quiet) :
    ∃ more n', Run (Session.QuietStep build (p.pairing clocks i)) n more { n with net := n' } ∧
      u.Appears now i n' := by
  obtain ⟨n', rfl | ⟨c, step, sends⟩, appears, _⟩ := follows
  · exact ⟨[], n.net, .start, appears⟩
  · have ignored := step.samples_of_seq (by rw [appears.sync, same])
    refine ⟨[.network c], n', Run.start.step ⟨.network step ignored, fun sent => ?_⟩, appears⟩
    obtain ⟨timestamp, sender⟩ := sends (Session.Action.network.inj sent)
    exact quiet timestamp sender

omit [DecidableEq Id] [Subclass M] in
/-- Only the node that has joined accepts replies. -/
theorem eq_of_receiving (paired : s.swarm.Paired p) (begins : s.swarm.Begins)
    (joined : (s.swarm.nodes i).connected = true) {j : Id}
    (synchronising : (s.swarm.nodes j).synchronising = true)
    (receiving : (s.swarm.nodes j).loop.receiving = true) : j = i := by
  have joined' := joined_of_receiving paired begins synchronising receiving
  exact Option.some.inj ((paired.joined joined').1.symm.trans (paired.joined joined).1)

omit [DecidableEq Id] in
theorem replyOf_of_matching {loop : SyncLoop} {msg : MiniSyncMsg} {reply : BeaconReply}
    (matched : loop.matching msg = some reply) : Swarm.replyOf (i, msg) = some msg := by
  cases msg with
  | beaconR r => rfl
  | _ => cases matched

theorem QuietStep.follows (step : QuietStep build p clocks s a t) (paired : s.swarm.Paired p)
    (begins : s.swarm.Begins) (joined : (s.swarm.nodes i).connected = true) (h : s.Appears i n) :
    ∃ n', Joint build p clocks i (s, n) a (t, n') := by
  have joined' := step.1.keeps joined
  have whole := step
  obtain ⟨step, quiet⟩ := step
  cases step with
  | @elapse now later =>
    have passed : Session.Step build (p.pairing clocks i) n (.network (.elapse now)) _ :=
      .network (.elapse (h.net.now ▸ later)) rfl
    exact ⟨_, whole, ⟨_, Run.start.step ⟨passed, nofun⟩⟩, joined',
      ⟨h.net.sync, h.net.reference, h.net.uplink, h.net.downlink, rfl⟩, h.estimation, h.failed⟩
  | swarm stamped step ignored =>
    have same := (ignored i).trans (congrArg SyncLoop.seq h.net.sync.symm)
    obtain ⟨more, n', steps, appears⟩ :=
      session_of_follows (step.follows paired begins joined stamped h.net) same
        fun timestamp sender => h.net.quiet (quiet i timestamp (by rw [sender]))
    exact ⟨_, whole, ⟨more, steps⟩, joined', appears, h.estimation, h.failed⟩
  | @process j k msg rest reply c e synchronising receiving taken matched returns =>
    obtain rfl := eq_of_receiving paired begins joined synchronising receiving
    obtain ⟨k', d, rest', taken', content, appears⟩ :=
      h.net.reads synchronising (replyOf_of_matching matched) taken
    rw [← content, ← h.net.sync] at matched
    rw [← h.net.sync, ← h.net.now, ← h.estimation] at returns
    have step : Session.Step build (p.pairing clocks j) n (.process k' c) _ :=
      .process (h.net.sync ▸ receiving) taken' matched returns
    exact ⟨_, whole, ⟨_, Run.start.step ⟨step, nofun⟩⟩, joined', appears,
      by simp only [Function.update_self], h.failed⟩
  | @failing j k msg rest reply c f e synchronising receiving taken matched fails =>
    obtain rfl := eq_of_receiving paired begins joined synchronising receiving
    obtain ⟨k', d, rest', taken', content, appears⟩ :=
      h.net.reads synchronising (replyOf_of_matching matched) taken
    rw [← content, ← h.net.sync] at matched
    rw [← h.net.sync, ← h.net.now, ← h.estimation] at fails
    have step : Session.Step build (p.pairing clocks j) n (.process k' c) _ :=
      .failing (h.net.sync ▸ receiving) taken' matched fails
    refine ⟨_, whole, ⟨_, Run.start.step ⟨step, nofun⟩⟩, joined', ?_, by simp only [Function.update_self],
      by simp only [Function.update_self]⟩
    refine ⟨?_, appears.reference, appears.uplink, appears.downlink, appears.now⟩
    rw [Swarm.set_self, Network.halted, appears.sync]
    rfl

/-- The session begins where the handshake returns. -/
theorem QuietStep.begins (step : QuietStep build p clocks s a t) (paired : s.swarm.Paired p)
    (begins : s.swarm.Begins) (fresh : s.Untouched max) (before : (s.swarm.nodes i).connected = false)
    (joined : (t.swarm.nodes i).connected = true) :
    ∃ n, Joint build p clocks i (s, .start max s.now [] []) a (t, n) := by
  obtain ⟨estimation, failed⟩ := fresh i before
  have other : ∀ j, (s.swarm.nodes j).connected = true → i ≠ j := by
    rintro j joined rfl
    rw [joined] at before
    cases before
  have stays : ∀ {m : SyncState}, m = s.swarm.nodes i → m.connected = false := by
    rintro _ rfl
    exact before
  have whole := step
  obtain ⟨step, _⟩ := step
  cases step with
  | elapse => cases (stays rfl).symm.trans joined
  | swarm stamped step ignored =>
    have follows := step.appears clocks paired (step.paired paired) begins before joined s.now
    have same := ignored i
    rw [begins.loop i before] at same
    obtain ⟨more, n, steps, appears⟩ :=
      session_of_follows (n := (Session.start max s.now [] [] : Session M)) follows same
        fun _ _ => ⟨nofun, nofun, nofun⟩
    exact ⟨_, whole, ⟨more, steps⟩, joined, appears, estimation.symm, failed.symm⟩
  | process synchronising receiving =>
    have away := other _ (joined_of_receiving paired begins synchronising receiving)
    cases (stays (Swarm.set_of_ne _ _ away)).symm.trans joined
  | failing synchronising receiving =>
    have away := other _ (joined_of_receiving paired begins synchronising receiving)
    cases (stays ((Swarm.set_of_ne _ _ away).trans (Swarm.set_of_ne _ _ away))).symm.trans joined

/-- From the step that joins a SyncNode on the program and a session go together. -/
theorem run_joint {past : List (Action Id)} (run : Run (QuietStep build p clocks) (start max now₀) past s)
    (joined : (s.swarm.nodes i).connected = true) :
    ∃ before a after u n, past = before ++ a :: after ∧
      Run (QuietStep build p clocks) (start max now₀) before u ∧ (u.swarm.nodes i).connected = false ∧
      Run (Joint build p clocks i) (u, .start max u.now [] []) (a :: after) (s, n) ∧ s.Appears i n := by
  induction run with
  | start => cases joined
  | @step past s t a ran step ih =>
    have plain := ran.mono fun _ _ _ h => h.1
    obtain ⟨_, swarm⟩ := run_swarm plain
    have paired := Swarm.run_paired swarm
    have begins := Swarm.run_begins swarm
    cases earlier : (s.swarm.nodes i).connected with
    | true =>
      obtain ⟨before, b, after, u, n, rfl, ran', unjoined, joint, appears⟩ := ih earlier
      obtain ⟨n', next⟩ := step.follows paired begins earlier appears
      exact ⟨before, b, after ++ [a], u, n', by simp, ran', unjoined, joint.step next, next.appears⟩
    | false =>
      obtain ⟨n, next⟩ := step.begins paired begins (run_untouched plain) earlier joined
      exact ⟨past, a, [], s, n, rfl, ran, earlier, Run.start.step next, next.appears⟩

/-- The session of a joint run makes a run of its own. -/
theorem joint_session {past : List (Action Id)} {x y : Program Id M × Session M}
    (run : Run (Joint build p clocks i) x past y) :
    ∃ steps, Run (Session.QuietStep build (p.pairing clocks i)) x.2 steps y.2 := by
  induction run with
  | start => exact ⟨[], .start⟩
  | step _ step ih =>
    obtain ⟨steps, ran⟩ := ih
    obtain ⟨more, session⟩ := step.session
    exact ⟨steps ++ more, ran.append session⟩

end

end Program

open Program

/-- **A SyncNode within the program is a session.** In every run of the whole program in which the
beacons are sent quietly, a SyncNode that has not joined has estimated nothing. From the step that joins
it on, the program and a session with the reference node, which starts empty at that instant, go together
step by step, and the accepted replies are fresh. Whenever no transit of such a session undercuts the
compensation, every accepted reply has its row, save one that ended the SyncNode, and every row covers the
line of the clocks. -/
theorem program_refines {Id : Type} [DecidableEq Id] (algo : Algo) (build : Build) (p : Setup Id)
    (clocks : Clocks Id) (max now₀ : ℚ) (past : List (Program.Action Id)) (s : Program Id algo.Members)
    (i : Id) (run : Run (QuietStep build p clocks) (start max now₀) past s) :
    ((s.swarm.nodes i).connected = false → s.estimation i = .init max ∧ s.failed i = none) ∧
    ((s.swarm.nodes i).connected = true → ∃ before a after u n steps, past = before ++ a :: after ∧
      Run (QuietStep build p clocks) (start max now₀) before u ∧ (u.swarm.nodes i).connected = false ∧
      Run (Joint build p clocks i) (u, .start max u.now [] []) (a :: after) (s, n) ∧
      Run (Session.QuietStep build (p.pairing clocks i)) (.start max u.now [] []) steps n ∧
      s.Appears i n ∧ ∀ x ∈ n.net.samples, x.Fresh) ∧
    ∀ began steps n a b,
      Run (Session.QuietStep build (p.pairing clocks i)) (.start max began [] []) steps n →
      s.Appears i n → (p.pairing clocks i).Related a b → p.reference.Nonneg →
      (∀ x ∈ n.net.samples, x.Slow (p.pairing clocks i) a) →
      (s.estimation i).stats.samples.length + (s.failed i).toList.length = n.net.samples.length ∧
      ∀ row ∈ (s.estimation i).stats.samples, row.Covers a b := by
  refine ⟨run_untouched (run.mono fun _ _ _ h => h.1) i, ?_, ?_⟩
  · intro joined
    obtain ⟨before, a, after, u, n, split, ran, unjoined, joint, appears⟩ := run_joint run joined
    obtain ⟨steps, session⟩ := joint_session joint
    obtain ⟨_, network⟩ := Session.run_network session
    exact ⟨before, a, after, u, n, steps, split, ran, unjoined, joint, session, appears,
      (Network.run_owned network).fresh⟩
  · intro began steps n a b session appears related reference slow
    rw [← appears.estimation, ← appears.failed]
    exact Session.run_rows_sound session related reference slow

section
variable {Id M : Type} [DecidableEq Id] [Subclass M] {build : Build} {p : Setup Id} {clocks : Clocks Id}
  {s₀ s : Program Id M} {past : List (Program.Action Id)}

theorem Program.run_wait (run : Run (QuietStep build p clocks) s₀ past s) {now : ℚ}
    (later : s.now ≤ now) :
    Run (QuietStep build p clocks) s₀ (past ++ [.elapse now]) { s with now := now } :=
  run.step ⟨.elapse later, nofun⟩

theorem Program.run_swarmStep {a : Swarm.Action Id} {t : Swarm Id}
    (run : Run (QuietStep build p clocks) s₀ past s) (step : Swarm.Step p s.swarm a t)
    (stamped : a.Stamped clocks s.now) (ignored : ∀ i, (t.nodes i).loop.seq = (s.swarm.nodes i).loop.seq)
    (quiet : ∀ i timestamp, a = .beacon i timestamp → s.swarm.Quiet i) :
    Run (QuietStep build p clocks) s₀ (past ++ [.swarm a]) { s with swarm := t } :=
  run.step ⟨.swarm stamped step ignored,
    fun i timestamp sent => quiet i timestamp (Action.swarm.inj sent)⟩

end

/-- The reference node of two versions, which compensates half a microsecond each way. -/
def steadySetup : Setup ℕ := { twoVersions with reference := ⟨1 / 2, 1 / 2⟩ }

theorem set_seq {Id : Type} [DecidableEq Id] {s : Swarm Id} {i : Id} {n : SyncState}
    (same : n.loop.seq = (s.nodes i).loop.seq) (j : Id) :
    ((s.set i n).nodes j).loop.seq = (s.nodes j).loop.seq := by
  by_cases other : j = i
  · rw [other, Swarm.set_self, same]
  · rw [Swarm.set_of_ne s n other]

/-- While another SyncNode asks in vain, the first one is paired and makes one exchange. -/
theorem program_refines_once : ∃ past, ∃ s : Program ℕ MiniSync,
    Run (QuietStep .loguru steadySetup ⟨fun _ => id, id⟩) (start 1000 0) past s ∧
    (∃ before a after u n steps, past = before ++ a :: after ∧
      Run (QuietStep .loguru steadySetup ⟨fun _ => id, id⟩) (start 1000 0) before u ∧
      (u.swarm.nodes 0).connected = false ∧
      Run (Joint .loguru steadySetup ⟨fun _ => id, id⟩ 0) (u, .start 1000 u.now [] []) (a :: after) (s, n) ∧
      Run (Session.QuietStep .loguru (steadySetup.pairing ⟨fun _ => id, id⟩ 0)) (.start 1000 u.now [] [])
        steps n ∧
      s.Appears 0 n ∧ ∀ x ∈ n.net.samples, x.Fresh) ∧
    (s.estimation 0).stats.samples.length = 1 ∧
    (∀ row ∈ (s.estimation 0).stats.samples, row.Covers 1 0) ∧
    s.estimation 1 = .init 1000 := by
  have started : Run (QuietStep .loguru steadySetup ⟨fun _ => id, id⟩)
      (start 1000 0 : Program ℕ MiniSync) [] (start 1000 0) := .start
  have asks := run_swarmStep started (.request (i := 1) rfl rfl rfl) trivial (set_seq rfl) nofun
  have asked := run_swarmStep asks (.request (i := 0) rfl rfl rfl) trivial (set_seq rfl) nofun
  have accepted := run_swarmStep asked (.referenceReceive 0 rfl rfl rfl (rfl : take? _ 1 =
    some ((0, .handshake ⟨1, 0, .sync⟩), [(1, .handshake ⟨2, 0, .sync⟩)]))) rfl (fun _ => rfl) nofun
  have answered := run_swarmStep accepted (.referenceAnswer rfl) trivial (fun _ => rfl) nofun
  have connected := run_swarmStep answered (.receive rfl (rfl : take? _ 0 =
    some ((0, .handshakeR ⟨.success⟩), []))) trivial (set_seq rfl) nofun
  have sent := run_swarmStep connected (.beacon (i := 0) 0 rfl rfl rfl) rfl (set_seq rfl) fun i _ _ =>
    Swarm.quiet_of_requests (fun d hd => List.mem_singleton.mp hd ▸ rfl) rfl rfl i
  have received := run_swarmStep (run_wait sent (by decide : (0 : ℚ) ≤ 1))
    (.referenceReceive 1 rfl rfl rfl (rfl : take? _ 1 =
      some ((0, .beacon ⟨0⟩), [(1, .handshake ⟨2, 0, .sync⟩)]))) rfl (fun _ => rfl) nofun
  have replied := run_swarmStep (run_wait received (by decide : (1 : ℚ) ≤ 2)) (.referenceReply 2 rfl) rfl
    (fun _ => rfl) nofun
  have returns : Estimation.process .loguru steadyPoints ⟨.listed, .listed, .listed, .listed, 5⟩
      (.init 1000) = .ok () steadySession.estimation := failure?_eq_none.mp (by decide +kernel)
  rw [← steady_points] at returns
  have fed := (run_wait replied (by decide : (2 : ℚ) ≤ 3)).step ⟨.process rfl rfl (rfl : take? _ 0 =
    some ((0, .beaconR (ServeLoop.reply steadySetup.reference ⟨0⟩ 1 2)), [])) rfl returns, nofun⟩
  have slow : ∀ x ∈ steadySession.net.samples, x.Slow steadyPairing 1 :=
    fun x hx => steady_slow x (List.mem_append_left _ hx)
  obtain ⟨_, joint, rows⟩ :=
    program_refines .miniSync .loguru steadySetup ⟨fun _ => id, id⟩ 1000 0 _ _ 0 fed
  obtain ⟨length, covers⟩ := rows 0 _ steadySession 1 0 run_steady
    ⟨⟨rfl, rfl, rfl, rfl, rfl⟩, rfl, rfl⟩ steadyPairing_related steady_reference slow
  exact ⟨_, _, fed, joint rfl, length, covers,
    ((program_refines .miniSync .loguru steadySetup ⟨fun _ => id, id⟩ 1000 0 _ _ 1 fed).1 rfl).1⟩

end MiniSynCPP
