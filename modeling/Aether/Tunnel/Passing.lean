import Aether.Netstack.Step
import Aether.Tunnel.Deadlock
import Aether.Tunnel.Drain

/-!
What passes between the netstack and a MASQUE tunnel, over their two channels.

A ledger beside the two tasks has what the polls of smoltcp have put on the device, what the tunnel
has taken from its channel and from the network, the packets that its drains have found, and what
the polls have taken from the device.

* `own_frame`: what the netstack does to its device, but for a poll, a flush and an ingestion.
* `step_passed`: the invariant; `packets_pass`: **each packet passes once and in order**, either
  way, as long as both tasks are there.
* `Reads`: what the drains of a transport find; `h2_reads`, `quic_reads`, and with them
  `edge_to_smoltcp`: **smoltcp gets the packets of what came from the edge**.
-/

namespace Aether.Tunnel

open Machine
open Masque (CapsuleParser capsuleDecoder decodeIpDatagram packetsOf packetsOf_append)
open Netstack (NetStack Smoltcp Pc maxIngestPerTick)

/-- What one turn of the drain takes. -/
def Turn.packet {β : Type} : Turn β → List Bytes
  | .deliver packet _ => [packet]
  | .skip _ | .stop _ => []

def Turn.left {β : Type} : Turn β → β
  | .deliver _ b | .skip b | .stop b => b

/-- What has passed: the packets of the polls that did not panic, those that the tunnel has taken,
what it has taken from the network, the packets that its drains have found, and those that a poll
has taken from the device, or cleared. -/
structure Ledger (tr : Transport) where
  emitted : List Bytes
  taken : List Bytes
  fed : List tr.Arrival
  pulled : List Bytes
  polled : List Bytes

namespace Ledger

variable {tr : Transport}

def empty : Ledger tr := ⟨[], [], [], [], []⟩

/-- What an event adds. -/
def see (g : Ledger tr) (l : Link tr) : LinkEv tr → Ledger tr
  | .stack (.poll _ _ emitted caught _) =>
      { g with
        emitted := g.emitted ++ if caught then [] else emitted
        polled := g.polled ++ l.stack.rx }
  | .outbound => { g with taken := g.taken ++ l.outbound.items.take 1 }
  | .net => { g with fed := g.fed ++ l.arrivals.take 1 }
  | .drain => { g with pulled := g.pulled ++ (tr.pull l.buf).packet }
  | _ => g

end Ledger

variable {tr : Transport} {sm : Smoltcp}

/-- The two tasks with their ledger. -/
def record (sm : Smoltcp) (w : Link tr × Ledger tr) (e : LinkEv tr) :
    Option (Link tr × Ledger tr) :=
  (w.1.step sm e).map fun l => (l, w.2.see w.1 e)

/-! ### The device -/

/-- Where the loop of the netstack stands outside its passes. -/
def waiting : Pc → Bool
  | .poll | .select | .dataIn => true
  | _ => false

section Own

variable {s s' : NetStack} {e : Netstack.Ev}

/-- A step that leaves the device: the loop ends no pass by it, and leaves no poll undone. -/
structure Frame (s s' : NetStack) : Prop where
  rx : s'.rx = s.rx
  tx : s'.tx = s.tx
  waits : waiting s'.pc = true → waiting s.pc = true
  poll : s.pc = .poll → s'.pc = .poll

lemma handleCmd_device (sm : Smoltcp) (s : NetStack) (c : Netstack.Cmd) (h : Netstack.Handle)
    (err : Option String) : (Netstack.handleCmd sm s c h err).rx = s.rx
      ∧ (Netstack.handleCmd sm s c h err).tx = s.tx := by
  cases c with
  | openTcp | openUdp => cases err <;> exact ⟨rfl, rfl⟩
  | setAddrs v4 v6 =>
      rw [Netstack.handleCmd]
      split <;> exact ⟨rfl, rfl⟩

/-- A step within the passes, or out of them to their end. -/
lemma Frame.passing (hrx : s'.rx = s.rx) (htx : s'.tx = s.tx) (hpc : s.pc ≠ .poll)
    (hpc' : waiting s'.pc = false) : Frame s s' :=
  ⟨hrx, htx, fun hw => by simp [hpc'] at hw, fun hp => absurd hp hpc⟩

/-- A step of the applications. -/
lemma Frame.outside (hrx : s'.rx = s.rx) (htx : s'.tx = s.tx) (hpc : s'.pc = s.pc) :
    Frame s s' :=
  ⟨hrx, htx, fun hw => hpc ▸ hw, fun hp => hpc.trans hp⟩

lemma lost_pc_ne_poll (h : Netstack.Lost s) : s.pc ≠ .poll := by
  intro hpc
  cases h with
  | service hs | deliver hs | serviceUdp hs | deliverUdp hs =>
      rw [hpc] at hs
      cases hs

/-- A poll is one. -/
lemma poll_pc {tcp : Netstack.Handle → Netstack.Arrival}
    {udp : Netstack.Handle → List (SocketAddr × Bytes)} {emitted : List Bytes} {caught : Bool}
    {order : List ℕ} (h : Netstack.step sm s (.poll tcp udp emitted caught order) = some s') :
    s.pc = .poll ∧ s'.rx = [] ∧ s'.tx = (if caught then [] else s.tx ++ emitted)
      ∧ waiting s'.pc = false := by
  rw [Netstack.step, Option.ite_none_right_eq_some] at h
  obtain ⟨⟨hpc, -⟩, h⟩ := h
  cases h
  exact ⟨hpc, rfl, rfl, rfl⟩

/-- **What the netstack does by itself** but for a poll leaves the device. -/
lemma own_frame (h : Netstack.step sm s e = some s') (hown : Link.ownStep e = true)
    (hpoll : ∀ tcp udp emitted caught order, e ≠ .poll tcp udp emitted caught order) :
    Frame s s' := by
  cases Netstack.stepped h with
  | poll => exact absurd rfl (hpoll _ _ _ _ _)
  | lost hlost => exact .passing rfl rfl (lost_pc_ne_poll hlost) rfl
  | moved hmoved =>
      cases hmoved with
      | flushed => cases hown
      | skipTcp hpc => exact .passing rfl rfl (by simp [hpc]) rfl
      | tcpDone hpc => exact .passing rfl rfl (by simp [hpc]) rfl
      | skipUdp hpc => exact .passing rfl rfl (by simp [hpc]) rfl
      | dropUdp hpc => exact .passing rfl rfl (by simp [hpc]) rfl
      | udpDone hpc => exact .passing rfl rfl (by simp [hpc]) rfl
      | stop hpc => exact .passing rfl rfl (by simp [hpc]) rfl
      | dataDone hpc => exact ⟨rfl, rfl, fun _ => by rw [hpc]; rfl, fun _ => rfl⟩
      | timer hpc => exact ⟨rfl, rfl, fun _ => by rw [hpc]; rfl, fun _ => rfl⟩
  | @serviceTcp accept id rest st t hpc =>
      obtain ⟨hdev, hend⟩ := Netstack.serviceConn_device sm s id rest st t accept
      refine .passing hdev.rx hdev.tx (by simp [hpc]) ?_
      rcases hend with hend | ⟨chunks, hend⟩
      · rw [hend]
        rfl
      · rw [hend]
        rfl
  | deliverTcp hpc _ _ hd =>
      obtain ⟨hdev, cs, hend⟩ := Netstack.deliverChunk_device hd
      refine .passing hdev.rx hdev.tx (by simp [hpc]) ?_
      rw [hend]
      rfl
  | @finishTcp id rest st t hpc =>
      obtain ⟨hdev, hend⟩ := Netstack.finishConn_device sm s id rest st t
      refine .passing hdev.rx hdev.tx (by simp [hpc]) ?_
      rw [hend]
      rfl
  | serviceUdp hpc => exact .passing rfl rfl (by simp [hpc]) rfl
  | deliverUdp hpc => exact .passing rfl rfl (by simp [hpc]) rfl
  | flush | inbound => cases hown
  | @cmd c slot err hpc =>
      obtain ⟨hrx, htx⟩ := handleCmd_device sm (s.goto .poll) c slot err
      exact ⟨hrx, htx, fun _ => by rw [hpc]; rfl, fun hp => by rw [hpc] at hp; cases hp⟩
  | @data d room hpc =>
      obtain ⟨hdev, -⟩ := Netstack.handleData_device (s.goto .dataIn) d room
      refine ⟨hdev.rx, hdev.tx, fun _ => ?_, fun hp => ?_⟩
      · rcases hpc with hpc | hpc <;> (rw [hpc]; rfl)
      · rw [hp] at hpc
        rcases hpc with hpc | hpc <;> cases hpc
  | dropReceiver | appRecv | dropUdpReceiver | appRecvUdp => exact .outside rfl rfl rfl

end Own

/-! ### What passes -/

section Passed

variable {l l' : Link tr} {g : Ledger tr} {e : LinkEv tr}

/-- The packets that are on their way, in either direction. -/
structure Passed (l : Link tr) (g : Ledger tr) : Prop where
  up : l.tunnel ≠ .done → g.taken ++ l.outbound.items ++ l.stack.tx = g.emitted
  upAll : g.taken ++ l.outbound.items <+: g.emitted
  /-- A poll finds nothing left to send. -/
  sent : l.tunnel ≠ .done → waiting l.stack.pc = true → l.stack.tx = []
  down : ¬ stackGone l.stack → g.polled ++ l.stack.rx ++ l.inbound.items = g.pulled
  downAll : g.polled ++ l.stack.rx ++ l.inbound.items <+: g.pulled
  /-- What was ingested is polled next. -/
  ingested : l.stack.rx ≠ [] → l.stack.pc = .poll
  bounded : l.stack.rx.length ≤ 1 + maxIngestPerTick

lemma start_passed (tr : Transport) (iface : Netstack.Interface) :
    Passed (Link.start tr iface) .empty where
  up _ := rfl
  upAll := List.prefix_rfl
  sent _ _ := rfl
  down _ := rfl
  downAll := List.prefix_rfl
  ingested h := absurd rfl h
  bounded := Nat.zero_le _

/-- A step of the netstack that leaves its device. -/
lemma Passed.frame (h : Passed l g) {s : NetStack} (hf : Frame l.stack s)
    (hgone : stackGone l.stack → stackGone s) : Passed { l with stack := s } g where
  up hdone := by
    rw [hf.tx]
    exact h.up hdone
  upAll := h.upAll
  sent hdone hw := by
    rw [hf.tx]
    exact h.sent hdone (hf.waits hw)
  down hlive := by
    rw [hf.rx]
    exact h.down fun hg => hlive (hgone hg)
  downAll := by
    rw [hf.rx]
    exact h.downAll
  ingested hrx := by
    rw [hf.rx] at hrx
    exact hf.poll (h.ingested hrx)
  bounded := by
    rw [hf.rx]
    exact h.bounded

/-- A step of the netstack by itself. -/
lemma Passed.stack (h : Passed l g) {e : Netstack.Ev} {s : NetStack}
    (hown : Link.ownStep e = true) (hs : Netstack.step sm l.stack e = some s) :
    Passed { l with stack := s } (g.see l (.stack e)) := by
  cases e with
  | poll tcp udp emitted caught order =>
      obtain ⟨hpc, hrx, htx, hw⟩ := poll_pc hs
      have hsent : l.tunnel ≠ .done → l.stack.tx = [] := fun hdone =>
        h.sent hdone (by rw [hpc]; rfl)
      have hlive : ¬ stackGone l.stack := by
        rintro (hp | hp) <;> (rw [hpc] at hp; cases hp)
      have hdown := h.down hlive
      refine ⟨?_, ?_, ?_, ?_, ?_, ?_, ?_⟩
      · intro hdone
        have hup := h.up hdone
        rw [hsent hdone, List.append_nil] at hup
        show g.taken ++ l.outbound.items ++ s.tx = g.emitted ++ _
        rw [htx, hsent hdone, List.nil_append, hup]
      · exact h.upAll.trans (List.prefix_append ..)
      · intro _ hwaits
        rw [hw] at hwaits
        cases hwaits
      · intro _
        show g.polled ++ l.stack.rx ++ s.rx ++ l.inbound.items = g.pulled
        rw [hrx, List.append_nil]
        exact hdown
      · show g.polled ++ l.stack.rx ++ s.rx ++ l.inbound.items <+: g.pulled
        rw [hrx, List.append_nil]
        exact h.downAll
      · intro hne
        exact absurd hrx hne
      · show s.rx.length ≤ _
        rw [hrx]
        exact Nat.zero_le _
  | _ =>
      exact h.frame (own_frame hs hown (by rintro _ _ _ _ _ ⟨⟩)) (stackGone_step hs)

/-- A step of the tunnel that moves no packet. -/
lemma Passed.of_same (h : Passed l g) (hstack : l'.stack = l.stack)
    (hout : l'.outbound = l.outbound) (hin : l'.inbound = l.inbound)
    (hdone : l.tunnel = .done → l'.tunnel = .done) : Passed l' g where
  up hne := by
    rw [hstack, hout]
    exact h.up (hne ∘ hdone)
  upAll := by
    rw [hout]
    exact h.upAll
  sent hne := by
    rw [hstack]
    exact h.sent (hne ∘ hdone)
  down := by
    rw [hstack, hin]
    exact h.down
  downAll := by
    rw [hstack, hin]
    exact h.downAll
  ingested := by
    rw [hstack]
    exact h.ingested
  bounded := by
    rw [hstack]
    exact h.bounded

/-- Outside its polls the netstack has nothing that it ingested. -/
lemma Passed.rx_nil (h : Passed l g) (hpc : l.stack.pc ≠ .poll) : l.stack.rx = [] := by
  by_contra hne
  exact hpc (h.ingested hne)

/-- One turn of `flush_tx`. -/
lemma Passed.flush (h : Passed l g) {packet : Bytes} {tx : List Bytes} {o : Mailbox Bytes netQueue}
    (hpc : l.stack.pc = .flushTx) (htx : l.stack.tx = packet :: tx) (hne : l.tunnel ≠ .done)
    (hsend : l.outbound.send packet = some o) :
    Passed { l with stack := { l.stack with tx }.goto .flushTx, outbound := o } g := by
  have hrx := h.rx_nil (by simp [hpc])
  have hup := h.up hne
  have hmore : g.taken ++ o.items ++ tx = g.emitted := by
    rw [(Mailbox.send_eq_some hsend).1, ← hup, htx]
    simp
  have hlive : ¬ stackGone l.stack := not_gone (.inl hpc)
  refine ⟨fun _ => hmore, ⟨tx, hmore⟩, ?_, fun _ => h.down hlive, h.downAll, ?_, h.bounded⟩
  · intro _ hw
    cases hw
  · intro hsome
    exact absurd hrx hsome

/-- The end of `flush_tx`. -/
lemma Passed.flushed (h : Passed l g) {tx : List Bytes} (hpc : l.stack.pc = .flushTx)
    (hend : l.tunnel = .done ∨ tx = [] ∧ l.stack.tx = []) :
    Passed { l with stack := { l.stack with tx }.goto .select } g := by
  have hrx := h.rx_nil (by simp [hpc])
  have hlive : ¬ stackGone l.stack := not_gone (.inl hpc)
  have hempty : l.tunnel ≠ .done → tx = [] ∧ l.stack.tx = [] := hend.resolve_left
  refine ⟨?_, h.upAll, fun hne _ => (hempty hne).1, fun _ => h.down hlive, h.downAll, ?_, h.bounded⟩
  · intro hne
    obtain ⟨rfl, htx⟩ := hempty hne
    have hup := h.up hne
    rw [htx] at hup
    exact hup
  · intro hsome
    exact absurd hrx hsome

/-- The netstack ingests what its channel has. -/
lemma Passed.ingest (h : Passed l g) {s : NetStack}
    (hs : Netstack.step sm l.stack
      (.inbound (l.inbound.takeUpTo (1 + maxIngestPerTick)).1) = some s) :
    Passed { l with stack := s, inbound := (l.inbound.takeUpTo (1 + maxIngestPerTick)).2 } g := by
  rw [Netstack.step, Option.ite_none_right_eq_some] at hs
  obtain ⟨⟨hpc, -, hlen⟩, hs⟩ := hs
  cases hs
  have hrx := h.rx_nil (by simp [hpc])
  have hlive : ¬ stackGone l.stack := not_gone (.inr hpc)
  have hdown : g.polled ++ (l.stack.rx ++ l.inbound.items.take (1 + maxIngestPerTick))
      ++ l.inbound.items.drop (1 + maxIngestPerTick) = g.pulled := by
    rw [← h.down hlive, hrx]
    simp
  refine ⟨h.up, h.upAll, fun hne _ => h.sent hne (by rw [hpc, waiting]), fun _ => hdown,
    ⟨[], by rw [List.append_nil]; exact hdown⟩, fun _ => rfl, ?_⟩
  show (l.stack.rx ++ _).length ≤ _
  rw [hrx, List.nil_append]
  exact hlen

/-- **Every event keeps what passes.** -/
lemma step_passed (h : Passed l g) (hstep : l.step sm e = some l') : Passed l' (g.see l e) := by
  cases Link.stepped hstep with
  | stack hown hs => exact h.stack hown hs
  | flushed hpc htx =>
      have hflushed := h.flushed hpc (.inr ⟨rfl, htx⟩)
      rw [← htx] at hflushed
      exact hflushed
  | flushGone hpc htx hdone => exact h.flushed hpc (.inl hdone)
  | flush hpc htx hne hsend => exact h.flush hpc htx hne hsend
  | ingest =>
      obtain ⟨s, hs, heq⟩ := Option.map_eq_some_iff.mp hstep
      rw [← heq]
      exact h.ingest hs
  | arrive => exact h.of_same rfl rfl rfl id
  | tick hsel => exact h.of_same rfl rfl rfl fun hd => by rw [hsel] at hd; cases hd
  | probe hsel => exact h.of_same rfl rfl rfl fun hd => by rw [hsel] at hd; cases hd
  | net _ hsel =>
      have hdone : l.tunnel ≠ .done := by rw [hsel]; exact TunnelPc.noConfusion
      exact ⟨fun _ => h.up hdone, h.upAll, fun _ => h.sent hdone, h.down, h.downAll, h.ingested,
        h.bounded⟩
  | capacity hsending => exact h.of_same rfl rfl rfl fun hd => by rw [hsending] at hd; cases hd
  | exit => exact h.of_same rfl rfl rfl fun _ => rfl
  | @outbound packet o hsel _ hrecv =>
      have hitems := Mailbox.recv_eq_some hrecv
      have hdone : l.tunnel ≠ .done := by rw [hsel]; exact TunnelPc.noConfusion
      have htake : g.taken ++ l.outbound.items.take 1 ++ o.items = g.taken ++ l.outbound.items := by
        rw [hitems, List.take_one, List.append_assoc]
        rfl
      refine ⟨fun _ => ?_, ?_, fun _ => h.sent hdone, h.down, h.downAll, h.ingested, h.bounded⟩
      · show g.taken ++ l.outbound.items.take 1 ++ o.items ++ l.stack.tx = g.emitted
        rw [htake]
        exact h.up hdone
      · show g.taken ++ l.outbound.items.take 1 ++ o.items <+: g.emitted
        rw [htake]
        exact h.upAll
  | @deliver packet buf i hdrain hpull hlive hsend =>
      have hdown : g.polled ++ l.stack.rx ++ i.items = g.pulled ++ [packet] := by
        rw [(Mailbox.send_eq_some hsend).1, ← h.down hlive, List.append_assoc _ _ [packet]]
      rw [Ledger.see, hpull]
      exact ⟨h.up, h.upAll, h.sent, fun _ => hdown, hdown ▸ List.prefix_rfl, h.ingested, h.bounded⟩
  | @deliverGone packet buf hdrain hpull hgone =>
      rw [Ledger.see, hpull]
      have hdone : l.tunnel ≠ .done := by rw [hdrain]; exact TunnelPc.noConfusion
      exact ⟨fun _ => h.up hdone, h.upAll, fun _ => h.sent hdone, fun hlive => absurd hgone hlive,
        h.downAll.trans (List.prefix_append ..), h.ingested, h.bounded⟩
  | @skip buf hdrain hpull =>
      rw [Ledger.see, hpull, Turn.packet, List.append_nil]
      exact h.of_same rfl rfl rfl id
  | @stop buf hdrain hpull =>
      rw [Ledger.see, hpull, Turn.packet, List.append_nil]
      exact h.of_same rfl rfl rfl fun hd => by rw [hdrain] at hd; cases hd

lemma run_passed {iface : Netstack.Interface} {es : List (LinkEv tr)}
    (h : run (record sm) (Link.start tr iface, .empty) es = some (l, g)) : Passed l g := by
  refine run_invariant (I := fun w : Link tr × Ledger tr => Passed w.1 w.2) ?_
    (start_passed tr iface) h
  rintro w e w' hw hs
  obtain ⟨l', hl, rfl⟩ := Option.map_eq_some_iff.mp hs
  exact step_passed hw hl

lemma Passed.polled_isPrefix (h : Passed l g) : g.polled <+: g.pulled :=
  (List.prefix_append ..).trans ((List.append_assoc ..) ▸ h.downAll)

/-- **Each packet passes once and in order**, over every run of the netstack and a MASQUE tunnel of
either transport, with any polls of smoltcp, any answers of the edge and any interleaving. As long as
the tunnel is there, what it has taken, what its channel holds and what the netstack has still to
flush is what the polls that did not panic have emitted, and a poll never finds a packet of an
earlier one unsent, so that a panic in it costs no other packets than its own. As long as the
netstack is there, what the polls have taken, what was ingested and what the other channel holds is
what the drains of the tunnel have found. When one of them is gone, the other has had an initial
part. What was ingested is polled next, and is no more than one batch. -/
theorem packets_pass (tr : Transport) (sm : Smoltcp) (iface : Netstack.Interface)
    (es : List (LinkEv tr)) (l : Link tr) (g : Ledger tr)
    (h : run (record sm) (Link.start tr iface, .empty) es = some (l, g)) :
    (l.tunnel ≠ .done → g.taken ++ l.outbound.items ++ l.stack.tx = g.emitted
        ∧ (l.stack.pc = .poll → l.stack.tx = []))
    ∧ g.taken <+: g.emitted
    ∧ (¬ stackGone l.stack → g.polled ++ l.stack.rx ++ l.inbound.items = g.pulled)
    ∧ g.polled <+: g.pulled
    ∧ (l.stack.rx ≠ [] → l.stack.pc = .poll)
    ∧ l.stack.rx.length ≤ 1 + maxIngestPerTick := by
  have hp := run_passed h
  refine ⟨fun hdone => ⟨hp.up hdone, fun hpc => hp.sent hdone (by rw [hpc, waiting])⟩,
    (List.prefix_append ..).trans hp.upAll, hp.down, hp.polled_isPrefix, hp.ingested, hp.bounded⟩

end Passed

/-- A pass of the netstack, whose poll emits these packets. -/
def samplePass (tr : Transport) (emitted : List Bytes) : List (LinkEv tr) :=
  [.stack (.poll (fun _ => ⟨.closed, [], 0⟩) (fun _ => []) emitted false []),
    .stack (.tcpDone []), .stack .udpDone] ++ emitted.map (fun _ => .flush) ++ [.flush]

/-- Two packets go to the edge over HTTP/2, and one that comes from it is ingested. -/
def passRun : List (LinkEv h2) :=
  samplePass h2 [[1], [2]] ++ [.outbound, .capacity true, .outbound, .capacity true,
    .arrive [0, 1, 9], .net, .drain, .drain, .ingest] ++ samplePass h2 [[3]]

lemma passRun_run : (run (record Netstack.stdSmoltcp) (Link.start h2 Netstack.sampleIface, .empty)
    passRun).map (fun w => (w.1.tunnel, w.2.taken, w.2.polled))
      = some (.select, [[1], [2]], [[9]]) := by
  decide +kernel

theorem packets_pass_sample : ∃ l g,
    run (record Netstack.stdSmoltcp) (Link.start h2 Netstack.sampleIface, .empty) passRun
        = some (l, g)
      ∧ g.taken = [[1], [2]] ∧ g.taken ++ l.outbound.items ++ l.stack.tx = g.emitted
      ∧ g.polled = [[9]] ∧ g.polled <+: g.pulled := by
  obtain ⟨⟨l, g⟩, hrun, heq⟩ := Option.map_eq_some_iff.mp passRun_run
  simp only [Prod.mk.injEq] at heq
  obtain ⟨htunnel, htaken, hpolled⟩ := heq
  obtain ⟨hup, -, -, hdown, -⟩ := packets_pass h2 _ _ passRun l g hrun
  have hdone : l.tunnel ≠ .done := by rw [htunnel]; exact TunnelPc.noConfusion
  exact ⟨l, g, hrun, htaken, (hup hdone).1, hpolled, hdown⟩

/-! ### What the drains find -/

/-- What a buffer is after these arrivals and these packets, as far as the loop of the tunnel
goes. -/
structure Reads (tr : Transport) (Rep : tr.Buf → List tr.Arrival → List Bytes → Prop) : Prop where
  fresh : Rep tr.fresh [] []
  feed : ∀ {b fed ps} a, Rep b fed ps → Rep (tr.feed b a) (fed ++ [a]) ps
  pull : ∀ {b fed ps}, Rep b fed ps → Rep (tr.pull b).left fed (ps ++ (tr.pull b).packet)

section Reads

variable {Rep : tr.Buf → List tr.Arrival → List Bytes → Prop} {l l' : Link tr} {g : Ledger tr}
  {e : LinkEv tr}

lemma Reads.step (hr : Reads tr Rep) (h : Rep l.buf g.fed g.pulled)
    (hstep : l.step sm e = some l') : Rep l'.buf (g.see l e).fed (g.see l e).pulled := by
  cases Link.stepped hstep with
  | @stack e s _ _ => cases e <;> exact h
  | @net a arrivals harrivals =>
      rw [Ledger.see, harrivals]
      exact hr.feed a h
  | deliver _ hpull | deliverGone _ hpull | skip _ hpull | stop _ hpull =>
      have hnext := hr.pull h
      rw [hpull] at hnext
      rw [Ledger.see, hpull]
      exact hnext
  | _ => exact h

lemma Reads.run (hr : Reads tr Rep) {iface : Netstack.Interface} {es : List (LinkEv tr)}
    (h : run (record sm) (Link.start tr iface, .empty) es = some (l, g)) :
    Rep l.buf g.fed g.pulled := by
  refine run_invariant (I := fun w : Link tr × Ledger tr => Rep w.1.buf w.2.fed w.2.pulled) ?_
    hr.fresh h
  rintro w e w' hw hs
  obtain ⟨l', hl, rfl⟩ := Option.map_eq_some_iff.mp hs
  exact hr.step hw hl

end Reads

/-- The packets of the body so far have been found, or their capsules are in the buffer. -/
def H2Rep (p : CapsuleParser) (fed ps : List Bytes) : Prop :=
  ps ++ H2.datagrams p.buf = H2.datagrams fed.flatten
    ∧ (capsuleDecoder.decode p.buf).2 = (capsuleDecoder.decode fed.flatten).2

lemma datagrams_of_next {buf : Bytes} {r : Except AetherError Masque.Capsule} {n : ℕ}
    (h : capsuleDecoder.next buf = some (r, n)) :
    H2.datagrams buf = (H2.packet? r).toList ++ H2.datagrams (buf.drop n)
      ∧ (capsuleDecoder.decode buf).2 = (capsuleDecoder.decode (buf.drop n)).2 := by
  rw [H2.datagrams, H2.datagrams, capsuleDecoder.decode_of_some h]
  refine ⟨?_, rfl⟩
  cases hp : H2.packet? r with
  | none =>
      rw [List.filterMap_cons_none hp]
      rfl
  | some packet =>
      rw [List.filterMap_cons_some hp]
      rfl

lemma pullCapsule_reads (p : CapsuleParser) :
    H2.datagrams p.buf = (pullCapsule p).packet ++ H2.datagrams (pullCapsule p).left.buf
      ∧ (capsuleDecoder.decode p.buf).2
        = (capsuleDecoder.decode (pullCapsule p).left.buf).2 := by
  have hnext := CapsuleParser.next_eq p
  cases hd : capsuleDecoder.next p.buf with
  | none =>
      rw [hd] at hnext
      rw [pullCapsule, hnext]
      exact ⟨rfl, rfl⟩
  | some rn =>
      obtain ⟨r, n⟩ := rn
      rw [hd] at hnext
      obtain ⟨hpackets, hrest⟩ := datagrams_of_next hd
      rw [pullCapsule, hnext, hpackets, hrest]
      rcases r with e | c
      · exact ⟨rfl, rfl⟩
      · cases c <;> exact ⟨rfl, rfl⟩

lemma h2Rep_push {p : CapsuleParser} {fed ps : List Bytes} (a : Bytes) (h : H2Rep p fed ps) :
    H2Rep (p.push a) (fed ++ [a]) ps := by
  obtain ⟨hsent, hrest⟩ := h
  have hflat : (fed ++ [a]).flatten = fed.flatten ++ a := by simp
  rw [H2Rep, hflat, CapsuleParser.push]
  constructor
  · rw [H2.datagrams_append, ← List.append_assoc, hsent, hrest, ← H2.datagrams_append]
  · rw [capsuleDecoder.decode_append p.buf, capsuleDecoder.decode_append fed.flatten, hrest]

lemma h2Rep_pull {p : CapsuleParser} {fed ps : List Bytes} (h : H2Rep p fed ps) :
    H2Rep (pullCapsule p).left fed (ps ++ (pullCapsule p).packet) := by
  obtain ⟨hpackets, hrest⟩ := pullCapsule_reads p
  constructor
  · rw [List.append_assoc, ← hpackets]
    exact h.1
  · rw [← hrest]
    exact h.2

lemma h2_reads : Reads h2 H2Rep := ⟨⟨rfl, rfl⟩, h2Rep_push, h2Rep_pull⟩

/-! ### QUIC -/

/-- The request stream after these arrivals. -/
def streamOf (fed : List QuicArrival) : Option ℕ :=
  fed.foldl (fun stream a => stream <|> a.opened) none

def datagramsOf (fed : List QuicArrival) : List Bytes := fed.flatMap (·.dgrams)

/-- The datagrams so far have been decoded, or are in the buffer; without a request stream they all
are. -/
def QuicRep (b : QuicBuf) (fed : List QuicArrival) (ps : List Bytes) : Prop :=
  b.reqStream = streamOf fed
    ∧ ∃ front, front ++ b.dgrams = datagramsOf fed ∧ ps = packetsOf b.reqStream front
      ∧ (b.reqStream = none → front = [])

lemma quicRep_feed {b : QuicBuf} {fed : List QuicArrival} {ps : List Bytes} (a : QuicArrival)
    (h : QuicRep b fed ps) : QuicRep (b.feed a) (fed ++ [a]) ps := by
  obtain ⟨hstream, front, hall, hps, hnone⟩ := h
  refine ⟨?_, front, ?_, ?_, ?_⟩
  · rw [streamOf, List.foldl_append]
    show (b.reqStream <|> a.opened) = (streamOf fed <|> a.opened)
    rw [hstream]
  · rw [datagramsOf, List.flatMap_append]
    show front ++ (b.dgrams ++ a.dgrams) = datagramsOf fed ++ [a].flatMap (·.dgrams)
    rw [← hall, List.append_assoc, List.flatMap_singleton]
  · rw [hps]
    cases hb : b.reqStream with
    | some sid =>
        show _ = packetsOf (b.reqStream <|> a.opened) front
        rw [hb]
        rfl
    | none =>
        rw [hnone hb]
        cases (b.feed a).reqStream <;> rfl
  · intro hfed
    refine hnone ?_
    have heq : (b.reqStream <|> a.opened) = none := hfed
    cases hb : b.reqStream with
    | some sid =>
        rw [hb] at heq
        cases heq
    | none => rfl

/-- A turn of the drain takes the first datagram. -/
lemma quicPull_cons (sid : ℕ) (d : Bytes) (dgrams : List Bytes) :
    (QuicBuf.pull ⟨some sid, d :: dgrams⟩).left = ⟨some sid, dgrams⟩
      ∧ (QuicBuf.pull ⟨some sid, d :: dgrams⟩).packet = packetsOf (some sid) [d] := by
  have hone : packetsOf (some sid) [d] = (decodeIpDatagram d sid).toOption.join.toList := by
    rw [packetsOf, List.filterMap_cons]
    cases (decodeIpDatagram d sid).toOption.join <;> rfl
  rw [hone]
  cases hdec : decodeIpDatagram d sid with
  | error e =>
      simp only [QuicBuf.pull, hdec]
      exact ⟨rfl, rfl⟩
  | ok packet =>
      cases packet with
      | none =>
          simp only [QuicBuf.pull, hdec]
          exact ⟨rfl, rfl⟩
      | some packet =>
          simp only [QuicBuf.pull, hdec]
          exact ⟨rfl, rfl⟩

lemma quicRep_pull {b : QuicBuf} {fed : List QuicArrival} {ps : List Bytes} (h : QuicRep b fed ps) :
    QuicRep b.pull.left fed (ps ++ b.pull.packet) := by
  rcases b with ⟨_ | sid, dgrams⟩
  · show QuicRep ⟨none, dgrams⟩ fed (ps ++ [])
    rw [List.append_nil]
    exact h
  rcases dgrams with _ | ⟨d, dgrams⟩
  · show QuicRep ⟨some sid, []⟩ fed (ps ++ [])
    rw [List.append_nil]
    exact h
  obtain ⟨hstream, front, hall, rfl, -⟩ := h
  obtain ⟨hleft, hpacket⟩ := quicPull_cons sid d dgrams
  rw [hleft, hpacket]
  refine ⟨hstream, front ++ [d], ?_, ?_, by rintro ⟨⟩⟩
  · rw [← hall, List.append_assoc]
    rfl
  · exact packetsOf_append.symm

lemma quic_reads : Reads quic QuicRep :=
  ⟨⟨rfl, [], rfl, rfl, fun _ => rfl⟩, quicRep_feed, quicRep_pull⟩

/-- **smoltcp gets the packets of what came from the edge**, in order and each at most once, over
every run of the netstack and the tunnel. Over HTTP/2 they are those of the capsules of the body,
however it was cut; over QUIC those of the datagrams, from before the request stream too. As long as
the netstack is there, what it has not got is in its device, in the channel or in the buffer of the
tunnel. -/
theorem edge_to_smoltcp (sm : Smoltcp) (iface : Netstack.Interface) :
    (∀ (es : List (LinkEv h2)) (l : Link h2) (g : Ledger h2),
      run (record sm) (Link.start h2 iface, .empty) es = some (l, g) →
      g.polled <+: H2.datagrams (List.flatten g.fed)
      ∧ (¬ stackGone l.stack → g.polled ++ l.stack.rx ++ l.inbound.items
          ++ H2.datagrams (CapsuleParser.buf l.buf) = H2.datagrams (List.flatten g.fed)))
    ∧ ∀ (es : List (LinkEv quic)) (l : Link quic) (g : Ledger quic),
      run (record sm) (Link.start quic iface, .empty) es = some (l, g) →
      g.polled <+: packetsOf (streamOf g.fed) (datagramsOf g.fed)
      ∧ (¬ stackGone l.stack → g.polled ++ l.stack.rx ++ l.inbound.items
          ++ packetsOf (streamOf g.fed) (QuicBuf.dgrams l.buf)
            = packetsOf (streamOf g.fed) (datagramsOf g.fed)) := by
  constructor
  · intro es l g h
    have hp := run_passed h
    obtain ⟨hsent, -⟩ := h2_reads.run h
    refine ⟨hp.polled_isPrefix.trans ⟨_, hsent⟩, fun hlive => ?_⟩
    rw [hp.down hlive]
    exact hsent
  · intro es l g h
    have hp := run_passed h
    obtain ⟨hstream, front, hall, hpulled, -⟩ := quic_reads.run h
    have hsent : g.pulled ++ packetsOf (streamOf g.fed) (QuicBuf.dgrams l.buf)
        = packetsOf (streamOf g.fed) (datagramsOf g.fed) := by
      rw [hpulled, hstream, ← hall]
      exact packetsOf_append.symm
    refine ⟨hp.polled_isPrefix.trans ⟨_, hsent⟩, fun hlive => ?_⟩
    rw [hp.down hlive]
    exact hsent

/-- One packet comes from the edge over QUIC, with the end of the handshake. -/
def quicPassRun : List (LinkEv quic) :=
  samplePass quic [] ++ [.arrive ⟨some 0, [[0, 0, 9]]⟩, .net, .drain, .drain, .ingest]
    ++ samplePass quic []

lemma quicPassRun_run :
    (run (record Netstack.stdSmoltcp) (Link.start quic Netstack.sampleIface, .empty)
      quicPassRun).map (fun w => w.2.polled) = some [[9]] := by
  decide +kernel

theorem edge_to_smoltcp_sample :
    (∃ l g, run (record Netstack.stdSmoltcp) (Link.start h2 Netstack.sampleIface, .empty) passRun
        = some (l, g) ∧ g.polled = [[9]] ∧ g.polled <+: H2.datagrams (List.flatten g.fed))
    ∧ ∃ l g, run (record Netstack.stdSmoltcp) (Link.start quic Netstack.sampleIface, .empty)
        quicPassRun = some (l, g) ∧ g.polled = [[9]]
      ∧ g.polled <+: packetsOf (streamOf g.fed) (datagramsOf g.fed) := by
  obtain ⟨hh2, hquic⟩ := edge_to_smoltcp Netstack.stdSmoltcp Netstack.sampleIface
  constructor
  · obtain ⟨⟨l, g⟩, hrun, heq⟩ := Option.map_eq_some_iff.mp passRun_run
    simp only [Prod.mk.injEq] at heq
    exact ⟨l, g, hrun, heq.2.2, (hh2 _ l g hrun).1⟩
  · obtain ⟨⟨l, g⟩, hrun, heq⟩ := Option.map_eq_some_iff.mp quicPassRun_run
    exact ⟨l, g, hrun, heq, (hquic _ l g hrun).1⟩

end Aether.Tunnel
