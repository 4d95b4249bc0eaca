import Aether.Lib.Machine
import Aether.Tunnel.H2
import Aether.Tunnel.Quic

/-!
`quic::run` with its channels, its timers and its connection.

`Aether.Tunnel.Quic` leaves open which branch the `select` of an iteration takes. Here the
receivers, the two intervals and the connection are part of the state, and an iteration takes
the first branch that is ready, in the order of the source. What the QUIC library decides is
still the environment's: it answers in the event. What waits in `net_rx` is still on its way.

* `firstReady`, `takeBranch`: the biased `select`.
* `step_refines`: an iteration of the driver is an iteration of the loop.
* `Sound`: what the connection and the loop know of each other, after every run.
-/

namespace Aether.Tunnel.Select

open Quic (Loop Branch H3Event)
open H2 (Control)
open Masque (decodeIpDatagram)

/-- The receiving end of a channel; `live` says that it still has a sender. -/
structure Receiver (α : Type) where
  items : List α
  live : Bool

namespace Receiver

variable {α : Type}

/-- `recv()` returns at once, on a closed channel always. -/
def ready (r : Receiver α) : Bool := !r.items.isEmpty || !r.live

/-- `recv()` on a channel that is ready: the next item, or nothing once it is closed. -/
def recv (r : Receiver α) : Option α × Receiver α :=
  match r.items with
  | [] => (none, r)
  | a :: t => (some a, { r with items := t })

@[simp] lemma recv_live (r : Receiver α) : r.recv.2.live = r.live := by
  rw [recv]
  split <;> rfl

end Receiver

/-! ### The connection -/

/-- A packet from the network, as the library reads it. -/
structure Packet where
  accepted : Bool
  /-- It completes the handshake. -/
  establishes : Bool
  dgrams : List Bytes

/-- `quiche::Connection`, as far as the loop asks for it. -/
structure Conn where
  received : Bool
  established : Bool
  closing : Bool
  closed : Bool
  /-- When `timeout()` runs out. -/
  deadline : Option ℕ
  /-- What `dgram_recv` has not taken yet. -/
  dgrams : List Bytes

namespace Conn

def connect (deadline : Option ℕ) : Conn := ⟨false, false, false, false, deadline, []⟩

def recv (c : Conn) (p : Packet) : Conn :=
  if p.accepted then
    { c with
      received := true
      established := c.established || p.establishes
      dgrams := c.dgrams ++ p.dgrams }
  else c

/-- Only a connection that has received nothing is closed at once. -/
def close (c : Conn) : Conn := { c with closing := true, closed := c.closed || !c.received }

/-- The library may find that the connection is closed now. -/
def onTimeout (c : Conn) (expires : Bool) : Conn := { c with closed := c.closed || expires }

end Conn

/-! ### The driver -/

/-- What one iteration finds outside the state: the clock at the head of the loop and when the
`select` takes its branch, and the answers of the libraries. -/
structure Answers where
  headNow : ℕ
  now : ℕ
  /-- What `net_rx` has. -/
  packet : Option Packet
  /-- `on_timeout` finds the connection closed. -/
  expires : Bool
  request : Except AetherError ℕ
  requestAt : ℕ
  events : List H3Event
  h3Error : Option String
  /-- The inbound receiver takes so many more packets before it is dropped. -/
  takes : Option ℕ
  flush : Except AetherError Unit
  deadline : Option ℕ
  retryConfigs : Option Bytes
  reconnect : Except AetherError Unit

/-- The state of the task: the variables of the loop, and what its `select` waits for. -/
structure Driver where
  clock : ℕ
  keepaliveAt : ℕ
  probeAt : ℕ
  ctrl : Receiver Control
  outbound : Receiver Bytes
  inboundLive : Bool
  conn : Conn
  loop : Loop

/-- Both intervals tick at once when they are created. -/
def Driver.start (dataCheck readyTx : Bool) (validationTimeout : ℕ) (ech : Option Bytes)
    (deadline : Option ℕ) : Driver where
  clock := 0
  keepaliveAt := 0
  probeAt := 0
  ctrl := ⟨[], true⟩
  outbound := ⟨[], true⟩
  inboundLive := true
  conn := .connect deadline
  loop := .start dataCheck readyTx validationTimeout ech

def keepaliveInterval : ℕ := 20000

def probeInterval : ℕ := 700

/-- The next tick with `MissedTickBehavior::Skip`. -/
def nextTick (at_ period now : ℕ) : ℕ := at_ + period * ((now - at_) / period + 1)

/-- The first branch of the biased `select` that is ready. -/
def firstReady (d : Driver) (a : Answers) : Option Branch :=
  if d.keepaliveAt ≤ a.now then some .keepalive
  else if (d.loop.ready.dataCheck && !d.loop.ready.readyFired) && d.probeAt ≤ a.now then
    some .probe
  else if a.packet.isSome then some .net
  else if d.ctrl.ready then some .ctrl
  else if d.outbound.ready then some .outbound
  else if d.conn.deadline.any (· ≤ a.now) then some .timeout
  else none

/-- What the branches do. A ping, a probe, a packet and a migration are sent or fail, and
leave the variables alone. -/
def takeBranch (d : Driver) (a : Answers) : Branch → Driver
  | .keepalive => { d with keepaliveAt := nextTick d.keepaliveAt keepaliveInterval a.now }
  | .probe => { d with probeAt := nextTick d.probeAt probeInterval a.now }
  | .net =>
      match a.packet with
      | some p => { d with conn := d.conn.recv p }
      | none => d
  | .ctrl =>
      match d.ctrl.recv with
      | (some .migrate, r) => { d with ctrl := r }
      | (some .close, r) => { d with ctrl := r, conn := d.conn.close }
      | (none, r) => { d with ctrl := r, conn := d.conn.close }
  | .outbound =>
      match d.outbound.recv with
      | (some _, r) => { d with outbound := r }
      | (none, r) => { d with outbound := r, conn := d.conn.close }
  | .timeout => { d with conn := d.conn.onTimeout a.expires }

/-- `drain_datagrams` over the received datagrams: what it takes, and what it leaves behind
because the inbound receiver is gone. -/
def drainDatagrams (sid : ℕ) : Option ℕ → List Bytes → List Bytes × List Bytes
  | _, [] => ([], [])
  | takes, dgram :: queue =>
      match decodeIpDatagram dgram sid with
      | .ok (some _) =>
          if takes = some 0 then ([dgram], queue)
          else
            let (taken, left) := drainDatagrams sid (takes.map (· - 1)) queue
            (dgram :: taken, left)
      | _ =>
          let (taken, left) := drainDatagrams sid takes queue
          (dgram :: taken, left)

/-- The stream that the drain of the iteration is for. -/
def requestStream (d : Driver) (a : Answers) : Option ℕ :=
  if d.conn.established && !d.loop.h3Conn then a.request.toOption else d.loop.reqStream

/-- What the drain of the iteration takes and leaves. -/
def drained (d : Driver) (a : Answers) : List Bytes × List Bytes :=
  match requestStream d a with
  | some sid => drainDatagrams sid (if d.inboundLive then a.takes else some 0) d.conn.dgrams
  | none => ([], d.conn.dgrams)

/-- The iteration as the loop sees it. -/
def turn (d : Driver) (a : Answers) (b : Branch) : Quic.Turn where
  now := a.headNow
  branch := b
  established := d.conn.established
  request := a.request
  requestAt := a.requestAt
  events := a.events
  h3Error := a.h3Error
  dgrams := (drained d a).1
  flush := a.flush
  closed := d.conn.closed
  retryConfigs := a.retryConfigs
  reconnect := a.reconnect

/-- The rest of the iteration after its branch. A loop that goes on with a closed connection
has made a new one. -/
def finish (d : Driver) (a : Answers) (b : Branch) : Driver :=
  let loop := Quic.iterate (turn d a b) d.loop
  { d with
    clock := a.now
    inboundLive := d.inboundLive && a.takes.isNone
    conn :=
      if d.conn.closed && loop.result.isNone then .connect a.deadline
      else { d.conn with deadline := a.deadline, dgrams := (drained d a).2 }
    loop }

inductive Ev where
  | turn (a : Answers)
  /-- What the holders of the senders and of the inbound receiver do. -/
  | control (c : Control)
  | packet (p : Bytes)
  | dropCtrl
  | dropOutbound
  | dropInbound

/-- One event. The deadline of the validation is looked at before the `select`. -/
def step (d : Driver) : Ev → Option Driver
  | .turn a =>
      if d.loop.result = none ∧ d.clock ≤ a.headNow ∧ a.headNow ≤ a.now then
        if d.loop.ready.expired a.headNow then
          some { d with clock := a.headNow, loop := Quic.checkDeadline (turn d a .net) d.loop }
        else (firstReady d a).map fun b => finish (takeBranch d a b) a b
      else none
  | .control c =>
      if d.ctrl.live then some { d with ctrl := { d.ctrl with items := d.ctrl.items ++ [c] } }
      else none
  | .packet p =>
      if d.outbound.live then
        some { d with outbound := { d.outbound with items := d.outbound.items ++ [p] } }
      else none
  | .dropCtrl => some { d with ctrl := { d.ctrl with live := false } }
  | .dropOutbound => some { d with outbound := { d.outbound with live := false } }
  | .dropInbound => some { d with inboundLive := false }

/-! ### The driver and its loop -/

variable {d d' : Driver} {a : Answers} {e : Ev} {b : Branch}

/-- What an iteration does: the deadline ends it at its head, or a ready branch is taken. -/
lemma step_turn (h : step d (.turn a) = some d') :
    d.loop.result = none ∧ d.clock ≤ a.headNow ∧ a.headNow ≤ a.now
      ∧ ((d.loop.ready.expired a.headNow = true
          ∧ d' = { d with
            clock := a.headNow, loop := Quic.checkDeadline (turn d a .net) d.loop })
        ∨ (d.loop.ready.expired a.headNow = false
          ∧ ∃ b, firstReady d a = some b ∧ d' = finish (takeBranch d a b) a b)) := by
  rw [step, Option.ite_none_right_eq_some] at h
  obtain ⟨⟨hr, hhead, hnow⟩, h⟩ := h
  refine ⟨hr, hhead, hnow, ?_⟩
  split at h
  · rename_i hexp
    exact .inl ⟨hexp, (Option.some.inj h).symm⟩
  · rename_i hexp
    obtain ⟨b, hb, hd⟩ := Option.map_eq_some_iff.mp h
    exact .inr ⟨Bool.eq_false_iff.mpr hexp, b, hb, hd.symm⟩

@[simp] lemma takeBranch_loop (d : Driver) (a : Answers) (b : Branch) :
    (takeBranch d a b).loop = d.loop := by
  cases b <;> simp only [takeBranch]
  all_goals split <;> rfl

/-- The probe branch is guarded. -/
lemma firstReady_enabled (h : firstReady d a = some b) : Quic.enabled d.loop b = true := by
  rw [firstReady] at h
  split at h
  · cases h; rfl
  · split at h
    · rename_i hprobe
      cases h
      simp only [Bool.and_eq_true] at hprobe
      simp [Quic.enabled, hprobe.1]
    · cases b with
      | probe =>
          split at h
          · cases h
          · split at h
            · cases h
            · split at h
              · cases h
              · split at h <;> cases h
      | keepalive | net | ctrl | outbound | timeout => rfl

/-- **An iteration of the driver is an iteration of the loop**, and no other event touches the
loop. -/
theorem step_refines (h : step d e = some d') :
    d'.loop = d.loop ∨ ∃ t, Quic.step d.loop t = some d'.loop := by
  cases e with
  | turn a =>
      obtain ⟨hr, -, -, hcase⟩ := step_turn h
      rcases hcase with ⟨hexp, rfl⟩ | ⟨-, b, hb, rfl⟩
      · refine .inr ⟨turn d a .net, ?_⟩
        have hiter : Quic.iterate (turn d a .net) d.loop
            = Quic.checkDeadline (turn d a .net) d.loop := by
          have hret : (Quic.checkDeadline (turn d a .net) d.loop).result.isSome = true := by
            rw [Quic.checkDeadline, show (turn d a .net).now = a.headNow from rfl, if_pos hexp]
            rfl
          rw [Quic.iterate, Quic.andThen_returned hret]
        rw [Quic.step, if_pos ⟨hr, rfl⟩, hiter]
      · refine .inr ⟨turn (takeBranch d a b) a b, ?_⟩
        rw [Quic.step, if_pos ⟨hr, firstReady_enabled hb⟩, finish, takeBranch_loop]
  | control c =>
      simp only [step, Option.ite_none_right_eq_some, Option.some.injEq] at h
      obtain ⟨_, rfl⟩ := h
      exact .inl rfl
  | packet p =>
      simp only [step, Option.ite_none_right_eq_some, Option.some.injEq] at h
      obtain ⟨_, rfl⟩ := h
      exact .inl rfl
  | dropCtrl | dropOutbound | dropInbound =>
      simp only [step, Option.some.injEq] at h
      exact .inl (h ▸ rfl)

/-- What every iteration of the loop preserves holds after every run of the driver. -/
theorem run_refines {I : Loop → Prop} (hstep : ∀ l t l', I l → Quic.step l t = some l' → I l')
    {es : List Ev} (hd : I d.loop) (h : Machine.run step d es = some d') : I d'.loop := by
  refine Machine.run_invariant (I := fun d => I d.loop) ?_ hd h
  intro d e d' hi hs
  rcases step_refines hs with heq | ⟨t, ht⟩
  · rw [heq]
    exact hi
  · exact hstep _ t _ hi ht

/-- What a branch does to the connection. -/
lemma takeBranch_conn (d : Driver) (a : Answers) (b : Branch) :
    (takeBranch d a b).conn = d.conn ∨ (takeBranch d a b).conn = d.conn.close
      ∨ (b = .net ∧ ∃ p, (takeBranch d a b).conn = d.conn.recv p)
      ∨ (b = .timeout ∧ (takeBranch d a b).conn = d.conn.onTimeout a.expires) := by
  cases b with
  | keepalive | probe => exact .inl rfl
  | net =>
      rw [takeBranch]
      split
      · exact .inr (.inr (.inl ⟨rfl, _, rfl⟩))
      · exact .inl rfl
  | ctrl =>
      rw [takeBranch]
      split
      · exact .inl rfl
      · exact .inr (.inl rfl)
      · exact .inr (.inl rfl)
  | outbound =>
      rw [takeBranch]
      split
      · exact .inl rfl
      · exact .inr (.inl rfl)
  | timeout => exact .inr (.inr (.inr ⟨rfl, rfl⟩))

/-- What the connection and the loop know of each other, as long as the loop runs. -/
structure Sound (d : Driver) : Prop where
  isOpen : d.loop.result = none → d.conn.closed = false
  received : d.conn.established = true → d.conn.received = true
  requested : d.loop.result = none → d.conn.established = true → d.loop.h3Conn = true

lemma start_sound (dataCheck readyTx : Bool) (timeout : ℕ) (ech : Option Bytes)
    (deadline : Option ℕ) : Sound (.start dataCheck readyTx timeout ech deadline) :=
  ⟨fun _ => rfl, (by intro h; cases h), fun _ => (by intro h; cases h)⟩

lemma takeBranch_received (h : Sound d) (a : Answers) (b : Branch)
    (he : (takeBranch d a b).conn.established = true) :
    (takeBranch d a b).conn.received = true := by
  rcases takeBranch_conn d a b with hc | hc | ⟨-, p, hc⟩ | ⟨-, hc⟩
  · rw [hc] at he ⊢
    exact h.received he
  · rw [hc] at he ⊢
    exact h.received he
  · rw [hc, Conn.recv] at he ⊢
    split at he
    · rename_i hp
      rw [if_pos hp]
    · rename_i hp
      rw [if_neg hp]
      exact h.received he
  · rw [hc] at he ⊢
    exact h.received he

lemma finish_sound (h : d.conn.established = true → d.conn.received = true) :
    Sound (finish d a b) := by
  cases hc : d.conn.closed with
  | false =>
      refine ⟨?_, ?_, ?_⟩
      · intro _
        simp [finish, hc]
      · simpa [finish, hc] using h
      · intro hr he
        have hest : d.conn.established = true := by simpa [finish, hc] using he
        exact Quic.iterate_h3Conn (t := turn d a b) hest hc hr
  | true =>
      cases hr : (Quic.iterate (turn d a b) d.loop).result with
      | none => refine ⟨?_, ?_, ?_⟩ <;> simp [finish, hc, hr, Conn.connect]
      | some o =>
          refine ⟨by simp [finish, hr], ?_, by simp [finish, hr]⟩
          simpa [finish, hc, hr] using h

lemma step_sound (h : Sound d) (hs : step d e = some d') : Sound d' := by
  cases e with
  | turn a =>
      obtain ⟨-, -, -, ⟨hexp, rfl⟩ | ⟨-, b, -, rfl⟩⟩ := step_turn hs
      · have hret : (Quic.checkDeadline (turn d a .net) d.loop).result ≠ none := by
          rw [Quic.checkDeadline, show (turn d a .net).now = a.headNow from rfl, if_pos hexp]
          exact Option.some_ne_none _
        exact ⟨fun hr => absurd hr hret, h.received, fun hr => absurd hr hret⟩
      · exact finish_sound (takeBranch_received h a b)
  | control c | packet p =>
      simp only [step, Option.ite_none_right_eq_some, Option.some.injEq] at hs
      obtain ⟨_, rfl⟩ := hs
      exact ⟨h.isOpen, h.received, h.requested⟩
  | dropCtrl | dropOutbound | dropInbound =>
      simp only [step, Option.some.injEq] at hs
      subst hs
      exact ⟨h.isOpen, h.received, h.requested⟩

theorem run_sound {dataCheck readyTx : Bool} {timeout : ℕ} {ech : Option Bytes}
    {deadline : Option ℕ} {es : List Ev}
    (h : Machine.run step (.start dataCheck readyTx timeout ech deadline) es = some d) :
    Sound d :=
  Machine.run_invariant (fun _ _ _ hi hs => step_sound hi hs)
    (start_sound dataCheck readyTx timeout ech deadline) h

end Aether.Tunnel.Select
